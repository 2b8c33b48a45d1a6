import PgidSso.Alert.Orchestration.Capped
import PgidSso.Library.Sha256

/-! Sources with more observations than one run plans, and one with more than a proof can
count as dropped. -/

open checked comparator

namespace pgid.alert.orchestration

section fresh

/-- Candidates that are accepted with distinct identities are all kept. -/
theorem normalizeSourceResult_of_distinct {sourceId : AlertEvaluatorSourceId} {asOf : Timestamp} {α : Type}
    {items : List α} {candidate : α → AlertObservationInput} {observation : α → AlertRuleObservation}
    (haccepts : ∀ item ∈ items, Accepts sourceId asOf (candidate item) (observation item))
    (hdistinct : ((items.map observation).map semanticIdentity).Nodup) :
    ∃ normalized, normalizeSourceResult sourceId { incomplete := [], observations := items.map candidate } asOf =
        .ok ([], normalized) ∧ normalized.Perm (items.map observation) := by
  have haccepted : ∀ found, (∃ given ∈ items.map candidate, Accepts sourceId asOf given found) ↔
      found ∈ items.map observation := by
    intro found
    constructor
    · rintro ⟨given, hgiven, hparsed⟩
      obtain ⟨item, hitem, rfl⟩ := List.mem_map.mp hgiven
      rw [← Except.ok.inj ((haccepts item hitem).1.symm.trans hparsed.1)]
      exact List.mem_map_of_mem hitem
    · intro hfound
      obtain ⟨item, hitem, rfl⟩ := List.mem_map.mp hfound
      exact ⟨candidate item, List.mem_map_of_mem hitem, haccepts item hitem⟩
  obtain ⟨kept, hnormalized⟩ := @exists_normalizeObservations sourceId asOf (items.map candidate) Dictionary.empty
    Kept.empty
    (by
      intro given hgiven
      obtain ⟨item, hitem, rfl⟩ := List.mem_map.mp hgiven
      exact ⟨observation item, haccepts item hitem⟩)
    (· ∈ items.map observation) (fun _ hfound => absurd hfound List.not_mem_nil)
    (fun given hgiven found hfound => (haccepted found).mp ⟨given, hgiven, hfound⟩)
    (fun _ _ hfirst hsecond hsame => List.inj_on_of_nodup_map hdistinct hfirst hsecond hsame)
  obtain ⟨hkept, -, -⟩ := normalizeObservations_kept Kept.empty hnormalized
  have hperm : kept.values.Perm (items.map observation) := by
    rw [List.perm_ext_iff_of_nodup hkept.nodup_values (List.Nodup.of_map _ hdistinct)]
    intro found
    rw [mem_normalizeObservations_iff hnormalized]
    exact haccepted found
  refine ⟨sortedBy compareObservations kept.values, ?_, (List.mergeSort_perm _ _).trans hperm⟩
  rw [normalizeSourceResult, hnormalized, ok_bind]
  have hnone : sortedBy compareIncomplete [] = [] := by rw [sortedBy, List.mergeSort_nil]
  exact congrArg (fun incomplete => Except.ok (incomplete, sortedBy compareObservations kept.values)) hnone

/-- New observations with distinct identities are all planned, and are in no conflict. -/
theorem planObservations_of_fresh (sourceId : AlertEvaluatorSourceId) {seen : Dictionary Text Seen}
    {observations : List AlertRuleObservation} (hdistinct : (observations.map semanticIdentity).Nodup)
    (hfresh : ∀ observation ∈ observations, semanticIdentity observation ∉ seen.keys) :
    (planObservations sourceId seen observations).2 = observations ∧
      (∀ key ∈ (planObservations sourceId seen observations).1.keys,
        key ∈ seen.keys ∨ key ∈ observations.map semanticIdentity) ∧
      ∀ entry ∈ (planObservations sourceId seen observations).1.values,
        entry ∈ seen.values ∨ entry.canonicals.length = 1 := by
  induction observations generalizing seen with
  | nil => exact ⟨rfl, fun _ hkey => .inl hkey, fun _ hentry => .inl hentry⟩
  | cons observation observations ih =>
    obtain ⟨hobservation, hfresh⟩ := List.forall_mem_cons.mp hfresh
    rw [List.map_cons, List.nodup_cons] at hdistinct
    obtain ⟨hplanned, hkeys, hsingle⟩ := @ih (seen.set (semanticIdentity observation)
      { canonicals := [observationText observation], sources := [sourceId] }) hdistinct.2
      (by
        intro other hother hmem
        rcases Dictionary.mem_keys_set_iff.mp hmem with hsame | hmem
        · exact hdistinct.1 (List.mem_map.mpr ⟨other, hother, hsame⟩)
        · exact hfresh other hother hmem)
    rw [planObservations, Dictionary.get_eq_none_iff.mpr hobservation]
    dsimp only
    refine ⟨congrArg (observation :: ·) hplanned, ?_, ?_⟩
    · intro key hkey
      rw [List.map_cons, List.mem_cons]
      rcases hkeys key hkey with hold | hrest
      · exact (Dictionary.mem_keys_set_iff.mp hold).symm.imp_right .inl
      · exact .inr (.inr hrest)
    · intro entry hentry
      rcases hsingle entry hentry with hold | hone
      · rw [Dictionary.values_set_of_not_mem hobservation, List.mem_append, List.mem_singleton] at hold
        rcases hold with hold | rfl
        · exact .inl hold
        · exact .inr rfl
      · exact .inr hone

/-- A source that its reader has read. -/
def Read (source : CollectedSource) : Prop :=
  isFailed source.proof.status = false ∧ source.planningObservations = source.observations

theorem Read.planned {source : CollectedSource} (hread : Read source) :
    { source with planningObservations := source.observations } = source := by
  obtain ⟨-, hsame⟩ := hread
  cases source
  simp only at hsame
  rw [hsame]

theorem planSources_of_fresh {seen : Dictionary Text Seen} {sources : List CollectedSource}
    (hread : ∀ source ∈ sources, Read source)
    (hdistinct : ((sources.flatMap (·.observations)).map semanticIdentity).Nodup)
    (hfresh : ∀ observation ∈ sources.flatMap (·.observations), semanticIdentity observation ∉ seen.keys) :
    (planSources seen sources).2 = sources ∧
      ∀ entry ∈ (planSources seen sources).1.values, entry ∈ seen.values ∨ entry.canonicals.length = 1 := by
  induction sources generalizing seen with
  | nil => exact ⟨rfl, fun _ hentry => .inl hentry⟩
  | cons source sources ih =>
    obtain ⟨hsource, hread⟩ := List.forall_mem_cons.mp hread
    rw [List.flatMap_cons, List.map_append, List.nodup_append] at hdistinct
    obtain ⟨hfirst, hrest, hapart⟩ := hdistinct
    rw [List.flatMap_cons, List.forall_mem_append] at hfresh
    obtain ⟨hplanned, hkeys, hsingle⟩ := planObservations_of_fresh source.sourceId hfirst hfresh.1
    obtain ⟨hsources, hsingleRest⟩ := @ih (planObservations source.sourceId seen source.observations).1 hread hrest
      (by
        intro observation hobservation hmem
        rcases hkeys _ hmem with hold | hplanned
        · exact hfresh.2 observation hobservation hold
        · exact hapart _ hplanned _ (List.mem_map_of_mem hobservation) rfl)
    rw [planSources, hsource.1, if_neg Bool.false_ne_true]
    dsimp only
    refine ⟨?_, ?_⟩
    · rw [hsources, hplanned, hsource.planned]
    · intro entry hentry
      rcases hsingleRest entry hentry with hold | hone
      · exact hsingle entry hold
      · exact .inr hone

/-- Sources that were read with distinct identities are planned as a whole. -/
theorem sourcesOf_of_fresh {sha256 : Sha256} {asOf : Timestamp}
    {readers : List (AlertEvaluatorSourceId × Except SourceError SourceReaderResult)} {sources : List CollectedSource}
    (hcollected : readers.map (fun reader => collectSource sha256 reader.1 reader.2 asOf) = sources)
    (hread : ∀ source ∈ sources, Read source)
    (hdistinct : ((sources.flatMap (·.observations)).map semanticIdentity).Nodup) :
    sourcesOf sha256 asOf readers = sources := by
  obtain ⟨hplanned, hsingle⟩ := @planSources_of_fresh Dictionary.empty sources hread hdistinct
    fun _ _ => List.not_mem_nil
  have hpeaceful : conflictingSources (planSources Dictionary.empty sources).1 = [] := by
    rw [conflictingSources, List.flatMap_eq_nil_iff]
    intro entry hentry
    have hlength := (hsingle entry hentry).resolve_left List.not_mem_nil
    rw [if_pos (by omega)]
  rw [sourcesOf, hcollected, invalidateConflictingSources, hpeaceful, hplanned]
  exact List.map_id'' (fun source => if_neg List.not_mem_nil) sources

theorem collectSource_of_normalized {sha256 : Sha256} {sourceId : AlertEvaluatorSourceId} {result : SourceReaderResult}
    {asOf : Timestamp} {incomplete : List SourceIncompleteIdentity} {observations : List AlertRuleObservation}
    (hnormalized : normalizeSourceResult sourceId result asOf = .ok (incomplete, observations)) :
    collectSource sha256 sourceId (.ok result) asOf = normalizedSource sha256 sourceId incomplete observations := by
  rw [collectSource, completedSource, hnormalized]

theorem normalizedSource_read {sha256 : Sha256} {sourceId : AlertEvaluatorSourceId}
    {incomplete : List SourceIncompleteIdentity} {observations : List AlertRuleObservation} :
    Read (normalizedSource sha256 sourceId incomplete observations) :=
  ⟨normalizedSource_not_failed, rfl⟩

end fresh

section flood

def floodTime : Timestamp := ⟨1700007000000, by decide⟩

/-- A reference that begins with a number of five digits. -/
def floodReference (number : Nat) : String :=
  String.ofList
    ([number / 10000 % 10, number / 1000 % 10, number / 100 % 10, number / 10 % 10, number % 10].map Nat.digitChar ++
      List.replicate 38 'A')

def floodDimension (number : Nat) : AlertDimension :=
  .hashed .subjectHmac { keyVersion := 1, value := floodReference number }

def quietWindows : Windowed RestrictedDenialWindowMetrics :=
  { w5m := ⟨0, 0⟩, w15m := ⟨0, 0⟩, w60m := ⟨0, 0⟩ }

def floodCandidate (number : Nat) : AlertObservationInput where
  asOf := floodTime
  dimension := floodDimension number
  ruleId := .restrictedSensitiveDenied
  measures := .restricted quietWindows

def floodObservation (number : Nat) : AlertRuleObservation where
  asOf := floodTime
  dimension := floodDimension number
  ruleId := .restrictedSensitiveDenied
  measures := .restricted quietWindows

theorem floodReference_canonical (number : Nat) : isCanonicalBase64Url32 (floodReference number) := by
  have hdigit : ∀ digit < 10, 0 ≤ base64UrlIndex (Nat.digitChar digit) := by decide
  refine ⟨⟨?_, ?_⟩, 'A', ?_, by decide, by decide⟩
  · rw [floodReference, String.length_ofList]
    rfl
  · intro character hcharacter
    rw [floodReference, String.toList_ofList, List.mem_append, List.mem_map] at hcharacter
    rcases hcharacter with ⟨digit, hmem, rfl⟩ | hfiller
    · apply hdigit
      simp only [List.mem_cons, List.not_mem_nil, or_false] at hmem
      omega
    · rw [List.eq_of_mem_replicate hfiller]
      decide
  · rw [floodReference, String.toList_ofList]
    rfl

theorem floodReference_inj {left right : Nat} (hleft : left < 100000) (hright : right < 100000)
    (hsame : floodReference left = floodReference right) : left = right := by
  have hdigit : ∀ first < 10, ∀ second < 10, Nat.digitChar first = Nat.digitChar second → first = second := by decide
  have hdigits := List.append_cancel_right (String.ofList_injective hsame)
  simp only [List.map_cons, List.map_nil, List.cons.injEq, and_true] at hdigits
  obtain ⟨hfirst, hsecond, hthird, hfourth, hfifth⟩ := hdigits
  have hfirst := hdigit _ (Nat.mod_lt _ (by decide)) _ (Nat.mod_lt _ (by decide)) hfirst
  have hsecond := hdigit _ (Nat.mod_lt _ (by decide)) _ (Nat.mod_lt _ (by decide)) hsecond
  have hthird := hdigit _ (Nat.mod_lt _ (by decide)) _ (Nat.mod_lt _ (by decide)) hthird
  have hfourth := hdigit _ (Nat.mod_lt _ (by decide)) _ (Nat.mod_lt _ (by decide)) hfourth
  have hfifth := hdigit _ (Nat.mod_lt _ (by decide)) _ (Nat.mod_lt _ (by decide)) hfifth
  omega

theorem parse_floodCandidate (number : Nat) :
    parseAlertObservation (floodCandidate number) = .ok (floodObservation number) := by
  have haccepted : (floodDimension number).Accepted (ALERT_RULE_DEFINITIONS .restrictedSensitiveDenied).dimensions := by
    refine ⟨List.mem_singleton_self _, ?_⟩
    intro kind reference hdimension
    cases hdimension
    exact ⟨rfl, floodReference_canonical number⟩
  have hmeasures : parseMeasures .restrictedSensitiveDenied (.restricted quietWindows) =
      .ok (.restricted quietWindows) := by rfl
  simp only [parseAlertObservation, bind_eq_ok_iff, pure_eq_ok_iff, parseAlertDimension_eq_ok_iff]
  exact ⟨floodDimension number, ⟨haccepted, rfl⟩, .restricted quietWindows, hmeasures, rfl⟩

theorem floodObservation_inj {left right : Nat} (hleft : left < 100000) (hright : right < 100000)
    (hsame : semanticIdentity (floodObservation left) = semanticIdentity (floodObservation right)) : left = right := by
  obtain ⟨hdimension, -⟩ := (semanticIdentity_eq_iff (parseAlertObservation_admitted (parse_floodCandidate left))
    (parseAlertObservation_admitted (parse_floodCandidate right))).mp hsame
  obtain ⟨-, hreference⟩ := AlertDimension.hashed.inj hdimension
  exact floodReference_inj hleft hright (HashedAlertReference.mk.inj hreference).2

def floodResult (count : Nat) : SourceReaderResult where
  incomplete := []
  observations := (List.range count).map floodCandidate

/-- The observations of the flood are all accepted. -/
theorem flood_accepts (number : Nat) : Accepts .d1Audit floodTime (floodCandidate number) (floodObservation number) :=
  ⟨parse_floodCandidate number, rfl, rfl⟩

theorem flood_distinct {count : Nat} (hcount : count ≤ 100000) :
    (((List.range count).map floodObservation).map semanticIdentity).Nodup := by
  rw [List.map_map]
  refine List.Nodup.map_on ?_ List.nodup_range
  intro left hleft right hright hsame
  rw [List.mem_range] at hleft hright
  exact floodObservation_inj (by omega) (by omega) hsame

def floodReaders : List (AlertEvaluatorSourceId × Except SourceError SourceReaderResult) :=
  [(.d1Audit, .ok (floodResult 10021))]

/-- 10,021 observations of one source are more than the work cap accounts for: nothing is kept. -/
theorem applyWorkCap_throws_flood :
    (floodReaders.map Prod.fst).Nodup ∧
      applyWorkCap sha2.sha256 (sourcesOf sha2.sha256 floodTime floodReaders) =
        .error INCOMPLETE_COUNT_EXCEEDS_BOUND := by
  have hreaders : (floodReaders.map Prod.fst).Nodup := List.nodup_singleton _
  refine ⟨hreaders, ?_⟩
  have hdistinct := flood_distinct (show 10021 ≤ 100000 by decide)
  obtain ⟨observations, hnormalized, hperm⟩ := normalizeSourceResult_of_distinct (fun number _ => flood_accepts number) hdistinct
  have hidentities : (observations.map semanticIdentity).Nodup := (hperm.map semanticIdentity).nodup_iff.mpr hdistinct
  have hlength : observations.length = 10021 := by
    rw [hperm.length_eq, List.length_map, List.length_range]
  have hplannable := sourcesOf_plannable sha2.sha256 floodTime hreaders
  have hsources : sourcesOf sha2.sha256 floodTime floodReaders =
      [normalizedSource sha2.sha256 .d1Audit [] observations] := by
    apply sourcesOf_of_fresh
    · exact congrArg (fun source => [source]) (collectSource_of_normalized hnormalized)
    · exact List.forall_mem_singleton.mpr normalizedSource_read
    · rw [List.flatMap_singleton]
      exact hidentities
  rw [hsources] at hplannable ⊢
  refine applyWorkCap_eq_error sha2.sha256 hplannable ⟨_, List.mem_singleton_self _, ?_⟩
  have hkept := hplannable.length_kept
  rw [List.flatMap_singleton, allPlanned, List.flatMap_singleton] at hkept
  have hplanned : (normalizedSource sha2.sha256 .d1Audit [] observations).planningObservations = observations := rfl
  have hincomplete : (normalizedSource sha2.sha256 .d1Audit [] observations).incomplete = [] := rfl
  have hmaximum : ALERT_EVALUATOR_MAX_WORK_ITEMS = 20 := by decide
  rw [hplanned, hlength, hmaximum] at hkept
  rw [ExceedsProofBound, droppedCount, hplanned, hincomplete, List.length_nil, hkept, hlength]
  exact ⟨by decide, by decide⟩

def gapObservation : AlertRuleObservation where
  asOf := floodTime
  dimension := .global
  ruleId := .securityFanoutGap
  measures := .fanout { missingOlderThan15mCount := 0, missingOlderThan5mCount := 1 }

/-- Thirty observations of one source, and one of another. -/
def crowdReaders : List (AlertEvaluatorSourceId × Except SourceError SourceReaderResult) :=
  [(.d1Audit, .ok (floodResult 30)),
    (.d1SecurityFanoutGap, .ok { incomplete := [], observations := [{ fanoutGap with asOf := floodTime }] })]

theorem gap_accepts : Accepts .d1SecurityFanoutGap floodTime { fanoutGap with asOf := floodTime } gapObservation :=
  ⟨rfl, rfl, rfl⟩

/-- The crowd as it is collected: nothing is in conflict. -/
theorem crowd_sources : ∃ observations gaps,
    observations.Perm ((List.range 30).map floodObservation) ∧ gaps.Perm [gapObservation] ∧
    sourcesOf sha2.sha256 floodTime crowdReaders =
      [normalizedSource sha2.sha256 .d1Audit [] observations,
        normalizedSource sha2.sha256 .d1SecurityFanoutGap [] gaps] := by
  obtain ⟨observations, hflood, hobservations⟩ :=
    normalizeSourceResult_of_distinct (fun number _ => flood_accepts number) (flood_distinct (show 30 ≤ 100000 by decide))
  obtain ⟨gaps, hgap, hgaps⟩ := @normalizeSourceResult_of_distinct .d1SecurityFanoutGap floodTime Unit [()]
    (fun _ => { fanoutGap with asOf := floodTime }) (fun _ => gapObservation) (fun _ _ => gap_accepts)
    (List.nodup_singleton _)
  refine ⟨observations, gaps, hobservations, hgaps, ?_⟩
  apply sourcesOf_of_fresh
  · exact congrArg₂ (fun audit gap => [audit, gap]) (collectSource_of_normalized hflood)
      (collectSource_of_normalized hgap)
  · exact List.forall_mem_cons.mpr ⟨normalizedSource_read, List.forall_mem_singleton.mpr normalizedSource_read⟩
  · have hperm : (observations ++ (gaps ++ [])).Perm ((List.range 30).map floodObservation ++ [gapObservation]) := by
      rw [List.append_nil]
      exact hobservations.append hgaps
    refine (hperm.map semanticIdentity).nodup_iff.mpr ?_
    rw [List.map_append, List.map_singleton, List.nodup_append]
    refine ⟨flood_distinct (by decide), List.nodup_singleton _, ?_⟩
    intro identity hidentity other hother hsame
    obtain ⟨observation, hobservation, rfl⟩ := List.mem_map.mp hidentity
    obtain ⟨number, -, rfl⟩ := List.mem_map.mp hobservation
    rw [List.mem_singleton] at hother
    obtain ⟨-, hrule⟩ := (semanticIdentity_eq_iff (parseAlertObservation_admitted (flood_accepts number).1)
      (parseAlertObservation_admitted gap_accepts.1)).mp
        (hsame.trans hother)
    cases hrule

/-- 31 observations of two sources are capped at 20. -/
theorem applyWorkCap_fair_crowd :
    (allPlanned (sourcesOf sha2.sha256 floodTime crowdReaders)).length = 31 ∧
    ∃ result,
      applyWorkCap sha2.sha256 (sourcesOf sha2.sha256 floodTime crowdReaders) =
        .ok ((sourcesOf sha2.sha256 floodTime crowdReaders).map result) ∧
      WorkCapped (sourcesOf sha2.sha256 floodTime crowdReaders) result ∧
      (allPlanned ((sourcesOf sha2.sha256 floodTime crowdReaders).map result)).length = 20 := by
  obtain ⟨observations, gaps, hobservations, hgaps, hsources⟩ := crowd_sources
  have hcount : (allPlanned (sourcesOf sha2.sha256 floodTime crowdReaders)).length = 31 := by
    have hplanned : allPlanned (sourcesOf sha2.sha256 floodTime crowdReaders) = observations ++ (gaps ++ []) := by
      rw [hsources]
      rfl
    rw [hplanned, List.append_nil, List.length_append, hobservations.length_eq, hgaps.length_eq, List.length_map,
      List.length_range, List.length_singleton]
  refine ⟨hcount, ?_⟩
  have hreaders : (crowdReaders.map Prod.fst).Nodup := by decide
  rcases applyWorkCap_fair sha2.sha256 floodTime hreaders with
    ⟨⟨source, hsource, -, hexceeds⟩, -⟩ | ⟨-, result, hresult, hcapped⟩
  · have hle : source.planningObservations.length ≤ (allPlanned (sourcesOf sha2.sha256 floodTime crowdReaders)).length :=
      (List.sublist_flatten_of_mem (List.mem_map_of_mem hsource)).length_le
    have hincomplete : source.incomplete = [] := by
      rw [hsources] at hsource
      simp only [List.mem_cons, List.not_mem_nil, or_false] at hsource
      rcases hsource with rfl | rfl <;> rfl
    rw [hincomplete, List.length_nil, droppedCount] at hexceeds
    omega
  · refine ⟨result, hresult, hcapped, ?_⟩
    rw [hcapped.total, hcount]
    decide

end flood

end pgid.alert.orchestration
