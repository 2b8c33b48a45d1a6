import PgidSso.Alert.Orchestration.Order
import PgidSso.Library.Lines

/-! What a source is normalized to does not depend on the order of its results. -/

open checked comparator

namespace pgid.alert.orchestration

variable {sourceId : AlertEvaluatorSourceId} {asOf : Timestamp}

section observations

/-- An observation that a source accepts of a candidate. -/
def Accepts (sourceId : AlertEvaluatorSourceId) (asOf : Timestamp) (candidate : AlertObservationInput)
    (observation : AlertRuleObservation) : Prop :=
  parseAlertObservation candidate = .ok observation ∧ observation.asOf = asOf ∧
    sourceAllowsObservation sourceId observation = true

/-- Accepted observations, each kept under its identity. -/
structure Kept (observations : Observations) : Prop where
  identity : ∀ entry ∈ observations.entries, entry.1 = semanticIdentity entry.2
  admitted : ∀ entry ∈ observations.entries, Admitted entry.2

namespace Kept

variable {observations : Observations}

theorem empty : Kept Dictionary.empty :=
  ⟨fun _ hentry => absurd hentry List.not_mem_nil, fun _ hentry => absurd hentry List.not_mem_nil⟩

theorem get_identity (hkept : Kept observations) {observation : AlertRuleObservation}
    (hmem : observation ∈ observations.values) :
    observations.get (semanticIdentity observation) = some observation := by
  obtain ⟨entry, hentry, rfl⟩ := List.mem_map.mp hmem
  rw [Dictionary.get_eq_some_iff, ← hkept.identity entry hentry]
  exact hentry

theorem admitted_of_mem (hkept : Kept observations) {observation : AlertRuleObservation}
    (hmem : observation ∈ observations.values) : Admitted observation := by
  obtain ⟨entry, hentry, rfl⟩ := List.mem_map.mp hmem
  exact hkept.admitted entry hentry

theorem eq_of_identity (hkept : Kept observations) {first second : AlertRuleObservation}
    (hfirst : first ∈ observations.values) (hsecond : second ∈ observations.values)
    (hsame : semanticIdentity first = semanticIdentity second) : first = second := by
  have hget := hkept.get_identity hfirst
  rw [hsame, hkept.get_identity hsecond] at hget
  exact (Option.some.inj hget).symm

theorem nodup_identities (hkept : Kept observations) : (observations.values.map semanticIdentity).Nodup := by
  have hkeys : observations.values.map semanticIdentity = observations.keys := by
    rw [Dictionary.values, Dictionary.keys, List.map_map]
    apply List.map_congr_left
    intro entry hentry
    exact (hkept.identity entry hentry).symm
  rw [hkeys]
  exact observations.keys_nodup

theorem nodup_values (hkept : Kept observations) : observations.values.Nodup :=
  List.Nodup.of_map semanticIdentity hkept.nodup_identities

theorem set (hkept : Kept observations) {observation : AlertRuleObservation} (hadmitted : Admitted observation) :
    Kept (observations.set (semanticIdentity observation) observation) := by
  refine ⟨?_, ?_⟩
  · intro entry hentry
    rcases Dictionary.mem_entries_set_iff.mp hentry with rfl | ⟨hentry, -⟩
    · rfl
    · exact hkept.identity entry hentry
  · intro entry hentry
    rcases Dictionary.mem_entries_set_iff.mp hentry with rfl | ⟨hentry, -⟩
    · exact hadmitted
    · exact hkept.admitted entry hentry

end Kept

/-- The loop over the observations, candidate by candidate. -/
theorem normalizeObservations_cons_eq_ok_iff {candidate : AlertObservationInput}
    {candidates : List AlertObservationInput} {observations result : Observations} (hkept : Kept observations) :
    normalizeObservations sourceId asOf (candidate :: candidates) observations = .ok result ↔
      ∃ observation, Accepts sourceId asOf candidate observation ∧
        ((observations.get (semanticIdentity observation) = none ∧
            normalizeObservations sourceId asOf candidates
              (observations.set (semanticIdentity observation) observation) = .ok result) ∨
          (observation ∈ observations.values ∧
            normalizeObservations sourceId asOf candidates observations = .ok result)) := by
  rw [normalizeObservations, bind_eq_ok_iff]
  constructor
  · rintro ⟨observation, hparsed, hstep⟩
    rw [throwIf_bind_eq_ok_iff, not_or, Decidable.not_not, Bool.not_eq_false] at hstep
    obtain ⟨⟨hasOf, hallowed⟩, hstep⟩ := hstep
    refine ⟨observation, ⟨hparsed, hasOf, hallowed⟩, ?_⟩
    cases hget : observations.get (semanticIdentity observation) with
    | none =>
      rw [hget] at hstep
      exact .inl ⟨rfl, hstep⟩
    | some existing =>
      rw [hget] at hstep
      dsimp only at hstep
      rw [throwIf_bind_eq_ok_iff, Decidable.not_not] at hstep
      have hentry := Dictionary.get_eq_some_iff.mp hget
      have hexisting := hkept.admitted _ hentry
      have hadmitted := parseAlertObservation_admitted hparsed
      obtain ⟨-, hrule⟩ := (semanticIdentity_eq_iff hadmitted hexisting).mp (hkept.identity _ hentry)
      have hsame := observationText_inj hexisting hadmitted hrule.symm hstep.1
      rw [← hsame]
      exact .inr ⟨List.mem_map.mpr ⟨_, hentry, rfl⟩, hstep.2⟩
  · rintro ⟨observation, ⟨hparsed, hasOf, hallowed⟩, hstep⟩
    refine ⟨observation, hparsed, ?_⟩
    rw [throwIf_bind_eq_ok_iff, not_or, Decidable.not_not, Bool.not_eq_false]
    refine ⟨⟨hasOf, hallowed⟩, ?_⟩
    rcases hstep with ⟨hget, hstep⟩ | ⟨hmem, hstep⟩
    · rw [hget]
      exact hstep
    · rw [hkept.get_identity hmem]
      dsimp only
      rw [throwIf_bind_eq_ok_iff]
      exact ⟨not_not_intro rfl, hstep⟩

/-- What the loop has kept is what the source accepts of the candidates, and it accepts each. -/
theorem normalizeObservations_kept {candidates : List AlertObservationInput} {observations result : Observations}
    (hkept : Kept observations)
    (hresult : normalizeObservations sourceId asOf candidates observations = .ok result) :
    Kept result ∧ (∀ candidate ∈ candidates, ∃ observation, Accepts sourceId asOf candidate observation) ∧
      ∀ observation, observation ∈ result.values ↔
        observation ∈ observations.values ∨ ∃ candidate ∈ candidates, Accepts sourceId asOf candidate observation := by
  induction candidates generalizing observations with
  | nil =>
    obtain rfl := Except.ok.inj hresult
    simp only [List.not_mem_nil, false_and, exists_false, or_false, implies_true, and_true, hkept, false_implies]
  | cons candidate candidates ih =>
    obtain ⟨observation, haccepts, hstep⟩ := (normalizeObservations_cons_eq_ok_iff hkept).mp hresult
    have honly : ∀ other, Accepts sourceId asOf candidate other ↔ other = observation := by
      intro other
      constructor
      · intro hother
        exact Except.ok.inj (hother.1.symm.trans haccepts.1)
      · rintro rfl
        exact haccepts
    rcases hstep with ⟨hget, hstep⟩ | ⟨hmem, hstep⟩
    · have hfresh := Dictionary.get_eq_none_iff.mp hget
      obtain ⟨hkeptResult, hall, hvalues⟩ := ih (hkept.set (parseAlertObservation_admitted haccepts.1)) hstep
      refine ⟨hkeptResult, List.forall_mem_cons.mpr ⟨⟨observation, haccepts⟩, hall⟩, ?_⟩
      intro other
      rw [hvalues other, Dictionary.values_set_of_not_mem hfresh, List.mem_append, List.mem_singleton,
        List.exists_mem_cons_iff, honly other, or_assoc]
    · obtain ⟨hkeptResult, hall, hvalues⟩ := ih hkept hstep
      refine ⟨hkeptResult, List.forall_mem_cons.mpr ⟨⟨observation, haccepts⟩, hall⟩, ?_⟩
      intro other
      rw [hvalues other, List.exists_mem_cons_iff, honly other]
      constructor
      · rintro (hother | hother)
        · exact .inl hother
        · exact .inr (.inr hother)
      · rintro (hother | rfl | hother)
        · exact .inl hother
        · exact .inl hmem
        · exact .inr hother

/-- From the start on, exactly what the source accepts is kept. -/
theorem mem_normalizeObservations_iff {candidates : List AlertObservationInput} {result : Observations}
    (hresult : normalizeObservations sourceId asOf candidates Dictionary.empty = .ok result)
    {observation : AlertRuleObservation} :
    observation ∈ result.values ↔ ∃ candidate ∈ candidates, Accepts sourceId asOf candidate observation := by
  obtain ⟨-, -, hvalues⟩ := normalizeObservations_kept Kept.empty hresult
  rw [hvalues observation]
  exact or_iff_right List.not_mem_nil

/-- The loop accepts candidates whose observations agree where their identities are equal. -/
theorem exists_normalizeObservations {candidates : List AlertObservationInput} {observations : Observations}
    (hkept : Kept observations)
    (haccepted : ∀ candidate ∈ candidates, ∃ observation, Accepts sourceId asOf candidate observation)
    {all : AlertRuleObservation → Prop} (hold : ∀ observation ∈ observations.values, all observation)
    (hnew : ∀ candidate ∈ candidates, ∀ observation, Accepts sourceId asOf candidate observation → all observation)
    (hagree : ∀ first second, all first → all second → semanticIdentity first = semanticIdentity second →
      first = second) :
    ∃ result, normalizeObservations sourceId asOf candidates observations = .ok result := by
  induction candidates generalizing observations with
  | nil => exact ⟨observations, rfl⟩
  | cons candidate candidates ih =>
    obtain ⟨⟨observation, haccepts⟩, haccepted⟩ := List.forall_mem_cons.mp haccepted
    obtain ⟨hcandidate, hnew⟩ := List.forall_mem_cons.mp hnew
    have hadmitted := parseAlertObservation_admitted haccepts.1
    cases hget : observations.get (semanticIdentity observation) with
    | none =>
      have hfresh := Dictionary.get_eq_none_iff.mp hget
      obtain ⟨result, hresult⟩ := ih (hkept.set hadmitted) haccepted
        (by
          intro other hother
          rw [Dictionary.values_set_of_not_mem hfresh, List.mem_append, List.mem_singleton] at hother
          rcases hother with hother | rfl
          · exact hold other hother
          · exact hcandidate other haccepts) hnew
      exact ⟨result, (normalizeObservations_cons_eq_ok_iff hkept).mpr ⟨observation, haccepts, .inl ⟨hget, hresult⟩⟩⟩
    | some existing =>
      obtain ⟨result, hresult⟩ := ih hkept haccepted hold hnew
      have hentry := Dictionary.get_eq_some_iff.mp hget
      have hmem : existing ∈ observations.values := List.mem_map.mpr ⟨_, hentry, rfl⟩
      have hsame : observation = existing :=
        hagree observation existing (hcandidate observation haccepts) (hold existing hmem) (hkept.identity _ hentry)
      rw [← hsame] at hmem
      exact ⟨result, (normalizeObservations_cons_eq_ok_iff hkept).mpr ⟨observation, haccepts, .inr ⟨hmem, hresult⟩⟩⟩

/-- The same candidates in any order and any number are normalized to the same observations. -/
theorem normalizeObservations_perm {left right : List AlertObservationInput} {observations : Observations}
    (hsame : ∀ candidate, candidate ∈ left ↔ candidate ∈ right)
    (hleft : normalizeObservations sourceId asOf left Dictionary.empty = .ok observations) :
    ∃ others, normalizeObservations sourceId asOf right Dictionary.empty = .ok others ∧ Kept observations ∧
      observations.values.Perm others.values := by
  obtain ⟨hkept, haccepted, -⟩ := normalizeObservations_kept Kept.empty hleft
  obtain ⟨others, hright⟩ := exists_normalizeObservations Kept.empty
    (fun candidate hcandidate => haccepted candidate ((hsame candidate).mpr hcandidate))
    (fun _ hother => absurd hother List.not_mem_nil)
    (fun candidate hcandidate observation haccepts =>
      (mem_normalizeObservations_iff hleft).mpr ⟨candidate, (hsame candidate).mpr hcandidate, haccepts⟩)
    fun first second hfirst hsecond => hkept.eq_of_identity hfirst hsecond
  obtain ⟨hkeptOthers, -, -⟩ := normalizeObservations_kept Kept.empty hright
  refine ⟨others, hright, hkept, ?_⟩
  rw [List.perm_ext_iff_of_nodup hkept.nodup_values hkeptOthers.nodup_values]
  intro observation
  simp only [mem_normalizeObservations_iff hleft, mem_normalizeObservations_iff hright, hsame]

end observations

section incomplete

/-- The parts that are incomplete, each kept under its key. -/
def IncompleteKept (incomplete : Dictionary Text SourceIncompleteIdentity) : Prop :=
  ∀ entry ∈ incomplete.entries, entry.1 = incompleteKey entry.2

theorem text_inj_of_quoted {α : Type} {name : α → String} (hquoted : json.Determined fun value => quoted (name value))
    {left right : α} (hsame : Text.of (name left) = Text.of (name right)) : left = right := by
  have htexts : quoted (name left) ++ [] = quoted (name right) ++ [] := by rw [quoted, quoted, hsame]
  exact (hquoted (fun _ hcode => by cases hcode) (fun _ hcode => by cases hcode) htexts).1

theorem ruleId_plain (ruleId : AlertRuleId) : (0 : UInt16) ∉ Text.of ruleId.text := by
  have hall : ∀ other ∈ ALERT_RULE_IDS, (0 : UInt16) ∉ Text.of other.text := by decide
  exact hall ruleId (AlertRuleId.mem_ids ruleId)

theorem incompleteKey_inj {left right : SourceIncompleteIdentity} (hsame : incompleteKey left = incompleteKey right) :
    left = right := by
  rw [incompleteKey, incompleteKey, List.append_assoc, List.append_assoc] at hsame
  obtain ⟨hrule, hkind⟩ := Text.append_separator_inj (ruleId_plain left.ruleId) (ruleId_plain right.ruleId) hsame
  rw [SourceIncompleteIdentity.mk.injEq]
  exact ⟨text_inj_of_quoted determined_dimensionKind hkind, text_inj_of_quoted determined_ruleId hrule⟩

theorem compares_incomplete : Compares compareIncomplete fun identity =>
    toLex (codePoints (Text.of identity.ruleId.text), codePoints (Text.of identity.dimensionKind.text)) :=
  (compares_codePoints.comp fun identity : SourceIncompleteIdentity => Text.of identity.ruleId.text).thenBy
    (compares_codePoints.comp fun identity : SourceIncompleteIdentity => Text.of identity.dimensionKind.text)

variable {incomplete : Dictionary Text SourceIncompleteIdentity}

theorem IncompleteKept.set (hkept : IncompleteKept incomplete) (identity : SourceIncompleteIdentity) :
    IncompleteKept (incomplete.set (incompleteKey identity) identity) := by
  intro entry hentry
  rcases Dictionary.mem_entries_set_iff.mp hentry with rfl | ⟨hentry, -⟩
  · rfl
  · exact hkept entry hentry

theorem IncompleteKept.mem_values_set (hkept : IncompleteKept incomplete) {identity other : SourceIncompleteIdentity} :
    other ∈ (incomplete.set (incompleteKey identity) identity).values ↔ other = identity ∨ other ∈ incomplete.values := by
  simp only [Dictionary.values, List.mem_map, Dictionary.mem_entries_set_iff]
  constructor
  · rintro ⟨entry, rfl | ⟨hentry, -⟩, rfl⟩
    · exact .inl rfl
    · exact .inr ⟨entry, hentry, rfl⟩
  · rintro (rfl | ⟨entry, hentry, rfl⟩)
    · exact ⟨_, .inl rfl, rfl⟩
    · by_cases hkey : entry.1 = incompleteKey identity
      · refine ⟨_, .inl rfl, ?_⟩
        exact incompleteKey_inj (hkey.symm.trans (hkept entry hentry))
      · exact ⟨entry, .inr ⟨hentry, hkey⟩, rfl⟩

theorem IncompleteKept.nodup_values (hkept : IncompleteKept incomplete) : incomplete.values.Nodup := by
  have hkeys : incomplete.values.map incompleteKey = incomplete.keys := by
    rw [Dictionary.values, Dictionary.keys, List.map_map]
    apply List.map_congr_left
    intro entry hentry
    exact (hkept entry hentry).symm
  apply List.Nodup.of_map incompleteKey
  rw [hkeys]
  exact incomplete.keys_nodup

/-- The loop over the incomplete parts keeps all of them when the source allows their rules. -/
theorem normalizeIncomplete_eq_ok {candidates : List SourceIncompleteIdentity} (hkept : IncompleteKept incomplete)
    (hallowed : ∀ candidate ∈ candidates, sourceAllowsRule sourceId candidate.ruleId = true) :
    ∃ result, normalizeIncomplete sourceId candidates incomplete = .ok result ∧ IncompleteKept result ∧
      ∀ identity, identity ∈ result.values ↔ identity ∈ incomplete.values ∨ identity ∈ candidates := by
  induction candidates generalizing incomplete with
  | nil => exact ⟨incomplete, rfl, hkept, fun _ => (or_iff_left List.not_mem_nil).symm⟩
  | cons candidate candidates ih =>
    obtain ⟨hcandidate, hallowed⟩ := List.forall_mem_cons.mp hallowed
    obtain ⟨result, hresult, hkeptResult, hvalues⟩ := ih (hkept.set candidate) hallowed
    refine ⟨result, ?_, hkeptResult, ?_⟩
    · rw [normalizeIncomplete, throwIf_bind_eq_ok_iff]
      exact ⟨by rw [hcandidate]; decide, hresult⟩
    · intro identity
      rw [hvalues identity, hkept.mem_values_set, List.mem_cons, or_comm (a := identity = candidate), or_assoc]

theorem allowed_of_normalizeIncomplete {candidates : List SourceIncompleteIdentity}
    {result : Dictionary Text SourceIncompleteIdentity}
    (hresult : normalizeIncomplete sourceId candidates incomplete = .ok result) :
    ∀ candidate ∈ candidates, sourceAllowsRule sourceId candidate.ruleId = true := by
  induction candidates generalizing incomplete with
  | nil => exact fun _ hcandidate => absurd hcandidate List.not_mem_nil
  | cons candidate candidates ih =>
    rw [normalizeIncomplete, throwIf_bind_eq_ok_iff, Bool.not_eq_false] at hresult
    exact List.forall_mem_cons.mpr ⟨hresult.1, ih hresult.2⟩

theorem normalizeIncomplete_perm {left right : List SourceIncompleteIdentity}
    (hsame : ∀ identity, identity ∈ left ↔ identity ∈ right)
    (hleft : normalizeIncomplete sourceId left Dictionary.empty = .ok incomplete) :
    ∃ others, normalizeIncomplete sourceId right Dictionary.empty = .ok others ∧
      incomplete.values.Perm others.values := by
  have hempty : IncompleteKept Dictionary.empty := fun _ hentry => absurd hentry List.not_mem_nil
  have hallowed := allowed_of_normalizeIncomplete hleft
  obtain ⟨result, hresult, hkept, hvalues⟩ := normalizeIncomplete_eq_ok hempty hallowed
  obtain rfl : result = incomplete := Except.ok.inj (hresult.symm.trans hleft)
  have hallowedRight : ∀ identity ∈ right, sourceAllowsRule sourceId identity.ruleId = true :=
    fun identity hidentity => hallowed identity ((hsame identity).mpr hidentity)
  obtain ⟨others, hright, hkeptOthers, hvaluesOthers⟩ := normalizeIncomplete_eq_ok hempty hallowedRight
  refine ⟨others, hright, ?_⟩
  rw [List.perm_ext_iff_of_nodup hkept.nodup_values hkeptOthers.nodup_values]
  intro identity
  rw [hvalues identity, hvaluesOthers identity, hsame identity]

end incomplete

section result

variable {left right : SourceReaderResult}

/-- The same results in any order and any number are normalized alike. -/
theorem normalizeSourceResult_eq_ok_of_same
    (hobservations : ∀ candidate, candidate ∈ left.observations ↔ candidate ∈ right.observations)
    (hincomplete : ∀ identity, identity ∈ left.incomplete ↔ identity ∈ right.incomplete)
    {normalized : List SourceIncompleteIdentity × List AlertRuleObservation}
    (hleft : normalizeSourceResult sourceId left asOf = .ok normalized) :
    normalizeSourceResult sourceId right asOf = .ok normalized := by
  rw [normalizeSourceResult, bind_eq_ok_iff] at hleft
  obtain ⟨observations, hleftObservations, hleft⟩ := hleft
  rw [bind_eq_ok_iff] at hleft
  obtain ⟨incomplete, hleftIncomplete, hleft⟩ := hleft
  rw [pure_eq_ok_iff] at hleft
  obtain ⟨others, hrightObservations, hkept, hperm⟩ := normalizeObservations_perm hobservations hleftObservations
  obtain ⟨otherIncomplete, hrightIncomplete, hpermIncomplete⟩ := normalizeIncomplete_perm hincomplete hleftIncomplete
  have hsortedObservations : sortedBy compareObservations observations.values =
      sortedBy compareObservations others.values := by
    refine compares_observations.sortedBy_eq_of_perm ?_ hperm
    intro first hfirst second hsecond hkey
    have hidentity := (compareObservations_eq_zero_iff (hkept.admitted_of_mem hfirst)
      (hkept.admitted_of_mem hsecond)).mp (compares_observations.zero.mpr hkey)
    exact hkept.eq_of_identity hfirst hsecond hidentity
  have hsortedIncomplete : sortedBy compareIncomplete incomplete.values =
      sortedBy compareIncomplete otherIncomplete.values := by
    refine compares_incomplete.sortedBy_eq_of_perm ?_ hpermIncomplete
    intro first _ second _ hkey
    obtain ⟨hrule, hkind⟩ := Prod.mk.inj (toLex.injective hkey)
    rw [SourceIncompleteIdentity.mk.injEq]
    exact ⟨text_inj_of_quoted determined_dimensionKind (codePoints_inj.mp hkind),
      text_inj_of_quoted determined_ruleId (codePoints_inj.mp hrule)⟩
  rw [normalizeSourceResult, hrightObservations, ok_bind, hrightIncomplete, ok_bind, pure_eq_ok_iff,
    ← hsortedObservations, ← hsortedIncomplete]
  exact hleft

theorem completedSource_eq_of_same (sha256 : Sha256)
    (hobservations : ∀ candidate, candidate ∈ left.observations ↔ candidate ∈ right.observations)
    (hincomplete : ∀ identity, identity ∈ left.incomplete ↔ identity ∈ right.incomplete) :
    completedSource sha256 sourceId left asOf = completedSource sha256 sourceId right asOf := by
  rw [completedSource, completedSource]
  cases hleft : normalizeSourceResult sourceId left asOf with
  | ok normalized => rw [normalizeSourceResult_eq_ok_of_same hobservations hincomplete hleft]
  | error message =>
    cases hright : normalizeSourceResult sourceId right asOf with
    | error other => rfl
    | ok normalized =>
      have hback := normalizeSourceResult_eq_ok_of_same (fun candidate => (hobservations candidate).symm)
        (fun identity => (hincomplete identity).symm) hright
      rw [hleft] at hback
      cases hback

end result

section order

/-- An observation that some source has accepted. -/
def Accepted (observation : AlertRuleObservation) : Prop :=
  ∃ candidate, parseAlertObservation candidate = .ok observation

/-- The order of accepted observations is strict and total, up to their identities. -/
structure StrictlyOrders (compare : AlertRuleObservation → AlertRuleObservation → Int) : Prop where
  asymm : ∀ first second, Accepted first → Accepted second → compare first second < 0 → ¬ compare second first < 0
  trans : ∀ first second third, Accepted first → Accepted second → Accepted third → compare first second < 0 →
    compare second third < 0 → compare first third < 0
  total : ∀ first second, Accepted first → Accepted second →
    compare first second < 0 ∨ compare first second = 0 ∨ compare second first < 0
  zero : ∀ first second, Accepted first → Accepted second →
    (compare first second = 0 ↔ semanticIdentity first = semanticIdentity second)

theorem compareObservations_strictlyOrders : StrictlyOrders compareObservations := by
  refine ⟨?_, ?_, ?_, ?_⟩
  · intro first second _ _ hless
    have hswap := compares_observations.swap first second
    omega
  · intro first second third _ _ _ hfirst hsecond
    rw [compares_observations.neg] at hfirst hsecond ⊢
    exact lt_trans hfirst hsecond
  · intro first second _ _
    have hswap := compares_observations.swap first second
    omega
  · rintro first second ⟨candidate, hfirst⟩ ⟨other, hsecond⟩
    exact compareObservations_eq_zero_iff (parseAlertObservation_admitted hfirst)
      (parseAlertObservation_admitted hsecond)

/-- Sources do not depend on the order and the repetition of what their readers return, and the
order in which their observations are planned is strict and total. -/
theorem completedSource_order_independent (sha256 : Sha256) (sourceId : AlertEvaluatorSourceId) (asOf : Timestamp)
    {left right : SourceReaderResult}
    (hobservations : ∀ candidate, candidate ∈ left.observations ↔ candidate ∈ right.observations)
    (hincomplete : ∀ identity, identity ∈ left.incomplete ↔ identity ∈ right.incomplete) :
    completedSource sha256 sourceId left asOf = completedSource sha256 sourceId right asOf ∧
      StrictlyOrders compareObservations :=
  ⟨completedSource_eq_of_same sha256 hobservations hincomplete, compareObservations_strictlyOrders⟩

/-- A gap of the fanout, as its reader reports it. -/
def fanoutGap : AlertObservationInput where
  asOf := ⟨1700006000000, by decide⟩
  dimension := .global
  ruleId := .securityFanoutGap
  measures := .fanout { missingOlderThan15mCount := 0, missingOlderThan5mCount := 1 }

/-- SHA-256 at the one text that is hashed here. -/
def fanoutDigest : Sha256 := fun bytes =>
  if bytes = (Text.of ("[\"pgid.alert.evaluator.source.v1\",\x7b\"incomplete\":[],\"observations\":[" ++
      "\x7b\"asOf\":\"2023-11-14T23:53:20.000Z\",\"dimension\":\x7b\"kind\":\"global\"\x7d," ++
      "\"ruleId\":\"pgid.security.fanout_gap.v1\",\"snapshot\":\x7b\"missingOlderThan15mCount\":0," ++
      "\"missingOlderThan5mCount\":1\x7d\x7d],\"sourceId\":\"d1.security_fanout_gap\"," ++
      "\"status\":\"complete\"\x7d]")).encode then
    #v[221, 159, 136, 238, 128, 229, 9, 56, 175, 92, 28, 141, 31, 40, 252, 32, 167, 194, 68, 133, 9, 211, 236, 91, 152,
      18, 48, 15, 236, 76, 13, 42]
  else Vector.replicate 32 0

theorem completedSource_order_independent_repeated :
    completedSource fanoutDigest .d1SecurityFanoutGap { incomplete := [], observations := [fanoutGap] }
        ⟨1700006000000, by decide⟩ =
      completedSource fanoutDigest .d1SecurityFanoutGap { incomplete := [], observations := [fanoutGap, fanoutGap] }
        ⟨1700006000000, by decide⟩ ∧
      StrictlyOrders compareObservations := by
  refine completedSource_order_independent fanoutDigest .d1SecurityFanoutGap _ ?_ fun _ => Iff.rfl
  intro candidate
  simp only [List.mem_cons, List.not_mem_nil, or_false, or_self]

end order

end pgid.alert.orchestration
