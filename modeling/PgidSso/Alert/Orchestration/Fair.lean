import PgidSso.Alert.Orchestration.WorkCap

/-! The observations that one run plans are shared out fairly among its sources. -/

open checked comparator

namespace pgid.alert.orchestration

section conflicts

/-- The observations of a source that are planned have identities that were not seen before. -/
theorem planObservations_fresh (sourceId : AlertEvaluatorSourceId) (seen : Dictionary Text Seen)
    (observations : List AlertRuleObservation) :
    ((planObservations sourceId seen observations).2.map semanticIdentity).Nodup ∧
      (∀ observation ∈ (planObservations sourceId seen observations).2,
        semanticIdentity observation ∉ seen.keys) ∧
      ∀ key, key ∈ seen.keys ∨ key ∈ (planObservations sourceId seen observations).2.map semanticIdentity →
        key ∈ (planObservations sourceId seen observations).1.keys := by
  induction observations generalizing seen with
  | nil =>
    refine ⟨List.nodup_nil, fun _ hobservation => absurd hobservation List.not_mem_nil, ?_⟩
    rintro key (hkey | hkey)
    · exact hkey
    · exact absurd hkey List.not_mem_nil
  | cons observation observations ih =>
    rw [planObservations]
    cases hget : seen.get (semanticIdentity observation) with
    | none =>
      have hfresh := Dictionary.get_eq_none_iff.mp hget
      obtain ⟨hnodup, hnew, hkeys⟩ := ih (seen.set (semanticIdentity observation)
        { canonicals := [observationText observation], sources := [sourceId] })
      simp only [Dictionary.mem_keys_set_iff, not_or] at hnew hkeys
      dsimp only
      refine ⟨?_, ?_, ?_⟩
      · rw [List.map_cons, List.nodup_cons]
        refine ⟨?_, hnodup⟩
        intro hmem
        obtain ⟨other, hother, hsame⟩ := List.mem_map.mp hmem
        exact (hnew other hother).1 hsame
      · rw [List.forall_mem_cons]
        exact ⟨hfresh, fun other hother => (hnew other hother).2⟩
      · intro key hkey
        rw [List.map_cons, List.mem_cons] at hkey
        apply hkeys
        rcases hkey with hkey | hkey | hkey
        · exact .inl (.inr hkey)
        · exact .inl (.inl hkey)
        · exact .inr hkey
    | some prior =>
      have hmem := Dictionary.mem_keys_of_get hget
      obtain ⟨hnodup, hnew, hkeys⟩ := ih (seen.set (semanticIdentity observation)
        { canonicals := reserve.add prior.canonicals (observationText observation)
          sources := reserve.add prior.sources sourceId })
      simp only [Dictionary.mem_keys_set_iff, not_or] at hnew hkeys
      refine ⟨hnodup, fun other hother => (hnew other hother).2, ?_⟩
      intro key hkey
      apply hkeys
      rcases hkey with hkey | hkey
      · exact .inl (.inr hkey)
      · exact .inr hkey

/-- The planning observations of all sources. -/
abbrev allPlanned (sources : List CollectedSource) : List AlertRuleObservation :=
  sources.flatMap (·.planningObservations)

theorem planSources_fresh (seen : Dictionary Text Seen) {sources : List CollectedSource}
    (hfailed : ∀ source ∈ sources, isFailed source.proof.status = true → source.planningObservations = []) :
    ((allPlanned (planSources seen sources).2).map semanticIdentity).Nodup ∧
      ∀ observation ∈ allPlanned (planSources seen sources).2, semanticIdentity observation ∉ seen.keys := by
  induction sources generalizing seen with
  | nil => exact ⟨List.nodup_nil, fun _ hobservation => absurd hobservation List.not_mem_nil⟩
  | cons source sources ih =>
    obtain ⟨hsource, hfailed⟩ := List.forall_mem_cons.mp hfailed
    rw [planSources]
    split
    · rename_i hstatus
      dsimp only
      rw [allPlanned, List.flatMap_cons, hsource hstatus, List.nil_append]
      exact ih seen hfailed
    · obtain ⟨hnodup, hnew, hkeys⟩ := planObservations_fresh source.sourceId seen source.observations
      obtain ⟨hnodupRest, hnewRest⟩ := ih (planObservations source.sourceId seen source.observations).1 hfailed
      dsimp only
      rw [allPlanned, List.flatMap_cons, List.map_append, List.nodup_append]
      refine ⟨⟨hnodup, hnodupRest, ?_⟩, ?_⟩
      · rintro key hkey other hother rfl
        obtain ⟨observation, hobservation, rfl⟩ := List.mem_map.mp hother
        exact hnewRest observation hobservation (hkeys _ (.inr hkey))
      · intro observation hobservation
        rcases List.mem_append.mp hobservation with hfirst | hrest
        · exact hnew observation hfirst
        · exact fun hkey => hnewRest observation hrest (hkeys _ (.inl hkey))

/-- What planning and a conflict leave of a collected source. -/
structure Collected (source : CollectedSource) : Prop where
  failed : isFailed source.proof.status = true → source.planningObservations = []
  counted : source.proof.observationCount = source.observations.length

theorem failedSource_collected (sha256 : Sha256) (sourceId : AlertEvaluatorSourceId) (status : EvaluatorSourceStatus) :
    Collected (failedSource sha256 sourceId status) :=
  ⟨fun _ => rfl, rfl⟩

theorem normalizedSource_not_failed {sha256 : Sha256} {sourceId : AlertEvaluatorSourceId}
    {incomplete : List SourceIncompleteIdentity} {observations : List AlertRuleObservation} :
    isFailed (normalizedSource sha256 sourceId incomplete observations).proof.status = false := by
  have hstatus : (normalizedSource sha256 sourceId incomplete observations).proof.status =
      if incomplete.length = 0 then .complete else .partly := rfl
  rw [hstatus]
  split <;> rfl

theorem collectSource_collected (sha256 : Sha256) (sourceId : AlertEvaluatorSourceId)
    (reader : Except SourceError SourceReaderResult) (asOf : Timestamp) :
    Collected (collectSource sha256 sourceId reader asOf) ∧
      (collectSource sha256 sourceId reader asOf).sourceId = sourceId := by
  cases reader with
  | error error => exact ⟨failedSource_collected sha256 sourceId _, rfl⟩
  | ok result =>
    rw [collectSource, completedSource]
    cases normalizeSourceResult sourceId result asOf with
    | error message => exact ⟨failedSource_collected sha256 sourceId _, rfl⟩
    | ok normalized =>
      refine ⟨⟨?_, rfl⟩, rfl⟩
      intro hfailed
      rw [normalizedSource_not_failed] at hfailed
      cases hfailed

theorem planSources_collected (seen : Dictionary Text Seen) {sources : List CollectedSource}
    (hcollected : ∀ source ∈ sources, Collected source) :
    (∀ source ∈ (planSources seen sources).2, Collected source) ∧
      (planSources seen sources).2.map (·.sourceId) = sources.map (·.sourceId) := by
  induction sources generalizing seen with
  | nil => exact ⟨fun _ hsource => absurd hsource List.not_mem_nil, rfl⟩
  | cons source sources ih =>
    obtain ⟨hsource, hcollected⟩ := List.forall_mem_cons.mp hcollected
    rw [planSources]
    split
    · obtain ⟨hrest, hids⟩ := ih seen hcollected
      exact ⟨List.forall_mem_cons.mpr ⟨hsource, hrest⟩, congrArg (source.sourceId :: ·) hids⟩
    · rename_i hstatus
      obtain ⟨hrest, hids⟩ := ih (planObservations source.sourceId seen source.observations).1 hcollected
      refine ⟨List.forall_mem_cons.mpr ⟨⟨?_, hsource.counted⟩, hrest⟩, congrArg (source.sourceId :: ·) hids⟩
      exact fun hfailed => absurd hfailed hstatus

/-- Sources whose observations can be planned: no identity is planned twice. -/
structure Plannable (sources : List CollectedSource) : Prop where
  collected : ∀ source ∈ sources, Collected source
  distinct : (sources.map (·.sourceId)).Nodup
  fresh : (allPlanned sources).Nodup

/-- What is planned of sources of which some are replaced by failed ones. -/
theorem allPlanned_map_sublist (sha256 : Sha256) (invalid : List AlertEvaluatorSourceId)
    (sources : List CollectedSource) :
    (allPlanned (sources.map fun source =>
      if source.sourceId ∈ invalid then failedSource sha256 source.sourceId .invalid else source)).Sublist
      (allPlanned sources) := by
  induction sources with
  | nil => exact List.Sublist.refl []
  | cons source sources ih =>
    rw [List.map_cons, allPlanned, allPlanned, List.flatMap_cons, List.flatMap_cons]
    refine List.Sublist.append ?_ ih
    split
    · exact List.nil_sublist _
    · exact List.Sublist.refl _

theorem invalidateConflictingSources_plannable (sha256 : Sha256) {sources : List CollectedSource}
    (hcollected : ∀ source ∈ sources, Collected source) (hdistinct : (sources.map (·.sourceId)).Nodup) :
    Plannable (invalidateConflictingSources sha256 sources) := by
  obtain ⟨hplanned, hids⟩ := planSources_collected Dictionary.empty hcollected
  obtain ⟨hfresh, -⟩ := planSources_fresh Dictionary.empty fun source hsource => (hcollected source hsource).failed
  rw [invalidateConflictingSources]
  refine ⟨?_, ?_, ?_⟩
  · intro source hsource
    obtain ⟨planned, hmem, rfl⟩ := List.mem_map.mp hsource
    split
    · exact failedSource_collected sha256 _ _
    · exact hplanned planned hmem
  · have hsame : ∀ planned ∈ (planSources Dictionary.empty sources).2,
        ((·.sourceId) ∘ fun source : CollectedSource =>
          if source.sourceId ∈ conflictingSources (planSources Dictionary.empty sources).1
          then failedSource sha256 source.sourceId .invalid else source) planned = planned.sourceId := by
      intro planned _
      rw [Function.comp_apply]
      split <;> rfl
    rw [List.map_map, List.map_congr_left hsame, hids]
    exact hdistinct
  · exact (List.Nodup.of_map semanticIdentity hfresh).sublist (allPlanned_map_sublist sha256 _ _)

end conflicts

section cap

variable {sources : List CollectedSource}

theorem workOf_eq_allPlanned (hcollected : ∀ source ∈ sources, Collected source) :
    workOf sources = allPlanned sources := by
  apply List.flatMap_congr
  intro source hsource
  split
  · rename_i hfailed
    exact ((hcollected source hsource).failed hfailed).symm
  · rfl

namespace Plannable

/-- The work in its order: all that is planned, each once. -/
theorem sortedWork (hplannable : Plannable sources) :
    (sortedBy compareObservations (workOf sources)).Perm (allPlanned sources) ∧
      (sortedBy compareObservations (workOf sources)).Nodup := by
  have hperm : (sortedBy compareObservations (workOf sources)).Perm (allPlanned sources) := by
    rw [← workOf_eq_allPlanned hplannable.collected]
    exact List.mergeSort_perm _ _
  exact ⟨hperm, hperm.nodup_iff.mpr hplannable.fresh⟩

theorem reserved_nodup : (reservedObservations sources).Nodup :=
  reserve.nodup_foldl_add List.nodup_nil

theorem mem_reserved_iff {observation : AlertRuleObservation} :
    observation ∈ reservedObservations sources ↔
      ∃ source ∈ sources, source.planningObservations.head? = some observation := by
  rw [reservedObservations, reserve.mem_foldl_add, List.mem_filterMap]
  exact or_iff_right List.not_mem_nil

theorem reserved_subset (hplannable : Plannable sources) :
    reservedObservations sources ⊆ sortedBy compareObservations (workOf sources) := by
  intro observation hobservation
  obtain ⟨source, hsource, hhead⟩ := mem_reserved_iff.mp hobservation
  apply hplannable.sortedWork.1.mem_iff.mpr
  exact List.mem_flatMap.mpr ⟨source, hsource, List.mem_of_mem_head? hhead⟩

/-- There are no more sources than the bound leaves room for. -/
theorem length_reserved_le (hplannable : Plannable sources) :
    (reservedObservations sources).length ≤ ALERT_EVALUATOR_MAX_WORK_ITEMS := by
  have hids : sources.length ≤ ALERT_EVALUATOR_SOURCE_IDS.length := by
    rw [← List.length_map (f := fun source : CollectedSource => source.sourceId)]
    apply List.Subperm.length_le
    apply List.subperm_of_subset hplannable.distinct
    intro sourceId _
    cases sourceId <;> decide
  have hheads := List.length_filterMap_le (fun source : CollectedSource => source.planningObservations.head?) sources
  have hreserved := @reserve.length_foldl_add_le _ _ [] (sources.filterMap (·.planningObservations.head?))
  have hbounds : ALERT_EVALUATOR_SOURCE_IDS.length ≤ ALERT_EVALUATOR_MAX_WORK_ITEMS := by decide
  rw [List.length_nil] at hreserved
  rw [reservedObservations]
  omega

theorem retained_nodup (hplannable : Plannable sources) : (retainedObservations sources).Nodup :=
  reserve.nodup_fill reserved_nodup hplannable.sortedWork.2

theorem retained_subset (hplannable : Plannable sources) : retainedObservations sources ⊆ allPlanned sources := by
  intro observation hobservation
  obtain ⟨hperm, hnodup⟩ := hplannable.sortedWork
  apply hperm.mem_iff.mp
  rcases reserve.mem_of_mem_fill hnodup hobservation with hreserved | hwork
  · exact hplannable.reserved_subset hreserved
  · exact hwork

/-- The observations that are kept, of all sources. -/
theorem flatMap_kept (retained : List AlertRuleObservation) :
    sources.flatMap (keptObservations retained) =
      (allPlanned sources).filter fun observation => observation ∈ retained := by
  rw [allPlanned, List.filter_flatMap]
  rfl

theorem mem_kept_iff (hplannable : Plannable sources) {observation : AlertRuleObservation} :
    observation ∈ sources.flatMap (keptObservations (retainedObservations sources)) ↔
      observation ∈ retainedObservations sources := by
  rw [flatMap_kept, List.mem_filter, decide_eq_true_eq]
  exact and_iff_right_of_imp fun hmem => hplannable.retained_subset hmem

/-- As many observations are kept as the bound allows. -/
theorem length_kept (hplannable : Plannable sources) :
    (sources.flatMap (keptObservations (retainedObservations sources))).length =
      min (allPlanned sources).length ALERT_EVALUATOR_MAX_WORK_ITEMS := by
  obtain ⟨hperm, hnodup⟩ := hplannable.sortedWork
  rw [flatMap_kept, reserve.length_filter_mem hplannable.fresh hplannable.retained_nodup hplannable.retained_subset,
    ← hperm.length_eq, retainedObservations,
    reserve.length_fill reserved_nodup hnodup hplannable.reserved_subset hplannable.length_reserved_le]

theorem first_kept (hplannable : Plannable sources) {source : CollectedSource} (hsource : source ∈ sources)
    {first : AlertRuleObservation} (hfirst : source.planningObservations.head? = some first) :
    first ∈ keptObservations (retainedObservations sources) source := by
  refine List.mem_filter.mpr ⟨List.mem_of_mem_head? hfirst, decide_eq_true ?_⟩
  exact reserve.mem_fill_of_retained hplannable.sortedWork.2 (mem_reserved_iff.mpr ⟨source, hsource, hfirst⟩)

theorem kept_in_order (hplannable : Plannable sources) {kept dropped : AlertRuleObservation}
    (hkept : kept ∈ retainedObservations sources) (hfree : kept ∉ reservedObservations sources)
    (hdropped : dropped ∈ allPlanned sources) (hout : dropped ∉ retainedObservations sources) :
    ¬ compareObservations dropped kept < 0 := by
  obtain ⟨hperm, hnodup⟩ := hplannable.sortedWork
  have hle := reserve.fill_in_order hnodup (compares_observations.pairwise_sortedBy (workOf sources)) hkept hfree
    (hperm.mem_iff.mpr hdropped) hout
  have hswap := compares_observations.swap kept dropped
  omega

end Plannable

end cap

end pgid.alert.orchestration
