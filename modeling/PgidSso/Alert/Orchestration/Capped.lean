import PgidSso.Alert.Orchestration.Fair
import PgidSso.Alert.Orchestration.Normal

open checked comparator

namespace pgid.alert.orchestration

/-- The sources and what the work cap makes of each of them. -/
structure WorkCapped (sources : List CollectedSource) (result : CollectedSource → CollectedSource) : Prop where
  total : (allPlanned (sources.map result)).length = min (allPlanned sources).length ALERT_EVALUATOR_MAX_WORK_ITEMS
  kept : ∀ source ∈ sources, (result source).planningObservations.Sublist source.planningObservations
  first : ∀ source ∈ sources, ∀ first ∈ source.planningObservations.head?,
    first ∈ (result source).planningObservations
  ordered : ∀ kept ∈ allPlanned (sources.map result), kept ∉ reservedObservations sources →
    ∀ dropped ∈ allPlanned sources, dropped ∉ allPlanned (sources.map result) →
      ¬ compareObservations dropped kept < 0
  unchanged : ∀ source ∈ sources, (result source).planningObservations = source.planningObservations →
    result source = source
  dropped : ∀ source ∈ sources, (result source).planningObservations ≠ source.planningObservations →
    (result source).proof.status = .partly ∧
      (result source).proof.incompleteCount = source.incomplete.length +
        (source.planningObservations.length - (result source).planningObservations.length : Int) ∧
      (result source).forcePartial = true ∧
      (result source).proof.observationCount = source.proof.observationCount

/-- More incomplete entries and dropped observations than a proof can count. -/
def ExceedsProofBound (retained : List AlertRuleObservation) (source : CollectedSource) : Prop :=
  droppedCount retained source ≠ 0 ∧ 10000 < source.incomplete.length + droppedCount retained source

section source

variable (sha256 : Sha256) {retained : List AlertRuleObservation} {source : CollectedSource}

theorem kept_sublist : (keptObservations retained source).Sublist source.planningObservations :=
  List.filter_sublist

theorem kept_eq_of_none_dropped (hdropped : droppedCount retained source = 0) :
    keptObservations retained source = source.planningObservations := by
  refine kept_sublist.eq_of_length_le ?_
  rw [droppedCount] at hdropped
  omega

/-- The source after the cap. -/
def cappedSource (sha256 : Sha256) (retained : List AlertRuleObservation) (source : CollectedSource) :
    CollectedSource :=
  match capSource sha256 retained source with
  | .ok capped => capped
  | .error _ => source

/-- One source after the cap, unless its proof would count too much. -/
structure SourceCapped (retained : List AlertRuleObservation) (source capped : CollectedSource) : Prop where
  planning : capped.planningObservations = keptObservations retained source
  unchanged : droppedCount retained source = 0 → capped = source
  dropped : droppedCount retained source ≠ 0 →
    capped.proof.status = .partly ∧
      capped.proof.incompleteCount = source.incomplete.length + droppedCount retained source ∧
      capped.forcePartial = true ∧ capped.proof.observationCount = source.proof.observationCount

theorem capSource_eq_ok (hcollected : Collected source) (hbound : ¬ ExceedsProofBound retained source) :
    ∃ capped, capSource sha256 retained source = .ok capped ∧ SourceCapped retained source capped := by
  rw [capSource]
  split
  · rename_i hfailed
    have hplanning := hcollected.failed hfailed
    have hkept : keptObservations retained source = source.planningObservations := by
      rw [keptObservations, hplanning]
      rfl
    have hdropped : droppedCount retained source = 0 := by
      rw [droppedCount, hkept, Nat.sub_self]
    exact ⟨source, rfl, ⟨hkept.symm, fun _ => rfl, fun hne => absurd hdropped hne⟩⟩
  split
  · rename_i hdropped
    refine ⟨_, rfl, ⟨rfl, fun _ => ?_, fun hne => absurd hdropped hne⟩⟩
    rw [kept_eq_of_none_dropped hdropped]
  · rename_i hdropped
    have hcount : ¬ source.incomplete.length + droppedCount retained source > 10000 := fun hexceeds =>
      hbound ⟨hdropped, hexceeds⟩
    dsimp only
    rw [throwIf_bind_of_not hcount]
    exact ⟨_, rfl, ⟨rfl, fun hzero => absurd hzero hdropped, fun _ => ⟨rfl, rfl, rfl, hcollected.counted.symm⟩⟩⟩

theorem capSource_eq_error (hcollected : Collected source) (hbound : ExceedsProofBound retained source) :
    capSource sha256 retained source = .error INCOMPLETE_COUNT_EXCEEDS_BOUND := by
  rw [capSource]
  split
  · rename_i hfailed
    have hplanning := hcollected.failed hfailed
    have hdropped : droppedCount retained source = 0 := by
      rw [droppedCount, hplanning, List.length_nil, Nat.zero_sub]
    exact absurd hdropped hbound.1
  · rw [if_neg hbound.1]
    dsimp only
    rw [throwIf, if_pos hbound.2]
    rfl

end source

variable {sources : List CollectedSource}

theorem applyWorkCap_eq_ok (sha256 : Sha256) (hplannable : Plannable sources)
    (hbound : ∀ source ∈ sources, ¬ ExceedsProofBound (retainedObservations sources) source) :
    ∃ result, applyWorkCap sha256 sources = .ok (sources.map result) ∧ WorkCapped sources result := by
  have hcapped : ∀ source ∈ sources,
      capSource sha256 (retainedObservations sources) source =
          .ok (cappedSource sha256 (retainedObservations sources) source) ∧
        SourceCapped (retainedObservations sources) source
          (cappedSource sha256 (retainedObservations sources) source) := by
    intro source hsource
    obtain ⟨capped, hok, hsourceCapped⟩ :=
      capSource_eq_ok sha256 (hplannable.collected source hsource) (hbound source hsource)
    have hresult : cappedSource sha256 (retainedObservations sources) source = capped := by
      rw [cappedSource, hok]
    rw [hresult]
    exact ⟨hok, hsourceCapped⟩
  have hplanned : allPlanned (sources.map (cappedSource sha256 (retainedObservations sources))) =
      sources.flatMap (keptObservations (retainedObservations sources)) := by
    rw [allPlanned, List.flatMap_map]
    apply List.flatMap_congr
    intro source hsource
    exact (hcapped source hsource).2.planning
  refine ⟨cappedSource sha256 (retainedObservations sources), ?_, ?_⟩
  · rw [applyWorkCap, throwIf_bind_of_not (by decide)]
    exact mapM_eq_ok_map fun source hsource => (hcapped source hsource).1
  · refine ⟨?_, ?_, ?_, ?_, ?_, ?_⟩
    · rw [hplanned]
      exact hplannable.length_kept
    · intro source hsource
      rw [(hcapped source hsource).2.planning]
      exact kept_sublist
    · intro source hsource first hfirst
      rw [(hcapped source hsource).2.planning]
      exact hplannable.first_kept hsource hfirst
    · intro kept hkept hfree dropped hdropped hout
      rw [hplanned, hplannable.mem_kept_iff] at hkept hout
      exact hplannable.kept_in_order hkept hfree hdropped hout
    · intro source hsource hsame
      have hcappedSource := (hcapped source hsource).2
      apply hcappedSource.unchanged
      rw [droppedCount, ← hcappedSource.planning, hsame, Nat.sub_self]
    · intro source hsource hdiffers
      have hcappedSource := (hcapped source hsource).2
      rw [hcappedSource.planning] at hdiffers
      have hdropped : droppedCount (retainedObservations sources) source ≠ 0 := fun hzero =>
        hdiffers (kept_eq_of_none_dropped hzero)
      obtain ⟨hstatus, hcount, hforced, hobservations⟩ := hcappedSource.dropped hdropped
      refine ⟨hstatus, ?_, hforced, hobservations⟩
      have hle := (@kept_sublist (retainedObservations sources) source).length_le
      rw [hcount, hcappedSource.planning, droppedCount]
      omega

theorem applyWorkCap_eq_error (sha256 : Sha256) (hplannable : Plannable sources)
    (hbound : ∃ source ∈ sources, ExceedsProofBound (retainedObservations sources) source) :
    applyWorkCap sha256 sources = .error INCOMPLETE_COUNT_EXCEEDS_BOUND := by
  rw [applyWorkCap, throwIf_bind_of_not (by decide)]
  apply mapM_eq_error
  · intro source hsource
    by_cases hexceeds : ExceedsProofBound (retainedObservations sources) source
    · exact .inr (capSource_eq_error sha256 (hplannable.collected source hsource) hexceeds)
    · obtain ⟨capped, hok, -⟩ := capSource_eq_ok sha256 (hplannable.collected source hsource) hexceeds
      exact .inl ⟨capped, hok⟩
  · obtain ⟨source, hsource, hexceeds⟩ := hbound
    exact ⟨source, hsource, capSource_eq_error sha256 (hplannable.collected source hsource) hexceeds⟩

/-- The sources of a run, as their readers left them, without those in conflict. -/
def sourcesOf (sha256 : Sha256) (asOf : Timestamp)
    (readers : List (AlertEvaluatorSourceId × Except SourceError SourceReaderResult)) : List CollectedSource :=
  invalidateConflictingSources sha256 (readers.map fun reader => collectSource sha256 reader.1 reader.2 asOf)

theorem sourcesOf_plannable (sha256 : Sha256) (asOf : Timestamp)
    {readers : List (AlertEvaluatorSourceId × Except SourceError SourceReaderResult)}
    (hdistinct : (readers.map Prod.fst).Nodup) : Plannable (sourcesOf sha256 asOf readers) := by
  apply invalidateConflictingSources_plannable
  · intro source hsource
    obtain ⟨reader, -, rfl⟩ := List.mem_map.mp hsource
    exact (collectSource_collected sha256 reader.1 reader.2 asOf).1
  · have hids : ∀ reader ∈ readers,
        ((·.sourceId) ∘ fun reader => collectSource sha256 reader.1 reader.2 asOf) reader = reader.1 :=
      fun reader _ => (collectSource_collected sha256 reader.1 reader.2 asOf).2
    rw [List.map_map, List.map_congr_left hids]
    exact hdistinct

/-- The work cap is fair and accounted for, or it throws: exactly when a source would count more
than 10,000 incomplete entries and dropped observations. -/
theorem applyWorkCap_fair (sha256 : Sha256) (asOf : Timestamp)
    {readers : List (AlertEvaluatorSourceId × Except SourceError SourceReaderResult)}
    (hdistinct : (readers.map Prod.fst).Nodup) :
    ((∃ source ∈ sourcesOf sha256 asOf readers,
          ExceedsProofBound (retainedObservations (sourcesOf sha256 asOf readers)) source) ∧
        applyWorkCap sha256 (sourcesOf sha256 asOf readers) = .error INCOMPLETE_COUNT_EXCEEDS_BOUND) ∨
      ((∀ source ∈ sourcesOf sha256 asOf readers,
          ¬ ExceedsProofBound (retainedObservations (sourcesOf sha256 asOf readers)) source) ∧
        ∃ result,
          applyWorkCap sha256 (sourcesOf sha256 asOf readers) = .ok ((sourcesOf sha256 asOf readers).map result) ∧
          WorkCapped (sourcesOf sha256 asOf readers) result) := by
  have hplannable := sourcesOf_plannable sha256 asOf hdistinct
  by_cases hexceeds : ∃ source ∈ sourcesOf sha256 asOf readers,
      ExceedsProofBound (retainedObservations (sourcesOf sha256 asOf readers)) source
  · exact .inl ⟨hexceeds, applyWorkCap_eq_error sha256 hplannable hexceeds⟩
  · have hbound : ∀ source ∈ sourcesOf sha256 asOf readers,
        ¬ ExceedsProofBound (retainedObservations (sourcesOf sha256 asOf readers)) source :=
      fun source hsource hbad => hexceeds ⟨source, hsource, hbad⟩
    exact .inr ⟨hbound, applyWorkCap_eq_ok sha256 hplannable hbound⟩

end pgid.alert.orchestration
