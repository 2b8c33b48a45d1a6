import PgidSso.Alert.Orchestration.Capped
import PgidSso.Library.Table

/-! What the proofs of a run's sources attest, from their collection to the work cap. -/

open checked comparator

namespace pgid.alert.orchestration

section digests

variable {sha256 : Sha256} {domain : AlertEvaluatorProofDigestDomain}

/-- The digest of a value is one that the parsers of a proof accept. -/
theorem canonicalAlertEvaluatorProofDigest_accepted {value : Text} :
    BASE64URL_SHA256 (canonicalAlertEvaluatorProofDigest sha256 domain value) = true := by
  rw [BASE64URL_SHA256, canonicalAlertEvaluatorProofDigest, bytesToBase64url]
  exact @base64.fits_encode _ 10 Vector.length_toList

theorem hash_eq_of_digest {first second : Text}
    (hsame : canonicalAlertEvaluatorProofDigest sha256 domain first =
      canonicalAlertEvaluatorProofDigest sha256 domain second) :
    sha256 (proofBytes domain first) = sha256 (proofBytes domain second) := by
  have hdecoded := congrArg base64.decode hsame
  rw [canonicalAlertEvaluatorProofDigest, canonicalAlertEvaluatorProofDigest, bytesToBase64url, bytesToBase64url,
    base64.decode_encode, base64.decode_encode] at hdecoded
  exact Vector.toList_inj.mp (Option.some.inj hdecoded)

end digests

/-- The kinds of dimensions, each once. -/
def dimensionKinds : List AlertDimensionKind :=
  [.global, .hashed .subjectHmac, .hashed .actorHmac, .hashed .clientHmac, .queue]

theorem mem_dimensionKinds (kind : AlertDimensionKind) : kind ∈ dimensionKinds := by
  rcases kind with _ | (_ | _ | _) | _ <;> decide

/-- A source has no more incomplete parts than there are rules and kinds of dimensions. -/
theorem length_incomplete_le {incomplete : List SourceIncompleteIdentity} (hnodup : incomplete.Nodup) :
    incomplete.length ≤ 75 := by
  have hsubset : incomplete ⊆ (ALERT_RULE_IDS ×ˢ dimensionKinds).map fun part =>
      { dimensionKind := part.2, ruleId := part.1 } := by
    intro identity _
    refine List.mem_map.mpr ⟨(identity.ruleId, identity.dimensionKind), ?_, rfl⟩
    exact List.mem_product.mpr ⟨AlertRuleId.mem_ids identity.ruleId, mem_dimensionKinds identity.dimensionKind⟩
  have hle := (List.subperm_of_subset hnodup hsubset).length_le
  rw [List.length_map, List.length_product] at hle
  exact hle

/-- A source and the proof of what was collected of it. -/
structure Attested (source : CollectedSource) : Prop where
  sourceId : source.proof.sourceId = source.sourceId
  digest : BASE64URL_SHA256 source.proof.proofSha256 = true
  observations : source.proof.observationCount = source.observations.length
  incomplete : 0 ≤ source.proof.incompleteCount ∧ source.proof.incompleteCount ≤ 10000
  partly : source.proof.incompleteCount = 0 ↔ source.proof.status ≠ .partly
  failed : isFailed source.proof.status = true → source.observations = []
  forced : source.forcePartial = true ∨ source.incomplete ≠ [] → source.proof.status = .partly
  planned : source.planningObservations ⊆ source.observations
  admitted : ∀ observation ∈ source.observations, Admitted observation

namespace Attested

variable {source capped : CollectedSource} {sha256 : Sha256}

/-- The proof of a source is accepted for what it counts. -/
theorem parses (hattested : Attested source) (hcount : source.observations.length ≤ 10000) :
    parseAlertEvaluatorSourceProofValue source.proof = .ok source.proof := by
  have hobservations : boundedInteger source.proof.observationCount 10000 = .ok source.proof.observationCount := by
    rw [boundedInteger_eq_ok_iff, hattested.observations]
    omega
  have hincomplete : boundedInteger source.proof.incompleteCount 10000 = .ok source.proof.incompleteCount :=
    boundedInteger_eq_ok_iff.mpr ⟨rfl, hattested.incomplete⟩
  have hdigest := parseAlertEvaluatorDigest_eq_ok_iff.mpr ⟨rfl, hattested.digest⟩
  have hconsistent : ¬ ((source.proof.status = .complete ∧ source.proof.incompleteCount ≠ 0) ∨
      (source.proof.status = .partly ∧ source.proof.incompleteCount = 0) ∨
        (isFailed source.proof.status = true ∧
          (source.proof.observationCount ≠ 0 ∨ source.proof.incompleteCount ≠ 0))) := by
    rintro (⟨hstatus, hcounted⟩ | ⟨hstatus, hcounted⟩ | ⟨hstatus, hcounted⟩)
    · apply hcounted
      rw [hattested.partly, hstatus]
      decide
    · exact hattested.partly.mp hcounted hstatus
    · rcases hcounted with hcounted | hcounted
      · apply hcounted
        rw [hattested.observations, hattested.failed hstatus]
        rfl
      · apply hcounted
        rw [hattested.partly]
        intro hpartly
        rw [hpartly] at hstatus
        cases hstatus
  rw [parseAlertEvaluatorSourceProofValue, hobservations, ok_bind, hincomplete, ok_bind,
    throwIf_bind_of_not hconsistent, hdigest, ok_bind]
  rfl

theorem failedSource (sourceId : AlertEvaluatorSourceId) {status : EvaluatorSourceStatus}
    (hstatus : isFailed status = true) : Attested (orchestration.failedSource sha256 sourceId status) where
  sourceId := rfl
  digest := canonicalAlertEvaluatorProofDigest_accepted
  observations := rfl
  incomplete := ⟨le_refl 0, show (0 : Int) ≤ 10000 by decide⟩
  partly := by
    refine iff_of_true rfl ?_
    rintro rfl
    cases hstatus
  failed := fun _ => rfl
  forced := by
    rintro (hforced | hincomplete)
    · cases hforced
    · exact absurd rfl hincomplete
  planned := List.Subset.refl []
  admitted := fun _ hmem => absurd hmem List.not_mem_nil

theorem normalizedSource (sourceId : AlertEvaluatorSourceId) {incomplete : List SourceIncompleteIdentity}
    {observations : List AlertRuleObservation} (hincomplete : incomplete.Nodup)
    (hadmitted : ∀ observation ∈ observations, Admitted observation) :
    Attested (orchestration.normalizedSource sha256 sourceId incomplete observations) where
  sourceId := rfl
  digest := canonicalAlertEvaluatorProofDigest_accepted
  observations := rfl
  incomplete := by
    have hle := length_incomplete_le hincomplete
    dsimp only [orchestration.normalizedSource]
    omega
  partly := by
    dsimp only [orchestration.normalizedSource]
    split
    · rename_i hempty
      exact iff_of_true (by rw [hempty]; rfl) (by decide)
    · rename_i hsome
      exact iff_of_false (by omega) (by decide)
  failed := by
    intro hfailed
    rw [normalizedSource_not_failed] at hfailed
    cases hfailed
  forced := by
    dsimp only [orchestration.normalizedSource]
    rintro (hforced | hsome)
    · cases hforced
    · rw [if_neg (fun hempty => hsome (List.length_eq_zero_iff.mp hempty))]
  planned := List.Subset.refl observations
  admitted := hadmitted

theorem collectSource (sourceId : AlertEvaluatorSourceId) (reader : Except SourceError SourceReaderResult)
    (asOf : Timestamp) : Attested (orchestration.collectSource sha256 sourceId reader asOf) := by
  cases reader with
  | error error => cases error <;> exact failedSource sourceId rfl
  | ok result =>
    rw [orchestration.collectSource, completedSource]
    cases hnormalized : normalizeSourceResult sourceId result asOf with
    | error message => exact failedSource sourceId rfl
    | ok normalized =>
      obtain ⟨incomplete, observations⟩ := normalized
      rw [normalizeSourceResult, bind_eq_ok_iff] at hnormalized
      obtain ⟨kept, hobservations, hnormalized⟩ := hnormalized
      rw [bind_eq_ok_iff] at hnormalized
      obtain ⟨parts, hparts, hnormalized⟩ := hnormalized
      obtain ⟨rfl, rfl⟩ := Prod.mk.inj (pure_eq_ok_iff.mp hnormalized)
      apply normalizedSource
      · have hempty : IncompleteKept Dictionary.empty := fun _ hentry => absurd hentry List.not_mem_nil
        obtain ⟨result, hresult, hkept, -⟩ := normalizeIncomplete_eq_ok hempty (allowed_of_normalizeIncomplete hparts)
        obtain rfl := Except.ok.inj (hresult.symm.trans hparts)
        exact (List.mergeSort_perm result.values _).nodup_iff.mpr hkept.nodup_values
      · intro observation hobservation
        rw [mem_sortedBy] at hobservation
        exact (normalizeObservations_kept Kept.empty hobservations).1.admitted_of_mem hobservation

end Attested

section planning

variable {sha256 : Sha256} {sources : List CollectedSource}

theorem planObservations_subset (sourceId : AlertEvaluatorSourceId) (seen : Dictionary Text Seen)
    (observations : List AlertRuleObservation) :
    (planObservations sourceId seen observations).2 ⊆ observations := by
  induction observations generalizing seen with
  | nil => exact List.Subset.refl []
  | cons observation observations ih =>
    rw [planObservations]
    split
    · exact List.cons_subset_cons observation (ih _)
    · exact List.subset_cons_of_subset observation (ih _)

theorem planSources_attested (seen : Dictionary Text Seen) (hattested : ∀ source ∈ sources, Attested source) :
    ∀ source ∈ (planSources seen sources).2, Attested source := by
  induction sources generalizing seen with
  | nil => exact hattested
  | cons source sources ih =>
    obtain ⟨hsource, hattested⟩ := List.forall_mem_cons.mp hattested
    rw [planSources]
    split
    · exact List.forall_mem_cons.mpr ⟨hsource, ih seen hattested⟩
    · refine List.forall_mem_cons.mpr ⟨?_, ih _ hattested⟩
      exact { hsource with planned := planObservations_subset source.sourceId seen source.observations }

theorem invalidateConflictingSources_attested (hattested : ∀ source ∈ sources, Attested source) :
    ∀ source ∈ invalidateConflictingSources sha256 sources, Attested source := by
  intro source hsource
  obtain ⟨planned, hmem, rfl⟩ := List.mem_map.mp hsource
  split
  · exact Attested.failedSource planned.sourceId rfl
  · exact planSources_attested Dictionary.empty hattested planned hmem

theorem invalidateConflictingSources_sourceIds (hcollected : ∀ source ∈ sources, Collected source) :
    (invalidateConflictingSources sha256 sources).map (·.sourceId) = sources.map (·.sourceId) := by
  obtain ⟨-, hids⟩ := planSources_collected Dictionary.empty hcollected
  rw [← hids, invalidateConflictingSources, List.map_map]
  apply List.map_congr_left
  intro source _
  rw [Function.comp_apply]
  split <;> rfl

theorem invalidateConflictingSources_identities (hcollected : ∀ source ∈ sources, Collected source) :
    ((allPlanned (invalidateConflictingSources sha256 sources)).map semanticIdentity).Nodup := by
  obtain ⟨hfresh, -⟩ := planSources_fresh Dictionary.empty fun source hsource => (hcollected source hsource).failed
  exact hfresh.sublist ((allPlanned_map_sublist sha256 _ _).map semanticIdentity)

section cap

variable {retained : List AlertRuleObservation} {source capped : CollectedSource}

/-- The work cap only drops observations of a source. -/
theorem capSource_planned (hcapped : capSource sha256 retained source = .ok capped) :
    capped.sourceId = source.sourceId ∧ capped.planningObservations.Sublist source.planningObservations := by
  rw [capSource] at hcapped
  split at hcapped
  · obtain rfl := Except.ok.inj hcapped
    exact ⟨rfl, List.Sublist.refl _⟩
  split at hcapped
  · obtain rfl := Except.ok.inj hcapped
    exact ⟨rfl, kept_sublist⟩
  · obtain ⟨-, hcapped⟩ := throwIf_bind_eq_ok_iff.mp hcapped
    obtain rfl := pure_eq_ok_iff.mp hcapped
    exact ⟨rfl, kept_sublist⟩

theorem capSource_attested (hattested : Attested source) (hcapped : capSource sha256 retained source = .ok capped) :
    Attested capped := by
  have hplanned : capped.planningObservations ⊆ source.observations := fun _ hmem =>
    hattested.planned ((capSource_planned hcapped).2.subset hmem)
  rw [capSource] at hcapped
  split at hcapped
  · obtain rfl := Except.ok.inj hcapped
    exact hattested
  split at hcapped
  · obtain rfl := Except.ok.inj hcapped
    exact { hattested with planned := hplanned }
  · rename_i hdropped
    obtain ⟨hbound, hcapped⟩ := throwIf_bind_eq_ok_iff.mp hcapped
    obtain rfl := pure_eq_ok_iff.mp hcapped
    refine ⟨rfl, canonicalAlertEvaluatorProofDigest_accepted, rfl, ?_, ?_, ?_, fun _ => rfl, hplanned, hattested.admitted⟩
    · dsimp only
      omega
    · exact iff_of_false (by dsimp only; omega) (not_not_intro rfl)
    · intro hfailed
      cases hfailed

end cap

/-- The sources of a run as they are recorded and planned. -/
structure Prepared (sources : List CollectedSource) : Prop where
  attested : ∀ source ∈ sources, Attested source
  identities : ((allPlanned sources).map semanticIdentity).Nodup
  bounded : (allPlanned sources).length ≤ ALERT_EVALUATOR_MAX_WORK_ITEMS

theorem allPlanned_sublist {capped : List CollectedSource}
    (hcapped : List.Forall₂ (fun source capped : CollectedSource =>
      capped.planningObservations.Sublist source.planningObservations) sources capped) :
    (allPlanned capped).Sublist (allPlanned sources) := by
  induction hcapped with
  | nil => exact List.Sublist.refl []
  | cons hfirst _ ih =>
    rw [allPlanned, allPlanned, List.flatMap_cons, List.flatMap_cons]
    exact hfirst.append ih

/-- The sources that the work cap lets through are prepared, one for each reader in its order. -/
theorem applyWorkCap_prepared {asOf : Timestamp}
    {readers : List (AlertEvaluatorSourceId × Except SourceError SourceReaderResult)}
    (hdistinct : (readers.map Prod.fst).Nodup)
    (hcapped : applyWorkCap sha256 (sourcesOf sha256 asOf readers) = .ok sources) :
    Prepared sources ∧ sources.map (·.sourceId) = readers.map Prod.fst := by
  have hcollected : ∀ source ∈ readers.map fun reader => collectSource sha256 reader.1 reader.2 asOf,
      Attested source ∧ Collected source := by
    intro source hsource
    obtain ⟨reader, -, rfl⟩ := List.mem_map.mp hsource
    exact ⟨Attested.collectSource reader.1 reader.2 asOf, (collectSource_collected sha256 reader.1 reader.2 asOf).1⟩
  have hattested : ∀ source ∈ sourcesOf sha256 asOf readers, Attested source :=
    invalidateConflictingSources_attested fun source hsource => (hcollected source hsource).1
  have hlength : (allPlanned sources).length ≤ ALERT_EVALUATOR_MAX_WORK_ITEMS := by
    have hplannable := sourcesOf_plannable sha256 asOf hdistinct
    by_cases hexceeds : ∃ source ∈ sourcesOf sha256 asOf readers,
        ExceedsProofBound (retainedObservations (sourcesOf sha256 asOf readers)) source
    · rw [applyWorkCap_eq_error sha256 hplannable hexceeds] at hcapped
      cases hcapped
    · obtain ⟨result, hok, hworkCapped⟩ := applyWorkCap_eq_ok sha256 hplannable
        fun source hsource hbad => hexceeds ⟨source, hsource, hbad⟩
      obtain rfl := Except.ok.inj (hok.symm.trans hcapped)
      rw [hworkCapped.total]
      exact Nat.min_le_right _ _
  rw [applyWorkCap, throwIf_bind_of_not (by decide), mapM_eq_ok_iff] at hcapped
  refine ⟨⟨?_, ?_, hlength⟩, ?_⟩
  · intro capped hmem
    obtain ⟨source, hsource, hresult⟩ := table.related_of_mem_right hcapped hmem
    exact capSource_attested (hattested source hsource) hresult
  · have hidentities := @invalidateConflictingSources_identities sha256 _ fun source hsource =>
      (hcollected source hsource).2
    have hsublist := allPlanned_sublist (hcapped.imp fun _ _ hresult => (capSource_planned hresult).2)
    exact hidentities.sublist (hsublist.map semanticIdentity)
  · have hids := @invalidateConflictingSources_sourceIds sha256 _ fun source hsource => (hcollected source hsource).2
    have hkept : (sourcesOf sha256 asOf readers).map (·.sourceId) = sources.map (·.sourceId) :=
      table.map_eq_of_related (fun _ _ hresult => (capSource_planned hresult).1.symm) hcapped
    rw [← hkept, sourcesOf, hids, List.map_map]
    apply List.map_congr_left
    intro reader _
    exact (collectSource_collected sha256 reader.1 reader.2 asOf).2

end planning

end pgid.alert.orchestration
