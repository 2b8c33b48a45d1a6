import PgidSso.Alert.Orchestration.Plan
import PgidSso.Alert.Runtime.Repeated

/-! The decisions that a run plans can be sealed. -/

open checked comparator

namespace pgid.alert.orchestration

section identities

theorem determined_environment : json.Determined fun environment : AlertEnvironment => quoted environment.text := by
  refine determined_quoted [.local, .preview, .production] ?_ (by decide)
  intro environment
  cases environment <;> decide

/-- The identity of a decision tells the dimensions and the rules of accepted observations apart. -/
theorem semanticIdentity_eq_of_identityText {environment : AlertEnvironment} {left right : AlertRuleObservation}
    (hleft : Admitted left) (hright : Admitted right)
    (hsame : identityText environment left = identityText environment right) :
    semanticIdentity left = semanticIdentity right := by
  have hsame : identityText environment left ++ [] = identityText environment right ++ [] := by rw [hsame]
  obtain ⟨hdimension, hsame⟩ :=
    dimensionText_determined hleft.dimension.2 hright.dimension.2 (json.first_cancel hsame)
  obtain ⟨-, hsame⟩ := determined_environment.next hsame
  exact (semanticIdentity_eq_iff hleft hright).mpr ⟨hdimension, (determined_ruleId.next hsame).1⟩

theorem reference_plain {value : String} (hvalue : isCanonicalBase64Url32 value) : json.Plain (Text.of value) := by
  have hall : ∀ code < 128, 0 ≤ base64UrlIndex (Char.ofNat code) → json.Plain [Text.unit (Char.ofNat code)] := by decide
  intro code hcode
  obtain ⟨character, hcharacter, rfl⟩ := List.mem_map.mp hcode
  have hindex := hvalue.1.2 character hcharacter
  have hplain := hall character.toNat (ascii_of_index hindex)
  rw [Char.ofNat_toNat] at hplain
  exact hplain hindex _ (List.mem_singleton_self _)

theorem dimensionText_ascii {dimension : AlertDimension} (haccepted : ReferenceAccepted dimension) :
    (dimensionText dimension).Ascii := by
  cases dimension with
  | global => decide
  | queue queue => cases queue <;> decide
  | hashed kind reference =>
    obtain ⟨-, hvalue⟩ := haccepted kind reference rfl
    have hkind : (quoted kind.text).Ascii := by cases kind <;> decide
    have hreference : (json.object [("keyVersion", json.integer reference.keyVersion),
        ("value", quoted reference.value)]).Ascii := by
      apply json.object_ascii
      intro member hmember
      simp only [List.mem_cons, List.not_mem_nil, or_false] at hmember
      obtain rfl | rfl := hmember
      · exact ⟨show json.Plain (Text.of "keyVersion") by decide, json.integer_ascii reference.keyVersion⟩
      · exact ⟨show json.Plain (Text.of "value") by decide, json.string_ascii_of_plain (reference_plain hvalue)⟩
    apply json.object_ascii
    intro member hmember
    simp only [List.mem_cons, List.not_mem_nil, or_false] at hmember
    obtain rfl | rfl := hmember
    · exact ⟨show json.Plain (Text.of "kind") by decide, hkind⟩
    · exact ⟨show json.Plain (Text.of "reference") by decide, hreference⟩

theorem ruleId_ascii (ruleId : AlertRuleId) : (quoted ruleId.text).Ascii := by
  have hall : ∀ other ∈ ALERT_RULE_IDS, (quoted other.text).Ascii := by decide
  exact hall ruleId (AlertRuleId.mem_ids ruleId)

theorem identityText_ascii {environment : AlertEnvironment} {observation : AlertRuleObservation}
    (hadmitted : Admitted observation) : (identityText environment observation).Ascii := by
  have henvironment : (quoted environment.text).Ascii := by cases environment <;> decide
  apply json.object_ascii
  intro member hmember
  simp only [List.mem_cons, List.not_mem_nil, or_false] at hmember
  obtain rfl | rfl | rfl := hmember
  · exact ⟨show json.Plain (Text.of "dimension") by decide, dimensionText_ascii hadmitted.dimension.2⟩
  · exact ⟨show json.Plain (Text.of "environment") by decide, henvironment⟩
  · exact ⟨show json.Plain (Text.of "ruleId") by decide, ruleId_ascii observation.ruleId⟩

theorem proofText_ascii {domain : AlertEvaluatorProofDigestDomain} {value : Text} (hvalue : value.Ascii) :
    (json.array [quoted domain.text, value]).Ascii := by
  have hdomain : (quoted domain.text).Ascii := by cases domain <;> decide
  rw [json.array, Text.ascii_append, Text.ascii_append]
  refine ⟨⟨by decide, json.commaSeparated_ascii ?_⟩, by decide⟩
  intro text htext
  simp only [List.mem_cons, List.not_mem_nil, or_false] at htext
  obtain rfl | rfl := htext
  · exact hdomain
  · exact hvalue

/-- The hashed bytes of ASCII texts tell them apart. -/
theorem proofBytes_inj {domain : AlertEvaluatorProofDigestDomain} {left right : Text} (hleft : left.Ascii)
    (hright : right.Ascii) (hsame : proofBytes domain left = proofBytes domain right) : left = right := by
  have hdecoded := congrArg Text.decodeBytes hsame
  rw [proofBytes, proofBytes, Text.decodeBytes_encode (proofText_ascii hleft).paired,
    Text.decodeBytes_encode (proofText_ascii hright).paired] at hdecoded
  have htext := List.append_cancel_right (Option.some.inj hdecoded)
  exact List.append_cancel_left (List.append_cancel_left htext)

end identities

section recorded

theorem unit_ofNat {code : UInt16} (hcode : code < 0x80) : Text.unit (Char.ofNat code.toNat) = code := by
  have hall : ∀ value < 0x80, Text.unit (Char.ofNat value) = UInt16.ofNat value := by decide
  rw [hall code.toNat (UInt16.lt_iff_toNat_lt.mp hcode), UInt16.ofNat_toNat]

theorem digest_ascii {digest : Text} (hdigest : BASE64URL_SHA256 digest = true) : digest.Ascii := by
  have hcharacter : ∀ code : UInt16, base64.isCharacter code = true → code < 0x80 := by
    have halphabet : base64.alphabet.Ascii := by set_option maxRecDepth 20000 in decide
    exact fun code hcode => halphabet code (of_decide_eq_true hcode)
  have hfinal : ∀ code : UInt16, base64.isFinal code = true → code < 0x80 := by
    have hcodes : (Text.of "AEIMQUYcgkosw048").Ascii := by decide
    exact fun code hcode => hcodes code (of_decide_eq_true hcode)
  refine Text.forall_of_fits ?_ hdigest
  intro first hfirst code hcode
  rcases List.mem_append.mp hfirst with hmem | hmem
  · rw [List.eq_of_mem_replicate hmem] at hcode
    exact hcharacter code hcode
  · rw [List.mem_singleton.mp hmem] at hcode
    exact hfinal code hcode

/-- A digest is read from its column as it was written. -/
theorem text_columnDigest {digest : Text} (hdigest : BASE64URL_SHA256 digest = true) :
    Text.of (evaluator.columnDigest digest) = digest := by
  rw [evaluator.columnDigest, Text.of, String.toList_ofList, List.map_map]
  conv_rhs => rw [← List.map_id digest]
  apply List.map_congr_left
  exact fun code hcode => unit_ofNat (digest_ascii hdigest code hcode)

/-- The rows that hold the proofs of the sources, each as it was inserted once its proof had been parsed. -/
def Recorded (asOf : Timestamp) (sources : List CollectedSource) (rows : List EvaluatorSourceRow) : Prop :=
  List.Forall₂ (fun source row => parseAlertEvaluatorSourceProofValue source.proof = .ok source.proof ∧
    ∃ recorder recordedAt, row = evaluator.sourceRow recorder asOf source.proof recordedAt) sources rows

variable {asOf : Timestamp} {sources : List CollectedSource} {rows : List EvaluatorSourceRow}

theorem Recorded.proofs (hrecorded : Recorded asOf sources rows)
    (hattested : ∀ source ∈ sources, Attested source) :
    rows.map evaluator.sourceProofValue = sources.map (·.proof) := by
  induction hrecorded with
  | nil => rfl
  | cons hrow _ ih =>
    obtain ⟨hsource, hattested⟩ := List.forall_mem_cons.mp hattested
    obtain ⟨-, recorder, recordedAt, rfl⟩ := hrow
    rw [List.map_cons, List.map_cons, ih hattested, evaluator.sourceProofValue, evaluator.sourceRow,
      text_columnDigest hsource.digest]

end recorded

section manifest

variable {Expectation : Type} {sha256 : Sha256} {environment : AlertEnvironment}
  {readLifecycleSnapshot : Nat → AlertLifecycleIdentity → Except String (AlertLifecycleSnapshot Expectation)}
  {asOf : Timestamp} {sources : List CollectedSource} {plans : List (PlannedDecision Expectation)}

/-- The bytes that the planned identities are hashed from. -/
def identityInputs (environment : AlertEnvironment) (sources : List CollectedSource) : Set (List UInt8) :=
  {bytes | ∃ observation ∈ allPlanned sources, bytes = proofBytes .identity (identityText environment observation)}

/-- One planned observation alone has no collision. -/
theorem injOn_identityInputs_of_one {observation : AlertRuleObservation} (hone : allPlanned sources = [observation]) :
    Set.InjOn sha256 (identityInputs environment sources) := by
  rintro _ ⟨first, hfirst, rfl⟩ _ ⟨second, hsecond, rfl⟩ _
  rw [hone, List.mem_singleton] at hfirst hsecond
  rw [hfirst, hsecond]

theorem Prepared.admitted (hprepared : Prepared sources) : ∀ observation ∈ allPlanned sources, Admitted observation := by
  intro observation hobservation
  obtain ⟨source, hsource, hplanned⟩ := List.mem_flatMap.mp hobservation
  have hattested := hprepared.attested source hsource
  exact hattested.admitted observation (hattested.planned hplanned)

/-- Planned identities have digests of their own. -/
theorem Prepared.digests_nodup (hprepared : Prepared sources)
    (hcollision : Set.InjOn sha256 (identityInputs environment sources)) :
    ((allPlanned sources).map fun observation =>
      canonicalAlertEvaluatorProofDigest sha256 .identity (identityText environment observation)).Nodup := by
  apply List.Nodup.map_on _ (List.Nodup.of_map semanticIdentity hprepared.identities)
  intro first hfirst second hsecond hdigest
  have hbytes := hcollision ⟨first, hfirst, rfl⟩ ⟨second, hsecond, rfl⟩ (hash_eq_of_digest hdigest)
  have hadmitted := hprepared.admitted first hfirst
  have hother := hprepared.admitted second hsecond
  have htext := proofBytes_inj (identityText_ascii hadmitted) (identityText_ascii hother) hbytes
  exact List.inj_on_of_nodup_map hprepared.identities hfirst hsecond
    (semanticIdentity_eq_of_identityText hadmitted hother htext)

theorem planDecisions_length
    (hplans : planDecisions sha256 environment readLifecycleSnapshot asOf sources = .ok plans) :
    plans.length = (allPlanned sources).length := by
  rw [← (planDecisions_plans hplans).length_eq, List.length_zipIdx, length_workItems]

/-- The proofs of the plans are numbered from zero. -/
theorem planDecisions_ordinals
    (hplans : planDecisions sha256 environment readLifecycleSnapshot asOf sources = .ok plans) :
    (plans.map (·.proof)).map (·.ordinal) =
      (List.range (plans.map (·.proof)).length).map (fun index : Nat => (index : Int)) := by
  have hkeys : (workItems sources).zipIdx.map (fun item => (item.2 : Int)) = plans.map (·.proof.ordinal) :=
    table.map_eq_of_related (fun _ _ hplan => by rw [hplan.proof]; rfl) (planDecisions_plans hplans)
  have hindices := List.zipIdx_map_snd 0 (workItems sources)
  rw [List.map_map, List.length_map, planDecisions_length hplans, ← length_workItems, List.range_eq_range',
    ← hindices, List.map_map]
  exact hkeys.symm

/-- Each of them is of an identity of its own. -/
theorem planDecisions_identities (hprepared : Prepared sources)
    (hcollision : Set.InjOn sha256 (identityInputs environment sources))
    (hplans : planDecisions sha256 environment readLifecycleSnapshot asOf sources = .ok plans) :
    ((plans.map (·.proof)).map (·.identitySha256)).Nodup := by
  have hkeys : (workItems sources).zipIdx.map (fun item => canonicalAlertEvaluatorProofDigest sha256 .identity
      (identityText environment item.1.observation)) = plans.map (·.proof.identitySha256) :=
    table.map_eq_of_related (fun _ _ hplan => by rw [hplan.proof]; rfl) (planDecisions_plans hplans)
  have hitems := congrArg (List.map fun item : WorkItem => canonicalAlertEvaluatorProofDigest sha256 .identity
    (identityText environment item.observation)) (List.zipIdx_map_fst 0 (workItems sources))
  have hdistinct := (workItems_perm.map fun observation => canonicalAlertEvaluatorProofDigest sha256 .identity
    (identityText environment observation)).nodup_iff.mpr (hprepared.digests_nodup hcollision)
  rw [List.map_map] at hitems hdistinct ⊢
  have hsame := hkeys.symm.trans hitems
  exact hsame ▸ hdistinct

/-- The proofs of the plans are a manifest: each is valid, at its place, of an identity of its own. -/
theorem planDecisions_manifest (hprepared : Prepared sources)
    (hcollision : Set.InjOn sha256 (identityInputs environment sources))
    (hplans : planDecisions sha256 environment readLifecycleSnapshot asOf sources = .ok plans) :
    (∀ value ∈ plans.map (·.proof), parseAlertEvaluatorDecisionProofValue value = .ok value) ∧
      ∃ digest, alertEvaluatorDecisionManifestDigest sha256 (plans.map (·.proof)) = .ok digest := by
  have hbounded := hprepared.bounded
  have hmaximum : ALERT_EVALUATOR_MAX_WORK_ITEMS = 20 := by decide
  have hparsed : ∀ value ∈ plans.map (·.proof), parseAlertEvaluatorDecisionProofValue value = .ok value := by
    intro value hvalue
    obtain ⟨plan, hplan, rfl⟩ := List.mem_map.mp hvalue
    obtain ⟨item, hitem, hplanned⟩ := table.related_of_mem_right (planDecisions_plans hplans) hplan
    have hindex := (List.mem_zipIdx hitem).2.1
    rw [length_workItems] at hindex
    rw [parseAlertEvaluatorDecisionProofValue_eq_ok_iff, hplanned.proof]
    refine ⟨rfl, canonicalAlertEvaluatorProofDigest_accepted, canonicalAlertEvaluatorProofDigest_accepted,
      canonicalAlertEvaluatorProofDigest_accepted, ?_, ?_⟩
    · exact Int.natCast_nonneg item.2
    · dsimp only [decisionProof]
      omega
  refine ⟨hparsed, alertEvaluatorDecisionManifestDigest_of_valid ?_ hparsed (planDecisions_ordinals hplans)
    (planDecisions_identities hprepared hcollision hplans)⟩
  rw [List.length_map, planDecisions_length hplans]
  omega

/-- The rows that one worker has inserted for prepared sources. -/
theorem recorded_of_rows {ledger : Ledger} {recorder : AlertEvaluatorRunFence} {recordedAt : Timestamp}
    (hrows : ledger.sources = sources.map fun source => evaluator.sourceRow recorder asOf source.proof recordedAt)
    (hprepared : Prepared sources) (hcount : ∀ source ∈ sources, source.observations.length ≤ 10000) :
    Recorded asOf sources (ledger.sourcesOf recorder.runId) := by
  have hsources : ledger.sourcesOf recorder.runId = ledger.sources := by
    apply List.filter_eq_self.mpr
    intro row hrow
    rw [hrows] at hrow
    obtain ⟨source, -, rfl⟩ := List.mem_map.mp hrow
    exact decide_eq_true rfl
  rw [hsources, hrows, Recorded, List.forall₂_map_right_iff, List.forall₂_same]
  exact fun source hsource =>
    ⟨(hprepared.attested source hsource).parses (hcount source hsource), recorder, recordedAt, rfl⟩

/-- A decision is suppressed only for a source that is partial. -/
theorem planDecisions_suppressed (hprepared : Prepared sources)
    (hplans : planDecisions sha256 environment readLifecycleSnapshot asOf sources = .ok plans) :
    ∀ value ∈ plans.map (·.proof), value.disposition = .suppressedPartial →
      ∃ source ∈ sources, source.sourceId = value.sourceId ∧ source.proof.status = .partly := by
  intro value hvalue hsuppressed
  obtain ⟨plan, hplan, rfl⟩ := List.mem_map.mp hvalue
  obtain ⟨item, hsource, -, hplanned⟩ := planDecisions_item hplans hplan
  have hattested := hprepared.attested item.1.source hsource
  rw [hplanned.proof] at hsuppressed ⊢
  have hpartly := sourcePartial_of_suppressed hsuppressed
  rw [hplanned.sourcePartial] at hpartly
  exact ⟨item.1.source, hsource, rfl, hattested.partly_of_partial hpartly⟩

/-- What seals the plans of a run, over the rows of its sources. -/
theorem sealedPlan_planDecisions {ledger : Ledger} {runId : String} (hprepared : Prepared sources)
    (hsources : sources.map (·.sourceId) = ALERT_EVALUATOR_SOURCE_IDS)
    (hcollision : Set.InjOn sha256 (identityInputs environment sources))
    (hplans : planDecisions sha256 environment readLifecycleSnapshot asOf sources = .ok plans)
    (hrecorded : Recorded asOf sources (ledger.sourcesOf runId)) :
    ∃ plan, evaluator.sealedPlan sha256 ledger runId (plans.map (·.proof)) = .ok plan ∧
      plan.partialCount = (sources.countP fun source => source.proof.status ≠ .complete : Int) ∧
      plan.decisionCount = ((allPlanned sources).length : Int) := by
  have hproofs := hrecorded.proofs hprepared.attested
  have hids : (sources.map (·.proof)).map (·.sourceId) = ALERT_EVALUATOR_SOURCE_IDS := by
    rw [← hsources, List.map_map]
    exact List.map_congr_left fun source hsource => (hprepared.attested source hsource).sourceId
  obtain ⟨sourceDigest, hsourceDigest⟩ := @alertEvaluatorSourceManifestDigest_of_valid sha256 _ hids (by
    intro value hvalue
    obtain ⟨source, hsource, rfl⟩ := List.mem_map.mp hvalue
    obtain ⟨_, -, hparses, -⟩ := table.related_of_mem_left hrecorded hsource
    exact hparses)
  obtain ⟨-, decisionDigest, hdecisionDigest⟩ := planDecisions_manifest hprepared hcollision hplans
  have hsuppressed : ¬ ∃ decision ∈ plans.map (·.proof), decision.disposition = .suppressedPartial ∧
      ¬ ∃ row ∈ ledger.sourcesOf runId, row.sourceId = decision.sourceId ∧ row.status = .partly := by
    rintro ⟨decision, hdecision, hdisposition, hmissing⟩
    obtain ⟨source, hsource, hsourceId, hpartly⟩ :=
      planDecisions_suppressed hprepared hplans decision hdecision hdisposition
    obtain ⟨row, hrow, -, recorder, recordedAt, rfl⟩ := table.related_of_mem_left hrecorded hsource
    exact hmissing ⟨_, hrow, (hprepared.attested source hsource).sourceId.trans hsourceId, hpartly⟩
  have hpartialCount : (ledger.sourcesOf runId).countP (fun row => row.status ≠ .complete) =
      sources.countP fun source => source.proof.status ≠ .complete := by
    have hstatuses := congrArg (List.map fun proof : AlertEvaluatorSourceProofValue => proof.status) hproofs
    rw [List.map_map, List.map_map] at hstatuses
    have hcounted := congrArg (List.countP fun status : EvaluatorSourceStatus => status ≠ .complete) hstatuses
    rw [List.countP_map, List.countP_map] at hcounted
    exact hcounted
  have hsourceCheck : evaluator.orFail .invalidInput
      (alertEvaluatorSourceManifestDigest sha256 (sources.map (·.proof))) = .ok sourceDigest := by
    rw [hsourceDigest]
    rfl
  have hdecisionCheck : evaluator.orFail .invalidInput
      (alertEvaluatorDecisionManifestDigest sha256 (plans.map (·.proof))) = .ok decisionDigest := by
    rw [hdecisionDigest]
    rfl
  refine ⟨{ partialCount := (sources.countP fun source => source.proof.status ≠ .complete : Int)
            sourceDigest := evaluator.columnDigest sourceDigest
            decisionCount := ((allPlanned sources).length : Int)
            decisionDigest := evaluator.columnDigest decisionDigest }, ?_, rfl, rfl⟩
  rw [evaluator.sealedPlan]
  rw [hproofs, hsourceCheck, ok_bind, hdecisionCheck, ok_bind, throwIf_bind_of_not hsuppressed, hpartialCount,
    List.length_map, planDecisions_length hplans]
  rfl

/-- The plans of a run are offered for sealing, whatever their lifecycle snapshots are. -/
theorem planDecisions_sealed
    {readers : List (AlertEvaluatorSourceId × Except SourceError SourceReaderResult)} {ledger : Ledger}
    {fence : AlertEvaluatorRunFence} {run : EvaluatorRunRow} {sealedAt : Timestamp}
    (hreaders : readers.map Prod.fst = ALERT_EVALUATOR_SOURCE_IDS)
    (hcapped : applyWorkCap sha256 (sourcesOf sha256 asOf readers) = .ok sources)
    (hcollision : Set.InjOn sha256 (identityInputs environment sources))
    (hplans : planDecisions sha256 environment readLifecycleSnapshot asOf sources = .ok plans)
    (hrecorded : Recorded asOf sources (ledger.sourcesOf fence.runId))
    (hfence : evaluator.parseFence fence = .ok fence) (hinstant : evaluator.canonicalTimestamp sealedAt = .ok sealedAt)
    (hread : evaluator.readRunById ledger fence.runId = some run) (hmatch : evaluator.runMatchesFence run fence)
    (hbound : run.status = .running ∧ run.asOf = some asOf)
    (htime : run.updatedAt < sealedAt ∧ sealedAt < run.leaseExpiresAt) :
    ∃ plan, evaluator.sealing sha256 ledger fence (plans.map (·.proof)) sealedAt =
        .ok (.inr (fence, plan, asOf, run.updatedAt)) ∧
      plan.partialCount = (sources.countP fun source => source.proof.status ≠ .complete : Int) ∧
      plan.decisionCount = ((allPlanned sources).length : Int) := by
  have hdistinct : (readers.map Prod.fst).Nodup := by
    rw [hreaders]
    decide
  obtain ⟨hprepared, hids⟩ := applyWorkCap_prepared hdistinct hcapped
  obtain ⟨hparsed, -⟩ := planDecisions_manifest hprepared hcollision hplans
  obtain ⟨plan, hplan, hpartialCount, hdecisionCount⟩ :=
    sealedPlan_planDecisions hprepared (hids.trans hreaders) hcollision hplans hrecorded
  have hdecisions := (mapM_eq_ok_iff_of_returns parseAlertEvaluatorDecisionProofValue_returns).mpr ⟨rfl, hparsed⟩
  exact ⟨plan, evaluator.sealing_of_plan hfence hinstant hdecisions hread hmatch hplan hbound.1 hbound.2 htime,
    hpartialCount, hdecisionCount⟩

/-- An instant after the earlier run has started. -/
def plannedAsOf : Timestamp := ⟨180060, by decide⟩

def clearFanout : AlertRuleObservation where
  asOf := plannedAsOf
  dimension := .global
  ruleId := .securityFanoutGap
  measures := .fanout { missingOlderThan15mCount := 0, missingOlderThan5mCount := 0 }

/-- All sources are complete but that of the fanout, which has read a clear observation. -/
def plannedReaders : List (AlertEvaluatorSourceId × Except SourceError SourceReaderResult) :=
  ALERT_EVALUATOR_SOURCE_IDS.map fun sourceId =>
    (sourceId, .ok (if sourceId = .d1SecurityFanoutGap then
      { incomplete := [{ dimensionKind := .global, ruleId := .securityFanoutGap }]
        observations := [clearFanout.input] }
      else { incomplete := [], observations := [] }))

theorem plannedReaders_capped :
    (applyWorkCap sha2.sha256 (sourcesOf sha2.sha256 plannedAsOf plannedReaders)).toOption.isSome = true := by
  decide +kernel

def plannedSources : List CollectedSource :=
  (applyWorkCap sha2.sha256 (sourcesOf sha2.sha256 plannedAsOf plannedReaders)).toOption.get plannedReaders_capped

/-- No state has been written yet. -/
def unwrittenSnapshot (_ : Nat) (_ : AlertLifecycleIdentity) : Except String (AlertLifecycleSnapshot Unit) :=
  .ok { expected := none, previous := inactiveAlertState }

theorem plannedSources_planned :
    (planDecisions sha2.sha256 .production unwrittenSnapshot plannedAsOf plannedSources).toOption.isSome = true := by
  decide +kernel

def plannedDecisions : List (PlannedDecision Unit) :=
  (planDecisions sha2.sha256 .production unwrittenSnapshot plannedAsOf plannedSources).toOption.get
    plannedSources_planned

/-- The ledger of the earlier run with the proofs of these sources. -/
def plannedLedger : Ledger :=
  { acquiredDatabase.ledger with
    runs := acquiredDatabase.ledger.runs.map fun run =>
      { run with asOf := some plannedAsOf, updatedAt := plannedAsOf }
    sources := plannedSources.map fun source =>
      evaluator.sourceRow earlierFence plannedAsOf source.proof plannedAsOf }

theorem plannedLedger_recorded :
    Recorded plannedAsOf plannedSources (plannedLedger.sourcesOf earlierFence.runId) := by
  have hdistinct : (plannedReaders.map Prod.fst).Nodup := by decide
  obtain ⟨hprepared, -⟩ := applyWorkCap_prepared hdistinct (eq_ok_get plannedReaders_capped)
  exact recorded_of_rows rfl hprepared (by decide +kernel)

/-- The one decision is suppressed, for a source that is partial, and can be sealed. -/
theorem planDecisions_sealed_suppressed :
    plannedDecisions.map (·.proof.disposition) = [.suppressedPartial] ∧
      ∃ plan, evaluator.sealing sha2.sha256 plannedLedger earlierFence (plannedDecisions.map (·.proof))
          ⟨180062, by decide⟩ = .ok (.inr (earlierFence, plan, plannedAsOf, plannedAsOf)) ∧
        plan.partialCount = 1 ∧ plan.decisionCount = 1 := by
  have hone : allPlanned plannedSources = [clearFanout] := by decide +kernel
  have hcollision : Set.InjOn sha2.sha256 (identityInputs .production plannedSources) :=
    injOn_identityInputs_of_one hone
  have hpartly : (plannedSources.countP fun source => source.proof.status ≠ .complete) = 1 := by decide +kernel
  obtain ⟨run, hread, hmatch, hbound, hupdated, htime⟩ : ∃ run,
      evaluator.readRunById plannedLedger earlierFence.runId = some run ∧ evaluator.runMatchesFence run earlierFence ∧
        (run.status = .running ∧ run.asOf = some plannedAsOf) ∧ run.updatedAt = plannedAsOf ∧
        run.updatedAt < ⟨180062, by decide⟩ ∧ ⟨180062, by decide⟩ < run.leaseExpiresAt := by
    refine ⟨(plannedLedger.runs.head (by decide +kernel)), ?_⟩
    decide +kernel
  have hreaders : plannedReaders.map Prod.fst = ALERT_EVALUATOR_SOURCE_IDS := by decide
  have hcapped : applyWorkCap sha2.sha256 (sourcesOf sha2.sha256 plannedAsOf plannedReaders) = .ok plannedSources :=
    eq_ok_get plannedReaders_capped
  have hplans : planDecisions sha2.sha256 .production unwrittenSnapshot plannedAsOf plannedSources =
      .ok plannedDecisions := eq_ok_get plannedSources_planned
  obtain ⟨plan, hsealing, hpartialCount, hdecisionCount⟩ := planDecisions_sealed hreaders hcapped
    hcollision hplans plannedLedger_recorded (by decide +kernel) (by decide +kernel) hread hmatch hbound htime
  rw [hpartly] at hpartialCount
  rw [hone] at hdecisionCount
  rw [hupdated] at hsealing
  exact ⟨by decide +kernel, plan, hsealing, hpartialCount, hdecisionCount⟩

end manifest

end pgid.alert.orchestration
