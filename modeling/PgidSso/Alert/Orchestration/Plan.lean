import PgidSso.Alert.Lifecycle.Advance
import PgidSso.Alert.Orchestration.Attested

/-! The decisions that a run plans over its sources. -/

open checked comparator

namespace pgid.alert.orchestration

/-- An observation to be planned, with its source. -/
structure WorkItem where
  observation : AlertRuleObservation
  source : CollectedSource

def workItems (sources : List CollectedSource) : List WorkItem :=
  sortedBy (fun left right => compareObservations left.observation right.observation)
    (sources.flatMap fun source => source.planningObservations.map fun observation => { observation, source })

def observationIsPartial (source : CollectedSource) (observation : AlertRuleObservation) : Bool :=
  source.forcePartial = true ∨ ∃ item ∈ source.incomplete,
    item.ruleId = observation.ruleId ∧ item.dimensionKind = observation.dimension.kind

def severityRank : Option AlertSeverity → Nat
  | some .critical => 2
  | some .warning => 1
  | _ => 0

/-- The rank of a state: that of its status, or of the breach that it waits to confirm. -/
def standingRank (state : AlertLifecycleState) : Nat :=
  max (severityRank (some state.status)) (severityRank (state.breachSeverity.map (·.severity)))

def partialDecisionAllowed (evaluation : AlertRuleEvaluation) (previous : AlertLifecycleState) : Bool :=
  if evaluation.evidence ≠ .known ∨ evaluation.severity = .none then false
  else standingRank previous ≤ severityRank (some evaluation.severity)

/-- What is read of the state of an identity, with what a later write expects of it. -/
structure AlertLifecycleSnapshot (Expectation : Type) where
  expected : Option Expectation
  previous : AlertLifecycleState

structure PlannedDecision (Expectation : Type) where
  decision : AlertLifecycleResult
  evaluation : AlertRuleEvaluation
  observation : AlertRuleObservation
  proof : AlertEvaluatorDecisionProofValue
  snapshot : AlertLifecycleSnapshot Expectation
  sourceId : AlertEvaluatorSourceId
  sourcePartial : Bool

def EVALUATOR_FAILED : String := "evaluator_failed"

section planning

variable {Expectation : Type} (sha256 : Sha256) (environment : AlertEnvironment)

def decisionProof (observation : AlertRuleObservation) (evaluation : AlertRuleEvaluation)
    (decision : AlertLifecycleResult) (disposition : EvaluatorDisposition) (ordinal : Int)
    (sourceId : AlertEvaluatorSourceId) : AlertEvaluatorDecisionProofValue where
  decisionSha256 := canonicalAlertEvaluatorProofDigest sha256 .decision (decisionText decision)
  disposition := disposition
  evaluationSha256 := canonicalAlertEvaluatorProofDigest sha256 .evaluation (evaluationText evaluation)
  identitySha256 := canonicalAlertEvaluatorProofDigest sha256 .identity (identityText environment observation)
  ordinal := ordinal
  sourceId := sourceId

/-- The disposition of a decision over a snapshot. -/
def dispositionOf (sourcePartial : Bool) (evaluation : AlertRuleEvaluation) (previous : AlertLifecycleState)
    (decision : AlertLifecycleResult) : EvaluatorDisposition :=
  if sourcePartial = true ∧ partialDecisionAllowed evaluation previous = false then .suppressedPartial
  else if decision.state.identity = none then .noStateChange
  else .applied

variable (readLifecycleSnapshot : Nat → AlertLifecycleIdentity → Except String (AlertLifecycleSnapshot Expectation))
  (asOf : Timestamp)

/-- The loop of `planDecisions`; the snapshot that it reads may differ from read to read. -/
def planDecision (ordinal : Nat) (item : WorkItem) : Except String (PlannedDecision Expectation) := do
  let evaluation ← evaluateAlertRule item.observation.input
  throwIf (evaluation.asOf ≠ asOf) EVALUATOR_FAILED
  let snapshot ← readLifecycleSnapshot ordinal
    { dimension := item.observation.dimension, ruleId := item.observation.ruleId }
  let decision ← advanceAlertLifecycle
    { asOf, observation := item.observation.input, previous := snapshot.previous }
  let sourcePartial := observationIsPartial item.source item.observation
  let disposition := dispositionOf sourcePartial evaluation snapshot.previous decision
  return {
    decision
    evaluation
    observation := item.observation
    proof := decisionProof sha256 environment item.observation evaluation decision disposition ordinal
      item.source.sourceId
    snapshot
    sourceId := item.source.sourceId
    sourcePartial }

def planDecisions (sources : List CollectedSource) : Except String (List (PlannedDecision Expectation)) :=
  (workItems sources).zipIdx.mapM fun item =>
    planDecision sha256 environment readLifecycleSnapshot asOf item.2 item.1

/-- The plan of an observation over a snapshot that is read again, at the ordinal of its proof. -/
def recomputePlan (reread : AlertLifecycleIdentity → Except String (AlertLifecycleSnapshot Expectation))
    (plan : PlannedDecision Expectation) : Except String (PlannedDecision Expectation) := do
  let snapshot ← reread { dimension := plan.observation.dimension, ruleId := plan.observation.ruleId }
  let evaluation ← evaluateAlertRule plan.observation.input
  let decision ← advanceAlertLifecycle
    { asOf := evaluation.asOf, observation := plan.observation.input, previous := snapshot.previous }
  let disposition := dispositionOf plan.sourcePartial evaluation snapshot.previous decision
  return {
    plan with
    decision
    evaluation
    proof := decisionProof sha256 environment plan.observation evaluation decision disposition plan.proof.ordinal
      plan.sourceId
    snapshot }

end planning

section items

variable {sources : List CollectedSource}

theorem workItems_perm :
    ((workItems sources).map (·.observation)).Perm (allPlanned sources) := by
  have hperm := List.mergeSort_perm (sources.flatMap fun source => source.planningObservations.map fun observation =>
    WorkItem.mk observation source) fun left right => compareObservations left.observation right.observation ≤ 0
  have hobservations : (sources.flatMap fun source => source.planningObservations.map fun observation =>
      WorkItem.mk observation source).map (·.observation) = allPlanned sources := by
    rw [List.map_flatMap, allPlanned]
    apply List.flatMap_congr
    intro source _
    rw [List.map_map]
    exact List.map_id _
  rw [← hobservations]
  exact hperm.map _

theorem mem_workItems {item : WorkItem} :
    item ∈ workItems sources ↔ item.source ∈ sources ∧ item.observation ∈ item.source.planningObservations := by
  rw [workItems, mem_sortedBy, List.mem_flatMap]
  constructor
  · rintro ⟨source, hsource, hitem⟩
    obtain ⟨observation, hobservation, rfl⟩ := List.mem_map.mp hitem
    exact ⟨hsource, hobservation⟩
  · rintro ⟨hsource, hobservation⟩
    exact ⟨item.source, hsource, List.mem_map.mpr ⟨item.observation, hobservation, rfl⟩⟩

theorem length_workItems : (workItems sources).length = (allPlanned sources).length := by
  rw [← workItems_perm.length_eq, List.length_map]

/-- What is planned of an incomplete part comes of a source that is partial. -/
theorem Attested.partly_of_partial {source : CollectedSource} {observation : AlertRuleObservation}
    (hattested : Attested source) (hpartly : observationIsPartial source observation = true) :
    source.proof.status = .partly := by
  apply hattested.forced
  rcases of_decide_eq_true hpartly with hforced | ⟨item, hitem, -⟩
  · exact .inl hforced
  · exact .inr (List.ne_nil_of_mem hitem)

theorem sourcePartial_of_suppressed {sourcePartial : Bool} {evaluation : AlertRuleEvaluation}
    {previous : AlertLifecycleState} {decision : AlertLifecycleResult}
    (hsuppressed : dispositionOf sourcePartial evaluation previous decision = .suppressedPartial) :
    sourcePartial = true := by
  rw [dispositionOf] at hsuppressed
  split at hsuppressed
  · rename_i hboth
    exact hboth.1
  · split at hsuppressed <;> cases hsuppressed

end items

/-- A plan of an item: what was evaluated, read and decided for it. -/
structure Plans {Expectation : Type} (sha256 : Sha256) (environment : AlertEnvironment)
    (readLifecycleSnapshot : Nat → AlertLifecycleIdentity → Except String (AlertLifecycleSnapshot Expectation))
    (asOf : Timestamp) (item : WorkItem × Nat) (plan : PlannedDecision Expectation) : Prop where
  evaluation : evaluateAlertRule item.1.observation.input = .ok plan.evaluation
  instant : plan.evaluation.asOf = asOf
  snapshot : readLifecycleSnapshot item.2
    { dimension := item.1.observation.dimension, ruleId := item.1.observation.ruleId } = .ok plan.snapshot
  decision : advanceAlertLifecycle
    { asOf, observation := item.1.observation.input, previous := plan.snapshot.previous } = .ok plan.decision
  observation : plan.observation = item.1.observation
  sourceId : plan.sourceId = item.1.source.sourceId
  sourcePartial : plan.sourcePartial = observationIsPartial item.1.source item.1.observation
  proof : plan.proof = decisionProof sha256 environment item.1.observation plan.evaluation plan.decision
    (dispositionOf plan.sourcePartial plan.evaluation plan.snapshot.previous plan.decision) item.2
    item.1.source.sourceId

section plans

variable {Expectation : Type} {sha256 : Sha256} {environment : AlertEnvironment}
  {readLifecycleSnapshot : Nat → AlertLifecycleIdentity → Except String (AlertLifecycleSnapshot Expectation)}
  {asOf : Timestamp}

theorem planDecision_plans {item : WorkItem × Nat} {plan : PlannedDecision Expectation}
    (hplan : planDecision sha256 environment readLifecycleSnapshot asOf item.2 item.1 = .ok plan) :
    Plans sha256 environment readLifecycleSnapshot asOf item plan := by
  rw [planDecision, bind_eq_ok_iff] at hplan
  obtain ⟨evaluation, hevaluation, hplan⟩ := hplan
  rw [throwIf_bind_eq_ok_iff, not_not, bind_eq_ok_iff] at hplan
  obtain ⟨hasOf, snapshot, hsnapshot, hplan⟩ := hplan
  rw [bind_eq_ok_iff] at hplan
  obtain ⟨decision, hdecision, hplan⟩ := hplan
  obtain rfl := pure_eq_ok_iff.mp hplan
  exact ⟨hevaluation, hasOf, hsnapshot, hdecision, rfl, rfl, rfl, rfl⟩

/-- What a plan has decided over its snapshot. -/
structure Decides (plan : PlannedDecision Expectation) : Prop where
  evaluation : evaluateAlertRule plan.observation.input = .ok plan.evaluation
  decision : advanceAlertLifecycle
    { asOf := plan.evaluation.asOf, observation := plan.observation.input, previous := plan.snapshot.previous } =
      .ok plan.decision
  disposition : plan.proof.disposition =
    dispositionOf plan.sourcePartial plan.evaluation plan.snapshot.previous plan.decision

theorem Plans.decides {item : WorkItem × Nat} {plan : PlannedDecision Expectation}
    (hplan : Plans sha256 environment readLifecycleSnapshot asOf item plan) : Decides plan := by
  refine ⟨?_, ?_, by rw [hplan.proof]; rfl⟩
  · rw [hplan.observation]
    exact hplan.evaluation
  · rw [hplan.observation, hplan.instant]
    exact hplan.decision

/-- A plan that is computed again is of the same observation and source. -/
theorem recomputePlan_decides
    {reread : AlertLifecycleIdentity → Except String (AlertLifecycleSnapshot Expectation)}
    {plan recomputed : PlannedDecision Expectation}
    (hrecomputed : recomputePlan sha256 environment reread plan = .ok recomputed) :
    Decides recomputed ∧ recomputed.observation = plan.observation ∧ recomputed.sourcePartial = plan.sourcePartial := by
  obtain ⟨snapshot, -, hevaluated⟩ := bind_eq_ok_iff.mp hrecomputed
  obtain ⟨evaluation, hevaluation, hdecided⟩ := bind_eq_ok_iff.mp hevaluated
  obtain ⟨decision, hdecision, hreturned⟩ := bind_eq_ok_iff.mp hdecided
  obtain rfl := pure_eq_ok_iff.mp hreturned
  exact ⟨⟨hevaluation, hdecision, rfl⟩, rfl, rfl⟩

/-- The plans of a run, one for each item of its work. -/
theorem planDecisions_plans {sources : List CollectedSource} {plans : List (PlannedDecision Expectation)}
    (hplans : planDecisions sha256 environment readLifecycleSnapshot asOf sources = .ok plans) :
    List.Forall₂ (Plans sha256 environment readLifecycleSnapshot asOf) (workItems sources).zipIdx plans :=
  (mapM_eq_ok_iff.mp hplans).imp fun _ _ hplan => planDecision_plans hplan

/-- A plan is of an observation that its source planned. -/
theorem planDecisions_item {sources : List CollectedSource} {plans : List (PlannedDecision Expectation)}
    {plan : PlannedDecision Expectation}
    (hplans : planDecisions sha256 environment readLifecycleSnapshot asOf sources = .ok plans) (hplan : plan ∈ plans) :
    ∃ item, item.1.source ∈ sources ∧ item.1.observation ∈ item.1.source.planningObservations ∧
      Plans sha256 environment readLifecycleSnapshot asOf item plan := by
  obtain ⟨item, hitem, hplanned⟩ := table.related_of_mem_right (planDecisions_plans hplans) hplan
  have hwork : item.1 ∈ workItems sources := by
    rw [← List.zipIdx_map_fst 0 (workItems sources)]
    exact List.mem_map_of_mem hitem
  obtain ⟨hsource, hobservation⟩ := mem_workItems.mp hwork
  exact ⟨item, hsource, hobservation, hplanned⟩

end plans

end pgid.alert.orchestration
