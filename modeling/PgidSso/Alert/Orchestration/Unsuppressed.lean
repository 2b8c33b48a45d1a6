import PgidSso.Alert.Lifecycle.Shape
import PgidSso.Alert.Orchestration.Plan
import PgidSso.Library.Sha256

/-! What is decided over incomplete data never calms an alert. -/

open checked

namespace pgid.alert.orchestration

/-- The intent does not resolve an incident. -/
def Unresolved (intent : Option AlertActionIntent) : Prop :=
  ∀ base fromSeverity severity, intent ≠ some (.resolve base fromSeverity severity)

/-- A state that is no calmer than another one, for a breach of some severity. -/
structure Worsened (state : AlertLifecycleState) (candidate : ActiveAlertSeverity) (result : AlertLifecycleResult) :
    Prop where
  status : severityRank (some state.status) ≤ severityRank (some result.state.status)
  standing : severityRank (some candidate.severity) ≤ standingRank result.state
  intent : Unresolved result.intent

section reducer

variable {evaluation : AlertRuleEvaluation} {state : AlertLifecycleState} {asOf : Timestamp}
  {candidate : ActiveAlertSeverity} {result : AlertLifecycleResult} {refreshEvidence : Bool}

theorem stableActiveResult_status
    (hresult : stableActiveResult evaluation state asOf refreshEvidence = .ok result) :
    result.state.status = state.status ∧ Unresolved result.intent := by
  unfold stableActiveResult at hresult
  split at hresult
  · obtain ⟨evidence, -, hresult⟩ := bind_eq_ok_iff.mp hresult
    obtain ⟨-, hresult⟩ := throwIf_bind_eq_ok_iff.mp hresult
    dsimp only at hresult
    split at hresult
    · cases hresult
      exact ⟨rfl, fun _ _ _ hintent => by cases hintent⟩
    · cases hresult
      exact ⟨rfl, fun _ _ _ hintent => by cases hintent⟩
  · cases hresult

theorem stableActiveResult_worsened
    (hresult : stableActiveResult evaluation state asOf refreshEvidence = .ok result)
    (hcovered : severityRank (some candidate.severity) ≤ severityRank (some state.status)) :
    Worsened state candidate result := by
  obtain ⟨hstatus, hintent⟩ := stableActiveResult_status hresult
  refine ⟨by rw [hstatus], ?_, hintent⟩
  rw [standingRank, hstatus]
  exact hcovered.trans (Nat.le_max_left _ _)

theorem advanceBreach_worsened (hstatus : state.status = .none ∨ (state.status = .warning ∧ candidate = .critical))
    (hresult : advanceBreach evaluation state asOf candidate = .ok result) : Worsened state candidate result := by
  unfold advanceBreach at hresult
  obtain ⟨evidence, -, hresult⟩ := bind_eq_ok_iff.mp hresult
  dsimp only at hresult
  split at hresult
  · cases hresult
    exact ⟨le_refl _, Nat.le_max_right _ _, fun _ _ _ hintent => by cases hintent⟩
  split at hresult
  · rename_i hescalates
    cases hresult
    refine ⟨?_, ?_, fun _ _ _ hintent => by cases hintent⟩
    · rw [hescalates.1]
      exact show severityRank (some .warning) ≤ severityRank (some .critical) by decide
    · rw [hescalates.2]
      exact Nat.le_max_left _ _
  split at hresult
  · rename_i hnone
    split at hresult
    · cases hresult
      exact ⟨le_refl _, Nat.le_max_right _ _, fun _ _ _ hintent => by cases hintent⟩
    · cases hresult
      refine ⟨?_, Nat.le_max_left _ _, fun _ _ _ hintent => by cases hintent⟩
      rw [hnone]
      exact Nat.zero_le _
  · rename_i hescalates hnone
    exact absurd (hstatus.resolve_left hnone) hescalates

/-- A breach calms nothing. -/
theorem advanceBound_worsened (hknown : evaluation.evidence = .known)
    (hbreach : evaluation.severity = candidate.severity)
    (hresult : advanceBound evaluation state asOf = .ok result) : Worsened state candidate result := by
  have hevidence : ¬ evaluation.evidence = .unknown := by
    rw [hknown]
    decide
  rw [advanceBound, if_neg hevidence, hbreach] at hresult
  simp only [ActiveAlertSeverity.active?_severity] at hresult
  split at hresult
  · rename_i hcritical
    apply stableActiveResult_worsened hresult
    rw [hcritical]
    cases candidate <;> decide
  split at hresult
  · rename_i hcovered
    apply stableActiveResult_worsened hresult
    rw [hcovered.1, hcovered.2]
    decide
  · rename_i hcritical hcovered
    apply advanceBreach_worsened _ hresult
    cases hstatus : state.status with
    | none => exact .inl rfl
    | warning =>
      refine .inr ⟨rfl, ?_⟩
      cases candidate with
      | warning => exact absurd ⟨hstatus, rfl⟩ hcovered
      | critical => rfl
    | critical => exact absurd hstatus hcritical

theorem advanceAlertLifecycle_worsened {observation : AlertObservationInput}
    (hevaluation : evaluateAlertRule observation = .ok evaluation) (hknown : evaluation.evidence = .known)
    (hbreach : evaluation.severity = candidate.severity)
    (hresult : advanceAlertLifecycle { asOf, observation, previous := state } = .ok result) :
    Worsened state candidate result := by
  simp only [advanceAlertLifecycle, hevaluation, ok_bind] at hresult
  obtain ⟨-, -, hresult⟩ := bind_eq_ok_iff.mp hresult
  obtain ⟨-, hresult⟩ := throwIf_bind_eq_ok_iff.mp hresult
  obtain ⟨previous, hprevious, hresult⟩ := bind_eq_ok_iff.mp hresult
  obtain ⟨rfl, -⟩ := parseState_eq_ok_iff.mp hprevious
  have hsevere : ¬ (evaluation.evidence = .unknown ∨ evaluation.severity = .none) := by
    rw [hknown, hbreach]
    cases candidate <;> decide
  split at hresult
  · rw [if_neg hsevere] at hresult
    obtain ⟨hstatus, hstanding, hintent⟩ := advanceBound_worsened hknown hbreach hresult
    exact ⟨hstatus, hstanding, hintent⟩
  · obtain ⟨-, -, hresult⟩ := bind_eq_ok_iff.mp hresult
    obtain ⟨-, hresult⟩ := throwIf_bind_eq_ok_iff.mp hresult
    obtain ⟨hstatus, hstanding, hintent⟩ := advanceBound_worsened hknown hbreach hresult
    exact ⟨hstatus, hstanding, hintent⟩

end reducer

section plans

variable {Expectation : Type} {sha256 : Sha256} {environment : AlertEnvironment}
  {readLifecycleSnapshot : Nat → AlertLifecycleIdentity → Except String (AlertLifecycleSnapshot Expectation)}
  {asOf : Timestamp} {sources : List CollectedSource} {plans : List (PlannedDecision Expectation)}

/-- A decision over incomplete data that is written all the same: its alert stands no lower than before. -/
structure NeverCalms (plan : PlannedDecision Expectation) : Prop where
  status : severityRank (some plan.snapshot.previous.status) ≤ severityRank (some plan.decision.state.status)
  standing : standingRank plan.snapshot.previous ≤ standingRank plan.decision.state
  intent : Unresolved plan.decision.intent

theorem Decides.neverCalms {plan : PlannedDecision Expectation} (hdecides : Decides plan)
    (hpartly : plan.sourcePartial = true) (hwritten : plan.proof.disposition ≠ .suppressedPartial) :
    NeverCalms plan := by
  have hallowed : partialDecisionAllowed plan.evaluation plan.snapshot.previous = true := by
    by_contra hdenied
    apply hwritten
    rw [hdecides.disposition, dispositionOf, if_pos ⟨hpartly, Bool.eq_false_of_not_eq_true hdenied⟩]
  rw [partialDecisionAllowed] at hallowed
  split at hallowed
  · cases hallowed
  · rename_i hbreach
    rw [not_or, ne_eq, not_not] at hbreach
    have hcovers := of_decide_eq_true hallowed
    obtain ⟨candidate, hcandidate⟩ : ∃ candidate : ActiveAlertSeverity, plan.evaluation.severity = candidate.severity := by
      cases hseverity : plan.evaluation.severity with
      | none => exact absurd hseverity hbreach.2
      | warning => exact ⟨.warning, rfl⟩
      | critical => exact ⟨.critical, rfl⟩
    obtain ⟨hstatus, hstanding, hintent⟩ :=
      advanceAlertLifecycle_worsened hdecides.evaluation hbreach.1 hcandidate hdecides.decision
    rw [hcandidate] at hcovers
    exact ⟨hstatus, hcovers.trans hstanding, hintent⟩

/-- Incomplete data never calms an alert: what a run plans of a source that was cut, or of a rule and a kind of
dimension that a source reports as incomplete, is suppressed, or leaves its alert standing no lower than the
snapshot shows it, and resolves nothing. So does what it computes again after a conflict. -/
theorem planDecisions_neverCalms
    (hplans : planDecisions sha256 environment readLifecycleSnapshot asOf sources = .ok plans) :
    ∀ plan ∈ plans, ∃ source ∈ sources, plan.observation ∈ source.planningObservations ∧
      plan.sourceId = source.sourceId ∧
      (observationIsPartial source plan.observation = true → ∀ written,
        (written = plan ∨ ∃ reread, recomputePlan sha256 environment reread plan = .ok written) →
          written.proof.disposition = .suppressedPartial ∨ NeverCalms written) := by
  intro plan hplan
  obtain ⟨item, hsource, hobservation, hplanned⟩ := planDecisions_item hplans hplan
  refine ⟨item.1.source, hsource, by rw [hplanned.observation]; exact hobservation, hplanned.sourceId, ?_⟩
  intro hpartly written hwritten
  rw [hplanned.observation, ← hplanned.sourcePartial] at hpartly
  have hdecides : Decides written ∧ written.sourcePartial = true := by
    rcases hwritten with rfl | ⟨reread, hrecomputed⟩
    · exact ⟨hplanned.decides, hpartly⟩
    · obtain ⟨hdecides, -, hsame⟩ := recomputePlan_decides hrecomputed
      exact ⟨hdecides, hsame.trans hpartly⟩
  by_cases hsuppressed : written.proof.disposition = .suppressedPartial
  · exact .inl hsuppressed
  · exact .inr (hdecides.1.neverCalms hdecides.2 hsuppressed)

/-- A gap of the fanout, of a source that reports its rule as incomplete. -/
def gapSource : CollectedSource :=
  normalizedSource sha2.sha256 .d1SecurityFanoutGap [{ dimensionKind := .global, ruleId := .securityFanoutGap }]
    [{ asOf := ⟨180070, by decide⟩
       dimension := .global
       ruleId := .securityFanoutGap
       measures := .fanout { missingOlderThan15mCount := 0, missingOlderThan5mCount := 1 } }]

def gapPlans : Except String (List (PlannedDecision Unit)) :=
  planDecisions sha2.sha256 .production (fun _ _ => .ok { expected := none, previous := inactiveAlertState })
    ⟨180070, by decide⟩ [gapSource]

theorem gapPlans_planned : gapPlans.toOption.isSome = true := by decide +kernel

/-- The gap is written over a snapshot without a state, and stands higher than it. -/
theorem planDecisions_neverCalms_gap :
    ∃ plan ∈ gapPlans.toOption.get gapPlans_planned, plan.proof.disposition = .applied ∧ NeverCalms plan := by
  have happlied : ∃ plan ∈ gapPlans.toOption.get gapPlans_planned, plan.proof.disposition = .applied ∧
      observationIsPartial gapSource plan.observation = true := by decide +kernel
  obtain ⟨plan, hplan, hdisposition, hpartly⟩ := happlied
  obtain ⟨source, hsource, -, -, hnever⟩ := planDecisions_neverCalms (eq_ok_get gapPlans_planned) plan hplan
  rw [List.mem_singleton.mp hsource] at hnever
  refine ⟨plan, hplan, hdisposition, (hnever hpartly plan (.inl rfl)).resolve_left ?_⟩
  rw [hdisposition]
  decide

end plans

end pgid.alert.orchestration
