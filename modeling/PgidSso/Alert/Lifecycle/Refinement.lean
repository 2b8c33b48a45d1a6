import PgidSso.Alert.Lifecycle.Shape

open checked

namespace pgid.alert

/-- The signal that an evaluation gives to the watch of its identity. -/
inductive Signal.Reads (evaluation : AlertRuleEvaluation) : Signal evaluation.ruleId → Prop
  | unknown (hevidence : evaluation.evidence = .unknown) (hseverity : evaluation.severity = .none) :
      Reads evaluation .unknown
  | clear (hevidence : evaluation.evidence = .known) (hseverity : evaluation.severity = .none) :
      Reads evaluation .clear
  | breach (evidence : RuleEvidence evaluation.ruleId)
      (himmediate : evaluation.immediateCritical = true → evidence.severity = .critical)
      (hevidence : evaluation.evidence = .known)
      (hseverity : evaluation.severity = evidence.severity.severity)
      (hselected : evaluation.selectedEvidence = some evidence.evidence) :
      Reads evaluation (.breach evidence evaluation.immediateCritical himmediate)

theorem AlertRuleEvaluation.Proper.reads {evaluation : AlertRuleEvaluation}
    (hproper : evaluation.Proper) : ∃ signal, Signal.Reads evaluation signal := by
  cases hproper with
  | unknown hevidence hseverity => exact ⟨.unknown, .unknown hevidence hseverity⟩
  | clear hevidence hseverity => exact ⟨.clear, .clear hevidence hseverity⟩
  | breach severity selected hevidence hseverity hselected hmatch haccepted himmediate =>
    subst hmatch
    exact ⟨_, .breach ⟨selected, haccepted⟩ himmediate hevidence hseverity hselected⟩

/-- The intent that reports a notice. -/
def Notice.intent {ruleId : AlertRuleId} (base : ObserveOnlyIntentBase) :
    Notice ruleId → AlertActionIntent
  | .open evidence => .open base evidence.evidence evidence.severity
  | .escalate evidence => .escalate base evidence.evidence .warning .critical
  | .remind evidence => .remind base evidence.evidence evidence.severity
  | .resolve fromSeverity => .resolve base fromSeverity .none

/-- The answer of the reducer for a step of the watch. -/
def lifecycleResult (evaluation : AlertRuleEvaluation) (asOf : Timestamp)
    (next : Option (Notice evaluation.ruleId) × Watch evaluation.ruleId) : AlertLifecycleResult :=
  { intent := next.1.map (Notice.intent (activeIntentBase evaluation asOf))
    state := next.2.state evaluation.dimension asOf }

section bound

variable {evaluation : AlertRuleEvaluation} {asOf openedAt notifiedAt : Timestamp}

/-- The active record of an incident, whatever its counters. -/
def activeRecord (evaluation : AlertRuleEvaluation) (asOf openedAt notifiedAt : Timestamp)
    (evidence : RuleEvidence evaluation.ruleId) (clears : Int)
    (breach : Option AlertSelectedEvidence) : AlertLifecycleState :=
  { activeEvidence := some evidence.evidence
    breachEvidence := breach
    breachSeverity := breach.map fun _ => .critical
    consecutiveBreaches := if breach.isSome then 1 else 0
    consecutiveClears := clears
    cooldownUntil := none
    identity := some { dimension := evaluation.dimension, ruleId := evaluation.ruleId }
    lastEvaluatedAt := some asOf
    lastNotificationAt := some notifiedAt
    openedAt := some openedAt
    phase := .active
    status := evidence.severity.severity }

theorem Watch.active_state (evidence : RuleEvidence evaluation.ruleId) (clears : Fin 5) :
    (Watch.active openedAt notifiedAt evidence clears).state evaluation.dimension asOf =
      activeRecord evaluation asOf openedAt notifiedAt evidence clears.val none := rfl

theorem Watch.worsening_state (evidence breach : RuleEvidence evaluation.ruleId)
    (hwarning : evidence.severity = .warning) (hcritical : breach.severity = .critical) :
    (Watch.worsening openedAt notifiedAt evidence breach hwarning hcritical).state
        evaluation.dimension asOf =
      activeRecord evaluation asOf openedAt notifiedAt evidence 0 (some breach.evidence) := by
  simp [Watch.state, activeRecord, hwarning, ActiveAlertSeverity.severity]

/-- A stable result is a hold with the refreshed or the kept evidence. -/
theorem stableActiveResult_eq_hold (evidence kept : RuleEvidence evaluation.ruleId) (clears : Int)
    (breach : Option AlertSelectedEvidence) (refreshEvidence : Bool)
    (hrefresh : evidenceToKeep evaluation evidence.evidence refreshEvidence = .ok kept.evidence)
    (hseverity : kept.severity = evidence.severity) :
    stableActiveResult evaluation
        (activeRecord evaluation asOf openedAt notifiedAt evidence clears breach) asOf
        refreshEvidence =
      .ok (lifecycleResult evaluation asOf (Watch.hold asOf openedAt notifiedAt kept)) := by
  have hmatch : kept.evidence.severity = evidence.severity := hseverity
  simp only [stableActiveResult, activeRecord, ActiveAlertSeverity.active?_severity, hrefresh,
    Bind.bind, Except.bind]
  rw [throwIf_of_not (by simpa using hmatch)]
  by_cases hdue : reminderMs evidence.severity ≤ asOf.ms - notifiedAt.ms
  · simp [reminderDue, hdue, Watch.hold, lifecycleResult, Watch.state, Notice.intent, hseverity,
      Pure.pure, Except.pure]
  · simp [reminderDue, hdue, Watch.hold, lifecycleResult, Watch.state, hseverity, Pure.pure,
      Except.pure]

theorem advanceClear_eq_ease (evidence : RuleEvidence evaluation.ruleId) (clears : Fin 5)
    (breach : Option AlertSelectedEvidence) :
    advanceClear evaluation
        (activeRecord evaluation asOf openedAt notifiedAt evidence clears.val breach) asOf =
      (Watch.ease asOf openedAt notifiedAt evidence clears).map (lifecycleResult evaluation asOf) := by
  have hstatus : (activeRecord evaluation asOf openedAt notifiedAt evidence clears.val
      breach).status.active? = some evidence.severity := by
    simp [activeRecord]
  simp only [advanceClear, hstatus, Watch.ease]
  split
  · exact stableActiveResult_eq_hold evidence evidence _ _ false rfl rfl
  by_cases hclears : clears.val + 1 < 5
  · have hcount : (clears.val : Int) + 1 < ALERT_RULE_POLICY.clearConsecutive := by
      simp only [ALERT_RULE_POLICY]
      omega
    rw [dif_pos hclears, if_pos (by exact hcount)]
    simp [lifecycleResult, Watch.active_state, activeRecord, Except.map]
  · have hcount : ¬ (clears.val : Int) + 1 < ALERT_RULE_POLICY.clearConsecutive := by
      simp only [ALERT_RULE_POLICY]
      omega
    rw [dif_neg hclears, if_neg (by exact hcount)]
    cases addMilliseconds asOf ALERT_RULE_POLICY.cooldownMs <;> rfl

theorem selectedEvidenceFor_breach {evidence : RuleEvidence evaluation.ruleId}
    (hselected : evaluation.selectedEvidence = some evidence.evidence) :
    selectedEvidenceFor evaluation = .ok evidence.evidence := by
  simp [selectedEvidenceFor, hselected]

theorem requiredBreaches_eq (severity : ActiveAlertSeverity) :
    requiredBreaches evaluation severity = if evaluation.immediateCritical then 1 else 2 := by
  unfold requiredBreaches
  cases severity <;> simp [ALERT_RULE_POLICY]

/-- A breach without an incident: the first of its severity is only suspected. -/
theorem advanceBreach_eq_suspect_quiet (cooldownUntil : Option Timestamp)
    (breach : RuleEvidence evaluation.ruleId)
    (hselected : evaluation.selectedEvidence = some breach.evidence)
    (himmediate : evaluation.immediateCritical = true → breach.severity = .critical) :
    advanceBreach evaluation
        ((Watch.quiet cooldownUntil : Watch evaluation.ruleId).state evaluation.dimension asOf) asOf
        breach.severity =
      .ok (lifecycleResult evaluation asOf
        (Watch.suspect asOf cooldownUntil breach evaluation.immediateCritical)) := by
  simp only [advanceBreach, selectedEvidenceFor_breach hselected, Bind.bind, Except.bind,
    requiredBreaches_eq]
  cases himm : evaluation.immediateCritical with
  | false =>
    simp [startOrContinueBreach, Watch.state, inactiveAlertState, Watch.suspect, lifecycleResult,
      Pure.pure, Except.pure]
  | true =>
    have hcritical := himmediate himm
    simp [startOrContinueBreach, Watch.state, inactiveAlertState, Watch.suspect, lifecycleResult,
      Notice.intent, hcritical, Pure.pure, Except.pure]

/-- A breach after a suspected one: the same severity confirms it. -/
theorem advanceBreach_eq_suspect_suspected (cooldownUntil : Option Timestamp)
    (previous breach : RuleEvidence evaluation.ruleId)
    (hselected : evaluation.selectedEvidence = some breach.evidence)
    (himmediate : evaluation.immediateCritical = true → breach.severity = .critical) :
    advanceBreach evaluation
        ((Watch.suspected cooldownUntil previous).state evaluation.dimension asOf) asOf
        breach.severity =
      .ok (lifecycleResult evaluation asOf (Watch.suspect asOf cooldownUntil breach
        (evaluation.immediateCritical || previous.severity = breach.severity))) := by
  simp only [advanceBreach, selectedEvidenceFor_breach hselected, Bind.bind, Except.bind,
    requiredBreaches_eq]
  by_cases hsame : previous.severity = breach.severity
  · cases himm : evaluation.immediateCritical with
    | false =>
      by_cases hcooldown : cooldownUntil ≠ none ∧ breach.severity = .warning
      · simp [startOrContinueBreach, Watch.state, inactiveAlertState, Watch.suspect,
          lifecycleResult, hsame, hcooldown, Pure.pure, Except.pure]
      · simp [startOrContinueBreach, Watch.state, inactiveAlertState, Watch.suspect,
          lifecycleResult, Notice.intent, hsame, hcooldown, Pure.pure, Except.pure]
    | true =>
      have hcritical := himmediate himm
      simp [startOrContinueBreach, Watch.state, inactiveAlertState, Watch.suspect,
        lifecycleResult, Notice.intent, hsame, hcritical, Pure.pure, Except.pure]
  · cases himm : evaluation.immediateCritical with
    | false =>
      simp [startOrContinueBreach, Watch.state, inactiveAlertState, Watch.suspect,
        lifecycleResult, hsame, Pure.pure, Except.pure]
    | true =>
      have hcritical := himmediate himm
      have hprevious : previous.severity ≠ .critical := hcritical ▸ hsame
      simp [startOrContinueBreach, Watch.state, inactiveAlertState, Watch.suspect,
        lifecycleResult, Notice.intent, hprevious, hcritical, Pure.pure, Except.pure]

/-- A critical breach of an open warning: the second one in a row, or an immediate
one, escalates. -/
theorem advanceBreach_warning (evidence breach : RuleEvidence evaluation.ruleId) (clears : Fin 5)
    (hselected : evaluation.selectedEvidence = some breach.evidence)
    (hwarning : evidence.severity = .warning) (hcritical : breach.severity = .critical) :
    advanceBreach evaluation
        (activeRecord evaluation asOf openedAt notifiedAt evidence clears.val none) asOf
        breach.severity =
      .ok (lifecycleResult evaluation asOf
        (if evaluation.immediateCritical then
          (some (.escalate breach), .active openedAt asOf breach 0)
        else (none, .worsening openedAt notifiedAt evidence breach hwarning hcritical))) := by
  simp only [advanceBreach, selectedEvidenceFor_breach hselected, Bind.bind, Except.bind,
    requiredBreaches_eq]
  cases evaluation.immediateCritical <;>
    simp [startOrContinueBreach, activeRecord, lifecycleResult, Notice.intent, Watch.state, hwarning,
      hcritical, ActiveAlertSeverity.severity, Pure.pure, Except.pure]

theorem advanceBreach_worsening (evidence previous breach : RuleEvidence evaluation.ruleId)
    (hselected : evaluation.selectedEvidence = some breach.evidence)
    (hwarning : evidence.severity = .warning) (hcritical : breach.severity = .critical) :
    advanceBreach evaluation
        (activeRecord evaluation asOf openedAt notifiedAt evidence 0 (some previous.evidence)) asOf
        breach.severity =
      .ok (lifecycleResult evaluation asOf
        (some (.escalate breach), .active openedAt asOf breach 0)) := by
  simp only [advanceBreach, selectedEvidenceFor_breach hselected, Bind.bind, Except.bind,
    requiredBreaches_eq]
  cases evaluation.immediateCritical <;>
    simp [startOrContinueBreach, activeRecord, lifecycleResult, Notice.intent, Watch.state, hwarning,
      hcritical, ActiveAlertSeverity.severity, Pure.pure, Except.pure]

/-- The reducer on a bound identity is one step of its watch. -/
theorem advanceBound_eq_step {signal : Signal evaluation.ruleId}
    (hreads : signal.Reads evaluation) (watch : Watch evaluation.ruleId) :
    advanceBound evaluation (watch.state evaluation.dimension asOf) asOf =
      (watch.step asOf signal).map (lifecycleResult evaluation asOf) := by
  cases hreads with
  | unknown hevidence hseverity =>
    rw [advanceBound, if_pos hevidence]
    cases watch with
    | quiet => rfl
    | suspected => rfl
    | active =>
      simp [Watch.state, Watch.step, lifecycleResult, Except.map]
    | worsening openedAt notifiedAt evidence breach hwarning hcritical =>
      simp [Watch.state, Watch.step, lifecycleResult, Except.map, hwarning,
        ActiveAlertSeverity.severity]
  | clear hevidence hseverity =>
    have hknown : evaluation.evidence ≠ .unknown := by simp [hevidence]
    rw [advanceBound, if_neg hknown, hseverity]
    simp only [AlertSeverity.active?]
    cases watch with
    | quiet => rfl
    | suspected => rfl
    | active openedAt notifiedAt evidence clears =>
      rw [Watch.active_state]
      exact advanceClear_eq_ease evidence clears none
    | worsening openedAt notifiedAt evidence breach hwarning hcritical =>
      rw [Watch.worsening_state]
      exact advanceClear_eq_ease evidence 0 (some breach.evidence)
  | breach evidence himmediate hevidence hseverity hselected =>
    have hknown : evaluation.evidence ≠ .unknown := by simp [hevidence]
    rw [advanceBound, if_neg hknown, hseverity]
    simp only [ActiveAlertSeverity.active?_severity]
    cases watch with
    | quiet cooldownUntil =>
      exact advanceBreach_eq_suspect_quiet cooldownUntil evidence hselected himmediate
    | suspected cooldownUntil previous =>
      exact advanceBreach_eq_suspect_suspected cooldownUntil previous evidence hselected himmediate
    | active openedAt notifiedAt current clears =>
      rw [Watch.active_state]
      simp only [Watch.step]
      have hstatus : (activeRecord evaluation asOf openedAt notifiedAt current clears.val
        none).status = current.severity.severity := rfl
      rcases current.severity.warning_or_critical with hcurrent | hcurrent
      · rw [hstatus, if_neg (by simp [hcurrent, ActiveAlertSeverity.severity]),
          dif_neg (by simp [hcurrent])]
        rcases evidence.severity.warning_or_critical with hsev | hsev
        · rw [if_pos ⟨by rw [hcurrent]; rfl, hsev⟩, dif_pos hsev]
          exact stableActiveResult_eq_hold current evidence _ _ _
            (by simp [evidenceToKeep, selectedEvidenceFor_breach hselected]) (by rw [hcurrent, hsev])
        · rw [if_neg (by simp [hsev]), dif_neg (by simp [hsev])]
          rw [advanceBreach_warning current evidence clears hselected hcurrent hsev]
          split <;> rfl
      · rw [hstatus, if_pos (by rw [hcurrent]; rfl), dif_pos hcurrent]
        refine stableActiveResult_eq_hold current _ _ _ _ ?_ ?_
        · rcases evidence.severity.warning_or_critical with hsev | hsev <;>
            simp [evidenceToKeep, selectedEvidenceFor_breach hselected, hsev]
        · split
          · rename_i hcritical
            rw [hcurrent, hcritical]
          · rfl
    | worsening openedAt notifiedAt current previous hwarning hcritical =>
      rw [Watch.worsening_state]
      simp only [Watch.step]
      have hstatus : (activeRecord evaluation asOf openedAt notifiedAt current 0
        (some previous.evidence)).status = .warning := by
        simp [activeRecord, hwarning, ActiveAlertSeverity.severity]
      rw [hstatus, if_neg (by simp)]
      rcases evidence.severity.warning_or_critical with hsev | hsev
      · rw [if_pos ⟨rfl, hsev⟩, if_pos hsev]
        exact stableActiveResult_eq_hold current evidence _ _ _
          (by simp [evidenceToKeep, selectedEvidenceFor_breach hselected]) (by rw [hwarning, hsev])
      · rw [if_neg (by simp [hsev]), if_neg (by simp [hsev])]
        exact advanceBreach_worsening current previous evidence hselected hwarning hsev

end bound

/-- The signal is a breach. -/
def Signal.IsBreach {ruleId : AlertRuleId} : Signal ruleId → Prop
  | .breach _ _ _ => True
  | _ => False

instance {ruleId : AlertRuleId} (signal : Signal ruleId) : Decidable signal.IsBreach := by
  unfold Signal.IsBreach
  split <;> infer_instance

theorem Signal.Reads.isBreach_iff {evaluation : AlertRuleEvaluation}
    {signal : Signal evaluation.ruleId} (hreads : signal.Reads evaluation) :
    signal.IsBreach ↔ ¬ (evaluation.evidence = .unknown ∨ evaluation.severity = .none) := by
  cases hreads with
  | unknown hevidence hseverity => simp [IsBreach, hevidence]
  | clear hevidence hseverity => simp [IsBreach, hseverity]
  | breach evidence himmediate hevidence hseverity hselected =>
    simp [IsBreach, hevidence, hseverity]

section advance

variable {observation : AlertObservationInput} {evaluation : AlertRuleEvaluation}

private theorem alertWindowsAt_of_evaluate
    (heval : evaluateAlertRule observation = .ok evaluation) :
    ∃ windows, alertWindowsAt observation.asOf = .ok windows :=
  alertWindowsAt_ok_iff.mpr (evaluateAlertRule_ok_iff.mp ⟨evaluation, heval⟩).2

/-- The reducer at a state whose identity is not bound yet. -/
theorem advanceAlertLifecycle_inactive (heval : evaluateAlertRule observation = .ok evaluation)
    {signal : Signal evaluation.ruleId} (hreads : signal.Reads evaluation) :
    advanceAlertLifecycle
        { asOf := observation.asOf, observation, previous := inactiveAlertState } =
      if signal.IsBreach then
        ((Watch.quiet none).step observation.asOf signal).map
          (lifecycleResult evaluation observation.asOf)
      else .ok { intent := none, state := inactiveAlertState } := by
  obtain ⟨windows, hwindows⟩ := alertWindowsAt_of_evaluate heval
  obtain ⟨-, hasOf, -⟩ := evaluateAlertRule_proper heval
  simp only [advanceAlertLifecycle, hwindows, heval, Bind.bind, Except.bind, hasOf,
    parseState_inactive]
  rw [throwIf_of_not (by simp)]
  simp only [inactiveAlertState]
  by_cases hbreach : signal.IsBreach
  · rw [if_neg (hreads.isBreach_iff.mp hbreach), if_pos hbreach]
    exact advanceBound_eq_step hreads (.quiet none)
  · rw [if_pos (Decidable.not_not.mp (mt hreads.isBreach_iff.mpr hbreach)), if_neg hbreach]
    rfl

/-- The reducer at the record of a watch over the identity of the observation. -/
theorem advanceAlertLifecycle_watch (heval : evaluateAlertRule observation = .ok evaluation)
    {signal : Signal evaluation.ruleId} (hreads : signal.Reads evaluation)
    {watch : Watch evaluation.ruleId} {evaluatedAt : Timestamp}
    (haccepted : evaluation.dimension.Accepted
      (ALERT_RULE_DEFINITIONS evaluation.ruleId).dimensions)
    (htimely : watch.Timely evaluatedAt) (hlater : evaluatedAt.ms < observation.asOf.ms) :
    advanceAlertLifecycle
        { asOf := observation.asOf, observation,
          previous := watch.state evaluation.dimension evaluatedAt } =
      ((watch.live observation.asOf).step observation.asOf signal).map
        (lifecycleResult evaluation observation.asOf) := by
  obtain ⟨windows, hwindows⟩ := alertWindowsAt_of_evaluate heval
  obtain ⟨-, hasOf, -⟩ := evaluateAlertRule_proper heval
  have hparse := watch.parseState_state haccepted htimely (Int.le_of_lt hlater)
  simp only [advanceAlertLifecycle, hwindows, heval, Bind.bind, Except.bind, hasOf, hparse]
  rw [throwIf_of_not (by simp)]
  have hsame : assertSameIdentity { dimension := evaluation.dimension, ruleId := evaluation.ruleId }
      (identityFor evaluation) = .ok () :=
    throwIf_of_not (by simp [identityFor])
  simp only [Watch.state_identity, Watch.state_lastEvaluatedAt, hsame]
  rw [throwIf_of_not (by simpa using hlater)]
  rw [← advanceBound_eq_step hreads]
  cases watch <;> rfl

end advance

end pgid.alert
