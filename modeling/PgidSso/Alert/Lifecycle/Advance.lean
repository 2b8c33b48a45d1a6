import PgidSso.Alert.Lifecycle.State

open checked

namespace pgid.alert

def identityFor (evaluation : AlertRuleEvaluation) : AlertLifecycleIdentity :=
  { dimension := evaluation.dimension, ruleId := evaluation.ruleId }

def assertSameIdentity (previous current : AlertLifecycleIdentity) : Except String Unit :=
  throwIf (previous.ruleId ≠ current.ruleId ∨ ¬ sameDimension previous.dimension current.dimension)
    "alert lifecycle identity does not match the observation"

def activeIntentBase (evaluation : AlertRuleEvaluation) (asOf : Timestamp) : ObserveOnlyIntentBase :=
  { «at» := asOf, dimension := evaluation.dimension, mode := .observeOnly,
    ruleId := evaluation.ruleId }

def selectedEvidenceFor (evaluation : AlertRuleEvaluation) : Except String AlertSelectedEvidence :=
  match evaluation.selectedEvidence with
  | none => .error "active alert intent requires selected evidence"
  | some evidence => .ok evidence

/-- The reminder interval of a severity. -/
def reminderMs : ActiveAlertSeverity → Int
  | .critical => ALERT_RULE_POLICY.criticalReminderMs
  | .warning => ALERT_RULE_POLICY.warningReminderMs

/-- `state.status`, where the reducer knows that it is not `none`. -/
def AlertSeverity.active? : AlertSeverity → Option ActiveAlertSeverity
  | .none => Option.none
  | .warning => some .warning
  | .critical => some .critical

@[simp] theorem ActiveAlertSeverity.active?_severity (severity : ActiveAlertSeverity) :
    severity.severity.active? = some severity := by
  cases severity <;> rfl

def reminderDue (state : AlertLifecycleState) (asOfMs : Int) : Bool :=
  match state.status.active? with
  | none => false
  | some severity =>
    match state.lastNotificationAt.or state.openedAt with
    | none => true
    | some last => reminderMs severity ≤ asOfMs - last.ms

/-- `refreshEvidence ? selectedEvidenceFor(evaluation) : state.activeEvidence`. -/
def evidenceToKeep (evaluation : AlertRuleEvaluation) (activeEvidence : AlertSelectedEvidence)
    (refreshEvidence : Bool) : Except String AlertSelectedEvidence :=
  if refreshEvidence then selectedEvidenceFor evaluation else .ok activeEvidence

def stableActiveResult (evaluation : AlertRuleEvaluation) (state : AlertLifecycleState)
    (asOf : Timestamp) (refreshEvidence : Bool) : Except String AlertLifecycleResult :=
  match state.status.active?, state.activeEvidence with
  | some severity, some activeEvidence => do
    let evidence ← evidenceToKeep evaluation activeEvidence refreshEvidence
    throwIf (evidence.severity ≠ severity) "active evidence must match the incident severity"
    let stable : AlertLifecycleState :=
      { state with
        activeEvidence := some evidence
        breachEvidence := none
        breachSeverity := none
        consecutiveBreaches := 0
        consecutiveClears := 0
        phase := .active }
    if ¬ reminderDue stable asOf.ms then
      return { intent := none, state := stable }
    else
      return {
        intent := some (.remind (activeIntentBase evaluation asOf) evidence severity)
        state := { stable with lastNotificationAt := some asOf } }
  | _, _ => .error "stable active result requires an active state"

def startOrContinueBreach (state : AlertLifecycleState) (candidate : ActiveAlertSeverity) : Int :=
  if state.breachSeverity = some candidate then state.consecutiveBreaches + 1 else 1

/-- `addMilliseconds(asOf, ALERT_RULE_POLICY.cooldownMs)`. -/
def addMilliseconds (value : Timestamp) (milliseconds : Int) : Except String Timestamp :=
  Timestamp.ofMs (value.ms + milliseconds)

/-- A clear evaluation of an identity with a live state. -/
def advanceClear (evaluation : AlertRuleEvaluation) (state : AlertLifecycleState)
    (asOf : Timestamp) : Except String AlertLifecycleResult :=
  match state.status.active? with
  | none =>
    .ok {
      intent := none
      state := { inactiveAlertState with
        cooldownUntil := state.cooldownUntil
        identity := state.identity
        lastEvaluatedAt := some asOf } }
  | some fromSeverity =>
    if (ALERT_RULE_DEFINITIONS evaluation.ruleId).resolutionMode = .manual then
      stableActiveResult evaluation state asOf false
    else
      let consecutiveClears := state.consecutiveClears + 1
      if consecutiveClears < ALERT_RULE_POLICY.clearConsecutive then
        .ok {
          intent := none
          state := { state with
            breachEvidence := none
            breachSeverity := none
            consecutiveBreaches := 0
            consecutiveClears } }
      else do
        let cooldownUntil ← addMilliseconds asOf ALERT_RULE_POLICY.cooldownMs
        return {
          intent := some (.resolve (activeIntentBase evaluation asOf) fromSeverity .none)
          state := { inactiveAlertState with
            cooldownUntil := some cooldownUntil
            identity := state.identity
            lastEvaluatedAt := some asOf } }

/-- The breaches in a row that a severity needs; an immediate one needs no other. -/
def requiredBreaches (evaluation : AlertRuleEvaluation) (candidate : ActiveAlertSeverity) : Int :=
  if evaluation.immediateCritical then 1
  else if candidate = .critical then ALERT_RULE_POLICY.criticalConsecutive
  else ALERT_RULE_POLICY.warningConsecutive

/-- A breach that the active incident, if any, does not already cover. -/
def advanceBreach (evaluation : AlertRuleEvaluation) (state : AlertLifecycleState)
    (asOf : Timestamp) (candidate : ActiveAlertSeverity) : Except String AlertLifecycleResult := do
  let breachEvidence ← selectedEvidenceFor evaluation
  let consecutiveBreaches := startOrContinueBreach state candidate
  let required := requiredBreaches evaluation candidate
  let pendingState : AlertLifecycleState :=
    { state with
      breachEvidence := some breachEvidence
      breachSeverity := some candidate
      consecutiveBreaches
      consecutiveClears := 0
      phase := if state.status = .none then .pending else .active }
  if consecutiveBreaches < required then
    return { intent := none, state := pendingState }
  else if state.status = .warning ∧ candidate = .critical then
    return {
      intent := some
        (.escalate (activeIntentBase evaluation asOf) breachEvidence .warning .critical)
      state := { pendingState with
        activeEvidence := some breachEvidence
        breachEvidence := none
        breachSeverity := none
        consecutiveBreaches := 0
        lastNotificationAt := some asOf
        phase := .active
        status := .critical } }
  else if state.status = .none then
    if state.cooldownUntil ≠ none ∧ candidate = .warning then
      return { intent := none, state := { pendingState with consecutiveBreaches := required - 1 } }
    else
      return {
        intent := some (.open (activeIntentBase evaluation asOf) breachEvidence candidate)
        state := { pendingState with
          activeEvidence := some breachEvidence
          breachEvidence := none
          breachSeverity := none
          consecutiveBreaches := 0
          cooldownUntil := none
          lastNotificationAt := some asOf
          openedAt := some asOf
          phase := .active
          status := candidate.severity } }
  else
    stableActiveResult evaluation state asOf false

/-- The evaluations of an identity that has been bound, at the state whose watermark,
identity and cooldown are already those of this evaluation. -/
def advanceBound (evaluation : AlertRuleEvaluation) (state : AlertLifecycleState)
    (asOf : Timestamp) : Except String AlertLifecycleResult :=
  if evaluation.evidence = .unknown then
    .ok {
      intent := none
      state := { state with
        breachEvidence := none
        breachSeverity := none
        consecutiveBreaches := 0
        consecutiveClears := 0
        phase := if state.status = .none then .inactive else .active } }
  else
    match evaluation.severity.active? with
    | none => advanceClear evaluation state asOf
    | some candidate =>
      if state.status = .critical then
        stableActiveResult evaluation state asOf (candidate = .critical)
      else if state.status = .warning ∧ candidate = .warning then
        stableActiveResult evaluation state asOf true
      else
        advanceBreach evaluation state asOf candidate

structure AlertLifecycleInput where
  asOf : Timestamp
  observation : AlertObservationInput
  previous : AlertLifecycleState

def advanceAlertLifecycle (input : AlertLifecycleInput) : Except String AlertLifecycleResult := do
  let asOf := input.asOf
  let _ ← alertWindowsAt asOf
  let evaluation ← evaluateAlertRule input.observation
  throwIf (evaluation.asOf ≠ asOf) "lifecycle asOf must exactly match observation.asOf"
  let previous ← parseState input.previous asOf.ms
  let currentIdentity := identityFor evaluation
  -- A cooldown that has run out is dropped.
  let cooldownUntil := previous.cooldownUntil.filter fun cooldownUntil => asOf.ms < cooldownUntil.ms
  match previous.identity with
  | none =>
    if evaluation.evidence = .unknown ∨ evaluation.severity = .none then
      return { intent := none, state := previous }
    else
      advanceBound evaluation
        { previous with
          cooldownUntil, identity := some currentIdentity, lastEvaluatedAt := some asOf } asOf
  | some identity =>
    assertSameIdentity identity currentIdentity
    throwIf (previous.lastEvaluatedAt = none ∨
        ∃ lastEvaluatedAt ∈ previous.lastEvaluatedAt, asOf.ms ≤ lastEvaluatedAt.ms)
      "alert lifecycle evaluations must be strictly increasing"
    advanceBound evaluation
      { previous with cooldownUntil, identity := some identity, lastEvaluatedAt := some asOf } asOf

end pgid.alert
