import PgidSso.Alert.Rules.Evaluate.Outcome

open checked

namespace pgid.alert

inductive AlertLifecyclePhase
  | active
  | inactive
  | pending
  deriving DecidableEq, Repr

structure AlertLifecycleIdentity where
  dimension : AlertDimension
  ruleId : AlertRuleId
  deriving DecidableEq

structure AlertLifecycleState where
  activeEvidence : Option AlertSelectedEvidence
  breachEvidence : Option AlertSelectedEvidence
  breachSeverity : Option ActiveAlertSeverity
  consecutiveBreaches : Int
  consecutiveClears : Int
  cooldownUntil : Option Timestamp
  identity : Option AlertLifecycleIdentity
  lastEvaluatedAt : Option Timestamp
  lastNotificationAt : Option Timestamp
  openedAt : Option Timestamp
  phase : AlertLifecyclePhase
  status : AlertSeverity
  deriving DecidableEq

inductive AlertIntentMode
  | observeOnly
  deriving DecidableEq, Repr

structure ObserveOnlyIntentBase where
  «at» : Timestamp
  dimension : AlertDimension
  mode : AlertIntentMode
  ruleId : AlertRuleId
  deriving DecidableEq

inductive AlertActionIntent
  | open (base : ObserveOnlyIntentBase) (evidence : AlertSelectedEvidence)
      (severity : ActiveAlertSeverity)
  | escalate (base : ObserveOnlyIntentBase) (evidence : AlertSelectedEvidence)
      (fromSeverity severity : ActiveAlertSeverity)
  | remind (base : ObserveOnlyIntentBase) (evidence : AlertSelectedEvidence)
      (severity : ActiveAlertSeverity)
  | resolve (base : ObserveOnlyIntentBase) (fromSeverity : ActiveAlertSeverity)
      (severity : AlertSeverity)
  deriving DecidableEq

structure AlertLifecycleResult where
  intent : Option AlertActionIntent
  state : AlertLifecycleState
  deriving DecidableEq

def inactiveAlertState : AlertLifecycleState :=
  { activeEvidence := none
    breachEvidence := none
    breachSeverity := none
    consecutiveBreaches := 0
    consecutiveClears := 0
    cooldownUntil := none
    identity := none
    lastEvaluatedAt := none
    lastNotificationAt := none
    openedAt := none
    phase := .inactive
    status := .none }

def counter (value : Int) (name : String) (maximum : Int) : Except String Int :=
  if value < 0 ∨ maximum < value then
    .error s!"{name} must be an integer between 0 and {maximum}"
  else .ok value

theorem counter_eq_ok_iff {value result maximum : Int} {name : String} :
    counter value name maximum = .ok result ↔ result = value ∧ 0 ≤ value ∧ value ≤ maximum := by
  unfold counter
  split
  · simp only [reduceCtorEq, false_iff]
    omega
  · simp only [Except.ok.injEq]
    omega

def parseIdentity (value : AlertLifecycleIdentity) : Except String AlertLifecycleIdentity := do
  let dimension ←
    parseAlertDimension value.dimension (ALERT_RULE_DEFINITIONS value.ruleId).dimensions
  return { dimension, ruleId := value.ruleId }

def parseEvidence (identity : Option AlertLifecycleIdentity) (evidence : AlertSelectedEvidence) :
    Except String AlertSelectedEvidence :=
  match identity with
  | none => .error "alert lifecycle evidence requires a bound identity"
  | some identity => parseAlertSelectedEvidenceForRule evidence identity.ruleId

/-- `name cannot be in the future`, for one of the recorded instants. -/
def notInFuture (name : String) (asOfMs : Int) (value : Option Timestamp) : Except String Unit :=
  throwIf (∃ instant ∈ value, instant.ms > asOfMs) s!"{name} cannot be in the future"

/-- The fields that the phase of a state allows and requires. -/
def validatePhase (state : AlertLifecycleState) : Except String Unit :=
  match state.phase with
  | .inactive =>
    throwIf (state.status ≠ .none ∨ state.activeEvidence ≠ none ∨ state.breachEvidence ≠ none ∨
        state.openedAt ≠ none ∨ state.lastNotificationAt ≠ none ∨ state.breachSeverity ≠ none ∨
        state.consecutiveBreaches ≠ 0 ∨ state.consecutiveClears ≠ 0 ∨
        (state.identity = none ∧ state.cooldownUntil ≠ none))
      "inactive alert state cannot carry active evidence"
  | .pending =>
    throwIf (state.status ≠ .none ∨ state.activeEvidence ≠ none ∨ state.breachEvidence = none ∨
        state.identity = none ∨ state.openedAt ≠ none ∨ state.lastNotificationAt ≠ none ∨
        state.breachSeverity = none ∨ state.consecutiveBreaches = 0 ∨ state.consecutiveClears ≠ 0)
      "pending alert state requires only an unconfirmed breach"
  | .active => do
    throwIf (state.status = .none ∨ state.activeEvidence = none ∨
        (∃ evidence ∈ state.activeEvidence, evidence.severity.severity ≠ state.status) ∨
        state.identity = none ∨ state.openedAt = none ∨ state.lastNotificationAt = none ∨
        state.cooldownUntil ≠ none)
      "active alert state is inconsistent"
    throwIf (state.breachSeverity ≠ none ∧
        ¬ (state.status = .warning ∧ state.breachSeverity = some .critical))
      "only an active warning may carry a pending critical breach"

/-- The checks between the fields of a state, in the order of the source. -/
def validateState (state : AlertLifecycleState) (asOfMs : Int) : Except String Unit := do
  throwIf (¬ (state.breachSeverity = none ↔ state.consecutiveBreaches = 0))
    "breach severity and consecutive breach count must agree"
  throwIf (¬ (state.breachEvidence = none ↔ state.breachSeverity = none) ∨
      ∃ evidence ∈ state.breachEvidence, some evidence.severity ≠ state.breachSeverity)
    "breach evidence must match the pending breach severity"
  throwIf (state.consecutiveBreaches > 0 ∧ state.consecutiveClears > 0)
    "breach and clear counters cannot both be active"
  throwIf (¬ (state.identity = none ↔ state.lastEvaluatedAt = none))
    "alert lifecycle identity and evaluation watermark must agree"
  throwIf (∃ cooldownUntil ∈ state.cooldownUntil, state.lastEvaluatedAt = none ∨
      ∃ lastEvaluatedAt ∈ state.lastEvaluatedAt,
        cooldownUntil.ms - lastEvaluatedAt.ms > ALERT_RULE_POLICY.cooldownMs)
    "alert lifecycle cooldown exceeds the canonical interval"
  validatePhase state
  notInFuture "openedAt" asOfMs state.openedAt
  notInFuture "lastEvaluatedAt" asOfMs state.lastEvaluatedAt
  notInFuture "lastNotificationAt" asOfMs state.lastNotificationAt
  throwIf (∃ lastEvaluatedAt ∈ state.lastEvaluatedAt,
      (∃ openedAt ∈ state.openedAt, openedAt.ms > lastEvaluatedAt.ms) ∨
        ∃ lastNotificationAt ∈ state.lastNotificationAt, lastNotificationAt.ms > lastEvaluatedAt.ms)
    "alert lifecycle timestamps cannot exceed its watermark"
  throwIf (∃ openedAt ∈ state.openedAt, ∃ lastNotificationAt ∈ state.lastNotificationAt,
      lastNotificationAt.ms < openedAt.ms)
    "lastNotificationAt cannot precede openedAt"

def parseState (value : AlertLifecycleState) (asOfMs : Int) : Except String AlertLifecycleState := do
  let identity ← nullable parseIdentity value.identity
  let activeEvidence ← nullable (parseEvidence identity) value.activeEvidence
  let breachEvidence ← nullable (parseEvidence identity) value.breachEvidence
  let consecutiveBreaches ← counter value.consecutiveBreaches "consecutive breaches" 1
  let consecutiveClears ← counter value.consecutiveClears "consecutive clears" 4
  let state : AlertLifecycleState :=
    { activeEvidence, breachEvidence, breachSeverity := value.breachSeverity, consecutiveBreaches,
      consecutiveClears, cooldownUntil := value.cooldownUntil, identity,
      lastEvaluatedAt := value.lastEvaluatedAt, lastNotificationAt := value.lastNotificationAt,
      openedAt := value.openedAt, phase := value.phase, status := value.status }
  validateState state asOfMs
  return state

/-- The reference of a hashed dimension is compared by its two fields; a dimension kind
never equals another one. -/
def sameDimension (left right : AlertDimension) : Bool :=
  match left, right with
  | .global, .global => true
  | .queue leftQueue, .queue rightQueue => leftQueue = rightQueue
  | .hashed leftKind leftReference, .hashed rightKind rightReference =>
    leftKind = rightKind ∧ leftReference.keyVersion = rightReference.keyVersion ∧
      leftReference.value = rightReference.value
  | _, _ => false

@[simp] theorem sameDimension_iff {left right : AlertDimension} :
    sameDimension left right = true ↔ left = right := by
  cases left with
  | global => cases right <;> simp [sameDimension]
  | queue leftQueue => cases right <;> simp [sameDimension]
  | hashed leftKind leftReference =>
    cases right with
    | global => simp [sameDimension]
    | queue rightQueue => simp [sameDimension]
    | hashed rightKind rightReference =>
      obtain ⟨leftVersion, leftValue⟩ := leftReference
      obtain ⟨rightVersion, rightValue⟩ := rightReference
      simp [sameDimension]

end pgid.alert
