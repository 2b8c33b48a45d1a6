import PgidSso.Alert.Queue.Source
import PgidSso.Alert.Rules.Evaluate.Outcome
import PgidSso.Alert.Runtime.Ledger

open checked

namespace pgid.alert

/-- The row of `ALERT_RUNTIME_SOURCE_QUERY`, whose joins may find nothing. -/
structure AlertRuntimeSourceProjection where
  bootstrapComponent : Option RuntimeComponent
  firstSuccessAt : Option Timestamp
  sourceGeneration : Option Int
  sourceRevision : Option Int
  runtimeComponent : Option RuntimeComponent
  runtimeStatus : Option RuntimeStatus
  runtimeGeneration : Option Int
  runtimeRevision : Option Int
  runtimeLastStartedAt : Option Timestamp
  runtimeLastSuccessAt : Option Timestamp
  runtimeLastErrorAt : Option Timestamp
  runtimeLastErrorCode : Option RuntimeErrorCode
  runtimeUpdatedAt : Option Timestamp
  deriving DecidableEq

def ALERT_RUNTIME_SOURCE_QUERY (ledger : Ledger) : AlertRuntimeSourceProjection where
  bootstrapComponent := ledger.bootstrap.map fun _ => .evaluator
  firstSuccessAt := ledger.bootstrap.map (·.firstSuccessAt)
  sourceGeneration := ledger.bootstrap.map (·.sourceGeneration)
  sourceRevision := ledger.bootstrap.map (·.sourceRevision)
  runtimeComponent := ledger.runtime.map (·.component)
  runtimeStatus := ledger.runtime.map (·.status)
  runtimeGeneration := ledger.runtime.map (·.generation)
  runtimeRevision := ledger.runtime.map (·.revision)
  runtimeLastStartedAt := ledger.runtime.bind (·.lastStartedAt)
  runtimeLastSuccessAt := ledger.runtime.bind (·.lastSuccessAt)
  runtimeLastErrorAt := ledger.runtime.bind (·.lastErrorAt)
  runtimeLastErrorCode := ledger.runtime.bind (·.lastErrorCode)
  runtimeUpdatedAt := ledger.runtime.map (·.updatedAt)

structure AlertRuntimeThresholdInput where
  evaluatorAgeSeconds : Option Int
  deriving DecidableEq

section completeness

def runtimeSourceInteger (value : Option Int) (minimum maximum : Int) : Option Int :=
  value.filter fun value => minimum ≤ value ∧ value ≤ maximum

/-- No time is known of an error, or one that is not after the row's, with its code. -/
def errorComplete (record : AlertRuntimeSourceProjection) (updatedAt : Timestamp) : Prop :=
  record.runtimeLastErrorAt.isSome = record.runtimeLastErrorCode.isSome ∧
    ∀ lastErrorAt ∈ record.runtimeLastErrorAt, lastErrorAt ≤ updatedAt

instance (record : AlertRuntimeSourceProjection) (updatedAt : Timestamp) :
    Decidable (errorComplete record updatedAt) :=
  inferInstanceAs (Decidable (_ ∧ ∀ lastErrorAt ∈ record.runtimeLastErrorAt, lastErrorAt ≤ updatedAt))

/-- The age of the last success, unless `missing()` is what the parser returns. -/
def evaluatorAge (record : AlertRuntimeSourceProjection) (asOf : Timestamp) : Option Int := do
  let firstSuccessAt ← record.firstSuccessAt
  let sourceGeneration ← runtimeSourceInteger record.sourceGeneration 1 MAX_SAFE_INTEGER
  let sourceRevision ← runtimeSourceInteger record.sourceRevision 1 MAX_SAFE_INTEGER
  guard (record.bootstrapComponent = some .evaluator ∧ firstSuccessAt ≤ asOf)
  let runtimeGeneration ← runtimeSourceInteger record.runtimeGeneration 0 MAX_SAFE_INTEGER
  let runtimeRevision ← runtimeSourceInteger record.runtimeRevision 0 MAX_SAFE_INTEGER
  let lastStartedAt ← record.runtimeLastStartedAt
  let lastSuccessAt ← record.runtimeLastSuccessAt
  let updatedAt ← record.runtimeUpdatedAt
  guard (record.runtimeComponent = some .evaluator ∧ record.runtimeStatus ≠ none ∧
    sourceGeneration ≤ runtimeGeneration ∧ sourceRevision ≤ runtimeRevision)
  guard (firstSuccessAt ≤ updatedAt ∧ lastStartedAt ≤ updatedAt ∧ firstSuccessAt ≤ lastSuccessAt ∧
    lastSuccessAt ≤ updatedAt ∧ updatedAt ≤ asOf)
  guard (errorComplete record updatedAt)
  let evaluatorAgeSeconds := (asOf.ms - lastSuccessAt.ms) / 1000
  guard (evaluatorAgeSeconds ≤ MAX_EVIDENCE_VALUE)
  return evaluatorAgeSeconds

/-- Nothing is returned before the sentinel exists. -/
def parseAlertRuntimeSourceCompleteness (record : AlertRuntimeSourceProjection) (asOf : Timestamp) :
    Option AlertRuntimeThresholdInput :=
  if record.bootstrapComponent = none ∧ record.firstSuccessAt = none ∧ record.sourceGeneration = none ∧
      record.sourceRevision = none then none
  else some ⟨evaluatorAge record asOf⟩

end completeness

inductive AlertRuntimeHealthSourceRepositoryErrorCode
  | invalidInput
  | sourceInvalid
  | sourceUnavailable
  deriving DecidableEq, Repr

/-- The row of `ALERT_RUNTIME_HEALTH_OUTBOX_QUERY`. -/
structure OutboxProjection where
  deadOutbox : Int
  pendingRetryDueCount : Int
  pendingRetryOldestDueAt : Option Timestamp
  pendingRetryNewestDueAt : Option Timestamp
  processingDueCount : Int
  processingOldestDueAt : Option Timestamp
  processingNewestDueAt : Option Timestamp
  deriving DecidableEq

structure ParsedOutboxProjection where
  deadOutbox : Int
  outboxDueAgeSeconds : Option Int
  overflow : Bool
  deriving DecidableEq

section outbox

/-- The count, and whether it is beyond what evidence holds. -/
def sourceCount (value : Int) : Except AlertRuntimeHealthSourceRepositoryErrorCode (Int × Bool) := do
  throwIf (value < 0 ∨ value > MAX_SAFE_INTEGER) AlertRuntimeHealthSourceRepositoryErrorCode.sourceInvalid
  return (value, decide (value > MAX_EVIDENCE_VALUE))

/-- The oldest of a range of due instants, whose texts have 24 characters. -/
def dueRange (count : Int) (oldest newest : Option Timestamp) (asOf : Timestamp) :
    Except AlertRuntimeHealthSourceRepositoryErrorCode (Option Timestamp) :=
  if count = 0 then do
    throwIf (oldest ≠ none ∨ newest ≠ none) AlertRuntimeHealthSourceRepositoryErrorCode.sourceInvalid
    return none
  else
    match oldest, newest with
    | some oldest, some newest => do
      throwIf (¬ oldest.FourDigitYear ∨ ¬ newest.FourDigitYear)
        AlertRuntimeHealthSourceRepositoryErrorCode.sourceInvalid
      throwIf (oldest > newest ∨ newest > asOf) AlertRuntimeHealthSourceRepositoryErrorCode.sourceInvalid
      return some oldest
    | _, _ => .error .sourceInvalid

/-- The earlier of two instants that may be missing. -/
def oldestDue : Option Timestamp → Option Timestamp → Option Timestamp
  | none, processing => processing
  | pendingRetry, none => pendingRetry
  | some pendingRetry, some processing => if pendingRetry < processing then pendingRetry else processing

def parseOutboxProjection (row : OutboxProjection) (asOf : Timestamp) :
    Except AlertRuntimeHealthSourceRepositoryErrorCode ParsedOutboxProjection := do
  let (dead, deadOverflow) ← sourceCount row.deadOutbox
  let (pendingRetry, pendingRetryOverflow) ← sourceCount row.pendingRetryDueCount
  let (processing, processingOverflow) ← sourceCount row.processingDueCount
  let pendingRetryOldest ←
    dueRange pendingRetry row.pendingRetryOldestDueAt row.pendingRetryNewestDueAt asOf
  let processingOldest ← dueRange processing row.processingOldestDueAt row.processingNewestDueAt asOf
  let dueCount := pendingRetry + processing
  throwIf (dueCount > MAX_SAFE_INTEGER) AlertRuntimeHealthSourceRepositoryErrorCode.sourceInvalid
  let overflow := deadOverflow || pendingRetryOverflow || processingOverflow ||
    decide (dueCount > MAX_EVIDENCE_VALUE)
  match oldestDue pendingRetryOldest processingOldest with
  | none => return { deadOutbox := dead, outboxDueAgeSeconds := none, overflow }
  | some oldestDueAt => do
    let age := (asOf.ms - oldestDueAt.ms) / 1000
    throwIf (age < 0) AlertRuntimeHealthSourceRepositoryErrorCode.sourceInvalid
    return { deadOutbox := dead, outboxDueAgeSeconds := some age,
             overflow := overflow || decide (age > MAX_EVIDENCE_VALUE) }

end outbox

structure IncompleteAlertSource where
  dimensionKind : AlertDimensionKind
  ruleId : AlertRuleId
  deriving DecidableEq, Repr

structure RuntimeHealthAlertSourceResult where
  incomplete : List IncompleteAlertSource
  observations : List AlertRuleObservation
  deriving DecidableEq

section reader

def runtimeHealthInput (asOf : Timestamp) (deadOutbox : Int) (evaluatorAgeSeconds outboxDueAgeSeconds : Option Int) :
    AlertObservationInput where
  asOf := asOf
  dimension := .global
  ruleId := .alertRuntimeHealth
  measures := .runtime { deadOutbox, evaluatorAgeSeconds, outboxDueAgeSeconds }

/-- The body of `readRuntimeHealthAlertSource` on the rows of its batch. -/
def runtimeHealthResult (projection : AlertRuntimeSourceProjection) (row : OutboxProjection) (asOf : Timestamp) :
    Except AlertRuntimeHealthSourceRepositoryErrorCode RuntimeHealthAlertSourceResult := do
  let outbox ← parseOutboxProjection row asOf
  match parseAlertRuntimeSourceCompleteness projection asOf with
  | none => return { incomplete := [], observations := [] }
  | some runtime =>
    if outbox.overflow then
      return { incomplete := [⟨.global, .alertRuntimeHealth⟩], observations := [] }
    else
      match parseAlertObservation
        (runtimeHealthInput asOf outbox.deadOutbox runtime.evaluatorAgeSeconds outbox.outboxDueAgeSeconds) with
      | .ok observation => return { incomplete := [], observations := [observation] }
      | .error _ => .error .sourceInvalid

/-- The batch reads the ledger and the outbox, unless it throws. -/
def readRuntimeHealthAlertSource (ledger : Ledger) (outbox : Option OutboxProjection) (asOf : Timestamp) :
    Except AlertRuntimeHealthSourceRepositoryErrorCode RuntimeHealthAlertSourceResult :=
  match alertWindowsAt asOf with
  | .error _ => .error .invalidInput
  | .ok _ =>
    match outbox with
    | none => .error .sourceUnavailable
    | some row => runtimeHealthResult (ALERT_RUNTIME_SOURCE_QUERY ledger) row asOf

end reader

/-- What the evaluator keeps of a source. -/
structure CollectedSource where
  status : EvaluatorSourceStatus
  incomplete : List IncompleteAlertSource
  observations : List AlertRuleObservation
  deriving DecidableEq

section collect

def failedSource (status : EvaluatorSourceStatus) : CollectedSource :=
  { status, incomplete := [], observations := [] }

def sourceErrorStatus : AlertRuntimeHealthSourceRepositoryErrorCode → EvaluatorSourceStatus
  | .invalidInput => .invalid
  | .sourceInvalid => .invalid
  | .sourceUnavailable => .unavailable

/-- An observation of the runtime source, parsed once more. -/
def normalizedObservation (asOf : Timestamp) (candidate : AlertRuleObservation) : Option AlertRuleObservation :=
  match parseAlertObservation candidate.input with
  | .ok observation =>
    if observation.asOf ≠ asOf ∨ observation.ruleId ≠ .alertRuntimeHealth then none else some observation
  | .error _ => none

/-- `completedSource` of `d1.alert_runtime`. Its reader returns at most one observation and one
incomplete rule, so that nothing is merged or sorted. -/
def completedRuntimeSource (asOf : Timestamp) (result : RuntimeHealthAlertSourceResult) : CollectedSource :=
  match result.observations.mapM (normalizedObservation asOf) with
  | some observations =>
    { status := if result.incomplete = [] then .complete else .partly
      incomplete := result.incomplete
      observations }
  | none => failedSource .invalid

/-- `collectSource` of `d1.alert_runtime`. -/
def collectRuntimeSource (ledger : Ledger) (outbox : Option OutboxProjection) (asOf : Timestamp) :
    CollectedSource :=
  match readRuntimeHealthAlertSource ledger outbox asOf with
  | .ok result => completedRuntimeSource asOf result
  | .error code => failedSource (sourceErrorStatus code)

end collect

section completed

variable {ledger : Ledger} {outbox : Option OutboxProjection} {asOf : Timestamp}

theorem parseRuntimeSnapshot_returns : Returns parseRuntimeSnapshot := by
  intro record result hresult
  simp only [parseRuntimeSnapshot, bind_eq_ok_iff, pure_eq_ok_iff, integer_eq_ok_iff, Option.some.injEq] at hresult
  obtain ⟨dead, ⟨rfl, -⟩, age, hage, due, hdue, rfl⟩ := hresult
  have hreturns : ∀ name : String, Returns fun value => integer (some value) name MAX_EVIDENCE_VALUE := by
    intro name value result hvalue
    exact (Option.some.inj (integer_eq_ok_iff.mp hvalue).1).symm
  rw [nullable_returns (hreturns "evaluator age") _ _ hage, nullable_returns (hreturns "outbox due age") _ _ hdue]

/-- The observation of a runtime snapshot. -/
def runtimeObservation (asOf : Timestamp) (snapshot : AlertRuntimeSnapshot) : AlertRuleObservation where
  asOf := asOf
  dimension := .global
  ruleId := .alertRuntimeHealth
  measures := .runtime snapshot

theorem runtimeObservation_input (snapshot : AlertRuntimeSnapshot) :
    (runtimeObservation asOf snapshot).input =
      runtimeHealthInput asOf snapshot.deadOutbox snapshot.evaluatorAgeSeconds snapshot.outboxDueAgeSeconds := rfl

/-- The parser returns the observation of a runtime snapshot as it is. -/
theorem parseAlertObservation_runtime {snapshot : AlertRuntimeSnapshot} {observation : AlertRuleObservation}
    (hparse : parseAlertObservation (runtimeObservation asOf snapshot).input = .ok observation) :
    observation = runtimeObservation asOf snapshot := by
  simp only [parseAlertObservation, bind_eq_ok_iff, pure_eq_ok_iff, parseAlertDimension_eq_ok_iff,
    parseMeasures] at hparse
  obtain ⟨dimension, ⟨-, rfl⟩, measures, ⟨parsed, hparsed, -, -, rfl⟩, rfl⟩ := hparse
  obtain ⟨result, hresult, rfl⟩ : ∃ result, parseRuntimeSnapshot snapshot = .ok result ∧ .runtime result = parsed := by
    simpa only [parseRuleMeasures, runtimeObservation, AlertObservation.input, AlertMeasures.map, bind_eq_ok_iff,
      pure_eq_ok_iff] using hparsed
  rw [parseRuntimeSnapshot_returns snapshot result hresult]
  rfl

/-- A complete source has nothing before the sentinel exists, and one observation after, of
the age that the runtime row proves. -/
theorem collectRuntimeSource_complete
    (hcomplete : (collectRuntimeSource ledger outbox asOf).status = .complete) :
    (ledger.bootstrap = none ∧ (collectRuntimeSource ledger outbox asOf).observations = []) ∨
      ledger.bootstrap ≠ none ∧ ∃ snapshot,
        snapshot.evaluatorAgeSeconds = evaluatorAge (ALERT_RUNTIME_SOURCE_QUERY ledger) asOf ∧
        (collectRuntimeSource ledger outbox asOf).observations = [runtimeObservation asOf snapshot] ∧
        parseAlertObservation (runtimeObservation asOf snapshot).input = .ok (runtimeObservation asOf snapshot) ∧
        -Timestamp.maximumMs + 3600000 ≤ asOf.ms := by
  unfold collectRuntimeSource at hcomplete ⊢
  cases hread : readRuntimeHealthAlertSource ledger outbox asOf with
  | error code =>
    rw [hread] at hcomplete
    cases code <;> cases hcomplete
  | ok result =>
    rw [hread] at hcomplete
    simp only at hcomplete ⊢
    unfold readRuntimeHealthAlertSource at hread
    cases hwindows : alertWindowsAt asOf with
    | error message =>
      rw [hwindows] at hread
      cases hread
    | ok windows =>
      cases outbox with
      | none =>
        rw [hwindows] at hread
        cases hread
      | some row =>
        rw [hwindows] at hread
        obtain ⟨parsed, -, hread⟩ := bind_eq_ok_iff.mp hread
        unfold parseAlertRuntimeSourceCompleteness at hread
        cases hbootstrap : ledger.bootstrap with
        | none =>
          left
          rw [if_pos (by simp only [ALERT_RUNTIME_SOURCE_QUERY, hbootstrap, Option.map_none, and_self])] at hread
          cases hread
          exact ⟨rfl, rfl⟩
        | some bootstrap =>
          right
          refine ⟨Option.some_ne_none bootstrap, ?_⟩
          rw [if_neg (by simp [ALERT_RUNTIME_SOURCE_QUERY, hbootstrap])] at hread
          simp only at hread
          split at hread
          · cases hread
            cases hcomplete
          · split at hread
            · rename_i observation hobservation
              cases hread
              let snapshot : AlertRuntimeSnapshot :=
                ⟨parsed.deadOutbox, evaluatorAge (ALERT_RUNTIME_SOURCE_QUERY ledger) asOf, parsed.outboxDueAgeSeconds⟩
              obtain rfl : observation = runtimeObservation asOf snapshot := parseAlertObservation_runtime hobservation
              have hnormalized : normalizedObservation asOf (runtimeObservation asOf snapshot) =
                  some (runtimeObservation asOf snapshot) := by
                unfold normalizedObservation
                rw [runtimeObservation_input, hobservation]
                exact if_neg (by simp [runtimeObservation])
              refine ⟨snapshot, rfl, ?_, hobservation, alertWindowsAt_ok_iff.mp ⟨windows, hwindows⟩⟩
              simp only [completedRuntimeSource, List.mapM_cons, List.mapM_nil, hnormalized]
              rfl
            · cases hread

end completed

end pgid.alert
