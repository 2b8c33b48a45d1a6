import PgidSso.Alert.Queue.Persisted

open checked

namespace pgid.alert

/-- The `oldestMessageTimestamp` of a binding: missing, a valid `Date`, or anything else. -/
inductive BindingDate
  | undefined
  | date (value : Timestamp)
  | invalid
  deriving DecidableEq

/-- The metrics of a Queue binding; a number that is not a safe integer is `none`. -/
structure QueueBindingMetrics where
  backlogBytes : Option Int
  backlogCount : Option Int
  oldestMessageTimestamp : BindingDate
  deriving DecidableEq

/-- What a provider's `metrics()` settles to. -/
inductive ProviderReading
  | unavailable
  | malformed
  | metrics (value : QueueBindingMetrics)
  deriving DecidableEq

inductive QueueMetricsPersistence
  | committed
  | replayed
  | unknown
  deriving DecidableEq, Repr

structure QueueMetricsAlertSourceResult where
  observation : AlertRuleObservation
  persistence : QueueMetricsPersistence
  deriving DecidableEq

/-- The body of `normalizeBindingMetrics` on a record with the keys of a binding. -/
def bindingSample (record : QueueBindingMetrics) (queue : AlertQueueName) (sampledAt : Timestamp) :
    Except AlertQueueSourceRepositoryErrorCode QueueMetricSample := do
  let backlogBytes ← boundedInteger record.backlogBytes MAX_BACKLOG_BYTES .sourceInvalid
  let backlogCount ← boundedInteger record.backlogCount MAX_BACKLOG_COUNT .sourceInvalid
  if backlogCount = 0 then do
    throwIf (backlogBytes ≠ 0 ∨ record.oldestMessageTimestamp ≠ .undefined)
      AlertQueueSourceRepositoryErrorCode.sourceInvalid
    return { backlogBytes, backlogCount, oldestMessageAgeSeconds := 0, queueName := queue, sampledAt }
  else
    match record.oldestMessageTimestamp with
    | .date oldest => do
      throwIf (oldest > sampledAt) AlertQueueSourceRepositoryErrorCode.sourceInvalid
      let age := (sampledAt.ms - oldest.ms) / 1000
      throwIf (age < 0 ∨ age > MAX_OLDEST_MESSAGE_AGE_SECONDS)
        AlertQueueSourceRepositoryErrorCode.sourceInvalid
      return { backlogBytes, backlogCount, oldestMessageAgeSeconds := age, queueName := queue, sampledAt }
    | _ => .error .sourceInvalid

def normalizeBindingMetrics (value : ProviderReading) (queue : AlertQueueName) (sampledAt : Timestamp) :
    Option QueueMetricSample :=
  match value with
  | .metrics record => (bindingSample record queue sampledAt).toOption
  | _ => none

/-- The measures of an observation, for a reader that checks them again. -/
def AlertMeasures.map {Queue Other : Type} (f : Queue → Other) : AlertMeasures Queue → AlertMeasures Other
  | .count windows => .count windows
  | .ratio windows => .ratio windows
  | .restricted windows => .restricted windows
  | .recoveryEntry windows => .recoveryEntry windows
  | .oauth windows => .oauth windows
  | .adminSensitive windows => .adminSensitive windows
  | .fanout snapshot => .fanout snapshot
  | .logout current windows => .logout current windows
  | .runtime snapshot => .runtime snapshot
  | .queue snapshot => .queue (f snapshot)

def QueueDepthSnapshot.binding (snapshot : QueueDepthSnapshot) : QueueBindingSnapshot where
  backlogBytes := snapshot.backlogBytes
  backlogCount := snapshot.backlogCount
  consecutiveNonzeroSamples := snapshot.consecutiveNonzeroSamples
  nonzeroSinceAt := snapshot.nonzeroSinceAt
  oldestMessageTimestamp :=
    match snapshot.oldestMessageTimestamp with
    | none => .absent
    | some oldest => .at oldest
  sampledAt := snapshot.sampledAt

/-- A parsed observation as the input of another parser. -/
def AlertObservation.input (observation : AlertRuleObservation) : AlertObservationInput :=
  { asOf := observation.asOf, dimension := observation.dimension, ruleId := observation.ruleId
    measures := observation.measures.map QueueDepthSnapshot.binding }

def queueObservation (asOf : Timestamp) (queue : AlertQueueName) (snapshot : QueueDepthSnapshot) :
    Except AlertQueueSourceRepositoryErrorCode AlertRuleObservation :=
  match parseAlertObservation
    { asOf, dimension := .queue queue, ruleId := .queueDlqApproximate, measures := .queue snapshot.binding } with
  | .ok observation => .ok observation
  | .error _ => .error .sourceInvalid

def unknownObservation (asOf : Timestamp) (queue : AlertQueueName) :
    Except AlertQueueSourceRepositoryErrorCode AlertRuleObservation :=
  queueObservation asOf queue
    { backlogBytes := none, backlogCount := none, consecutiveNonzeroSamples := none, nonzeroSinceAt := none,
      oldestMessageTimestamp := none, sampledAt := none }

/-- The result of a source whose sample could not be kept. -/
def unknownSource (sampledAt : Timestamp) (queue : AlertQueueName) :
    Except AlertQueueSourceRepositoryErrorCode QueueMetricsAlertSourceResult := do
  let observation ← unknownObservation sampledAt queue
  return { observation, persistence := .unknown }

/-- The result of a source whose sample was persisted with some outcome. -/
def persistedSource (sampledAt : Timestamp) (queue : AlertQueueName)
    (persisted : PersistQueueMetricSampleResult) :
    Except AlertQueueSourceRepositoryErrorCode QueueMetricsAlertSourceResult :=
  match persisted.snapshot, persisted.outcome with
  | some snapshot, .committed => do
    let observation ← queueObservation sampledAt queue snapshot
    return { observation, persistence := .committed }
  | some snapshot, .replayed => do
    let observation ← queueObservation sampledAt queue snapshot
    return { observation, persistence := .replayed }
  | _, _ => unknownSource sampledAt queue

/-- The provider has settled before the clock is read. -/
def readQueueMetricsAlertSource (table : RuntimeTable) (provider : ProviderReading) (queue : AlertQueueName)
    (sampledAt : Timestamp) :
    Except AlertQueueSourceRepositoryErrorCode QueueMetricsAlertSourceResult × RuntimeTable :=
  match normalizeBindingMetrics provider queue sampledAt with
  | none => (unknownSource sampledAt queue, table)
  | some sample =>
    match persistQueueMetricSample table sample with
    | (.ok persisted, next) => (persistedSource sampledAt queue persisted, next)
    | (.error _, next) => (unknownSource sampledAt queue, next)

section orchestration

def ALERT_QUEUE_NAMES : List AlertQueueName :=
  [.securityEventsDlq, .logoutDeliveriesDlq, .alertDeliveriesDlq, .auditArchiveDlq]

inductive AlertEvaluatorOrchestrationErrorCode
  | clockInvalid
  | evaluatorFailed
  | leaseLost
  | metricsUnavailable
  | sourceIncomplete
  deriving DecidableEq, Repr

/-- The variables of `monotonicClock`. -/
structure MonotonicClock where
  lastLogical : Option Int
  lastRaw : Option Timestamp

/-- The reading itself, if it is later than the last one returned, else the next millisecond. -/
def MonotonicClock.logicalTime (clock : MonotonicClock) (raw : Timestamp) : Int :=
  match clock.lastLogical with
  | none => raw.ms
  | some last => if raw.ms > last then raw.ms else last + 1

/-- One reading of the clock that `monotonicClock` returns. -/
def MonotonicClock.nextTime (clock : MonotonicClock) (raw : Timestamp) :
    Except AlertEvaluatorOrchestrationErrorCode (Timestamp × MonotonicClock) := do
  throwIf (∃ last ∈ clock.lastRaw, raw < last) AlertEvaluatorOrchestrationErrorCode.clockInvalid
  match Timestamp.ofMs (clock.logicalTime raw) with
  | .ok instant => return (instant, { lastLogical := some instant.ms, lastRaw := some raw })
  | .error _ => .error .clockInvalid

def scheduledTimestamp (value : Int) : Except AlertEvaluatorOrchestrationErrorCode Timestamp := do
  throwIf (value < 0) AlertEvaluatorOrchestrationErrorCode.clockInvalid
  match Timestamp.ofMs value with
  | .ok scheduledAt => return scheduledAt
  | .error _ => .error .clockInvalid

/-- What a run is given: its trigger, what its clock shows at the start and once the
providers have settled, and what they settle to. -/
structure EvaluatorRunInput where
  scheduledTime : Int
  startedReading : Timestamp
  barrierReading : Timestamp
  queueProviders : AlertQueueName → ProviderReading

/-- The `asOf` of `collectQueueMetricBarrier`: the second reading of the run's clock. -/
def queueMetricBarrierAsOf (input : EvaluatorRunInput) :
    Except AlertEvaluatorOrchestrationErrorCode Timestamp := do
  let scheduledAt ← scheduledTimestamp input.scheduledTime
  let (startedAt, clock) ← MonotonicClock.nextTime ⟨none, none⟩ input.startedReading
  throwIf (scheduledAt > startedAt) AlertEvaluatorOrchestrationErrorCode.clockInvalid
  let (asOf, _) ← clock.nextTime input.barrierReading
  return asOf

/-- `completedSource` of a queue: the observation is parsed once more, and has to be of the
run's instant and of the queue. -/
def completedQueueSource (asOf : Timestamp) (queue : AlertQueueName) (candidate : AlertRuleObservation) :
    Option AlertRuleObservation :=
  match parseAlertObservation candidate.input with
  | .ok observation =>
    if observation.asOf ≠ asOf ∨ observation.ruleId ≠ .queueDlqApproximate ∨
        observation.dimension ≠ .queue queue then none
    else some observation
  | .error _ => none

/-- One source of `collectQueueSources`, and the table it leaves; `none` if it failed. -/
def collectQueueSource (asOf : Timestamp) (providers : AlertQueueName → ProviderReading)
    (table : RuntimeTable) (queue : AlertQueueName) : Option AlertRuleObservation × RuntimeTable :=
  match readQueueMetricsAlertSource table (providers queue) queue asOf with
  | (.ok source, next) =>
    (if source.persistence = .unknown then none else completedQueueSource asOf queue source.observation, next)
  | (.error _, next) => (none, next)

/-- The loop of `collectQueueSources`. -/
def collectQueueSources (asOf : Timestamp) (providers : AlertQueueName → ProviderReading) :
    List AlertQueueName → RuntimeTable →
      List (AlertQueueName × Option AlertRuleObservation) × RuntimeTable
  | [], table => ([], table)
  | queue :: queues, table =>
    let (source, next) := collectQueueSource asOf providers table queue
    let (sources, last) := collectQueueSources asOf providers queues next
    ((queue, source) :: sources, last)

end orchestration

end pgid.alert
