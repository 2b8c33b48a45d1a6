import PgidSso.Alert.Rules.Evaluate
import PgidSso.Alert.Runtime.Status
import Mathlib.Logic.Function.Basic

open checked

namespace pgid.alert

inductive AlertQueueSourceRepositoryErrorCode
  | invalidInput
  | sourceInvalid
  | sourceUnavailable
  | writeFailed
  deriving DecidableEq, Repr

structure QueueMetricSample where
  backlogBytes : Int
  backlogCount : Int
  oldestMessageAgeSeconds : Int
  queueName : AlertQueueName
  sampledAt : Timestamp
  deriving DecidableEq

inductive QueueMetricPersistenceOutcome
  | committed
  | rejected
  | replayed
  deriving DecidableEq, Repr

structure PersistQueueMetricSampleResult where
  outcome : QueueMetricPersistenceOutcome
  snapshot : Option QueueDepthSnapshot
  deriving DecidableEq

def MAX_BACKLOG_COUNT : Int := 1000000000

def MAX_BACKLOG_BYTES : Int := 1000000000000

def MAX_OLDEST_MESSAGE_AGE_SECONDS : Int := 1000000000

def MAX_CONSECUTIVE_NONZERO_SAMPLES : Int := 1000000

def MAX_REVISION : Int := 1000000000

def MAX_LEASE_DURATION_MILLISECONDS : Int := 300000

def SAMPLE_CADENCE_MILLISECONDS : Int := 60000

/-- What each place of a version 4 UUID admits. -/
def UUID_V4_PATTERN : List (List Char) :=
  let digits := "0123456789abcdef".toList
  List.replicate 8 digits ++ [['-']] ++ List.replicate 4 digits ++ [['-'], ['4']] ++
    List.replicate 3 digits ++ [['-'], "89ab".toList] ++ List.replicate 3 digits ++ [['-']] ++
    List.replicate 12 digits

def isUuidV4 (value : String) : Bool :=
  value.toList.length = UUID_V4_PATTERN.length ∧
    ∀ place ∈ value.toList.zip UUID_V4_PATTERN, place.1 ∈ place.2

/-- The runtime component that samples a queue. -/
def ALERT_QUEUE_COMPONENTS : AlertQueueName → RuntimeComponent
  | .securityEventsDlq => .securityDlq
  | .logoutDeliveriesDlq => .logoutDlq
  | .alertDeliveriesDlq => .alertDlq
  | .auditArchiveDlq => .auditArchiveDlq

/-- The instants whose text has 24 characters. -/
def canonicalTimestamp (value : Timestamp) (code : AlertQueueSourceRepositoryErrorCode) :
    Except AlertQueueSourceRepositoryErrorCode Timestamp := do
  throwIf (¬ value.FourDigitYear) code
  return value

/-- A value that is not a safe integer is `none`. -/
def boundedInteger (value : Option Int) (maximum : Int) (code : AlertQueueSourceRepositoryErrorCode) :
    Except AlertQueueSourceRepositoryErrorCode Int :=
  match value with
  | none => .error code
  | some value => do
    throwIf (value < 0 ∨ value > maximum) code
    return value

def parseSample (value : QueueMetricSample) :
    Except AlertQueueSourceRepositoryErrorCode QueueMetricSample := do
  let backlogBytes ← boundedInteger (some value.backlogBytes) MAX_BACKLOG_BYTES .invalidInput
  let backlogCount ← boundedInteger (some value.backlogCount) MAX_BACKLOG_COUNT .invalidInput
  let oldestMessageAgeSeconds ←
    boundedInteger (some value.oldestMessageAgeSeconds) MAX_OLDEST_MESSAGE_AGE_SECONDS .invalidInput
  throwIf (backlogCount = 0 ∧ (backlogBytes ≠ 0 ∨ oldestMessageAgeSeconds ≠ 0))
    AlertQueueSourceRepositoryErrorCode.invalidInput
  let sampledAt ← canonicalTimestamp value.sampledAt .invalidInput
  return { backlogBytes, backlogCount, oldestMessageAgeSeconds, queueName := value.queueName, sampledAt }

section upsert

/-- The row that the `VALUES` of the upsert offer, with the defaults of its other columns. -/
def excluded (sample : QueueMetricSample) : RuntimeStatusRow where
  component := ALERT_QUEUE_COMPONENTS sample.queueName
  status := .disabled
  generation := 0
  revision := 0
  leaseId := none
  leaseExpiresAt := none
  lastStartedAt := none
  lastSuccessAt := none
  lastErrorAt := none
  lastErrorCode := none
  metricSampledAt := some sample.sampledAt
  backlogCount := some sample.backlogCount
  backlogBytes := some sample.backlogBytes
  oldestMessageAgeSeconds := some sample.oldestMessageAgeSeconds
  nonzeroSinceAt := if sample.backlogCount > 0 then some sample.sampledAt else none
  consecutiveNonzeroSamples := some (if sample.backlogCount > 0 then 1 else 0)
  watermarkAt := none
  updatedAt := sample.sampledAt

/-- The condition of the second `WHEN`: the sample continues the streak of the row. -/
def continuesStreak (row offered : RuntimeStatusRow) : sql.Truth :=
  sql.all [sql.isNotNull row.metricSampledAt, sql.lt (some 0) row.backlogCount,
    sql.eq offered.metricSampledAt (row.metricSampledAt.bind fun sampledAt => strftime sampledAt 60)]

/-- The `DO UPDATE SET` of the upsert. -/
def sampleUpdate (row offered : RuntimeStatusRow) : RuntimeStatusRow :=
  { row with
    revision := row.revision + 1
    metricSampledAt := offered.metricSampledAt
    backlogCount := offered.backlogCount
    backlogBytes := offered.backlogBytes
    oldestMessageAgeSeconds := offered.oldestMessageAgeSeconds
    nonzeroSinceAt :=
      if sql.Holds (sql.eq offered.backlogCount (some 0)) then none
      else if sql.Holds (continuesStreak row offered) then row.nonzeroSinceAt
      else offered.metricSampledAt
    consecutiveNonzeroSamples :=
      if sql.Holds (sql.eq offered.backlogCount (some 0)) then some 0
      else if sql.Holds (continuesStreak row offered) then row.consecutiveNonzeroSamples.map (· + 1)
      else some 1
    updatedAt := offered.updatedAt }

/-- The `WHERE` of the upsert. -/
def acceptsSample (row offered : RuntimeStatusRow) : sql.Truth :=
  sql.all [sql.lt (some row.revision) (some MAX_REVISION), sql.isNull row.leaseId,
    sql.lt (some row.updatedAt) (some offered.updatedAt),
    sql.any [sql.isNull row.metricSampledAt, sql.lt row.metricSampledAt offered.metricSampledAt]]

/-- The upsert, with the number of rows it changes. The offered row passes the guards of an
insert before the conflict with a row of its component is found. -/
def ALERT_QUEUE_METRIC_SAMPLE_UPSERT (sample : QueueMetricSample) (table : RuntimeTable) :
    Except RuntimeAbort (RuntimeTable × Int) := do
  let offered := excluded sample
  throwIf (sql.Holds offered.initialGuard) RuntimeAbort.initialStatus
  throwIf (¬ offered.Checked) RuntimeAbort.check
  match table offered.component with
  | none => return (Function.update table offered.component (some offered), 1)
  | some row =>
    if sql.Holds (acceptsSample row offered) then do
      let changed := sampleUpdate row offered
      throwIf (sql.Holds (RuntimeStatusRow.transitionGuard row changed)) RuntimeAbort.transition
      throwIf (¬ changed.Checked) RuntimeAbort.check
      return (Function.update table offered.component (some changed), 1)
    else return (table, 0)

end upsert

section projection

structure QueueMetricProjection where
  backlogBytes : Int
  backlogCount : Int
  component : RuntimeComponent
  consecutiveNonzeroSamples : Int
  leaseExpiresAt : Option Timestamp
  leaseId : Option String
  metricSampledAt : Timestamp
  nonzeroSinceAt : Option Timestamp
  oldestMessageAgeSeconds : Int
  revision : Int
  updatedAt : Timestamp
  deriving DecidableEq

/-- The lease of a row: both columns `NULL`, or a short lease that has not run out at the
last update. -/
def projectedLease (row : RuntimeStatusRow) (updatedAt : Timestamp) :
    Except AlertQueueSourceRepositoryErrorCode (Option String × Option Timestamp) :=
  match row.leaseId, row.leaseExpiresAt with
  | none, none => .ok (none, none)
  | some leaseId, some leaseExpiresAt => do
    throwIf (¬ isUuidV4 leaseId) AlertQueueSourceRepositoryErrorCode.sourceInvalid
    let expiresAt ← canonicalTimestamp leaseExpiresAt .sourceInvalid
    throwIf (expiresAt ≤ updatedAt ∨ expiresAt.ms - updatedAt.ms > MAX_LEASE_DURATION_MILLISECONDS)
      AlertQueueSourceRepositoryErrorCode.sourceInvalid
    return (some leaseId, some expiresAt)
  | _, _ => .error .sourceInvalid

/-- The streak of a sample: none of an empty backlog, else as many samples as minutes since
its first one. -/
def projectedStreak (row : RuntimeStatusRow) (metricSampledAt : Timestamp)
    (backlogCount backlogBytes oldestMessageAgeSeconds consecutiveNonzeroSamples : Int) :
    Except AlertQueueSourceRepositoryErrorCode (Option Timestamp) :=
  if backlogCount = 0 then do
    throwIf (backlogBytes ≠ 0 ∨ oldestMessageAgeSeconds ≠ 0 ∨ row.nonzeroSinceAt ≠ none ∨
      consecutiveNonzeroSamples ≠ 0) AlertQueueSourceRepositoryErrorCode.sourceInvalid
    return none
  else
    match row.nonzeroSinceAt with
    | none => .error .sourceInvalid
    | some nonzeroSinceAt => do
      throwIf (consecutiveNonzeroSamples < 1) AlertQueueSourceRepositoryErrorCode.sourceInvalid
      let nonzeroSinceAt ← canonicalTimestamp nonzeroSinceAt .sourceInvalid
      throwIf (metricSampledAt.ms - nonzeroSinceAt.ms ≠
          (consecutiveNonzeroSamples - 1) * SAMPLE_CADENCE_MILLISECONDS)
        AlertQueueSourceRepositoryErrorCode.sourceInvalid
      return some nonzeroSinceAt

def parseProjection (row : RuntimeStatusRow) (expectedComponent : RuntimeComponent) :
    Except AlertQueueSourceRepositoryErrorCode (Option QueueMetricProjection) := do
  throwIf (row.component ≠ expectedComponent) AlertQueueSourceRepositoryErrorCode.sourceInvalid
  let revision ← boundedInteger (some row.revision) MAX_REVISION .sourceInvalid
  let updatedAt ← canonicalTimestamp row.updatedAt .sourceInvalid
  let (leaseId, leaseExpiresAt) ← projectedLease row updatedAt
  match row.metricSampledAt, row.backlogCount, row.backlogBytes, row.oldestMessageAgeSeconds,
    row.consecutiveNonzeroSamples with
  | some metricSampledAt, some backlogCount, some backlogBytes, some oldestMessageAgeSeconds,
    some consecutiveNonzeroSamples => do
    let metricSampledAt ← canonicalTimestamp metricSampledAt .sourceInvalid
    throwIf (metricSampledAt > updatedAt) AlertQueueSourceRepositoryErrorCode.sourceInvalid
    let backlogCount ← boundedInteger (some backlogCount) MAX_BACKLOG_COUNT .sourceInvalid
    let backlogBytes ← boundedInteger (some backlogBytes) MAX_BACKLOG_BYTES .sourceInvalid
    let oldestMessageAgeSeconds ←
      boundedInteger (some oldestMessageAgeSeconds) MAX_OLDEST_MESSAGE_AGE_SECONDS .sourceInvalid
    let consecutiveNonzeroSamples ←
      boundedInteger (some consecutiveNonzeroSamples) MAX_CONSECUTIVE_NONZERO_SAMPLES .sourceInvalid
    let nonzeroSinceAt ← projectedStreak row metricSampledAt backlogCount backlogBytes
      oldestMessageAgeSeconds consecutiveNonzeroSamples
    return some { backlogBytes, backlogCount, component := expectedComponent, consecutiveNonzeroSamples,
                  leaseExpiresAt, leaseId, metricSampledAt, nonzeroSinceAt, oldestMessageAgeSeconds,
                  revision, updatedAt }
  | none, none, none, none, none => do
    throwIf (row.nonzeroSinceAt ≠ none) AlertQueueSourceRepositoryErrorCode.sourceInvalid
    return none
  | _, _, _, _, _ => .error .sourceInvalid

def snapshotFromProjection (projection : QueueMetricProjection) :
    Except AlertQueueSourceRepositoryErrorCode QueueDepthSnapshot := do
  let oldestMessageTimestamp ←
    if projection.backlogCount = 0 then .ok none
    else
      match Timestamp.ofMs (projection.metricSampledAt.ms - projection.oldestMessageAgeSeconds * 1000) with
      | .ok oldest => .ok (some oldest)
      | .error _ => .error .sourceInvalid
  return { backlogBytes := some projection.backlogBytes
           backlogCount := some projection.backlogCount
           consecutiveNonzeroSamples := some projection.consecutiveNonzeroSamples
           nonzeroSinceAt := projection.nonzeroSinceAt
           oldestMessageTimestamp
           sampledAt := some projection.metricSampledAt }

def projectionOwnsSample (projection : QueueMetricProjection) (sample : QueueMetricSample) : Bool :=
  projection.updatedAt = sample.sampledAt ∧ projection.leaseId = none ∧
    projection.leaseExpiresAt = none ∧ projection.metricSampledAt = sample.sampledAt ∧
    projection.backlogCount = sample.backlogCount ∧ projection.backlogBytes = sample.backlogBytes ∧
    projection.oldestMessageAgeSeconds = sample.oldestMessageAgeSeconds

end projection

/-- What a call answers from the number of changed rows and the row of its component. -/
def persistedResult (sample : QueueMetricSample) (changed : Int) (row : Option RuntimeStatusRow) :
    Except AlertQueueSourceRepositoryErrorCode PersistQueueMetricSampleResult :=
  match row with
  | none => .error .sourceInvalid
  | some row => do
    let projection ← parseProjection row (ALERT_QUEUE_COMPONENTS sample.queueName)
    match projection.filter fun projection => projectionOwnsSample projection sample with
    | some projection => do
      let snapshot ← snapshotFromProjection projection
      return { outcome := if changed = 1 then .committed else .replayed, snapshot := some snapshot }
    | none => do
      throwIf (changed = 1) AlertQueueSourceRepositoryErrorCode.sourceInvalid
      return { outcome := .rejected, snapshot := none }

/-- One call: its three statements are one transaction. -/
def persistQueueMetricSample (table : RuntimeTable) (inputValue : QueueMetricSample) :
    Except AlertQueueSourceRepositoryErrorCode PersistQueueMetricSampleResult × RuntimeTable :=
  match parseSample inputValue with
  | .error code => (.error code, table)
  | .ok sample =>
    match ALERT_QUEUE_METRIC_SAMPLE_UPSERT sample table with
    | .error _ => (.error .writeFailed, table)
    | .ok (next, changed) =>
      (persistedResult sample changed (next (ALERT_QUEUE_COMPONENTS sample.queueName)), next)

end pgid.alert
