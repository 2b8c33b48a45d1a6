import PgidSso.Library.Sql
import PgidSso.Library.Timestamp

open checked

namespace pgid.alert

inductive RuntimeComponent
  | evaluator
  | delivery
  | securityQueue
  | securityDlq
  | logoutQueue
  | logoutDlq
  | alertQueue
  | alertDlq
  | auditArchiveQueue
  | auditArchiveDlq
  | auditFanout
  deriving DecidableEq, Repr

inductive RuntimeStatus
  | disabled
  | healthy
  | degraded
  | failing
  | unavailable
  deriving DecidableEq, Repr

inductive RuntimeErrorCode
  | metricsUnavailable
  | evaluatorFailed
  | deliveryFailed
  | fanoutFailed
  | logoutFailed
  | sourceIncomplete
  | unknown
  deriving DecidableEq, Repr

/-- A row of `alert_runtime_status`. -/
structure RuntimeStatusRow where
  component : RuntimeComponent
  status : RuntimeStatus
  generation : Int
  revision : Int
  leaseId : Option String
  leaseExpiresAt : Option Timestamp
  lastStartedAt : Option Timestamp
  lastSuccessAt : Option Timestamp
  lastErrorAt : Option Timestamp
  lastErrorCode : Option RuntimeErrorCode
  metricSampledAt : Option Timestamp
  backlogCount : Option Int
  backlogBytes : Option Int
  oldestMessageAgeSeconds : Option Int
  nonzeroSinceAt : Option Timestamp
  consecutiveNonzeroSamples : Option Int
  watermarkAt : Option Timestamp
  updatedAt : Timestamp
  deriving DecidableEq

/-- `strftime('%Y-%m-%dT%H:%M:%fZ', instant, '+n seconds')`, `NULL` after the year 9999. -/
def strftime (instant : Timestamp) (seconds : Int) : Option Timestamp :=
  match Timestamp.ofMs (instant.ms + seconds * 1000) with
  | .ok later => if later.FourDigitYear then some later else none
  | .error _ => none

/-- The components that sample a queue. -/
def QUEUE_COMPONENTS : List RuntimeComponent :=
  [.securityQueue, .securityDlq, .logoutQueue, .logoutDlq, .alertQueue, .alertDlq, .auditArchiveQueue,
    .auditArchiveDlq]

def MAX_SAFE_INTEGER : Int := 9007199254740991

namespace RuntimeStatusRow

/-- A text column that is `NULL` or a canonical instant. -/
def canonicalCheck (instant : Option Timestamp) : sql.Truth :=
  sql.any [sql.isNull instant, instant.map fun instant => decide instant.FourDigitYear]

def integerCheck (value : Option Int) (maximum : Int) : sql.Truth :=
  sql.any [sql.isNull value, sql.between value 0 maximum]

/-- Nothing sampled, or a whole sample of a queue. -/
def metricCheck (row : RuntimeStatusRow) : sql.Truth :=
  sql.any [
    sql.all [sql.isNull row.metricSampledAt, sql.isNull row.backlogCount, sql.isNull row.backlogBytes,
      sql.isNull row.oldestMessageAgeSeconds, sql.isNull row.nonzeroSinceAt,
      sql.isNull row.consecutiveNonzeroSamples],
    sql.all [sql.isNotNull row.metricSampledAt, sql.within (some row.component) QUEUE_COMPONENTS,
      sql.isNotNull row.backlogCount, sql.isNotNull row.backlogBytes,
      sql.isNotNull row.oldestMessageAgeSeconds,
      sql.any [
        sql.all [sql.eq row.backlogCount (some 0), sql.isNull row.nonzeroSinceAt,
          sql.eq row.consecutiveNonzeroSamples (some 0)],
        sql.all [sql.lt (some 0) row.backlogCount, sql.isNotNull row.nonzeroSinceAt,
          sql.le row.nonzeroSinceAt row.metricSampledAt,
          sql.between row.consecutiveNonzeroSamples 1 1000000]]]]

/-- The `CHECK`s of the table, but for the length of a lease id. -/
def checks (row : RuntimeStatusRow) : List sql.Truth :=
  [sql.between (some row.generation) 0 MAX_SAFE_INTEGER, sql.between (some row.revision) 0 MAX_SAFE_INTEGER,
    canonicalCheck row.leaseExpiresAt, canonicalCheck row.lastStartedAt, canonicalCheck row.lastSuccessAt,
    canonicalCheck row.lastErrorAt, canonicalCheck row.metricSampledAt,
    integerCheck row.backlogCount 1000000000, integerCheck row.backlogBytes 1000000000000,
    integerCheck row.oldestMessageAgeSeconds 1000000000, canonicalCheck row.nonzeroSinceAt,
    integerCheck row.consecutiveNonzeroSamples 1000000, canonicalCheck row.watermarkAt,
    canonicalCheck (some row.updatedAt),
    sql.is (some row.leaseId.isNone) (some row.leaseExpiresAt.isNone),
    sql.any [sql.isNull row.leaseId,
      sql.all [sql.lt (some row.updatedAt) row.leaseExpiresAt,
        sql.le row.leaseExpiresAt (strftime row.updatedAt 300)]],
    sql.is (some row.lastErrorAt.isNone) (some row.lastErrorCode.isNone),
    row.metricCheck,
    sql.any [sql.isNull row.metricSampledAt, sql.le row.metricSampledAt (some row.updatedAt)],
    sql.any [sql.isNull row.lastStartedAt, sql.le row.lastStartedAt (some row.updatedAt)],
    sql.any [sql.isNull row.lastSuccessAt, sql.le row.lastSuccessAt (some row.updatedAt)],
    sql.any [sql.isNull row.lastErrorAt, sql.le row.lastErrorAt (some row.updatedAt)],
    sql.any [sql.isNull row.watermarkAt,
      sql.all [sql.isNotNull row.lastSuccessAt, sql.le row.watermarkAt row.lastSuccessAt]]]

/-- Every `CHECK` of the table passes. -/
def Checked (row : RuntimeStatusRow) : Prop :=
  ∀ check ∈ row.checks, sql.Passes check

instance (row : RuntimeStatusRow) : Decidable row.Checked :=
  inferInstanceAs (Decidable (∀ check ∈ row.checks, sql.Passes check))

/-- `alert_runtime_status_initial_guard`. -/
def initialGuard (row : RuntimeStatusRow) : sql.Truth :=
  sql.any [sql.ne (some row.generation) (some 0), sql.ne (some row.revision) (some 0),
    sql.isNotNull row.leaseId, sql.isNotNull row.leaseExpiresAt,
    sql.all [sql.eq (some row.component) (some .evaluator),
      sql.any [sql.ne (some row.status) (some .disabled), sql.isNotNull row.lastStartedAt,
        sql.isNotNull row.lastSuccessAt, sql.isNotNull row.lastErrorAt, sql.isNotNull row.lastErrorCode,
        sql.isNotNull row.watermarkAt]],
    sql.all [sql.lt (some 0) row.backlogCount,
      sql.any [sql.ne row.consecutiveNonzeroSamples (some 1),
        sql.ne row.nonzeroSinceAt row.metricSampledAt]]]

/-- The five ways in which an update may treat the lease. -/
def leaseTransition (old new : RuntimeStatusRow) : sql.Truth :=
  sql.any [
    sql.all [sql.isNull old.leaseId, sql.isNull new.leaseId, sql.eq (some new.generation) (some old.generation)],
    sql.all [sql.isNull old.leaseId, sql.isNotNull new.leaseId,
      sql.eq (some new.generation) (some (old.generation + 1))],
    sql.all [sql.isNotNull old.leaseId, sql.is new.leaseId old.leaseId,
      sql.eq (some new.generation) (some old.generation), sql.lt (some new.updatedAt) old.leaseExpiresAt,
      sql.le old.leaseExpiresAt new.leaseExpiresAt],
    sql.all [sql.isNotNull old.leaseId, sql.isNull new.leaseId,
      sql.eq (some new.generation) (some old.generation), sql.lt (some new.updatedAt) old.leaseExpiresAt],
    sql.all [sql.isNotNull old.leaseId, sql.isNotNull new.leaseId, sql.isNot new.leaseId old.leaseId,
      sql.eq (some new.generation) (some (old.generation + 1)),
      sql.le old.leaseExpiresAt (some new.updatedAt)]]

/-- An instant that is forgotten or goes back. -/
def regresses (old new : Option Timestamp) : sql.Truth :=
  sql.all [sql.isNotNull old, sql.any [sql.isNull new, sql.lt new old]]

/-- An instant that changes to one before the last start, or without a start. -/
def precedesStart (old new started : Option Timestamp) : sql.Truth :=
  sql.all [sql.isNot new old, sql.any [sql.isNull started, sql.lt new started]]

/-- The metric as it was, or a later sample that continues or restarts the streak. -/
def metricTransition (old new : RuntimeStatusRow) : sql.Truth :=
  let cadence := old.metricSampledAt.bind fun sampledAt => strftime sampledAt 60
  sql.any [
    sql.all [sql.is new.metricSampledAt old.metricSampledAt, sql.is new.backlogCount old.backlogCount,
      sql.is new.backlogBytes old.backlogBytes,
      sql.is new.oldestMessageAgeSeconds old.oldestMessageAgeSeconds,
      sql.is new.nonzeroSinceAt old.nonzeroSinceAt,
      sql.is new.consecutiveNonzeroSamples old.consecutiveNonzeroSamples],
    sql.all [sql.isNotNull new.metricSampledAt,
      sql.any [sql.isNull old.metricSampledAt, sql.lt old.metricSampledAt new.metricSampledAt],
      sql.any [
        sql.all [sql.eq new.backlogCount (some 0), sql.isNull new.nonzeroSinceAt,
          sql.eq new.consecutiveNonzeroSamples (some 0)],
        sql.all [sql.lt (some 0) new.backlogCount,
          sql.any [
            sql.all [sql.isNotNull old.metricSampledAt, sql.lt (some 0) old.backlogCount,
              sql.eq new.metricSampledAt cadence, sql.eq new.nonzeroSinceAt old.nonzeroSinceAt,
              sql.eq new.consecutiveNonzeroSamples (old.consecutiveNonzeroSamples.map (· + 1))],
            sql.all [
              sql.any [sql.isNull old.metricSampledAt, sql.eq old.backlogCount (some 0),
                sql.ne new.metricSampledAt cadence],
              sql.eq new.nonzeroSinceAt new.metricSampledAt,
              sql.eq new.consecutiveNonzeroSamples (some 1)]]]]]]

/-- `alert_runtime_status_transition_guard`. -/
def transitionGuard (old new : RuntimeStatusRow) : sql.Truth :=
  sql.any [sql.ne (some new.component) (some old.component),
    sql.ne (some new.revision) (some (old.revision + 1)),
    sql.le (some new.updatedAt) (some old.updatedAt), sql.not (leaseTransition old new),
    regresses old.lastStartedAt new.lastStartedAt, regresses old.lastSuccessAt new.lastSuccessAt,
    regresses old.lastErrorAt new.lastErrorAt, regresses old.watermarkAt new.watermarkAt,
    sql.not (sql.any [
      sql.all [sql.is new.lastErrorAt old.lastErrorAt, sql.is new.lastErrorCode old.lastErrorCode],
      sql.all [sql.isNotNull new.lastErrorAt,
        sql.any [sql.isNull old.lastErrorAt, sql.lt old.lastErrorAt new.lastErrorAt],
        sql.isNotNull new.lastErrorCode]]),
    precedesStart old.lastSuccessAt new.lastSuccessAt new.lastStartedAt,
    precedesStart old.lastErrorAt new.lastErrorAt new.lastStartedAt,
    sql.all [sql.isNotNull old.metricSampledAt, sql.isNull new.metricSampledAt],
    sql.all [sql.isNotNull old.metricSampledAt, sql.isNotNull new.metricSampledAt,
      sql.lt new.metricSampledAt old.metricSampledAt],
    sql.not (metricTransition old new)]

end RuntimeStatusRow

/-- `alert_runtime_status`, by its primary key. -/
abbrev RuntimeTable := RuntimeComponent → Option RuntimeStatusRow

/-- What aborts a statement on `alert_runtime_status`. -/
inductive RuntimeAbort
  | initialStatus
  | transition
  | check
  deriving DecidableEq

end pgid.alert
