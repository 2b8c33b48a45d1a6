import PgidSso.Alert.Runtime.Status

open checked

namespace pgid.alert

inductive EvaluatorRunStatus
  | running
  | sealed
  | succeeded
  | failed
  | abandoned
  deriving DecidableEq, Repr

inductive AlertEvaluatorSourceId
  | queueSecurityEventsDlq
  | queueLogoutDeliveriesDlq
  | queueAlertDeliveriesDlq
  | queueAuditArchiveDlq
  | d1Audit
  | d1OauthClientReport
  | d1SecurityFanoutGap
  | d1LogoutDelivery
  | d1AlertRuntime
  deriving DecidableEq, Repr

inductive EvaluatorSourceStatus
  | complete
  | partly
  | unavailable
  | invalid
  deriving DecidableEq, Repr

inductive EvaluatorDisposition
  | applied
  | noStateChange
  | suppressedPartial
  deriving DecidableEq, Repr

/-- A row of `alert_evaluator_run`. -/
structure EvaluatorRunRow where
  id : String
  triggerScheduledAt : Timestamp
  runtimeGeneration : Int
  acquiredRevision : Int
  leaseRevision : Int
  leaseId : String
  startedAt : Timestamp
  leaseUpdatedAt : Timestamp
  leaseExpiresAt : Timestamp
  asOf : Option Timestamp
  sourceCount : Option Int
  partialSourceCount : Option Int
  sourceManifestSha256 : Option String
  decisionCount : Option Int
  decisionManifestSha256 : Option String
  status : EvaluatorRunStatus
  completedAt : Option Timestamp
  watermarkAt : Option Timestamp
  terminalRuntimeRevision : Option Int
  failureStatus : Option RuntimeStatus
  failureErrorCode : Option RuntimeErrorCode
  createdAt : Timestamp
  updatedAt : Timestamp
  deriving DecidableEq

/-- A row of `alert_evaluator_run_source`. -/
structure EvaluatorSourceRow where
  runId : String
  sourceId : AlertEvaluatorSourceId
  asOf : Timestamp
  status : EvaluatorSourceStatus
  observationCount : Int
  incompleteCount : Int
  proofSha256 : String
  runtimeGeneration : Int
  runtimeRevision : Int
  recordedAt : Timestamp
  deriving DecidableEq

/-- A row of `alert_evaluator_run_decision`. -/
structure EvaluatorDecisionRow where
  runId : String
  sourceId : AlertEvaluatorSourceId
  ordinal : Int
  identitySha256 : String
  evaluationSha256 : String
  decisionSha256 : String
  disposition : EvaluatorDisposition
  asOf : Timestamp
  stateId : Option String
  stateGeneration : Option Int
  stateRevision : Option Int
  runtimeGeneration : Int
  runtimeRevision : Int
  recordedAt : Timestamp
  deriving DecidableEq

/-- The row of `alert_evaluator_bootstrap`. -/
structure EvaluatorBootstrapRow where
  firstSuccessAt : Timestamp
  sourceGeneration : Int
  sourceRevision : Int
  deriving DecidableEq

/-- The columns of `alert_state` that a decision proof names. -/
structure AlertStateCoordinates where
  id : String
  generation : Int
  revision : Int
  lastEvaluatedAt : Timestamp
  deriving DecidableEq

/-- The runtime row of the evaluator and the tables that prove its runs. -/
structure Ledger where
  runtime : Option RuntimeStatusRow
  runs : List EvaluatorRunRow
  sources : List EvaluatorSourceRow
  decisions : List EvaluatorDecisionRow
  bootstrap : Option EvaluatorBootstrapRow
  states : List AlertStateCoordinates

/-- What aborts a statement on the ledger. -/
inductive LedgerAbort
  | check
  | primaryKey
  | foreignKey
  | initialRuntime
  | runtimeTransition
  | runtimeLease
  | runtimeIdle
  | runtimeTerminal
  | terminalize
  | initialRun
  | runImmutable
  | runTransition
  | acquire
  | renew
  | metadata
  | sourceProof
  | sourceImmutable
  | decisionProof
  | decisionImmutable
  | bootstrap
  deriving DecidableEq

namespace EvaluatorRunRow

/-- The run holds the lease still. -/
def Live (run : EvaluatorRunRow) : Prop :=
  run.status = .running ∨ run.status = .sealed

instance (run : EvaluatorRunRow) : Decidable run.Live :=
  inferInstanceAs (Decidable (_ ∨ _))

def fourDigit (instant : Timestamp) : sql.Truth :=
  sql.fact instant.FourDigitYear

/-- The manifests are all `NULL`, or those of nine sources. -/
def manifestCheck (run : EvaluatorRunRow) : sql.Truth :=
  sql.any [
    sql.all [sql.isNull run.sourceCount, sql.isNull run.partialSourceCount,
      sql.isNull run.sourceManifestSha256, sql.isNull run.decisionCount,
      sql.isNull run.decisionManifestSha256],
    sql.all [sql.isNotNull run.asOf, sql.eq run.sourceCount (some 9), sql.isNotNull run.partialSourceCount,
      sql.isNotNull run.sourceManifestSha256, sql.isNotNull run.decisionCount,
      sql.isNotNull run.decisionManifestSha256]]

/-- Neither completed nor failed. -/
def unfinished (run : EvaluatorRunRow) : sql.Truth :=
  sql.all [sql.isNull run.completedAt, sql.isNull run.watermarkAt, sql.isNull run.terminalRuntimeRevision,
    sql.isNull run.failureStatus, sql.isNull run.failureErrorCode]

/-- The columns that each status requires. -/
def statusCheck (run : EvaluatorRunRow) : sql.Truth :=
  sql.any [
    sql.all [sql.fact (run.status = .running), sql.isNull run.sourceCount, run.unfinished],
    sql.all [sql.fact (run.status = .sealed), sql.eq run.sourceCount (some 9), run.unfinished],
    sql.all [sql.fact (run.status = .succeeded), sql.eq run.sourceCount (some 9),
      sql.eq run.partialSourceCount (some 0), sql.isNotNull run.completedAt,
      sql.eq run.watermarkAt run.asOf, sql.eq run.terminalRuntimeRevision (some (run.leaseRevision + 1)),
      sql.isNull run.failureStatus, sql.isNull run.failureErrorCode],
    sql.all [sql.fact (run.status = .failed), sql.isNotNull run.completedAt, sql.isNull run.watermarkAt,
      sql.eq run.terminalRuntimeRevision (some (run.leaseRevision + 1)), sql.isNotNull run.failureStatus,
      sql.isNotNull run.failureErrorCode,
      sql.any [
        sql.all [sql.eq run.failureStatus (some .degraded), sql.eq run.failureErrorCode (some .sourceIncomplete)],
        sql.all [sql.eq run.failureStatus (some .unavailable),
          sql.eq run.failureErrorCode (some .metricsUnavailable)],
        sql.all [sql.eq run.failureStatus (some .failing),
          sql.within run.failureErrorCode [.evaluatorFailed, .unknown]]]],
    sql.all [sql.fact (run.status = .abandoned), sql.isNotNull run.completedAt,
      sql.le (some run.leaseExpiresAt) run.completedAt, sql.isNull run.watermarkAt,
      sql.isNull run.terminalRuntimeRevision, sql.isNull run.failureStatus,
      sql.isNull run.failureErrorCode]]

/-- The `CHECK`s of the table, but for the shape of its ids and digests. -/
def checks (run : EvaluatorRunRow) : List sql.Truth :=
  [fourDigit run.triggerScheduledAt, sql.between (some run.runtimeGeneration) 1 MAX_SAFE_INTEGER,
    sql.between (some run.acquiredRevision) 1 (MAX_SAFE_INTEGER - 1),
    sql.between (some run.leaseRevision) 1 (MAX_SAFE_INTEGER - 1),
    sql.le (some run.acquiredRevision) (some run.leaseRevision),
    fourDigit run.startedAt, fourDigit run.leaseUpdatedAt, fourDigit run.leaseExpiresAt,
    RuntimeStatusRow.canonicalCheck run.asOf, sql.any [sql.isNull run.sourceCount, sql.eq run.sourceCount (some 9)],
    RuntimeStatusRow.integerCheck run.partialSourceCount 9,
    RuntimeStatusRow.integerCheck run.decisionCount 10000,
    RuntimeStatusRow.canonicalCheck run.completedAt, RuntimeStatusRow.canonicalCheck run.watermarkAt,
    sql.any [sql.isNull run.terminalRuntimeRevision,
      sql.between run.terminalRuntimeRevision 2 MAX_SAFE_INTEGER],
    sql.any [sql.isNull run.failureStatus, sql.within run.failureStatus [.degraded, .failing, .unavailable]],
    sql.any [sql.isNull run.failureErrorCode,
      sql.within run.failureErrorCode [.evaluatorFailed, .metricsUnavailable, .sourceIncomplete, .unknown]],
    fourDigit run.createdAt, fourDigit run.updatedAt,
    sql.le (some run.triggerScheduledAt) (some run.startedAt), sql.eq (some run.createdAt) (some run.startedAt),
    sql.le (some run.startedAt) (some run.leaseUpdatedAt), sql.lt (some run.leaseUpdatedAt) (some run.leaseExpiresAt),
    sql.le (some run.leaseExpiresAt) (strftime run.leaseUpdatedAt 300),
    sql.le (some run.createdAt) (some run.updatedAt), run.manifestCheck, run.statusCheck,
    sql.any [sql.isNull run.completedAt,
      sql.all [sql.le (some run.startedAt) run.completedAt, sql.eq (some run.updatedAt) run.completedAt]]]

def Checked (run : EvaluatorRunRow) : Prop :=
  ∀ check ∈ run.checks, sql.Passes check

instance (run : EvaluatorRunRow) : Decidable run.Checked :=
  inferInstanceAs (Decidable (∀ check ∈ run.checks, sql.Passes check))

/-- The manifests of the run are those of the other. -/
def sameManifests (new old : EvaluatorRunRow) : sql.Truth :=
  sql.all [sql.is new.sourceCount old.sourceCount, sql.is new.partialSourceCount old.partialSourceCount,
    sql.is new.sourceManifestSha256 old.sourceManifestSha256, sql.is new.decisionCount old.decisionCount,
    sql.is new.decisionManifestSha256 old.decisionManifestSha256]

/-- The lease of the run is that of the other. -/
def sameLease (new old : EvaluatorRunRow) : sql.Truth :=
  sql.all [sql.fact (new.leaseRevision = old.leaseRevision), sql.fact (new.leaseUpdatedAt = old.leaseUpdatedAt),
    sql.fact (new.leaseExpiresAt = old.leaseExpiresAt)]

/-- The runtime row holds the lease of the run. -/
def HeldBy (run : EvaluatorRunRow) (runtime : RuntimeStatusRow) : Prop :=
  runtime.generation = run.runtimeGeneration ∧ runtime.revision = run.leaseRevision ∧
    runtime.leaseId = some run.leaseId ∧ runtime.leaseExpiresAt = some run.leaseExpiresAt

instance (run : EvaluatorRunRow) (runtime : RuntimeStatusRow) : Decidable (run.HeldBy runtime) :=
  inferInstanceAs (Decidable (_ ∧ _ ∧ _ ∧ _))

end EvaluatorRunRow

namespace Ledger

def sourcesOf (ledger : Ledger) (runId : String) : List EvaluatorSourceRow :=
  ledger.sources.filter fun source => source.runId = runId

def decisionsOf (ledger : Ledger) (runId : String) : List EvaluatorDecisionRow :=
  ledger.decisions.filter fun decision => decision.runId = runId

section transitions

variable (ledger : Ledger) (old new : EvaluatorRunRow)

/-- Exact same-owner renewal, including after sealing. -/
def renews : sql.Truth :=
  sql.all [sql.fact old.Live, sql.fact (new.status = old.status),
    sql.fact (new.leaseRevision = old.leaseRevision + 1), sql.lt (some old.leaseUpdatedAt) (some new.leaseUpdatedAt),
    sql.le (some old.leaseExpiresAt) (some new.leaseExpiresAt), sql.fact (new.updatedAt = new.leaseUpdatedAt),
    sql.is new.asOf old.asOf, new.sameManifests old, new.unfinished]

/-- Bind the completion `asOf` exactly once. -/
def binds : sql.Truth :=
  sql.all [sql.fact (old.status = .running), sql.fact (new.status = .running), new.sameLease old,
    sql.isNull old.asOf, sql.isNotNull new.asOf, sql.le (some old.startedAt) new.asOf,
    sql.le new.asOf (some new.updatedAt), sql.isNull new.sourceCount, sql.isNull new.completedAt]

/-- Seal immutable source and planned-decision manifests. -/
def seals : sql.Truth :=
  sql.all [sql.fact (old.status = .running), sql.fact (new.status = .sealed), new.sameLease old,
    sql.eq new.asOf old.asOf, sql.isNotNull new.asOf, sql.isNull old.sourceCount,
    sql.eq new.sourceCount (some 9), sql.isNotNull new.partialSourceCount,
    sql.isNotNull new.sourceManifestSha256, sql.isNotNull new.decisionCount,
    sql.isNotNull new.decisionManifestSha256, sql.isNull new.completedAt,
    sql.fact ((ledger.sourcesOf old.id).length = 9),
    sql.eq new.partialSourceCount
      (some ((ledger.sourcesOf old.id).countP fun source => source.status ≠ .complete : Int)),
    sql.fact (¬ ∃ source ∈ ledger.sourcesOf old.id, new.updatedAt < source.recordedAt),
    sql.fact (ledger.decisionsOf old.id = [])]

/-- Runtime terminal transitions update the matching run in their trigger. -/
def succeeds : sql.Truth :=
  sql.all [sql.fact (old.status = .sealed), sql.fact (new.status = .succeeded), new.sameLease old,
    sql.eq new.asOf old.asOf, sql.eq new.sourceCount old.sourceCount,
    sql.eq new.partialSourceCount old.partialSourceCount,
    sql.eq new.sourceManifestSha256 old.sourceManifestSha256, sql.eq new.decisionCount old.decisionCount,
    sql.eq new.decisionManifestSha256 old.decisionManifestSha256, sql.isNotNull new.completedAt,
    sql.eq new.watermarkAt old.asOf, sql.eq new.terminalRuntimeRevision (some (old.leaseRevision + 1)),
    sql.isNull new.failureStatus, sql.isNull new.failureErrorCode,
    sql.fact (∃ runtime ∈ ledger.runtime, runtime.generation = old.runtimeGeneration ∧
      some runtime.revision = new.terminalRuntimeRevision ∧ runtime.leaseId = none ∧
      runtime.status = .healthy ∧ runtime.lastSuccessAt = new.completedAt ∧
      runtime.watermarkAt = new.watermarkAt)]

def fails : sql.Truth :=
  sql.all [sql.fact old.Live, sql.fact (new.status = .failed), new.sameLease old, sql.is new.asOf old.asOf,
    new.sameManifests old, sql.isNotNull new.completedAt, sql.isNull new.watermarkAt,
    sql.eq new.terminalRuntimeRevision (some (old.leaseRevision + 1)), sql.isNotNull new.failureStatus,
    sql.isNotNull new.failureErrorCode,
    sql.fact (∃ runtime ∈ ledger.runtime, runtime.generation = old.runtimeGeneration ∧
      some runtime.revision = new.terminalRuntimeRevision ∧ runtime.leaseId = none ∧
      some runtime.status = new.failureStatus ∧ runtime.lastErrorAt = new.completedAt ∧
      runtime.lastErrorCode = new.failureErrorCode)]

/-- A later acquisition abandons only the exact expired predecessor. -/
def abandons : sql.Truth :=
  sql.all [sql.fact old.Live, sql.fact (new.status = .abandoned), new.sameLease old, sql.is new.asOf old.asOf,
    new.sameManifests old, sql.le (some old.leaseExpiresAt) new.completedAt, sql.isNull new.watermarkAt,
    sql.isNull new.terminalRuntimeRevision, sql.isNull new.failureStatus, sql.isNull new.failureErrorCode,
    sql.fact (∃ runtime ∈ ledger.runtime, old.HeldBy runtime)]

/-- `alert_evaluator_run_transition_guard`. -/
def runTransitionGuard : sql.Truth :=
  sql.any [sql.fact (new.id ≠ old.id), sql.fact (new.triggerScheduledAt ≠ old.triggerScheduledAt),
    sql.fact (new.runtimeGeneration ≠ old.runtimeGeneration),
    sql.fact (new.acquiredRevision ≠ old.acquiredRevision), sql.fact (new.leaseId ≠ old.leaseId),
    sql.fact (new.startedAt ≠ old.startedAt), sql.fact (new.createdAt ≠ old.createdAt),
    sql.le (some new.updatedAt) (some old.updatedAt), sql.fact (¬ old.Live),
    sql.not (sql.any [renews old new, binds old new, ledger.seals old new, ledger.succeeds old new,
      ledger.fails old new, ledger.abandons old new])]

/-- `alert_evaluator_run_live_metadata_guard`, for a run whose lease revision stays. -/
def metadataGuard : sql.Truth :=
  sql.all [sql.fact new.Live, sql.fact (new.leaseRevision = old.leaseRevision),
    sql.any [sql.le (some new.leaseExpiresAt) (some new.updatedAt),
      sql.fact (¬ ∃ runtime ∈ ledger.runtime, new.HeldBy runtime ∧
        runtime.lastStartedAt = some new.startedAt ∧ runtime.updatedAt = new.leaseUpdatedAt)]]

end transitions

end Ledger

end pgid.alert
