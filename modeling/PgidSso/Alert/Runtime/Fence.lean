import PgidSso.Alert.Runtime.Statements

open checked

namespace pgid.alert

inductive AlertRunRepositoryErrorCode
  | conflict
  | counterExhausted
  | invalidInput
  | sourceInvalid
  | sourceUnavailable
  | writeFailed
  deriving DecidableEq, Repr

def MAX_ACTIVE_REVISION : Int := MAX_SAFE_INTEGER - 1

def MAX_LEASE_SECONDS : Int := 300

/-- What a worker keeps of the lease of its run. -/
structure AlertEvaluatorRunFence where
  leaseExpiresAt : Timestamp
  leaseId : String
  leaseRevision : Int
  leaseUpdatedAt : Timestamp
  runId : String
  runtimeGeneration : Int
  startedAt : Timestamp
  deriving DecidableEq

inductive AcquireAlertEvaluatorRunResult
  | contended
  | duplicate (run : EvaluatorRunRow)
  | acquired (fence : AlertEvaluatorRunFence) (run : EvaluatorRunRow)
  deriving DecidableEq

inductive AlertEvaluatorRunMutationResult
  | committed (fence : AlertEvaluatorRunFence) (run : EvaluatorRunRow)
  | replayed (fence : AlertEvaluatorRunFence) (run : EvaluatorRunRow)
  | lost
  deriving DecidableEq

/-- The fence of a mutation that is not lost. -/
def AlertEvaluatorRunMutationResult.fence : AlertEvaluatorRunMutationResult → Option AlertEvaluatorRunFence
  | .committed fence _ => some fence
  | .replayed fence _ => some fence
  | .lost => none

namespace evaluator

def fenceFromRun (run : EvaluatorRunRow) : AlertEvaluatorRunFence where
  leaseExpiresAt := run.leaseExpiresAt
  leaseId := run.leaseId
  leaseRevision := run.leaseRevision
  leaseUpdatedAt := run.leaseUpdatedAt
  runId := run.id
  runtimeGeneration := run.runtimeGeneration
  startedAt := run.startedAt

/-- The instants whose text has 24 characters. -/
def canonicalTimestamp (value : Timestamp) : Except AlertRunRepositoryErrorCode Timestamp := do
  throwIf (¬ value.FourDigitYear) AlertRunRepositoryErrorCode.invalidInput
  return value

def boundedInteger (value minimum maximum : Int) : Except AlertRunRepositoryErrorCode Int := do
  throwIf (value < minimum ∨ value > maximum) AlertRunRepositoryErrorCode.invalidInput
  return value

def parseFence (value : AlertEvaluatorRunFence) : Except AlertRunRepositoryErrorCode AlertEvaluatorRunFence := do
  let startedAt ← canonicalTimestamp value.startedAt
  let leaseUpdatedAt ← canonicalTimestamp value.leaseUpdatedAt
  let leaseExpiresAt ← canonicalTimestamp value.leaseExpiresAt
  throwIf (leaseUpdatedAt < startedAt ∨ leaseExpiresAt ≤ leaseUpdatedAt ∨
    leaseExpiresAt.ms - leaseUpdatedAt.ms > MAX_LEASE_SECONDS * 1000) AlertRunRepositoryErrorCode.invalidInput
  let leaseRevision ← boundedInteger value.leaseRevision 1 MAX_ACTIVE_REVISION
  let runtimeGeneration ← boundedInteger value.runtimeGeneration 1 MAX_SAFE_INTEGER
  return { value with startedAt, leaseUpdatedAt, leaseExpiresAt, leaseRevision, runtimeGeneration }

def readRunById (ledger : Ledger) (runId : String) : Option EvaluatorRunRow :=
  ledger.runs.find? fun run => run.id = runId

def readOccurrence (ledger : Ledger) (scheduledAt : Timestamp) : Option EvaluatorRunRow :=
  ledger.runs.find? fun run => run.triggerScheduledAt = scheduledAt

/-- An instant that has no text is an error of its own, which is redacted. -/
def leaseExpiry (instant : Timestamp) (seconds : Int) : Except AlertRunRepositoryErrorCode Timestamp :=
  match Timestamp.ofMs (instant.ms + seconds * 1000) with
  | .ok expiresAt => .ok expiresAt
  | .error _ => .error .writeFailed

def runMatchesFence (run : EvaluatorRunRow) (fence : AlertEvaluatorRunFence) : Prop :=
  run.id = fence.runId ∧ run.runtimeGeneration = fence.runtimeGeneration ∧
    run.leaseRevision = fence.leaseRevision ∧ run.leaseId = fence.leaseId ∧ run.startedAt = fence.startedAt ∧
    run.leaseUpdatedAt = fence.leaseUpdatedAt ∧ run.leaseExpiresAt = fence.leaseExpiresAt

instance (run : EvaluatorRunRow) (fence : AlertEvaluatorRunFence) : Decidable (runMatchesFence run fence) :=
  inferInstanceAs (Decidable (_ ∧ _ ∧ _ ∧ _ ∧ _ ∧ _ ∧ _))

section acquire

/-- The `VALUES` of the insert. -/
def acquiredRun (runtime : RuntimeStatusRow) (scheduledAt startedAt expiresAt : Timestamp)
    (runId leaseId : String) : EvaluatorRunRow where
  id := runId
  triggerScheduledAt := scheduledAt
  runtimeGeneration := runtime.generation + 1
  acquiredRevision := runtime.revision + 1
  leaseRevision := runtime.revision + 1
  leaseId := leaseId
  startedAt := startedAt
  leaseUpdatedAt := startedAt
  leaseExpiresAt := expiresAt
  asOf := none
  sourceCount := none
  partialSourceCount := none
  sourceManifestSha256 := none
  decisionCount := none
  decisionManifestSha256 := none
  status := .running
  completedAt := none
  watermarkAt := none
  terminalRuntimeRevision := none
  failureStatus := none
  failureErrorCode := none
  createdAt := startedAt
  updatedAt := startedAt

/-- The expired predecessor that the insert will abandon. -/
def predecessor (ledger : Ledger) (runtime : RuntimeStatusRow) (startedAt : Timestamp) : Option EvaluatorRunRow :=
  match runtime.leaseId with
  | none => none
  | some leaseId => ledger.runs.find? fun run => run.runtimeGeneration = runtime.generation ∧
      run.leaseId = leaseId ∧ run.Live ∧ run.leaseExpiresAt ≤ startedAt

/-- What `acquireAlertEvaluatorRun` does before its insert: it answers, or it offers a run with
the runtime row that it saw. -/
def acquisition (ledger : Ledger) (scheduledAt startedAt : Timestamp) (leaseDurationSeconds : Int)
    (runId leaseId : String) :
    Except AlertRunRepositoryErrorCode (AcquireAlertEvaluatorRunResult ⊕ RuntimeStatusRow × EvaluatorRunRow) := do
  let scheduledAt ← canonicalTimestamp scheduledAt
  let startedAt ← canonicalTimestamp startedAt
  let duration ← boundedInteger leaseDurationSeconds 1 MAX_LEASE_SECONDS
  throwIf (scheduledAt > startedAt) AlertRunRepositoryErrorCode.invalidInput
  match readOccurrence ledger scheduledAt with
  | some run => return .inl (.duplicate run)
  | none =>
    match ledger.runtime with
    | none => .error .sourceInvalid
    | some runtime => do
      throwIf (runtime.generation ≥ MAX_SAFE_INTEGER ∨ runtime.revision ≥ MAX_ACTIVE_REVISION)
        AlertRunRepositoryErrorCode.counterExhausted
      if startedAt ≤ runtime.updatedAt ∨
          (runtime.leaseId ≠ none ∧ ∃ expiresAt ∈ runtime.leaseExpiresAt, startedAt < expiresAt) then
        return .inl .contended
      else do
        let expiresAt ← leaseExpiry startedAt duration
        return .inr (runtime, acquiredRun runtime scheduledAt startedAt expiresAt runId leaseId)

/-- The run that is read back is the one that was inserted. -/
def isInserted (committed run : EvaluatorRunRow) : Prop :=
  committed.status = .running ∧ committed.triggerScheduledAt = run.triggerScheduledAt ∧
    committed.runtimeGeneration = run.runtimeGeneration ∧ committed.acquiredRevision = run.acquiredRevision ∧
    committed.leaseRevision = run.leaseRevision ∧ committed.leaseId = run.leaseId ∧
    committed.startedAt = run.startedAt ∧ committed.leaseUpdatedAt = run.startedAt ∧
    committed.leaseExpiresAt = run.leaseExpiresAt

instance (committed run : EvaluatorRunRow) : Decidable (isInserted committed run) :=
  inferInstanceAs (Decidable (_ ∧ _ ∧ _ ∧ _ ∧ _ ∧ _ ∧ _ ∧ _ ∧ _))

/-- The runtime row after a failed insert, against the one before it. -/
def racedAcquisition (runtime : RuntimeStatusRow) (startedAt : Timestamp) (after : Option RuntimeStatusRow) :
    Except AlertRunRepositoryErrorCode AcquireAlertEvaluatorRunResult :=
  match after with
  | none => .error .sourceInvalid
  | some after =>
    if after.generation = runtime.generation ∧ after.revision = runtime.revision ∧
        after.leaseId = runtime.leaseId ∧ after.leaseExpiresAt = runtime.leaseExpiresAt ∧
        after.updatedAt = runtime.updatedAt then .error .writeFailed
    else if runtime.generation < after.generation ∧ runtime.revision < after.revision ∧ after.leaseId ≠ none ∧
        ∃ expiresAt ∈ after.leaseExpiresAt, startedAt < expiresAt then .ok .contended
    else .error .writeFailed

/-- The reading back after an insert that threw. -/
def recoverAcquisition (runtime : RuntimeStatusRow) (run : EvaluatorRunRow) (ledger : Ledger) :
    Except AlertRunRepositoryErrorCode AcquireAlertEvaluatorRunResult :=
  match (readRunById ledger run.id).filter fun committed => isInserted committed run with
  | some committed => .ok (.acquired (fenceFromRun committed) committed)
  | none =>
    match readOccurrence ledger run.triggerScheduledAt with
    | some raced => .ok (.duplicate raced)
    | none => racedAcquisition runtime run.startedAt ledger.runtime

/-- The reading back after an insert that answered. -/
def confirmAcquisition (changes expectedChanges : Nat) (run : EvaluatorRunRow) (ledger : Ledger) :
    Except AlertRunRepositoryErrorCode AcquireAlertEvaluatorRunResult := do
  throwIf (changes ≠ expectedChanges) AlertRunRepositoryErrorCode.writeFailed
  match readRunById ledger run.id with
  | none => .error .writeFailed
  | some found => do
    throwIf (found.status ≠ .running) AlertRunRepositoryErrorCode.writeFailed
    return .acquired (fenceFromRun found) found

def acquireAlertEvaluatorRun (ledger : Ledger) (scheduledAt startedAt : Timestamp) (leaseDurationSeconds : Int)
    (runId leaseId : String) (delivery : sql.Delivery) :
    Except AlertRunRepositoryErrorCode AcquireAlertEvaluatorRunResult × Ledger :=
  match acquisition ledger scheduledAt startedAt leaseDurationSeconds runId leaseId with
  | .error code => (.error code, ledger)
  | .ok (.inl result) => (.ok result, ledger)
  | .ok (.inr (runtime, run)) =>
    match delivery.send (Ledger.insertRun run) ledger with
    | (none, next) => (recoverAcquisition runtime run next, next)
    | (some changes, next) =>
      let expectedChanges := if predecessor ledger runtime startedAt = none then 2 else 3
      (confirmAcquisition changes expectedChanges run next, next)

end acquire

section renew

/-- The run is live, and holds every part of the fence. -/
def renewable (fence : AlertEvaluatorRunFence) (run : EvaluatorRunRow) : Bool :=
  runMatchesFence run fence ∧ run.Live

def renewStatement (fence : AlertEvaluatorRunFence) (renewedAt expiresAt : Timestamp) :
    Ledger → Except LedgerAbort (Ledger × Nat) :=
  Ledger.updateRun (renewable fence) fun run =>
    { run with leaseRevision := fence.leaseRevision + 1, leaseUpdatedAt := renewedAt,
               leaseExpiresAt := expiresAt, updatedAt := renewedAt }

/-- The checks of `renewAlertEvaluatorRun`: the new expiry, with the parsed fence. -/
def renewal (fence : AlertEvaluatorRunFence) (renewedAt : Timestamp) (leaseDurationSeconds : Int) :
    Except AlertRunRepositoryErrorCode (AlertEvaluatorRunFence × Timestamp) := do
  let fence ← parseFence fence
  let renewedAt ← canonicalTimestamp renewedAt
  let duration ← boundedInteger leaseDurationSeconds 1 MAX_LEASE_SECONDS
  let expiresAt ← leaseExpiry renewedAt duration
  let exhausted := fence.leaseRevision ≥ MAX_ACTIVE_REVISION
  throwIf (renewedAt ≤ fence.leaseUpdatedAt ∨ fence.leaseExpiresAt ≤ renewedAt ∨
      expiresAt < fence.leaseExpiresAt ∨ exhausted)
    (if exhausted then AlertRunRepositoryErrorCode.counterExhausted else .invalidInput)
  return (fence, expiresAt)

/-- The run has the renewed lease. -/
def isRenewed (fence : AlertEvaluatorRunFence) (renewedAt expiresAt : Timestamp) (run : EvaluatorRunRow) : Prop :=
  run.runtimeGeneration = fence.runtimeGeneration ∧ run.leaseId = fence.leaseId ∧
    run.startedAt = fence.startedAt ∧ run.leaseRevision = fence.leaseRevision + 1 ∧
    run.leaseUpdatedAt = renewedAt ∧ run.leaseExpiresAt = expiresAt ∧ run.Live

instance (fence : AlertEvaluatorRunFence) (renewedAt expiresAt : Timestamp) (run : EvaluatorRunRow) :
    Decidable (isRenewed fence renewedAt expiresAt run) :=
  inferInstanceAs (Decidable (_ ∧ _ ∧ _ ∧ _ ∧ _ ∧ _ ∧ _))

def renewAlertEvaluatorRun (ledger : Ledger) (fence : AlertEvaluatorRunFence) (renewedAt : Timestamp)
    (leaseDurationSeconds : Int) (delivery : sql.Delivery) :
    Except AlertRunRepositoryErrorCode AlertEvaluatorRunMutationResult × Ledger :=
  match renewal fence renewedAt leaseDurationSeconds with
  | .error code => (.error code, ledger)
  | .ok (fence, expiresAt) =>
    let (answer, next) := delivery.send (renewStatement fence renewedAt expiresAt) ledger
    let result := do
      throwIf (∃ changes ∈ answer, changes ≠ 0 ∧ changes ≠ 2) AlertRunRepositoryErrorCode.writeFailed
      match (readRunById next fence.runId).filter fun run => isRenewed fence renewedAt expiresAt run with
      | none => return AlertEvaluatorRunMutationResult.lost
      | some run =>
        return if answer = some 2 then .committed (fenceFromRun run) run else .replayed (fenceFromRun run) run
    (result, next)

end renew

section bind

/-- The run is not bound yet, and holds the lease of the fence. -/
def bindable (fence : AlertEvaluatorRunFence) (run : EvaluatorRunRow) : Bool :=
  run.id = fence.runId ∧ run.runtimeGeneration = fence.runtimeGeneration ∧
    run.leaseRevision = fence.leaseRevision ∧ run.leaseId = fence.leaseId ∧
    run.leaseUpdatedAt = fence.leaseUpdatedAt ∧ run.leaseExpiresAt = fence.leaseExpiresAt ∧
    run.status = .running ∧ run.asOf = none

def bindStatement (fence : AlertEvaluatorRunFence) (asOf boundAt : Timestamp) :
    Ledger → Except LedgerAbort (Ledger × Nat) :=
  Ledger.updateRun (bindable fence) fun run => { run with asOf := some asOf, updatedAt := boundAt }

/-- The checks of `bindAlertEvaluatorRunAsOf`. -/
def binding (fence : AlertEvaluatorRunFence) (asOf boundAt : Timestamp) :
    Except AlertRunRepositoryErrorCode AlertEvaluatorRunFence := do
  let fence ← parseFence fence
  let asOf ← canonicalTimestamp asOf
  let boundAt ← canonicalTimestamp boundAt
  throwIf (asOf < fence.startedAt ∨ boundAt < asOf ∨ boundAt ≤ fence.leaseUpdatedAt ∨ fence.leaseExpiresAt ≤ boundAt)
    AlertRunRepositoryErrorCode.invalidInput
  return fence

/-- The run has been bound to the instant. -/
def isBound (fence : AlertEvaluatorRunFence) (asOf boundAt : Timestamp) (run : EvaluatorRunRow) : Prop :=
  runMatchesFence run fence ∧ run.status = .running ∧ run.asOf = some asOf ∧ run.updatedAt = boundAt

instance (fence : AlertEvaluatorRunFence) (asOf boundAt : Timestamp) (run : EvaluatorRunRow) :
    Decidable (isBound fence asOf boundAt run) :=
  inferInstanceAs (Decidable (_ ∧ _ ∧ _ ∧ _))

def bindAlertEvaluatorRunAsOf (ledger : Ledger) (fence : AlertEvaluatorRunFence) (asOf boundAt : Timestamp)
    (delivery : sql.Delivery) :
    Except AlertRunRepositoryErrorCode AlertEvaluatorRunMutationResult × Ledger :=
  match binding fence asOf boundAt with
  | .error code => (.error code, ledger)
  | .ok fence =>
    let (answer, next) := delivery.send (bindStatement fence asOf boundAt) ledger
    let result := do
      throwIf (∃ changes ∈ answer, changes ≠ 0 ∧ changes ≠ 1) AlertRunRepositoryErrorCode.writeFailed
      match (readRunById next fence.runId).filter fun run => isBound fence asOf boundAt run with
      | none => return AlertEvaluatorRunMutationResult.lost
      | some run => return if answer = some 1 then .committed fence run else .replayed fence run
    (result, next)

end bind

section later

/-- The update of the runtime row that the fence finds. -/
def terminalStatement (fence : AlertEvaluatorRunFence) (change : RuntimeStatusRow → RuntimeStatusRow)
    (ledger : Ledger) : Except LedgerAbort (Ledger × Nat) :=
  match ledger.runtime with
  | none => return (ledger, 0)
  | some row =>
    if row.generation = fence.runtimeGeneration ∧ row.revision = fence.leaseRevision ∧
        row.leaseId = some fence.leaseId ∧ row.leaseExpiresAt = some fence.leaseExpiresAt ∧
        row.lastStartedAt = some fence.startedAt ∧ row.updatedAt = fence.leaseUpdatedAt then do
      let next ← ledger.writeRuntime row (change row)
      return (next, 2)
    else return (ledger, 0)

def succeededRuntime (fence : AlertEvaluatorRunFence) (completedAt asOf : Timestamp)
    (row : RuntimeStatusRow) : RuntimeStatusRow :=
  { row with
    status := .healthy
    revision := fence.leaseRevision + 1
    leaseId := none
    leaseExpiresAt := none
    lastSuccessAt := some completedAt
    watermarkAt := some asOf
    updatedAt := completedAt }

def failedRuntime (fence : AlertEvaluatorRunFence) (completedAt : Timestamp) (status : RuntimeStatus)
    (errorCode : RuntimeErrorCode) (row : RuntimeStatusRow) : RuntimeStatusRow :=
  { row with
    status
    revision := fence.leaseRevision + 1
    leaseId := none
    leaseExpiresAt := none
    lastErrorAt := some completedAt
    lastErrorCode := some errorCode
    updatedAt := completedAt }

/-- The runtime row is that of the success just before. -/
def isFirstSuccess (ledger : Ledger) (fence : AlertEvaluatorRunFence) (completedAt asOf : Timestamp)
    (row : RuntimeStatusRow) : Prop :=
  row.status = .healthy ∧ row.generation = fence.runtimeGeneration ∧ row.revision = fence.leaseRevision + 1 ∧
    row.leaseId = none ∧ row.lastSuccessAt = some completedAt ∧ row.watermarkAt = some asOf ∧
    ledger.bootstrap = none

instance (ledger : Ledger) (fence : AlertEvaluatorRunFence) (completedAt asOf : Timestamp)
    (row : RuntimeStatusRow) : Decidable (isFirstSuccess ledger fence completedAt asOf row) :=
  inferInstanceAs (Decidable (_ ∧ _ ∧ _ ∧ _ ∧ _ ∧ _ ∧ _))

/-- The insert of the bootstrap row, after the statement that changed the runtime row. -/
def bootstrapStatement (fence : AlertEvaluatorRunFence) (completedAt asOf : Timestamp) (terminalChanges : Nat)
    (ledger : Ledger) : Except LedgerAbort Ledger :=
  match ledger.runtime with
  | none => return ledger
  | some row =>
    if isFirstSuccess ledger fence completedAt asOf row ∧ terminalChanges ≠ 0 then
      ledger.insertBootstrap ⟨completedAt, row.generation, row.revision⟩
    else return ledger

/-- The statements of a run that has been bound, in the order in which the worker comes to them. -/
inductive EvaluatorStatement
  | recordSource (source : EvaluatorSourceRow)
  | renew (fence : AlertEvaluatorRunFence) (renewedAt expiresAt : Timestamp)
  | sealPlan (fence : AlertEvaluatorRunFence) (asOf updatedAt sealedAt : Timestamp)
    (partialSourceCount decisionCount : Int) (sourceDigest decisionDigest : String)
  | recordDecision (states : List AlertStateCoordinates) (decision : EvaluatorDecisionRow)
  | recordSuccess (fence : AlertEvaluatorRunFence) (completedAt asOf : Timestamp)
  | recordFailure (fence : AlertEvaluatorRunFence) (completedAt : Timestamp) (status : RuntimeStatus)
    (errorCode : RuntimeErrorCode)

/-- The run is bound and not sealed yet, and was not written since it was read. -/
def sealable (fence : AlertEvaluatorRunFence) (asOf updatedAt : Timestamp) (run : EvaluatorRunRow) : Bool :=
  run.id = fence.runId ∧ run.runtimeGeneration = fence.runtimeGeneration ∧
    run.leaseRevision = fence.leaseRevision ∧ run.leaseId = fence.leaseId ∧
    run.leaseUpdatedAt = fence.leaseUpdatedAt ∧ run.leaseExpiresAt = fence.leaseExpiresAt ∧
    run.status = .running ∧ run.asOf = some asOf ∧ run.updatedAt = updatedAt

/-- The proof of an applied decision stands in the batch that writes its state. -/
def EvaluatorStatement.run : EvaluatorStatement → Ledger → Except LedgerAbort (Ledger × Nat)
  | .recordSource source, ledger => do
    let next ← ledger.insertSource source
    return (next, 1)
  | .renew fence renewedAt expiresAt, ledger => renewStatement fence renewedAt expiresAt ledger
  | .sealPlan fence asOf updatedAt sealedAt partialSourceCount decisionCount sourceDigest decisionDigest, ledger =>
    ledger.updateRun (sealable fence asOf updatedAt) fun run =>
      { run with
        status := .sealed
        sourceCount := some 9
        partialSourceCount := some partialSourceCount
        sourceManifestSha256 := some sourceDigest
        decisionCount := some decisionCount
        decisionManifestSha256 := some decisionDigest
        updatedAt := sealedAt }
  | .recordDecision states decision, ledger => do
    let next ← Ledger.insertDecision decision { ledger with states }
    return (next, 1)
  | .recordSuccess fence completedAt asOf, ledger => do
    let (terminal, changes) ← terminalStatement fence (succeededRuntime fence completedAt asOf) ledger
    let next ← bootstrapStatement fence completedAt asOf changes terminal
    return (next, changes)
  | .recordFailure fence completedAt status errorCode, ledger =>
    terminalStatement fence (failedRuntime fence completedAt status errorCode) ledger

end later

end evaluator

end pgid.alert
