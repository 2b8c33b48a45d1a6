import PgidSso.Alert.Orchestration.Proof
import PgidSso.Alert.Runtime.Fence

open checked

namespace pgid.alert

open orchestration (AlertEvaluatorSourceProofValue AlertEvaluatorDecisionProofValue Sha256
  parseAlertEvaluatorSourceProofValue parseAlertEvaluatorDecisionProofValue alertEvaluatorSourceManifestDigest
  alertEvaluatorDecisionManifestDigest)

inductive AlertEvaluatorProofWriteResult
  | recorded
  | replayed
  | lost
  deriving DecidableEq

inductive AlertEvaluatorTerminalResult
  | committed (bootstrapCreated : Bool) (run : EvaluatorRunRow)
  | replayed (run : EvaluatorRunRow)
  | lost
  deriving DecidableEq

/-- The columns by which `alert_state` has at most one row. -/
structure AlertEvaluatorNoStateAbsence where
  environment : AlertEnvironment
  queueName : Option String
  ruleId : String
  sourceKind : AlertSourceKind
  subjectRef : Option String
  deriving DecidableEq

/-- The ledger of the evaluator, and the names of the alert states beside it. -/
structure RunDatabase where
  ledger : Ledger
  stateNames : List AlertEvaluatorNoStateAbsence

namespace evaluator

/-- A digest as its column has it. -/
def columnDigest (digest : Text) : String :=
  String.ofList (digest.map fun code => Char.ofNat code.toNat)

/-- A check outside the repository, whose error becomes one of its own. -/
def orFail {ε A : Type} (code : AlertRunRepositoryErrorCode) : Except ε A → Except AlertRunRepositoryErrorCode A
  | .ok value => .ok value
  | .error _ => .error code

section source

/-- The `VALUES` of the insert. -/
def sourceRow (fence : AlertEvaluatorRunFence) (asOf : Timestamp) (proof : AlertEvaluatorSourceProofValue)
    (recordedAt : Timestamp) : EvaluatorSourceRow where
  runId := fence.runId
  sourceId := proof.sourceId
  asOf := asOf
  status := proof.status
  observationCount := proof.observationCount
  incompleteCount := proof.incompleteCount
  proofSha256 := columnDigest proof.proofSha256
  runtimeGeneration := fence.runtimeGeneration
  runtimeRevision := fence.leaseRevision
  recordedAt := recordedAt

def sameSource (row : EvaluatorSourceRow) (fence : AlertEvaluatorRunFence) (asOf : Timestamp)
    (proof : AlertEvaluatorSourceProofValue) (recordedAt : Timestamp) : Prop :=
  row.runId = fence.runId ∧ row.sourceId = proof.sourceId ∧ row.asOf = asOf ∧ row.status = proof.status ∧
    row.observationCount = proof.observationCount ∧ row.incompleteCount = proof.incompleteCount ∧
    row.proofSha256 = columnDigest proof.proofSha256 ∧ row.runtimeGeneration = fence.runtimeGeneration ∧
    row.runtimeRevision = fence.leaseRevision ∧ row.recordedAt = recordedAt

instance (row : EvaluatorSourceRow) (fence : AlertEvaluatorRunFence) (asOf : Timestamp)
    (proof : AlertEvaluatorSourceProofValue) (recordedAt : Timestamp) :
    Decidable (sameSource row fence asOf proof recordedAt) :=
  inferInstanceAs (Decidable (_ ∧ _ ∧ _ ∧ _ ∧ _ ∧ _ ∧ _ ∧ _ ∧ _ ∧ _))

/-- The source that `readSources` finds for the run. -/
def readSource (ledger : Ledger) (runId : String) (sourceId : AlertEvaluatorSourceId) : Option EvaluatorSourceRow :=
  (ledger.sourcesOf runId).find? fun row => row.sourceId = sourceId

/-- The checks of `recordAlertEvaluatorRunSource`. -/
def sourceInput (fence : AlertEvaluatorRunFence) (asOf : Timestamp) (proof : AlertEvaluatorSourceProofValue)
    (recordedAt : Timestamp) :
    Except AlertRunRepositoryErrorCode (AlertEvaluatorRunFence × AlertEvaluatorSourceProofValue) := do
  let fence ← parseFence fence
  let _ ← canonicalTimestamp asOf
  let _ ← canonicalTimestamp recordedAt
  let proof ← orFail .invalidInput (parseAlertEvaluatorSourceProofValue proof)
  return (fence, proof)

def recordAlertEvaluatorRunSource (ledger : Ledger) (fence : AlertEvaluatorRunFence) (asOf : Timestamp)
    (proof : AlertEvaluatorSourceProofValue) (recordedAt : Timestamp) (delivery : sql.Delivery) :
    Except AlertRunRepositoryErrorCode AlertEvaluatorProofWriteResult × Ledger :=
  match sourceInput fence asOf proof recordedAt with
  | .error code => (.error code, ledger)
  | .ok (fence, proof) =>
    match readSource ledger fence.runId proof.sourceId with
    | some existing =>
      (if sameSource existing fence asOf proof recordedAt then .ok .replayed else .error .conflict, ledger)
    | none =>
      match delivery.send (EvaluatorStatement.run (.recordSource (sourceRow fence asOf proof recordedAt))) ledger with
      | (none, next) =>
        match readSource next fence.runId proof.sourceId with
        | some raced => (.ok (if sameSource raced fence asOf proof recordedAt then .replayed else .lost), next)
        | none => (.ok .lost, next)
      | (some changes, next) => (if changes ≠ 1 then .error .writeFailed else .ok .recorded, next)

end source

section plan

def sourceProofValue (row : EvaluatorSourceRow) : AlertEvaluatorSourceProofValue where
  incompleteCount := row.incompleteCount
  observationCount := row.observationCount
  proofSha256 := Text.of row.proofSha256
  sourceId := row.sourceId
  status := row.status

def decisionProofValue (row : EvaluatorDecisionRow) : AlertEvaluatorDecisionProofValue where
  decisionSha256 := Text.of row.decisionSha256
  disposition := row.disposition
  evaluationSha256 := Text.of row.evaluationSha256
  identitySha256 := Text.of row.identitySha256
  ordinal := row.ordinal
  sourceId := row.sourceId

/-- `ORDER BY ordinal`. -/
def readDecisions (ledger : Ledger) (runId : String) : List EvaluatorDecisionRow :=
  (ledger.decisionsOf runId).mergeSort fun left right => left.ordinal ≤ right.ordinal

/-- The manifests that a run is sealed with. -/
structure SealedPlan where
  partialCount : Int
  sourceDigest : String
  decisionCount : Int
  decisionDigest : String
  deriving DecidableEq

def sealedPlan (sha256 : Sha256) (ledger : Ledger) (runId : String)
    (decisions : List AlertEvaluatorDecisionProofValue) : Except AlertRunRepositoryErrorCode SealedPlan := do
  let sources := ledger.sourcesOf runId
  let sourceDigest ← orFail .invalidInput (alertEvaluatorSourceManifestDigest sha256 (sources.map sourceProofValue))
  let decisionDigest ← orFail .invalidInput (alertEvaluatorDecisionManifestDigest sha256 decisions)
  throwIf (∃ decision ∈ decisions, decision.disposition = .suppressedPartial ∧
      ¬ ∃ source ∈ sources, source.sourceId = decision.sourceId ∧ source.status = .partly)
    AlertRunRepositoryErrorCode.invalidInput
  return { partialCount := (sources.countP fun source => source.status ≠ .complete : Int),
           sourceDigest := columnDigest sourceDigest, decisionCount := (decisions.length : Int),
           decisionDigest := columnDigest decisionDigest }

/-- The run is sealed with the plan already. -/
def isSealedWith (plan : SealedPlan) (sealedAt : Timestamp) (run : EvaluatorRunRow) : Prop :=
  run.status = .sealed ∧ run.sourceManifestSha256 = some plan.sourceDigest ∧
    run.decisionManifestSha256 = some plan.decisionDigest ∧ run.partialSourceCount = some plan.partialCount ∧
    run.decisionCount = some plan.decisionCount ∧ run.updatedAt = sealedAt

instance (plan : SealedPlan) (sealedAt : Timestamp) (run : EvaluatorRunRow) :
    Decidable (isSealedWith plan sealedAt run) :=
  inferInstanceAs (Decidable (_ ∧ _ ∧ _ ∧ _ ∧ _ ∧ _))

/-- What `sealAlertEvaluatorRunPlan` does before its update: it answers, or it offers the plan for a
bound run. -/
def sealing (sha256 : Sha256) (ledger : Ledger) (fence : AlertEvaluatorRunFence)
    (decisions : List AlertEvaluatorDecisionProofValue) (sealedAt : Timestamp) :
    Except AlertRunRepositoryErrorCode
      (AlertEvaluatorRunMutationResult ⊕ AlertEvaluatorRunFence × SealedPlan × Timestamp × Timestamp) := do
  let fence ← parseFence fence
  let sealedAt ← canonicalTimestamp sealedAt
  let decisions ← orFail .invalidInput (decisions.mapM parseAlertEvaluatorDecisionProofValue)
  match readRunById ledger fence.runId with
  | none => return .inl .lost
  | some run =>
    if ¬ runMatchesFence run fence then return .inl .lost
    else do
      let plan ← sealedPlan sha256 ledger fence.runId decisions
      if isSealedWith plan sealedAt run ∧ run.sourceCount = some 9 then return .inl (.replayed fence run)
      else
        match run.asOf with
        | none => return .inl .lost
        | some asOf =>
          if run.status ≠ .running ∨ sealedAt ≤ run.updatedAt ∨ run.leaseExpiresAt ≤ sealedAt then
            return .inl .lost
          else return .inr (fence, plan, asOf, run.updatedAt)

def sealAlertEvaluatorRunPlan (sha256 : Sha256) (ledger : Ledger) (fence : AlertEvaluatorRunFence)
    (decisions : List AlertEvaluatorDecisionProofValue) (sealedAt : Timestamp) (delivery : sql.Delivery) :
    Except AlertRunRepositoryErrorCode AlertEvaluatorRunMutationResult × Ledger :=
  match sealing sha256 ledger fence decisions sealedAt with
  | .error code => (.error code, ledger)
  | .ok (.inl result) => (.ok result, ledger)
  | .ok (.inr (fence, plan, asOf, updatedAt)) =>
    let (answer, next) := delivery.send (EvaluatorStatement.run (.sealPlan fence asOf updatedAt sealedAt
      plan.partialCount plan.decisionCount plan.sourceDigest plan.decisionDigest)) ledger
    let result := do
      throwIf (∃ changes ∈ answer, changes ≠ 0 ∧ changes ≠ 1) AlertRunRepositoryErrorCode.writeFailed
      match (readRunById next fence.runId).filter fun run =>
          runMatchesFence run fence ∧ isSealedWith plan sealedAt run with
      | none => return AlertEvaluatorRunMutationResult.lost
      | some run => return if answer = some 1 then .committed fence run else .replayed fence run
    (result, next)

end plan

section decision

/-- The selected columns of the insert. -/
def decisionRow (fence : AlertEvaluatorRunFence) (asOf : Timestamp) (proof : AlertEvaluatorDecisionProofValue)
    (recordedAt : Timestamp) : EvaluatorDecisionRow where
  runId := fence.runId
  sourceId := proof.sourceId
  ordinal := proof.ordinal
  identitySha256 := columnDigest proof.identitySha256
  evaluationSha256 := columnDigest proof.evaluationSha256
  decisionSha256 := columnDigest proof.decisionSha256
  disposition := proof.disposition
  asOf := asOf
  stateId := none
  stateGeneration := none
  stateRevision := none
  runtimeGeneration := fence.runtimeGeneration
  runtimeRevision := fence.leaseRevision
  recordedAt := recordedAt

def sameDecision (row : EvaluatorDecisionRow) (fence : AlertEvaluatorRunFence)
    (proof : AlertEvaluatorDecisionProofValue) (asOf recordedAt : Timestamp) : Prop :=
  row.runId = fence.runId ∧ row.sourceId = proof.sourceId ∧ row.ordinal = proof.ordinal ∧
    row.identitySha256 = columnDigest proof.identitySha256 ∧
    row.evaluationSha256 = columnDigest proof.evaluationSha256 ∧
    row.decisionSha256 = columnDigest proof.decisionSha256 ∧ row.disposition = proof.disposition ∧
    row.asOf = asOf ∧ row.stateId = none ∧ row.stateGeneration = none ∧ row.stateRevision = none ∧
    row.runtimeGeneration = fence.runtimeGeneration ∧ row.runtimeRevision = fence.leaseRevision ∧
    row.recordedAt = recordedAt

instance (row : EvaluatorDecisionRow) (fence : AlertEvaluatorRunFence) (proof : AlertEvaluatorDecisionProofValue)
    (asOf recordedAt : Timestamp) : Decidable (sameDecision row fence proof asOf recordedAt) :=
  inferInstanceAs (Decidable (_ ∧ _ ∧ _ ∧ _ ∧ _ ∧ _ ∧ _ ∧ _ ∧ _ ∧ _ ∧ _ ∧ _ ∧ _ ∧ _))

/-- The decision that `readDecisions` finds at the ordinal. -/
def readDecision (ledger : Ledger) (runId : String) (ordinal : Int) : Option EvaluatorDecisionRow :=
  (readDecisions ledger runId).find? fun row => row.ordinal = ordinal

/-- No alert state has the name, where one is given. -/
def stateAbsent (absence : Option AlertEvaluatorNoStateAbsence) (database : RunDatabase) : Prop :=
  ∀ name ∈ absence, name ∉ database.stateNames

instance (absence : Option AlertEvaluatorNoStateAbsence) (database : RunDatabase) :
    Decidable (stateAbsent absence database) :=
  inferInstanceAs (Decidable (∀ name ∈ absence, name ∉ database.stateNames))

/-- The insert of a decision, from a selection that is empty while the state is there. -/
def decisionStatement (absence : Option AlertEvaluatorNoStateAbsence) (row : EvaluatorDecisionRow)
    (database : RunDatabase) : Except LedgerAbort (RunDatabase × Nat) :=
  if stateAbsent absence database then do
    let next ← database.ledger.insertDecision row
    return ({ database with ledger := next }, 1)
  else return (database, 0)

/-- The checks of `recordStatelessAlertEvaluatorDecision`. -/
def decisionInput (fence : AlertEvaluatorRunFence) (asOf : Timestamp) (proof : AlertEvaluatorDecisionProofValue)
    (recordedAt : Timestamp) (expectedDisposition : EvaluatorDisposition) :
    Except AlertRunRepositoryErrorCode (AlertEvaluatorRunFence × AlertEvaluatorDecisionProofValue) := do
  let fence ← parseFence fence
  let _ ← canonicalTimestamp asOf
  let _ ← canonicalTimestamp recordedAt
  let proof ← orFail .invalidInput (parseAlertEvaluatorDecisionProofValue proof)
  throwIf (proof.disposition ≠ expectedDisposition) AlertRunRepositoryErrorCode.invalidInput
  return (fence, proof)

/-- The decision that stands at the ordinal is the one to record, and its state is absent. -/
def decisionStands (database : RunDatabase) (fence : AlertEvaluatorRunFence)
    (absence : Option AlertEvaluatorNoStateAbsence) (proof : AlertEvaluatorDecisionProofValue)
    (asOf recordedAt : Timestamp) (row : EvaluatorDecisionRow) : Prop :=
  sameDecision row fence proof asOf recordedAt ∧ stateAbsent absence database

instance (database : RunDatabase) (fence : AlertEvaluatorRunFence)
    (absence : Option AlertEvaluatorNoStateAbsence) (proof : AlertEvaluatorDecisionProofValue)
    (asOf recordedAt : Timestamp) (row : EvaluatorDecisionRow) :
    Decidable (decisionStands database fence absence proof asOf recordedAt row) :=
  inferInstanceAs (Decidable (_ ∧ _))

def recordStatelessAlertEvaluatorDecision (database : RunDatabase) (fence : AlertEvaluatorRunFence)
    (absence : Option AlertEvaluatorNoStateAbsence) (asOf : Timestamp) (proof : AlertEvaluatorDecisionProofValue)
    (recordedAt : Timestamp) (expectedDisposition : EvaluatorDisposition) (delivery : sql.Delivery) :
    Except AlertRunRepositoryErrorCode AlertEvaluatorProofWriteResult × RunDatabase :=
  match decisionInput fence asOf proof recordedAt expectedDisposition with
  | .error code => (.error code, database)
  | .ok (fence, proof) =>
    match readDecision database.ledger fence.runId proof.ordinal with
    | some existing =>
      (if decisionStands database fence absence proof asOf recordedAt existing then .ok .replayed
        else .error .conflict, database)
    | none =>
      match delivery.send (decisionStatement absence (decisionRow fence asOf proof recordedAt)) database with
      | (none, next) =>
        match readDecision next.ledger fence.runId proof.ordinal with
        | some raced =>
          (.ok (if decisionStands next fence absence proof asOf recordedAt raced then .replayed else .lost), next)
        | none => (.ok .lost, next)
      | (some changes, next) =>
        (if changes = 0 ∧ absence ≠ none ∧ ¬ stateAbsent absence next then .ok .lost
          else if changes ≠ 1 then .error .writeFailed
          else .ok .recorded, next)

def recordSuppressedAlertEvaluatorDecision (database : RunDatabase) (fence : AlertEvaluatorRunFence)
    (asOf : Timestamp) (proof : AlertEvaluatorDecisionProofValue) (recordedAt : Timestamp)
    (delivery : sql.Delivery) : Except AlertRunRepositoryErrorCode AlertEvaluatorProofWriteResult × RunDatabase :=
  recordStatelessAlertEvaluatorDecision database fence none asOf proof recordedAt .suppressedPartial delivery

def recordNoStateChangeAlertEvaluatorDecision (database : RunDatabase) (fence : AlertEvaluatorRunFence)
    (absence : AlertEvaluatorNoStateAbsence) (asOf : Timestamp) (proof : AlertEvaluatorDecisionProofValue)
    (recordedAt : Timestamp) (delivery : sql.Delivery) :
    Except AlertRunRepositoryErrorCode AlertEvaluatorProofWriteResult × RunDatabase :=
  recordStatelessAlertEvaluatorDecision database fence (some absence) asOf proof recordedAt .noStateChange delivery

end decision

section terminal

/-- The columns of a run that has ended, in a success or in a failure. -/
def hasEnded (fence : AlertEvaluatorRunFence) (completedAt : Timestamp)
    (failure : Option (RuntimeStatus × RuntimeErrorCode)) (run : EvaluatorRunRow) : Prop :=
  runMatchesFence run fence ∧ run.completedAt = some completedAt ∧ run.updatedAt = completedAt ∧
    run.terminalRuntimeRevision = some (fence.leaseRevision + 1) ∧
    match failure with
    | none => run.status = .succeeded ∧ run.asOf ≠ none ∧ run.watermarkAt = run.asOf ∧ run.failureStatus = none ∧
        run.failureErrorCode = none
    | some (status, errorCode) => run.status = .failed ∧ run.watermarkAt = none ∧ run.failureStatus = some status ∧
        run.failureErrorCode = some errorCode

/-- The columns of the runtime row after that end. -/
def showsEnd (fence : AlertEvaluatorRunFence) (completedAt : Timestamp)
    (failure : Option (RuntimeStatus × RuntimeErrorCode)) (asOf : Option Timestamp) (runtime : RuntimeStatusRow) :
    Prop :=
  runtime.generation = fence.runtimeGeneration ∧ runtime.revision = fence.leaseRevision + 1 ∧
    runtime.leaseId = none ∧ runtime.leaseExpiresAt = none ∧ runtime.lastStartedAt = some fence.startedAt ∧
    runtime.updatedAt = completedAt ∧
    match failure with
    | none => runtime.status = .healthy ∧ runtime.watermarkAt = asOf ∧ runtime.lastSuccessAt = some completedAt
    | some (status, errorCode) => runtime.status = status ∧ runtime.lastErrorAt = some completedAt ∧
        runtime.lastErrorCode = some errorCode

instance (fence : AlertEvaluatorRunFence) (completedAt : Timestamp)
    (failure : Option (RuntimeStatus × RuntimeErrorCode)) (run : EvaluatorRunRow) :
    Decidable (hasEnded fence completedAt failure run) := by
  unfold hasEnded
  cases failure <;> exact inferInstance

instance (fence : AlertEvaluatorRunFence) (completedAt : Timestamp)
    (failure : Option (RuntimeStatus × RuntimeErrorCode)) (asOf : Option Timestamp) (runtime : RuntimeStatusRow) :
    Decidable (showsEnd fence completedAt failure asOf runtime) := by
  unfold showsEnd
  cases failure <;> exact inferInstance

def terminalReplay (ledger : Ledger) (fence : AlertEvaluatorRunFence) (completedAt : Timestamp)
    (failure : Option (RuntimeStatus × RuntimeErrorCode)) :
    Except AlertRunRepositoryErrorCode (Option EvaluatorRunRow) :=
  match readRunById ledger fence.runId with
  | none => .ok none
  | some run =>
    if hasEnded fence completedAt failure run then
      match ledger.runtime with
      | none => .error .sourceInvalid
      | some runtime =>
        if showsEnd fence completedAt failure run.asOf runtime then do
          throwIf (failure = none ∧ ledger.bootstrap = none) AlertRunRepositoryErrorCode.sourceInvalid
          return some run
        else .ok none
    else .ok none

/-- The sealed run is proved by its sources and its decisions, all recorded before an instant. -/
def verifySealedProof (sha256 : Sha256) (ledger : Ledger) (run : EvaluatorRunRow) :
    Except AlertRunRepositoryErrorCode Unit := do
  throwIf (run.status ≠ .sealed ∨ run.asOf = none ∨ run.sourceManifestSha256 = none ∨
      run.decisionManifestSha256 = none ∨ run.sourceCount ≠ some 9 ∨ run.partialSourceCount = none ∨
      run.decisionCount = none)
    AlertRunRepositoryErrorCode.conflict
  let sources := ledger.sourcesOf run.id
  let decisions := readDecisions ledger run.id
  let sourceDigest ← orFail .sourceInvalid (alertEvaluatorSourceManifestDigest sha256 (sources.map sourceProofValue))
  let decisionDigest ←
    orFail .sourceInvalid (alertEvaluatorDecisionManifestDigest sha256 (decisions.map decisionProofValue))
  throwIf (run.partialSourceCount ≠ some (sources.countP fun source => source.status ≠ .complete : Int) ∨
      run.decisionCount ≠ some (decisions.length : Int) ∨ run.sourceManifestSha256 ≠ some (columnDigest sourceDigest) ∨
      run.decisionManifestSha256 ≠ some (columnDigest decisionDigest))
    AlertRunRepositoryErrorCode.sourceInvalid

/-- The instant comes no later than some write of the run. -/
def precedesProof (ledger : Ledger) (run : EvaluatorRunRow) (completedAt : Timestamp) : Prop :=
  completedAt ≤ run.updatedAt ∨ (∃ source ∈ ledger.sourcesOf run.id, completedAt ≤ source.recordedAt) ∨
    ∃ decision ∈ ledger.decisionsOf run.id, completedAt ≤ decision.recordedAt

instance (ledger : Ledger) (run : EvaluatorRunRow) (completedAt : Timestamp) :
    Decidable (precedesProof ledger run completedAt) :=
  inferInstanceAs (Decidable (_ ∨ _ ∨ _))

/-- What `recordAlertEvaluatorRunSuccess` does before its batch: it answers, or it offers the
instant of the sealed run. -/
def succeeding (sha256 : Sha256) (ledger : Ledger) (fence : AlertEvaluatorRunFence) (completedAt : Timestamp) :
    Except AlertRunRepositoryErrorCode (AlertEvaluatorTerminalResult ⊕ AlertEvaluatorRunFence × Timestamp) := do
  let fence ← parseFence fence
  let completedAt ← canonicalTimestamp completedAt
  match ← terminalReplay ledger fence completedAt none with
  | some run => return .inl (.replayed run)
  | none =>
    match (readRunById ledger fence.runId).filter fun run => runMatchesFence run fence with
    | none => return .inl .lost
    | some run => do
      verifySealedProof sha256 ledger run
      throwIf (run.partialSourceCount ≠ some 0 ∨
          (∃ source ∈ ledger.sourcesOf run.id, source.status ≠ .complete) ∨ precedesProof ledger run completedAt ∨
          fence.leaseExpiresAt ≤ completedAt)
        AlertRunRepositoryErrorCode.conflict
      match run.asOf with
      | none => .error .conflict
      | some asOf => return .inr (fence, asOf)

/-- The reading back after a batch that threw. -/
def recoverTerminal (ledger : Ledger) (fence : AlertEvaluatorRunFence) (completedAt : Timestamp)
    (failure : Option (RuntimeStatus × RuntimeErrorCode)) :
    Except AlertRunRepositoryErrorCode AlertEvaluatorTerminalResult := do
  match ← terminalReplay ledger fence completedAt failure with
  | some run => return .replayed run
  | none => .error .writeFailed

/-- The rows that the second statement of the batch has inserted. -/
def bootstrapChanges (ledger next : Ledger) : Nat :=
  if next.bootstrap = ledger.bootstrap then 0 else 1

/-- The reading back after a batch that answered. -/
def confirmSuccess (terminalChanges bootstrapChanges : Nat) (fence : AlertEvaluatorRunFence)
    (completedAt : Timestamp) (ledger : Ledger) :
    Except AlertRunRepositoryErrorCode AlertEvaluatorTerminalResult :=
  if terminalChanges ≠ 2 ∨ (bootstrapChanges ≠ 0 ∧ bootstrapChanges ≠ 1) then do
    match ← terminalReplay ledger fence completedAt none with
    | some run => return .replayed run
    | none => if terminalChanges = 0 ∧ bootstrapChanges = 0 then return .lost else .error .writeFailed
  else
    match readRunById ledger fence.runId with
    | none => .error .writeFailed
    | some committed => do
      throwIf (committed.status ≠ .succeeded ∨ committed.completedAt ≠ some completedAt)
        AlertRunRepositoryErrorCode.writeFailed
      return .committed (bootstrapChanges = 1) committed

def recordAlertEvaluatorRunSuccess (sha256 : Sha256) (ledger : Ledger) (fence : AlertEvaluatorRunFence)
    (completedAt : Timestamp) (delivery : sql.Delivery) :
    Except AlertRunRepositoryErrorCode AlertEvaluatorTerminalResult × Ledger :=
  match succeeding sha256 ledger fence completedAt with
  | .error code => (.error code, ledger)
  | .ok (.inl result) => (.ok result, ledger)
  | .ok (.inr (fence, asOf)) =>
    match delivery.send (EvaluatorStatement.run (.recordSuccess fence completedAt asOf)) ledger with
    | (none, next) => (recoverTerminal next fence completedAt none, next)
    | (some changes, next) => (confirmSuccess changes (bootstrapChanges ledger next) fence completedAt next, next)

def validFailurePair (status : RuntimeStatus) (code : RuntimeErrorCode) : Prop :=
  (status = .degraded ∧ code = .sourceIncomplete) ∨ (status = .unavailable ∧ code = .metricsUnavailable) ∨
    (status = .failing ∧ (code = .evaluatorFailed ∨ code = .unknown))

instance (status : RuntimeStatus) (code : RuntimeErrorCode) : Decidable (validFailurePair status code) :=
  inferInstanceAs (Decidable (_ ∨ _ ∨ _))

/-- What `recordAlertEvaluatorRunFailure` does before its update. -/
def failing (ledger : Ledger) (fence : AlertEvaluatorRunFence) (completedAt : Timestamp)
    (status : RuntimeStatus) (errorCode : RuntimeErrorCode) :
    Except AlertRunRepositoryErrorCode (AlertEvaluatorTerminalResult ⊕ AlertEvaluatorRunFence) := do
  let fence ← parseFence fence
  let completedAt ← canonicalTimestamp completedAt
  throwIf (¬ validFailurePair status errorCode) AlertRunRepositoryErrorCode.invalidInput
  match ← terminalReplay ledger fence completedAt (some (status, errorCode)) with
  | some run => return .inl (.replayed run)
  | none =>
    match (readRunById ledger fence.runId).filter fun run => runMatchesFence run fence ∧ run.Live with
    | none => return .inl .lost
    | some run => do
      throwIf (precedesProof ledger run completedAt ∨ fence.leaseExpiresAt ≤ completedAt)
        AlertRunRepositoryErrorCode.invalidInput
      return .inr fence

def recordAlertEvaluatorRunFailure (ledger : Ledger) (fence : AlertEvaluatorRunFence) (completedAt : Timestamp)
    (status : RuntimeStatus) (errorCode : RuntimeErrorCode) (delivery : sql.Delivery) :
    Except AlertRunRepositoryErrorCode AlertEvaluatorTerminalResult × Ledger :=
  match failing ledger fence completedAt status errorCode with
  | .error code => (.error code, ledger)
  | .ok (.inl result) => (.ok result, ledger)
  | .ok (.inr fence) =>
    match delivery.send (EvaluatorStatement.run (.recordFailure fence completedAt status errorCode)) ledger with
    | (none, next) => (recoverTerminal next fence completedAt (some (status, errorCode)), next)
    | (some changes, next) =>
      (do
        throwIf (changes ≠ 0 ∧ changes ≠ 2) AlertRunRepositoryErrorCode.writeFailed
        match ← terminalReplay next fence completedAt (some (status, errorCode)) with
        | some run => return if changes = 2 then .committed false run else .replayed run
        | none => return .lost, next)

end terminal

end evaluator

end pgid.alert
