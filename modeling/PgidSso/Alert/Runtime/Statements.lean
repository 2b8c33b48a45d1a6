import PgidSso.Alert.Runtime.Ledger

open checked

namespace pgid.alert

namespace Ledger

def replaceRun (ledger : Ledger) (new : EvaluatorRunRow) : Ledger :=
  { ledger with runs := ledger.runs.map fun run => if run.id = new.id then new else run }

/-- The guards and `CHECK`s of an update of a run, before the triggers that follow it. -/
def writeRun (old new : EvaluatorRunRow) (ledger : Ledger) : Except LedgerAbort Ledger := do
  throwIf (sql.Holds (ledger.runTransitionGuard old new)) LedgerAbort.runTransition
  throwIf (¬ new.Checked) LedgerAbort.check
  return ledger.replaceRun new

section runtime

variable (ledger : Ledger) (old new : RuntimeStatusRow)

/-- `alert_runtime_evaluator_lease_run_guard`: a lease that is taken or renewed is that of a
live run. -/
def LeaseGuard : Prop :=
  new.leaseId ≠ none ∧ (old.leaseId = none ∨ new.leaseId ≠ old.leaseId ∨ new.revision ≠ old.revision) ∧
    ¬ ∃ run ∈ ledger.runs, run.HeldBy new ∧ new.lastStartedAt = some run.startedAt ∧
      new.updatedAt = run.leaseUpdatedAt ∧ run.Live

/-- `alert_runtime_evaluator_idle_update_guard`. -/
def IdleGuard : Prop :=
  old.leaseId = none ∧ new.leaseId = none

/-- The terminal row comes before the lease expires, and after every write of the run. -/
def CompletesRun (run : EvaluatorRunRow) : Prop :=
  run.HeldBy old ∧ old.lastStartedAt = some run.startedAt ∧ new.revision = run.leaseRevision + 1 ∧
    (∃ expiresAt ∈ old.leaseExpiresAt, new.updatedAt < expiresAt) ∧ run.updatedAt < new.updatedAt ∧
    (∀ source ∈ ledger.sourcesOf run.id, source.recordedAt < new.updatedAt) ∧
    ∀ decision ∈ ledger.decisionsOf run.id, decision.recordedAt < new.updatedAt

/-- A sealed run of nine complete sources and all its decisions. -/
def ProvesSuccess (run : EvaluatorRunRow) : Prop :=
  run.status = .sealed ∧ ledger.CompletesRun old new run ∧ run.asOf ≠ none ∧ run.asOf = new.watermarkAt ∧
    run.sourceCount = some 9 ∧ run.partialSourceCount = some 0 ∧ new.lastSuccessAt = some new.updatedAt ∧
    (ledger.sourcesOf run.id).length = 9 ∧ (∀ source ∈ ledger.sourcesOf run.id, source.status = .complete) ∧
    run.decisionCount = some ((ledger.decisionsOf run.id).length : Int) ∧
    ∀ decision ∈ ledger.decisionsOf run.id, decision.disposition ≠ .suppressedPartial

/-- The error code that goes with a failure status. -/
def failurePair (row : RuntimeStatusRow) : Prop :=
  (row.status = .degraded ∧ row.lastErrorCode = some .sourceIncomplete) ∨
    (row.status = .unavailable ∧ row.lastErrorCode = some .metricsUnavailable) ∨
    (row.status = .failing ∧
      (row.lastErrorCode = some .evaluatorFailed ∨ row.lastErrorCode = some .unknown))

def ProvesFailure (run : EvaluatorRunRow) : Prop :=
  run.Live ∧ ledger.CompletesRun old new run ∧ new.lastErrorAt = some new.updatedAt ∧ failurePair new

/-- `alert_runtime_evaluator_terminal_run_guard`. -/
def TerminalGuard : Prop :=
  old.leaseId ≠ none ∧ new.leaseId = none ∧
    ¬ ((new.status = .healthy ∧ ∃ run ∈ ledger.runs, ledger.ProvesSuccess old new run) ∨
      ∃ run ∈ ledger.runs, ledger.ProvesFailure old new run)

instance : Decidable (ledger.LeaseGuard old new) :=
  inferInstanceAs (Decidable (_ ∧ _ ∧ ¬ _))

instance : Decidable (IdleGuard old new) :=
  inferInstanceAs (Decidable (_ ∧ _))

instance (run : EvaluatorRunRow) : Decidable (ledger.CompletesRun old new run) :=
  inferInstanceAs (Decidable (_ ∧ _ ∧ _ ∧ _ ∧ _ ∧ _ ∧ _))

instance (run : EvaluatorRunRow) : Decidable (ledger.ProvesSuccess old new run) :=
  inferInstanceAs (Decidable (_ ∧ _ ∧ _ ∧ _ ∧ _ ∧ _ ∧ _ ∧ _ ∧ _ ∧ _ ∧ _))

instance (row : RuntimeStatusRow) : Decidable (failurePair row) :=
  inferInstanceAs (Decidable (_ ∨ _ ∨ _))

instance (run : EvaluatorRunRow) : Decidable (ledger.ProvesFailure old new run) :=
  inferInstanceAs (Decidable (_ ∧ _ ∧ _ ∧ _))

instance : Decidable (ledger.TerminalGuard old new) :=
  inferInstanceAs (Decidable (_ ∧ _ ∧ ¬ _))

/-- The run that `alert_runtime_evaluator_terminalize_run` completes. -/
def terminalized (run : EvaluatorRunRow) (new : RuntimeStatusRow) : EvaluatorRunRow :=
  let healthy := new.status = .healthy
  { run with
    status := if healthy then .succeeded else .failed
    completedAt := some new.updatedAt
    watermarkAt := if healthy then new.watermarkAt else none
    terminalRuntimeRevision := some new.revision
    failureStatus := if healthy then none else some new.status
    failureErrorCode := if healthy then none else new.lastErrorCode
    updatedAt := new.updatedAt }

/-- `alert_runtime_evaluator_terminalize_run`. The triggers after an update of a run do not
fire: its status changes to a terminal one. -/
def terminalize : Except LedgerAbort Ledger :=
  match ledger.runs.find? fun run => run.runtimeGeneration = old.generation ∧
    run.leaseRevision = old.revision ∧ some run.leaseId = old.leaseId ∧ run.Live with
  | none => .error .terminalize
  | some run => ledger.writeRun run (terminalized run new)

/-- An update of the evaluator's runtime row, with the triggers around it. -/
def writeRuntime : Except LedgerAbort Ledger := do
  throwIf (sql.Holds (RuntimeStatusRow.transitionGuard old new)) LedgerAbort.runtimeTransition
  throwIf (ledger.LeaseGuard old new) LedgerAbort.runtimeLease
  throwIf (IdleGuard old new) LedgerAbort.runtimeIdle
  throwIf (ledger.TerminalGuard old new) LedgerAbort.runtimeTerminal
  throwIf (¬ new.Checked) LedgerAbort.check
  let written := { ledger with runtime := some new }
  if old.leaseId ≠ none ∧ new.leaseId = none then written.terminalize old new
  else return written

end runtime

/-- `INSERT INTO alert_runtime_status (component, updated_at)` of `initializeAlertEvaluatorRuntime`,
with the number of changes. -/
def initializeRuntime (initializedAt : Timestamp) (ledger : Ledger) : Except LedgerAbort (Ledger × Nat) :=
  match ledger.runtime with
  | some _ => return (ledger, 0)
  | none => do
    let row : RuntimeStatusRow :=
      { component := .evaluator, status := .disabled, generation := 0, revision := 0, leaseId := none,
        leaseExpiresAt := none, lastStartedAt := none, lastSuccessAt := none, lastErrorAt := none,
        lastErrorCode := none, metricSampledAt := none, backlogCount := none, backlogBytes := none,
        oldestMessageAgeSeconds := none, nonzeroSinceAt := none, consecutiveNonzeroSamples := none,
        watermarkAt := none, updatedAt := initializedAt }
    throwIf (sql.Holds row.initialGuard) LedgerAbort.initialRuntime
    throwIf (¬ row.Checked) LedgerAbort.check
    return ({ ledger with runtime := some row }, 1)

section acquire

/-- `alert_evaluator_run_insert_shape_guard`. -/
def ShapeGuard (new : EvaluatorRunRow) : Prop :=
  new.status ≠ .running ∨ new.runtimeGeneration < 1 ∨ new.acquiredRevision ≠ new.leaseRevision ∨
    new.leaseUpdatedAt ≠ new.startedAt ∨ new.asOf ≠ none ∨ new.sourceCount ≠ none ∨ new.completedAt ≠ none ∨
    new.createdAt ≠ new.startedAt ∨ new.updatedAt ≠ new.startedAt

/-- `alert_evaluator_run_conflict_guard`. -/
def ConflictGuard (ledger : Ledger) (new : EvaluatorRunRow) : Prop :=
  ∃ run ∈ ledger.runs, run.id = new.id ∨ run.triggerScheduledAt = new.triggerScheduledAt ∨
    run.runtimeGeneration = new.runtimeGeneration

instance (new : EvaluatorRunRow) : Decidable (ShapeGuard new) :=
  inferInstanceAs (Decidable (_ ∨ _))

instance (ledger : Ledger) (new : EvaluatorRunRow) : Decidable (ledger.ConflictGuard new) :=
  inferInstanceAs (Decidable (∃ run ∈ ledger.runs, _))

/-- The predecessor as `alert_evaluator_run_acquire_runtime` abandons it. -/
def abandoned (run : EvaluatorRunRow) (startedAt : Timestamp) : EvaluatorRunRow :=
  { run with status := .abandoned, completedAt := some startedAt, updatedAt := startedAt }

/-- The first update of `alert_evaluator_run_acquire_runtime`. The triggers after an update
of a run do not fire: its status changes to a terminal one. -/
def abandonPredecessor (new : EvaluatorRunRow) (ledger : Ledger) : Except LedgerAbort (Ledger × Nat) :=
  match ledger.runs.find? fun run => run.runtimeGeneration = new.runtimeGeneration - 1 ∧ run.Live ∧
    run.leaseExpiresAt ≤ new.startedAt with
  | none => .ok (ledger, 0)
  | some run => do
    let written ← ledger.writeRun run (abandoned run new.startedAt)
    return (written, 1)

/-- The runtime row that a new run acquires. -/
def acquiredRuntime (row : RuntimeStatusRow) (new : EvaluatorRunRow) : RuntimeStatusRow :=
  { row with
    generation := new.runtimeGeneration
    revision := new.acquiredRevision
    leaseId := some new.leaseId
    leaseExpiresAt := some new.leaseExpiresAt
    lastStartedAt := some new.startedAt
    updatedAt := new.leaseUpdatedAt }

/-- The runtime row is free, and just before the new run. -/
def Acquirable (row : RuntimeStatusRow) (new : EvaluatorRunRow) : Prop :=
  row.generation = new.runtimeGeneration - 1 ∧ row.revision = new.acquiredRevision - 1 ∧
    row.generation < MAX_SAFE_INTEGER ∧ row.revision < MAX_SAFE_INTEGER - 1 ∧ row.updatedAt < new.startedAt ∧
    (row.leaseId = none ∨ ∃ expiresAt ∈ row.leaseExpiresAt, expiresAt ≤ new.startedAt)

instance (row : RuntimeStatusRow) (new : EvaluatorRunRow) : Decidable (Acquirable row new) :=
  inferInstanceAs (Decidable (_ ∧ _ ∧ _ ∧ _ ∧ _ ∧ _))

/-- The second update of `alert_evaluator_run_acquire_runtime`. -/
def acquireRuntime (new : EvaluatorRunRow) (ledger : Ledger) : Except LedgerAbort Ledger :=
  match ledger.runtime with
  | none => .error .acquire
  | some row =>
    if Acquirable row new then ledger.writeRuntime row (acquiredRuntime row new) else .error .acquire

/-- The insert of a run, which acquires the runtime row for it, with the rows that it and
its triggers change. -/
def insertRun (new : EvaluatorRunRow) (ledger : Ledger) : Except LedgerAbort (Ledger × Nat) := do
  throwIf (ShapeGuard new) LedgerAbort.initialRun
  throwIf (ledger.ConflictGuard new) LedgerAbort.runImmutable
  throwIf (¬ new.Checked) LedgerAbort.check
  let inserted := { ledger with runs := ledger.runs ++ [new] }
  let (freed, changes) ← inserted.abandonPredecessor new
  let acquired ← freed.acquireRuntime new
  return (acquired, changes + 2)

end acquire

section update

/-- The runtime row that `alert_evaluator_run_renew_runtime` renews. -/
def Renewable (row : RuntimeStatusRow) (old new : EvaluatorRunRow) : Prop :=
  old.HeldBy row ∧ row.lastStartedAt = some old.startedAt ∧ row.updatedAt = old.leaseUpdatedAt ∧
    row.revision < MAX_SAFE_INTEGER - 1 ∧ new.leaseUpdatedAt < old.leaseExpiresAt

instance (row : RuntimeStatusRow) (old new : EvaluatorRunRow) : Decidable (Renewable row old new) :=
  inferInstanceAs (Decidable (_ ∧ _ ∧ _ ∧ _ ∧ _))

def renewedRuntime (row : RuntimeStatusRow) (new : EvaluatorRunRow) : RuntimeStatusRow :=
  { row with
    revision := new.leaseRevision
    leaseExpiresAt := some new.leaseExpiresAt
    updatedAt := new.leaseUpdatedAt }

/-- `alert_evaluator_run_renew_runtime`. -/
def renewRuntime (old new : EvaluatorRunRow) (ledger : Ledger) : Except LedgerAbort Ledger :=
  match ledger.runtime with
  | none => .error .renew
  | some row =>
    if Renewable row old new then ledger.writeRuntime row (renewedRuntime row new) else .error .renew

/-- The run is renewed: its update goes on to the runtime row. -/
def Renews (old new : EvaluatorRunRow) : Prop :=
  new.status = old.status ∧ new.Live ∧ new.leaseRevision = old.leaseRevision + 1

instance (old new : EvaluatorRunRow) : Decidable (Renews old new) :=
  inferInstanceAs (Decidable (_ ∧ _ ∧ _))

/-- An update of the run that the condition finds by its id, with the triggers around it
and the rows that they change. -/
def updateRun (matching : EvaluatorRunRow → Bool) (change : EvaluatorRunRow → EvaluatorRunRow)
    (ledger : Ledger) : Except LedgerAbort (Ledger × Nat) :=
  match ledger.runs.find? matching with
  | none => return (ledger, 0)
  | some old => do
    let new := change old
    let written ← ledger.writeRun old new
    if Renews old new then do
      let renewed ← written.renewRuntime old new
      throwIf (sql.Holds (renewed.metadataGuard old new)) LedgerAbort.metadata
      return (renewed, 2)
    else do
      throwIf (sql.Holds (written.metadataGuard old new)) LedgerAbort.metadata
      return (written, 1)

end update

section proofs

def EvaluatorSourceChecked (source : EvaluatorSourceRow) : Prop :=
  source.asOf.FourDigitYear ∧ (0 ≤ source.observationCount ∧ source.observationCount ≤ 10000) ∧
    (0 ≤ source.incompleteCount ∧ source.incompleteCount ≤ 10000) ∧
    (1 ≤ source.runtimeGeneration ∧ source.runtimeGeneration ≤ MAX_SAFE_INTEGER) ∧
    (1 ≤ source.runtimeRevision ∧ source.runtimeRevision ≤ MAX_SAFE_INTEGER - 1) ∧
    source.recordedAt.FourDigitYear ∧
    ((source.status = .complete ∧ source.incompleteCount = 0) ∨
      (source.status = .partly ∧ 1 ≤ source.incompleteCount) ∨
      ((source.status = .unavailable ∨ source.status = .invalid) ∧ source.observationCount = 0 ∧
        source.incompleteCount = 0))

instance (source : EvaluatorSourceRow) : Decidable (EvaluatorSourceChecked source) :=
  inferInstanceAs (Decidable (_ ∧ _ ∧ _ ∧ _ ∧ _ ∧ _ ∧ _))

/-- What `alert_evaluator_run_source_insert_guard` looks for. -/
def ProvesSource (ledger : Ledger) (source : EvaluatorSourceRow) : Prop :=
  ∃ run ∈ ledger.runs, ∃ runtime ∈ ledger.runtime, run.id = source.runId ∧ run.status = .running ∧
    run.asOf = some source.asOf ∧ run.runtimeGeneration = source.runtimeGeneration ∧
    run.leaseRevision = source.runtimeRevision ∧ source.asOf ≤ source.recordedAt ∧
    source.recordedAt < run.leaseExpiresAt ∧ run.HeldBy runtime

instance (ledger : Ledger) (source : EvaluatorSourceRow) : Decidable (ledger.ProvesSource source) :=
  inferInstanceAs (Decidable (∃ run ∈ ledger.runs, ∃ runtime ∈ ledger.runtime, _))

def insertSource (source : EvaluatorSourceRow) (ledger : Ledger) : Except LedgerAbort Ledger := do
  throwIf (¬ ledger.ProvesSource source) LedgerAbort.sourceProof
  throwIf (∃ other ∈ ledger.sources, other.runId = source.runId ∧ other.sourceId = source.sourceId)
    LedgerAbort.sourceImmutable
  throwIf (¬ EvaluatorSourceChecked source) LedgerAbort.check
  return { ledger with sources := ledger.sources ++ [source] }

def EvaluatorDecisionChecked (decision : EvaluatorDecisionRow) : Prop :=
  (0 ≤ decision.ordinal ∧ decision.ordinal ≤ 9999) ∧ decision.asOf.FourDigitYear ∧
    (1 ≤ decision.runtimeGeneration ∧ decision.runtimeGeneration ≤ MAX_SAFE_INTEGER) ∧
    (1 ≤ decision.runtimeRevision ∧ decision.runtimeRevision ≤ MAX_SAFE_INTEGER - 1) ∧
    decision.recordedAt.FourDigitYear ∧
    ((decision.disposition = .applied ∧ decision.stateId ≠ none ∧ decision.stateGeneration ≠ none ∧
        decision.stateRevision ≠ none) ∨
      (decision.disposition ≠ .applied ∧ decision.stateId = none ∧ decision.stateGeneration = none ∧
        decision.stateRevision = none))

instance (decision : EvaluatorDecisionRow) : Decidable (EvaluatorDecisionChecked decision) :=
  inferInstanceAs (Decidable (_ ∧ _ ∧ _ ∧ _ ∧ _ ∧ _))

/-- What `alert_evaluator_run_decision_insert_guard` looks for. -/
def ProvesDecision (ledger : Ledger) (decision : EvaluatorDecisionRow) : Prop :=
  (∃ run ∈ ledger.runs, ∃ runtime ∈ ledger.runtime, run.id = decision.runId ∧ run.status = .sealed ∧
    run.asOf = some decision.asOf ∧ run.runtimeGeneration = decision.runtimeGeneration ∧
    run.leaseRevision = decision.runtimeRevision ∧
    (∃ count ∈ run.decisionCount, decision.ordinal < count) ∧ run.updatedAt ≤ decision.recordedAt ∧
    decision.recordedAt < run.leaseExpiresAt ∧ run.HeldBy runtime) ∧
  (decision.disposition ≠ .applied ∨ ∃ state ∈ ledger.states, decision.stateId = some state.id ∧
    decision.stateGeneration = some state.generation ∧ decision.stateRevision = some state.revision ∧
    state.lastEvaluatedAt = decision.asOf) ∧
  (decision.disposition ≠ .suppressedPartial ∨ ∃ source ∈ ledger.sourcesOf decision.runId,
    source.sourceId = decision.sourceId ∧ source.status = .partly)

instance (ledger : Ledger) (decision : EvaluatorDecisionRow) : Decidable (ledger.ProvesDecision decision) :=
  inferInstanceAs (Decidable ((∃ run ∈ ledger.runs, ∃ runtime ∈ ledger.runtime, _) ∧ _ ∧ _))

def insertDecision (decision : EvaluatorDecisionRow) (ledger : Ledger) : Except LedgerAbort Ledger := do
  throwIf (¬ ledger.ProvesDecision decision) LedgerAbort.decisionProof
  throwIf (∃ other ∈ ledger.decisions, other.runId = decision.runId ∧
    (other.ordinal = decision.ordinal ∨ other.identitySha256 = decision.identitySha256))
    LedgerAbort.decisionImmutable
  throwIf (¬ EvaluatorDecisionChecked decision) LedgerAbort.check
  throwIf (¬ ∃ source ∈ ledger.sourcesOf decision.runId, source.sourceId = decision.sourceId)
    LedgerAbort.foreignKey
  return { ledger with decisions := ledger.decisions ++ [decision] }

end proofs

section bootstrap

def EvaluatorBootstrapChecked (row : EvaluatorBootstrapRow) : Prop :=
  row.firstSuccessAt.FourDigitYear ∧ (1 ≤ row.sourceGeneration ∧ row.sourceGeneration ≤ MAX_SAFE_INTEGER) ∧
    (1 ≤ row.sourceRevision ∧ row.sourceRevision ≤ MAX_SAFE_INTEGER)

/-- `alert_evaluator_bootstrap_insert_guard`. -/
def BootstrapGuard (ledger : Ledger) (row : EvaluatorBootstrapRow) : Prop :=
  ledger.bootstrap ≠ none ∨ ¬ ∃ runtime ∈ ledger.runtime, runtime.status = .healthy ∧
    runtime.lastStartedAt ≠ none ∧ runtime.lastSuccessAt = some row.firstSuccessAt ∧
    runtime.generation = row.sourceGeneration ∧ runtime.revision = row.sourceRevision

instance (row : EvaluatorBootstrapRow) : Decidable (EvaluatorBootstrapChecked row) :=
  inferInstanceAs (Decidable (_ ∧ _ ∧ _))

instance (ledger : Ledger) (row : EvaluatorBootstrapRow) : Decidable (ledger.BootstrapGuard row) :=
  inferInstanceAs (Decidable (_ ∨ ¬ ∃ runtime ∈ ledger.runtime, _))

def insertBootstrap (row : EvaluatorBootstrapRow) (ledger : Ledger) : Except LedgerAbort Ledger := do
  throwIf (ledger.BootstrapGuard row) LedgerAbort.bootstrap
  throwIf (¬ EvaluatorBootstrapChecked row) LedgerAbort.check
  return { ledger with bootstrap := some row }

end bootstrap

end Ledger

end pgid.alert
