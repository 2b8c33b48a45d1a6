import PgidSso.Alert.Runtime.Sentinel
import PgidSso.Library.Transition

open checked transition

namespace pgid.alert

def LEASE_DURATION_SECONDS : Int := 240

def RENEWAL_THRESHOLD_MILLISECONDS : Int := 120000

/-- What a run has read of its runtime source. -/
structure RuntimeSourceRead where
  /-- The sentinel existed when the run started. -/
  sentinel : Bool
  asOf : Timestamp
  runtime : Option RuntimeStatusRow
  source : CollectedSource
  deriving DecidableEq

/-- The worker, by what `runAlertEvaluator` waits for next. -/
inductive EvaluatorWorker
  | idle
  | started (sentinel : Bool) (clock : MonotonicClock) (scheduledAt startedAt : Timestamp)
  | acquired (sentinel : Bool) (clock : MonotonicClock) (fence : AlertEvaluatorRunFence)
  | settled (sentinel : Bool) (clock : MonotonicClock) (fence : AlertEvaluatorRunFence) (asOf : Timestamp)
  | bound (sentinel : Bool) (clock : MonotonicClock) (fence : AlertEvaluatorRunFence) (asOf : Timestamp)
  | renewed (sentinel : Bool) (clock : MonotonicClock) (fence : AlertEvaluatorRunFence) (asOf : Timestamp)
  | finishing (fence : AlertEvaluatorRunFence)

/-- The worker and its database, with what all its runs have read. -/
structure EvaluatorSystem where
  ledger : Ledger
  worker : EvaluatorWorker
  reads : List RuntimeSourceRead

/-- What happens next: the clock shows a reading, a statement is sent, a source is read. -/
inductive EvaluatorAction
  | start (scheduledTime : Int) (reading : Timestamp)
  | acquire (runId leaseId : String) (initialization delivery : sql.Delivery)
  | settle (reading : Timestamp)
  | bind (reading : Timestamp) (delivery : sql.Delivery)
  | maybeRenew (reading : Timestamp) (delivery : sql.Delivery)
  | readRuntime (outbox : Option OutboxProjection)
  | fail
  | write (statement : evaluator.EvaluatorStatement) (delivery : sql.Delivery)

namespace evaluator

/-- The instants that a run starts from. -/
def runStart (scheduledTime : Int) (reading : Timestamp) :
    Except AlertEvaluatorOrchestrationErrorCode (Timestamp × Timestamp × MonotonicClock) := do
  let scheduledAt ← scheduledTimestamp scheduledTime
  let (startedAt, clock) ← MonotonicClock.nextTime ⟨none, none⟩ reading
  throwIf (scheduledAt > startedAt) AlertEvaluatorOrchestrationErrorCode.clockInvalid
  return (scheduledAt, startedAt, clock)

/-- The worker of a new run; that of the run before has finished, or is dead. -/
def startedWorker (scheduledTime : Int) (reading : Timestamp) (ledger : Ledger) : EvaluatorWorker :=
  match runStart scheduledTime reading with
  | .ok (scheduledAt, startedAt, clock) => .started ledger.bootstrap.isSome clock scheduledAt startedAt
  | .error _ => .idle

/-- `initializeAlertEvaluatorRuntime`, and `acquireAlertEvaluatorRun` once the row is there. -/
def acquireRun (sentinel : Bool) (clock : MonotonicClock) (scheduledAt startedAt : Timestamp)
    (runId leaseId : String) (initialization delivery : sql.Delivery) (ledger : Ledger) :
    EvaluatorWorker × Ledger :=
  match initialization.send (Ledger.initializeRuntime startedAt) ledger with
  | (some 0, initialized) =>
    match acquireAlertEvaluatorRun initialized scheduledAt startedAt LEASE_DURATION_SECONDS runId leaseId
      delivery with
    | (.ok (.acquired fence _), next) => (.acquired sentinel clock fence, next)
    | (_, next) => (.idle, next)
  | (_, initialized) => (.idle, initialized)

/-- `asOf` is read once the providers have settled. -/
def settleMetrics (sentinel : Bool) (clock : MonotonicClock) (fence : AlertEvaluatorRunFence)
    (reading : Timestamp) : EvaluatorWorker :=
  match clock.nextTime reading with
  | .ok (asOf, clock) => .settled sentinel clock fence asOf
  | .error _ => .finishing fence

def bindRun (sentinel : Bool) (clock : MonotonicClock) (fence : AlertEvaluatorRunFence) (asOf reading : Timestamp)
    (delivery : sql.Delivery) (ledger : Ledger) : EvaluatorWorker × Ledger :=
  match clock.nextTime reading with
  | .error _ => (.finishing fence, ledger)
  | .ok (boundAt, clock) =>
    match bindAlertEvaluatorRunAsOf ledger fence asOf boundAt delivery with
    | (.ok result, next) =>
      match result.fence with
      | some fence => (.bound sentinel clock fence asOf, next)
      | none => (.finishing fence, next)
    | (.error _, next) => (.finishing fence, next)

/-- The first `maybeRenew` of the run. -/
def maybeRenew (sentinel : Bool) (clock : MonotonicClock) (fence : AlertEvaluatorRunFence)
    (asOf reading : Timestamp) (delivery : sql.Delivery) (ledger : Ledger) : EvaluatorWorker × Ledger :=
  match clock.nextTime reading with
  | .error _ => (.finishing fence, ledger)
  | .ok (checkedAt, clock) =>
    if fence.leaseExpiresAt.ms - checkedAt.ms > RENEWAL_THRESHOLD_MILLISECONDS then
      (.renewed sentinel clock fence asOf, ledger)
    else
      match renewAlertEvaluatorRun ledger fence checkedAt LEASE_DURATION_SECONDS delivery with
      | (.ok result, next) =>
        match result.fence with
        | some fence => (.renewed sentinel clock fence asOf, next)
        | none => (.finishing fence, next)
      | (.error _, next) => (.finishing fence, next)

/-- The source that the run collects from the ledger. -/
def readRuntime (sentinel : Bool) (asOf : Timestamp) (outbox : Option OutboxProjection) (ledger : Ledger) :
    RuntimeSourceRead where
  sentinel := sentinel
  asOf := asOf
  runtime := ledger.runtime
  source := collectRuntimeSource ledger outbox asOf

/-- The fence of a run that has been acquired. -/
def workerFence : EvaluatorWorker → Option AlertEvaluatorRunFence
  | .idle => none
  | .started _ _ _ _ => none
  | .acquired _ _ fence => some fence
  | .settled _ _ fence _ => some fence
  | .bound _ _ fence _ => some fence
  | .renewed _ _ fence _ => some fence
  | .finishing fence => some fence

/-- One step of the worker; any worker may be followed by that of a new run, and any run that
has been acquired may fail. After its reads the run goes on to its later statements. -/
def perform (system : EvaluatorSystem) (action : EvaluatorAction) : Option EvaluatorSystem :=
  match action, system.worker with
  | .start scheduledTime reading, _ =>
    some { system with worker := startedWorker scheduledTime reading system.ledger }
  | .acquire runId leaseId initialization delivery, .started sentinel clock scheduledAt startedAt =>
    let (worker, ledger) :=
      acquireRun sentinel clock scheduledAt startedAt runId leaseId initialization delivery system.ledger
    some { system with worker, ledger }
  | .settle reading, .acquired sentinel clock fence =>
    some { system with worker := settleMetrics sentinel clock fence reading }
  | .bind reading delivery, .settled sentinel clock fence asOf =>
    let (worker, ledger) := bindRun sentinel clock fence asOf reading delivery system.ledger
    some { system with worker, ledger }
  | .maybeRenew reading delivery, .bound sentinel clock fence asOf =>
    let (worker, ledger) := maybeRenew sentinel clock fence asOf reading delivery system.ledger
    some { system with worker, ledger }
  | .readRuntime outbox, .renewed sentinel _ fence asOf =>
    some { system with worker := .finishing fence,
                       reads := system.reads ++ [readRuntime sentinel asOf outbox system.ledger] }
  | .fail, worker => (workerFence worker).map fun fence => { system with worker := .finishing fence }
  | .write statement delivery, .finishing _ =>
    some { system with ledger := (delivery.send statement.run system.ledger).2 }
  | _, _ => none

/-- Before the first run. -/
def Initial (system : EvaluatorSystem) : Prop :=
  system = ⟨⟨none, [], [], [], none, []⟩, .idle, []⟩

end evaluator

end pgid.alert
