import Mathlib.Logic.Relation
import PgidSso.Alert.Runtime.Distinct
import PgidSso.Library.Sha256

open checked

namespace pgid.alert

open orchestration (AlertEvaluatorSourceProofValue AlertEvaluatorDecisionProofValue Sha256)

/-- The calls by which a worker writes its run. -/
inductive RunCall
  | renew (renewedAt : Timestamp) (leaseDurationSeconds : Int)
  | bindAsOf (asOf boundAt : Timestamp)
  | recordSource (asOf : Timestamp) (proof : AlertEvaluatorSourceProofValue) (recordedAt : Timestamp)
  | sealPlan (decisions : List AlertEvaluatorDecisionProofValue) (sealedAt : Timestamp)
  | recordSuppressed (asOf : Timestamp) (proof : AlertEvaluatorDecisionProofValue) (recordedAt : Timestamp)
  | recordNoStateChange (absence : AlertEvaluatorNoStateAbsence) (asOf : Timestamp)
    (proof : AlertEvaluatorDecisionProofValue) (recordedAt : Timestamp)
  | recordSuccess (completedAt : Timestamp)
  | recordFailure (completedAt : Timestamp) (status : RuntimeStatus) (errorCode : RuntimeErrorCode)

inductive RunOutcome
  | mutation (result : AlertEvaluatorRunMutationResult)
  | proof (result : AlertEvaluatorProofWriteResult)
  | terminal (result : AlertEvaluatorTerminalResult)
  deriving DecidableEq

/-- The call has written, and its answer says so. -/
def RunOutcome.Committed : RunOutcome → Prop
  | .mutation (.committed _ _) => True
  | .proof .recorded => True
  | .terminal (.committed _ _) => True
  | _ => False

/-- The answer of a call that finds what it was to write, with the same fence and run. -/
def RunOutcome.replayed : RunOutcome → RunOutcome
  | .mutation (.committed fence run) => .mutation (.replayed fence run)
  | .proof .recorded => .proof .replayed
  | .terminal (.committed _ run) => .terminal (.replayed run)
  | outcome => outcome

/-- An answer beside the ledger that it leaves. -/
def RunDatabase.answer {A : Type} (database : RunDatabase) (outcome : A → RunOutcome)
    (answered : Except AlertRunRepositoryErrorCode A × Ledger) :
    Except AlertRunRepositoryErrorCode RunOutcome × RunDatabase :=
  (answered.1.map outcome, { database with ledger := answered.2 })

def RunCall.perform (sha256 : Sha256) (fence : AlertEvaluatorRunFence) (database : RunDatabase) :
    RunCall → sql.Delivery → Except AlertRunRepositoryErrorCode RunOutcome × RunDatabase
  | .renew renewedAt leaseDurationSeconds, delivery =>
    database.answer .mutation
      (evaluator.renewAlertEvaluatorRun database.ledger fence renewedAt leaseDurationSeconds delivery)
  | .bindAsOf asOf boundAt, delivery =>
    database.answer .mutation (evaluator.bindAlertEvaluatorRunAsOf database.ledger fence asOf boundAt delivery)
  | .recordSource asOf proof recordedAt, delivery =>
    database.answer .proof
      (evaluator.recordAlertEvaluatorRunSource database.ledger fence asOf proof recordedAt delivery)
  | .sealPlan decisions sealedAt, delivery =>
    database.answer .mutation
      (evaluator.sealAlertEvaluatorRunPlan sha256 database.ledger fence decisions sealedAt delivery)
  | .recordSuppressed asOf proof recordedAt, delivery =>
    let (result, next) :=
      evaluator.recordSuppressedAlertEvaluatorDecision database fence asOf proof recordedAt delivery
    (result.map .proof, next)
  | .recordNoStateChange absence asOf proof recordedAt, delivery =>
    let (result, next) :=
      evaluator.recordNoStateChangeAlertEvaluatorDecision database fence absence asOf proof recordedAt delivery
    (result.map .proof, next)
  | .recordSuccess completedAt, delivery =>
    database.answer .terminal
      (evaluator.recordAlertEvaluatorRunSuccess sha256 database.ledger fence completedAt delivery)
  | .recordFailure completedAt status errorCode, delivery =>
    database.answer .terminal
      (evaluator.recordAlertEvaluatorRunFailure database.ledger fence completedAt status errorCode delivery)

/-- A statement on the ledger leaves the names of the alert states. -/
def RunDatabase.onLedger (statement : Ledger → Except LedgerAbort (Ledger × Nat)) (database : RunDatabase) :
    Except LedgerAbort (RunDatabase × Nat) := do
  let (next, changes) ← statement database.ledger
  return ({ database with ledger := next }, changes)

/-- The statements that a worker sends once it has read what its call needs. -/
inductive RunStatement
  | insert (run : EvaluatorRunRow)
  | bind (fence : AlertEvaluatorRunFence) (asOf boundAt : Timestamp)
  | decide (absence : Option AlertEvaluatorNoStateAbsence) (row : EvaluatorDecisionRow)
  | later (statement : evaluator.EvaluatorStatement)

def RunStatement.run : RunStatement → RunDatabase → Except LedgerAbort (RunDatabase × Nat)
  | .insert run => RunDatabase.onLedger (Ledger.insertRun run)
  | .bind fence asOf boundAt => RunDatabase.onLedger (evaluator.bindStatement fence asOf boundAt)
  | .decide absence row => evaluator.decisionStatement absence row
  | .later statement => RunDatabase.onLedger statement.run

/-- The insert that a worker sends where the database that it has read lets it acquire a run. -/
def RunDatabase.acquireOffer (database : RunDatabase) (scheduledAt startedAt : Timestamp)
    (leaseDurationSeconds : Int) (runId leaseId : String) : Option RunStatement :=
  match evaluator.acquisition database.ledger scheduledAt startedAt leaseDurationSeconds runId leaseId with
  | .ok (.inr (_, run)) => some (.insert run)
  | _ => none

/-- The statement that a call sends, after what it reads of the database. -/
def RunCall.offer (sha256 : Sha256) (fence : AlertEvaluatorRunFence) (database : RunDatabase) :
    RunCall → Option RunStatement
  | .renew renewedAt leaseDurationSeconds =>
    match evaluator.renewal fence renewedAt leaseDurationSeconds with
    | .error _ => none
    | .ok (fence, expiresAt) => some (.later (.renew fence renewedAt expiresAt))
  | .bindAsOf asOf boundAt =>
    match evaluator.binding fence asOf boundAt with
    | .error _ => none
    | .ok fence => some (.bind fence asOf boundAt)
  | .recordSource asOf proof recordedAt =>
    match evaluator.sourceInput fence asOf proof recordedAt with
    | .error _ => none
    | .ok (fence, proof) =>
      match evaluator.readSource database.ledger fence.runId proof.sourceId with
      | some _ => none
      | none => some (.later (.recordSource (evaluator.sourceRow fence asOf proof recordedAt)))
  | .sealPlan decisions sealedAt =>
    match evaluator.sealing sha256 database.ledger fence decisions sealedAt with
    | .ok (.inr (fence, plan, asOf, updatedAt)) =>
      some (.later (.sealPlan fence asOf updatedAt sealedAt plan.partialCount plan.decisionCount plan.sourceDigest
        plan.decisionDigest))
    | _ => none
  | .recordSuppressed asOf proof recordedAt =>
    decisionOffer fence database none asOf proof recordedAt .suppressedPartial
  | .recordNoStateChange absence asOf proof recordedAt =>
    decisionOffer fence database (some absence) asOf proof recordedAt .noStateChange
  | .recordSuccess completedAt =>
    match evaluator.succeeding sha256 database.ledger fence completedAt with
    | .ok (.inr (fence, asOf)) => some (.later (.recordSuccess fence completedAt asOf))
    | _ => none
  | .recordFailure completedAt status errorCode =>
    match evaluator.failing database.ledger fence completedAt status errorCode with
    | .ok (.inr fence) => some (.later (.recordFailure fence completedAt status errorCode))
    | _ => none
where
  decisionOffer (fence : AlertEvaluatorRunFence) (database : RunDatabase)
      (absence : Option AlertEvaluatorNoStateAbsence) (asOf : Timestamp) (proof : AlertEvaluatorDecisionProofValue)
      (recordedAt : Timestamp) (expectedDisposition : EvaluatorDisposition) : Option RunStatement :=
    match evaluator.decisionInput fence asOf proof recordedAt expectedDisposition with
    | .error _ => none
    | .ok (fence, proof) =>
      match evaluator.readDecision database.ledger fence.runId proof.ordinal with
      | some _ => none
      | none => some (.decide absence (evaluator.decisionRow fence asOf proof recordedAt))

/-- What happens to the database outside the calls of a run: the runtime row is initialized, a decision is applied
with its state, or alert states are written without a run. -/
inductive OutsideStep : RunDatabase → RunDatabase → Prop
  | initializeRuntime {database : RunDatabase} (initializedAt : Timestamp) (delivery : sql.Delivery) :
    OutsideStep database
      { database with ledger := (delivery.send (Ledger.initializeRuntime initializedAt) database.ledger).2 }
  | apply {database : RunDatabase} {next : Ledger} (states : List AlertStateCoordinates)
      (stateNames : List AlertEvaluatorNoStateAbsence) {decision : EvaluatorDecisionRow}
      (happlied : decision.disposition = .applied)
      (hinsert : Ledger.insertDecision decision { database.ledger with states } = .ok next) :
    OutsideStep database { ledger := next, stateNames }
  | writeStates {database : RunDatabase} (states : List AlertStateCoordinates)
      (stateNames : List AlertEvaluatorNoStateAbsence) :
    OutsideStep database { ledger := { database.ledger with states }, stateNames }

/-- What happens to the database: something outside the calls, a run is acquired, or a worker calls the repository.
A statement may also come late, once other workers have written what its call had read. -/
inductive RunStep (sha256 : Sha256) : RunDatabase → RunDatabase → Prop
  | outside {database next : RunDatabase} (houtside : OutsideStep database next) : RunStep sha256 database next
  | acquire {database : RunDatabase} (scheduledAt startedAt : Timestamp) (leaseDurationSeconds : Int)
      (runId leaseId : String) (delivery : sql.Delivery) :
    RunStep sha256 database
      { database with
        ledger := (evaluator.acquireAlertEvaluatorRun database.ledger scheduledAt startedAt leaseDurationSeconds
          runId leaseId delivery).2 }
  | call {database : RunDatabase} (call : RunCall) (fence : AlertEvaluatorRunFence) (delivery : sql.Delivery) :
    RunStep sha256 database (call.perform sha256 fence database delivery).2
  | late {database : RunDatabase} (statement : RunStatement) (delivery : sql.Delivery) :
    RunStep sha256 database (delivery.send statement.run database).2

/-- Before the first run. -/
def RunDatabase.empty : RunDatabase :=
  ⟨⟨none, [], [], [], none, []⟩, []⟩

/-- The databases that the evaluator reaches. -/
def RunDatabase.Reachable (sha256 : Sha256) (database : RunDatabase) : Prop :=
  Relation.ReflTransGen (RunStep sha256) .empty database

/-- Neither the run nor what proves it has been written. -/
structure SameRun (runId : String) (database later : RunDatabase) : Prop where
  run : evaluator.readRunById later.ledger runId = evaluator.readRunById database.ledger runId
  sources : later.ledger.sourcesOf runId = database.ledger.sourcesOf runId
  decisions : later.ledger.decisionsOf runId = database.ledger.decisionsOf runId

/-- Nothing that the call reads back has been written: for the end of a run, the runtime row neither;
for a decision of no change, no state of the absent name. -/
structure RunCall.Undisturbed (call : RunCall) (runId : String) (database later : RunDatabase) : Prop extends
    SameRun runId database later where
  runtime : (∀ completedAt, call = .recordSuccess completedAt → later.ledger.runtime = database.ledger.runtime) ∧
    ∀ completedAt status errorCode, call = .recordFailure completedAt status errorCode →
      later.ledger.runtime = database.ledger.runtime
  absence : ∀ name asOf proof recordedAt, call = .recordNoStateChange name asOf proof recordedAt →
    name ∉ database.stateNames → name ∉ later.stateNames

section sends

open evaluator

variable {sha256 : Sha256} {database next : RunDatabase} {fence : AlertEvaluatorRunFence} {delivery : sql.Delivery}

theorem RunDatabase.send_onLedger (statement : Ledger → Except LedgerAbort (Ledger × Nat)) :
    delivery.send (RunDatabase.onLedger statement) database =
      ((delivery.send statement database.ledger).1,
        { database with ledger := (delivery.send statement database.ledger).2 }) := by
  cases hstatement : statement database.ledger with
  | ok result =>
    have hlifted : RunDatabase.onLedger statement database =
        .ok ({ database with ledger := result.1 }, result.2) := by
      rw [onLedger, hstatement]
      rfl
    cases delivery <;> simp only [sql.Delivery.send, hstatement, hlifted]
  | error abort =>
    have hlifted : RunDatabase.onLedger statement database = .error abort := by
      rw [onLedger, hstatement]
      rfl
    cases delivery <;> simp only [sql.Delivery.send, hstatement, hlifted]

theorem RunDatabase.onLedger_eq_ok {statement : Ledger → Except LedgerAbort (Ledger × Nat)} {changes : Nat}
    (hstatement : RunDatabase.onLedger statement database = .ok (next, changes)) :
    statement database.ledger = .ok (next.ledger, changes) ∧ next.stateNames = database.stateNames := by
  obtain ⟨result, hresult, heq⟩ := bind_eq_ok_iff.mp hstatement
  cases heq
  exact ⟨hresult, rfl⟩

/-- A decision is inserted, or its state stands in the way. -/
theorem decisionStatement_eq_ok {absence : Option AlertEvaluatorNoStateAbsence} {row : EvaluatorDecisionRow}
    {changes : Nat} (hstatement : decisionStatement absence row database = .ok (next, changes)) :
    next = database ∨
      (EvaluatorStatement.recordDecision database.ledger.states row).run database.ledger = .ok (next.ledger, 1) := by
  unfold decisionStatement at hstatement
  split at hstatement
  · obtain ⟨inserted, hinsert, heq⟩ := bind_eq_ok_iff.mp hstatement
    cases heq
    exact .inr (bind_eq_ok_iff.mpr ⟨inserted, hinsert, rfl⟩)
  · cases hstatement
    exact .inl rfl

/-- The database after the statement of an offer, if there is one. -/
def RunDatabase.sending (database : RunDatabase) (delivery : sql.Delivery) (offer : Option RunStatement) :
    RunDatabase :=
  offer.elim database fun statement => (delivery.send statement.run database).2

/-- What the statement of an offer keeps is kept. -/
theorem RunDatabase.sending_invariant {Inv : RunDatabase → Prop} {offer : Option RunStatement}
    (hbefore : Inv database) (hkeeps : ∀ {statement : RunStatement} {next changes}, offer = some statement →
      statement.run database = .ok (next, changes) → Inv next) : Inv (database.sending delivery offer) := by
  cases offer with
  | none => exact hbefore
  | some statement => exact delivery.send_invariant hbefore (hkeeps rfl)

theorem RunDatabase.sending_later (statement : EvaluatorStatement) :
    database.sending delivery (some (.later statement)) =
      { database with ledger := (delivery.send statement.run database.ledger).2 } :=
  congrArg Prod.snd (RunDatabase.send_onLedger statement.run)

theorem recordStatelessAlertEvaluatorDecision_offer {absence : Option AlertEvaluatorNoStateAbsence}
    {asOf recordedAt : Timestamp} {proof : AlertEvaluatorDecisionProofValue}
    {expectedDisposition : EvaluatorDisposition} :
    (recordStatelessAlertEvaluatorDecision database fence absence asOf proof recordedAt expectedDisposition
      delivery).2 =
      database.sending delivery
        (RunCall.offer.decisionOffer fence database absence asOf proof recordedAt expectedDisposition) := by
  unfold recordStatelessAlertEvaluatorDecision RunCall.offer.decisionOffer
  cases hinput : decisionInput fence asOf proof recordedAt expectedDisposition with
  | error code => rfl
  | ok parsed =>
    cases hread : readDecision database.ledger parsed.1.runId parsed.2.ordinal with
    | some existing => simp only [hread, RunDatabase.sending, Option.elim_none]
    | none =>
      simp only [hread, RunDatabase.sending, Option.elim_some, RunStatement.run]
      split
      · rename_i hsend
        rw [hsend]
        split <;> rfl
      · rename_i hsend
        rw [hsend]

/-- What a call does to the database is done by the statement that it offers. -/
theorem RunCall.perform_offer (call : RunCall) :
    (call.perform sha256 fence database delivery).2 =
      database.sending delivery (call.offer sha256 fence database) := by
  cases call with
  | renew renewedAt leaseDurationSeconds =>
    simp only [perform, offer, RunDatabase.answer, renewAlertEvaluatorRun]
    cases renewal fence renewedAt leaseDurationSeconds with
    | error code => rfl
    | ok parsed => exact (RunDatabase.sending_later (.renew parsed.1 renewedAt parsed.2)).symm
  | bindAsOf asOf boundAt =>
    simp only [perform, offer, RunDatabase.answer, bindAlertEvaluatorRunAsOf]
    cases binding fence asOf boundAt with
    | error code => rfl
    | ok parsed => exact (congrArg Prod.snd (RunDatabase.send_onLedger _)).symm
  | recordSource asOf proof recordedAt =>
    simp only [perform, offer, RunDatabase.answer, recordAlertEvaluatorRunSource]
    cases sourceInput fence asOf proof recordedAt with
    | error code => rfl
    | ok parsed =>
      cases hread : readSource database.ledger parsed.1.runId parsed.2.sourceId with
      | some existing => simp only [hread, RunDatabase.sending, Option.elim_none]
      | none =>
        simp only [hread, RunDatabase.sending_later]
        split
        · rename_i hsend
          rw [hsend]
          split <;> rfl
        · rename_i hsend
          rw [hsend]
  | sealPlan decisions sealedAt =>
    simp only [perform, offer, RunDatabase.answer, sealAlertEvaluatorRunPlan]
    cases hsealing : sealing sha256 database.ledger fence decisions sealedAt with
    | error code => rfl
    | ok result =>
      cases result with
      | inl answered => rfl
      | inr plan => exact (RunDatabase.sending_later _).symm
  | recordSuppressed asOf proof recordedAt => exact recordStatelessAlertEvaluatorDecision_offer
  | recordNoStateChange absence asOf proof recordedAt => exact recordStatelessAlertEvaluatorDecision_offer
  | recordSuccess completedAt =>
    simp only [perform, offer, RunDatabase.answer, recordAlertEvaluatorRunSuccess]
    cases hsucceeding : succeeding sha256 database.ledger fence completedAt with
    | error code => rfl
    | ok result =>
      cases result with
      | inl answered => rfl
      | inr offered =>
        simp only [RunDatabase.sending_later]
        split
        · rename_i hsend
          rw [hsend]
        · rename_i hsend
          rw [hsend]
  | recordFailure completedAt status errorCode =>
    simp only [perform, offer, RunDatabase.answer, recordAlertEvaluatorRunFailure]
    cases hfailing : failing database.ledger fence completedAt status errorCode with
    | error code => rfl
    | ok result =>
      cases result with
      | inl answered => rfl
      | inr offered =>
        simp only [RunDatabase.sending_later]
        split
        · rename_i hsend
          rw [hsend]
        · rename_i hsend
          rw [hsend]

theorem acquireAlertEvaluatorRun_offer {scheduledAt startedAt : Timestamp} {leaseDurationSeconds : Int}
    {runId leaseId : String} :
    { database with
      ledger := (acquireAlertEvaluatorRun database.ledger scheduledAt startedAt leaseDurationSeconds runId leaseId
        delivery).2 } =
      database.sending delivery (database.acquireOffer scheduledAt startedAt leaseDurationSeconds runId leaseId) := by
  unfold acquireAlertEvaluatorRun RunDatabase.acquireOffer
  cases hacquisition : acquisition database.ledger scheduledAt startedAt leaseDurationSeconds runId leaseId with
  | error code => rfl
  | ok result =>
    cases result with
    | inl answered => rfl
    | inr offered =>
      have hsent : database.sending delivery (some (.insert offered.2)) =
          { database with ledger := (delivery.send (Ledger.insertRun offered.2) database.ledger).2 } :=
        congrArg Prod.snd (RunDatabase.send_onLedger _)
      simp only [hsent]
      split
      · rename_i hsend
        rw [hsend]
      · rename_i hsend
        rw [hsend]

end sends

section earlier

def initializedDatabase : RunDatabase :=
  { RunDatabase.empty with
    ledger := (sql.Delivery.answered.send (Ledger.initializeRuntime ⟨7000, by decide⟩) RunDatabase.empty.ledger).2 }

/-- The database once a run has been acquired. -/
def RunDatabase.acquiring (database : RunDatabase) (scheduledAt startedAt : Timestamp) (runId leaseId : String) :
    RunDatabase :=
  { database with
    ledger := (evaluator.acquireAlertEvaluatorRun database.ledger scheduledAt startedAt 240 runId leaseId
      .answered).2 }

def acquiredDatabase : RunDatabase :=
  initializedDatabase.acquiring ⟨180000, by decide⟩ ⟨180012, by decide⟩ "earlier" "lease"

/-- The run that has been acquired. -/
def acquiredRun : EvaluatorRunRow :=
  acquiredDatabase.ledger.runs.head (by decide +kernel)

def earlierFence : AlertEvaluatorRunFence where
  leaseExpiresAt := ⟨420012, by decide⟩
  leaseId := "lease"
  leaseRevision := 1
  leaseUpdatedAt := ⟨180012, by decide⟩
  runId := "earlier"
  runtimeGeneration := 1
  startedAt := ⟨180012, by decide⟩

def earlierFailure : RunCall :=
  .recordFailure ⟨180050, by decide⟩ .failing .evaluatorFailed

theorem initializedDatabase_outside : OutsideStep .empty initializedDatabase :=
  .initializeRuntime ⟨7000, by decide⟩ .answered

/-- The run that has been acquired was offered. -/
theorem acquiredDatabase_offered : ∃ scheduledAt startedAt statement,
    initializedDatabase.acquireOffer scheduledAt startedAt 240 "earlier" "lease" = some statement ∧
      acquiredDatabase = (sql.Delivery.answered.send statement.run initializedDatabase).2 := by
  have hoffered : (initializedDatabase.acquireOffer ⟨180000, by decide⟩ ⟨180012, by decide⟩ 240 "earlier"
      "lease").isSome := by decide +kernel
  obtain ⟨statement, hstatement⟩ := Option.isSome_iff_exists.mp hoffered
  refine ⟨_, _, statement, hstatement, ?_⟩
  rw [acquiredDatabase, RunDatabase.acquiring, acquireAlertEvaluatorRun_offer, hstatement]
  rfl

theorem acquiredDatabase_reachable : acquiredDatabase.Reachable sha2.sha256 :=
  (Relation.ReflTransGen.single (.outside initializedDatabase_outside)).tail
    (.acquire ⟨180000, by decide⟩ ⟨180012, by decide⟩ 240 "earlier" "lease" .answered)

end earlier

end pgid.alert
