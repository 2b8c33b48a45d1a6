import PgidSso.Alert.Runtime.Fenced
import PgidSso.Alert.Runtime.Watermark

open checked

namespace pgid.alert

open evaluator
open orchestration (Sha256 alertEvaluatorSourceManifestDigest alertEvaluatorDecisionManifestDigest)

/-- A call offers the statement at the database. -/
def RunDatabase.Offers (sha256 : Sha256) (database : RunDatabase) (statement : RunStatement) : Prop :=
  (∃ scheduledAt startedAt leaseDurationSeconds runId leaseId,
    database.acquireOffer scheduledAt startedAt leaseDurationSeconds runId leaseId = some statement) ∨
  ∃ (call : RunCall) (fence : AlertEvaluatorRunFence), call.offer sha256 fence database = some statement

/-- The databases of an execution, the last one first. A worker sends what its call has offered at that database,
or at one before it: others may have written in between. -/
inductive RunHistory (sha256 : Sha256) : List RunDatabase → Prop
  | empty : RunHistory sha256 [.empty]
  | outside {database next : RunDatabase} {past : List RunDatabase} (hhistory : RunHistory sha256 (database :: past))
      (houtside : OutsideStep database next) : RunHistory sha256 (next :: database :: past)
  | send {database earlier : RunDatabase} {past : List RunDatabase} (hhistory : RunHistory sha256 (database :: past))
      (hearlier : earlier ∈ database :: past) (statement : RunStatement) (hoffers : earlier.Offers sha256 statement)
      (delivery : sql.Delivery) :
    RunHistory sha256 ((delivery.send statement.run database).2 :: database :: past)

section history

variable {sha256 : Sha256} {database next earlier : RunDatabase} {past : List RunDatabase}

/-- A call that no other worker interrupts. -/
theorem RunHistory.call (hhistory : RunHistory sha256 (database :: past)) (call : RunCall)
    (fence : AlertEvaluatorRunFence) (delivery : sql.Delivery) :
    (call.perform sha256 fence database delivery).2 = database ∨
      RunHistory sha256 ((call.perform sha256 fence database delivery).2 :: database :: past) := by
  rw [RunCall.perform_offer]
  cases hoffer : call.offer sha256 fence database with
  | none => exact .inl rfl
  | some statement =>
    exact .inr (hhistory.send (List.mem_cons_self) statement (.inr ⟨call, fence, hoffer⟩) delivery)

/-- The last database is reached from each before it. -/
theorem RunHistory.path {history : List RunDatabase} (hhistory : RunHistory sha256 history) :
    ∀ database ∈ history.head?, database.Reachable sha256 ∧
      ∀ earlier ∈ history, earlier.Reachable sha256 ∧
        Relation.ReflTransGen (RunStep sha256) earlier database := by
  have hextend : ∀ {database next : RunDatabase} {past : List RunDatabase}, RunStep sha256 database next →
      (database.Reachable sha256 ∧ ∀ earlier ∈ database :: past, earlier.Reachable sha256 ∧
        Relation.ReflTransGen (RunStep sha256) earlier database) →
      next.Reachable sha256 ∧ ∀ earlier ∈ next :: database :: past, earlier.Reachable sha256 ∧
        Relation.ReflTransGen (RunStep sha256) earlier next := by
    intro database next past hstep ⟨hreachable, hpaths⟩
    have hnext : next.Reachable sha256 := hreachable.tail hstep
    refine ⟨hnext, ?_⟩
    intro earlier hearlier
    obtain rfl | hbefore := List.mem_cons.mp hearlier
    · exact ⟨hnext, .refl⟩
    · obtain ⟨hearlierReachable, hpath⟩ := hpaths earlier hbefore
      exact ⟨hearlierReachable, hpath.tail hstep⟩
  induction hhistory with
  | empty =>
    intro database hdatabase
    obtain rfl := Option.some.inj hdatabase
    refine ⟨.refl, ?_⟩
    intro earlier hearlier
    rw [List.mem_singleton.mp hearlier]
    exact ⟨.refl, .refl⟩
  | outside hhistory houtside ih =>
    intro last hlast
    obtain rfl := Option.some.inj hlast
    exact hextend (.outside houtside) (ih _ rfl)
  | send hhistory hearlier statement hoffers delivery ih =>
    intro last hlast
    obtain rfl := Option.some.inj hlast
    exact hextend (.late statement delivery) (ih _ rfl)

theorem RunHistory.reachable (hhistory : RunHistory sha256 (database :: past)) : database.Reachable sha256 :=
  (hhistory.path database rfl).1

theorem RunHistory.path_from (hhistory : RunHistory sha256 (database :: past))
    (hearlier : earlier ∈ database :: past) :
    earlier.Reachable sha256 ∧ Relation.ReflTransGen (RunStep sha256) earlier database :=
  (hhistory.path database rfl).2 earlier hearlier

/-- A run keeps its id, its generation and, once sealed, its plan. -/
theorem EvaluatorRunRow.Follows.path {run later : EvaluatorRunRow}
    (hpath : Relation.ReflTransGen EvaluatorRunRow.Follows run later) :
    later.id = run.id ∧ later.runtimeGeneration = run.runtimeGeneration ∧ run.KeepsPlan later := by
  induction hpath with
  | refl => exact ⟨rfl, rfl, fun hsealed => ⟨hsealed, rfl, rfl, rfl, rfl⟩⟩
  | tail _ hfollows ih =>
    obtain ⟨hid, hgeneration, hplan⟩ := ih
    refine ⟨hfollows.id.trans hid, hfollows.runtimeGeneration.trans hgeneration, ?_⟩
    intro hsealed
    obtain ⟨hmiddle, hasOf, hsources, hcount, hdecisions⟩ := hplan hsealed
    obtain ⟨hlast, hlaterAsOf, hlaterSources, hlaterCount, hlaterDecisions⟩ := hfollows.plan hmiddle
    exact ⟨hlast, hlaterAsOf.trans hasOf, hlaterSources.trans hsources, hlaterCount.trans hcount,
      hlaterDecisions.trans hdecisions⟩

/-- A run stays among the runs. -/
theorem RunStep.path_run {run : EvaluatorRunRow} (hpath : Relation.ReflTransGen (RunStep sha256) earlier database)
    (hexclusive : earlier.ledger.Exclusive) (hrun : run ∈ earlier.ledger.runs) :
    ∃ later ∈ database.ledger.runs, Relation.ReflTransGen EvaluatorRunRow.Follows run later := by
  obtain ⟨index, hindex⟩ := List.mem_iff_getElem?.mp hrun
  obtain ⟨later, hlater, hfollows, -⟩ := tenure.path_getElem? (RunStep.path_runs hpath hexclusive) hindex
  exact ⟨later, List.mem_of_getElem? hlater, hfollows⟩

theorem RunStep.path_names {fence : AlertEvaluatorRunFence}
    (hpath : Relation.ReflTransGen (RunStep sha256) earlier database) (hexclusive : earlier.ledger.Exclusive)
    (hnames : earlier.ledger.Names fence) : database.ledger.Names fence := by
  obtain ⟨run, hrun, hid, hgeneration⟩ := hnames
  obtain ⟨later, hlater, hfollows⟩ := RunStep.path_run hpath hexclusive hrun
  obtain ⟨hsame, hsameGeneration, -⟩ := EvaluatorRunRow.Follows.path hfollows
  exact ⟨later, hlater, hsame.trans hid, hsameGeneration.trans hgeneration⟩

/-- The statement that a call has offered is barred once its fence is stale. -/
theorem RunCall.offer_barred {call : RunCall} {fence : AlertEvaluatorRunFence} {statement : RunStatement}
    (hoffer : call.offer sha256 fence earlier = some statement) (hexclusive : database.ledger.Exclusive)
    (hnamed : earlier.ledger.Names fence → database.ledger.Names fence) (hstale : ¬ database.ledger.Fences fence) :
    Barred statement.run database := by
  have hdecision : ∀ {absence : Option AlertEvaluatorNoStateAbsence} {asOf recordedAt : Timestamp}
      {proof : orchestration.AlertEvaluatorDecisionProofValue} {expectedDisposition : EvaluatorDisposition},
      RunCall.offer.decisionOffer fence earlier absence asOf proof recordedAt expectedDisposition = some statement →
      Barred statement.run database := by
    intro absence asOf recordedAt proof expectedDisposition hdecide
    unfold RunCall.offer.decisionOffer at hdecide
    split at hdecide
    · cases hdecide
    · rename_i parsed value hinput
      obtain ⟨rfl, rfl⟩ := decisionInput_returns hinput
      split at hdecide
      · cases hdecide
      · cases hdecide
        exact decisionStatement_barred rfl rfl rfl hstale
  cases call with
  | renew renewedAt leaseDurationSeconds =>
    simp only [offer] at hoffer
    split at hoffer
    · cases hoffer
    · rename_i parsed expiresAt hinput
      obtain rfl := renewal_fence hinput
      cases hoffer
      exact Barred.onLedger (renewStatement_barred hstale)
  | bindAsOf asOf boundAt =>
    simp only [offer] at hoffer
    split at hoffer
    · cases hoffer
    · rename_i parsed hinput
      obtain rfl := binding_fence hinput
      cases hoffer
      exact Barred.onLedger (bindStatement_barred hstale)
  | recordSource asOf proof recordedAt =>
    simp only [offer] at hoffer
    split at hoffer
    · cases hoffer
    · rename_i parsed value hinput
      obtain ⟨rfl, rfl⟩ := sourceInput_returns hinput
      split at hoffer
      · cases hoffer
      · cases hoffer
        exact Barred.onLedger (recordSource_barred rfl rfl rfl hstale)
  | sealPlan decisions sealedAt =>
    simp only [offer] at hoffer
    split at hoffer
    · rename_i parsed plan asOf updatedAt hinput
      obtain ⟨rfl, -⟩ := sealing_offers hinput
      cases hoffer
      exact Barred.onLedger (sealPlan_barred hstale)
    · cases hoffer
  | recordSuppressed asOf proof recordedAt => exact hdecision hoffer
  | recordNoStateChange absence asOf proof recordedAt => exact hdecision hoffer
  | recordSuccess completedAt =>
    simp only [offer] at hoffer
    split at hoffer
    · rename_i parsed asOf hinput
      obtain ⟨rfl, -, -, run, hread, hmatch, -⟩ := succeeding_offers hinput
      cases hoffer
      exact Barred.onLedger (recordSuccess_barred hexclusive (hnamed (.of_read hread hmatch)) hstale)
    · cases hoffer
  | recordFailure completedAt status errorCode =>
    simp only [offer] at hoffer
    split at hoffer
    · rename_i parsed hinput
      obtain ⟨rfl, -, -, -, run, hread, hmatch⟩ := failing_offers hinput
      cases hoffer
      exact Barred.onLedger (terminalStatement_barred hexclusive (hnamed (.of_read hread hmatch)) hstale)
    · cases hoffer

theorem RunHistory.barred (hhistory : RunHistory sha256 (database :: past)) (hearlier : earlier ∈ database :: past)
    {call : RunCall} {fence : AlertEvaluatorRunFence} {statement : RunStatement}
    (hoffer : call.offer sha256 fence earlier = some statement) (hstale : ¬ database.ledger.Fences fence) :
    Barred statement.run database := by
  obtain ⟨hreachable, hpath⟩ := hhistory.path_from hearlier
  exact RunCall.offer_barred hoffer hhistory.reachable.exclusive (RunStep.path_names hpath hreachable.exclusive) hstale

/-- Once the lease of its fence has been renewed, taken over or given up, a statement that a call has offered
earlier changes nothing. -/
theorem alertEvaluatorRuns_fencedLate (hhistory : RunHistory sha256 (database :: past))
    (hearlier : earlier ∈ database :: past) {call : RunCall} {fence : AlertEvaluatorRunFence}
    {statement : RunStatement} (hoffer : call.offer sha256 fence earlier = some statement)
    (hstale : ¬ database.ledger.Fences fence) (delivery : sql.Delivery) :
    (delivery.send statement.run database).2 = database := by
  obtain ⟨answer, hsend, -⟩ := (hhistory.barred hearlier hoffer hstale).send delivery
  rw [hsend]

end history

section earlier

theorem acquiredDatabase_history : RunHistory sha2.sha256 [acquiredDatabase, initializedDatabase, .empty] := by
  have hinitialized : RunHistory sha2.sha256 [initializedDatabase, .empty] :=
    RunHistory.empty.outside initializedDatabase_outside
  obtain ⟨scheduledAt, startedAt, statement, hoffer, hacquired⟩ := acquiredDatabase_offered
  rw [hacquired]
  exact hinitialized.send List.mem_cons_self statement (.inl ⟨scheduledAt, startedAt, 240, _, _, hoffer⟩) .answered

/-- The database once the earlier run has failed. -/
def failedDatabase : RunDatabase :=
  (earlierFailure.perform sha2.sha256 earlierFence acquiredDatabase .answered).2

theorem failedDatabase_history :
    RunHistory sha2.sha256 [failedDatabase, acquiredDatabase, initializedDatabase, .empty] := by
  obtain hsame | hhistory := acquiredDatabase_history.call earlierFailure earlierFence .answered
  · exact absurd hsame (by decide +kernel)
  · exact hhistory

/-- A second worker had offered the failure too, and sends it late. -/
theorem alertEvaluatorRuns_fencedLate_failure :
    ∃ statement, earlierFailure.offer sha2.sha256 earlierFence acquiredDatabase = some statement ∧
      (sql.Delivery.answered.send statement.run failedDatabase).2 = failedDatabase := by
  have hoffered : (earlierFailure.offer sha2.sha256 earlierFence acquiredDatabase).isSome := by decide +kernel
  obtain ⟨statement, hoffer⟩ := Option.isSome_iff_exists.mp hoffered
  have hstale : ¬ failedDatabase.ledger.Fences earlierFence := by decide +kernel
  exact ⟨statement, hoffer, alertEvaluatorRuns_fencedLate failedDatabase_history
    (List.mem_cons_of_mem _ List.mem_cons_self) hoffer hstale .answered⟩

end earlier

end pgid.alert
