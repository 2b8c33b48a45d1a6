import PgidSso.Alert.Runtime.History

open checked

namespace pgid.alert

open evaluator
open orchestration (Sha256 alertEvaluatorSourceManifestDigest alertEvaluatorDecisionManifestDigest)

namespace Ledger

variable {ledger next : Ledger} {run : EvaluatorRunRow}

/-- The manifests that the run was sealed with are those of its sources and of its decisions. -/
def Manifests (sha256 : Sha256) (ledger : Ledger) (run : EvaluatorRunRow) : Prop :=
  ∃ sourceDigest decisionDigest,
    alertEvaluatorSourceManifestDigest sha256 ((ledger.sourcesOf run.id).map sourceProofValue) = .ok sourceDigest ∧
    alertEvaluatorDecisionManifestDigest sha256 ((readDecisions ledger run.id).map decisionProofValue) =
      .ok decisionDigest ∧
    run.sourceManifestSha256 = some (columnDigest sourceDigest) ∧
    run.decisionManifestSha256 = some (columnDigest decisionDigest)

/-- The manifests stay those of the proofs while these stay. -/
theorem Manifests.congr {sha256 : Sha256} {later : EvaluatorRunRow} (hmanifests : ledger.Manifests sha256 run)
    (hid : later.id = run.id) (hsourceDigest : later.sourceManifestSha256 = run.sourceManifestSha256)
    (hdecisionDigest : later.decisionManifestSha256 = run.decisionManifestSha256)
    (hsources : next.sourcesOf run.id = ledger.sourcesOf run.id)
    (hdecisions : next.decisionsOf run.id = ledger.decisionsOf run.id) : next.Manifests sha256 later := by
  obtain ⟨sourceDigest, decisionDigest, hsource, hdecision, hsealedSource, hsealedDecision⟩ := hmanifests
  refine ⟨sourceDigest, decisionDigest, ?_, ?_, hsourceDigest.trans hsealedSource,
    hdecisionDigest.trans hsealedDecision⟩
  · rwa [hid, hsources]
  · rwa [hid, readDecisions, hdecisions]

/-- No source is recorded for a run that runs no more. -/
theorem Move.sourcesOf (hmove : ledger.Move next) (hdistinct : ledger.Distinct) (hrun : run ∈ ledger.runs)
    (hstatus : run.status ≠ .running) : next.sourcesOf run.id = ledger.sourcesOf run.id := by
  cases hmove with
  | proveSource source hproves hfresh =>
    obtain ⟨other, hother, runtime, -, hid, hrunning, -⟩ := hproves
    rw [sourcesOf_append, if_neg, List.append_nil]
    intro hsame
    rw [hdistinct.eq_of_id hother hrun (hid.trans hsame)] at hrunning
    exact hstatus hrunning
  | states => rfl
  | initializeRuntime => rfl
  | acquire => rfl
  | rewrite => rfl
  | proveDecision => rfl
  | complete => rfl

/-- No decision is recorded for a run that is not sealed. -/
theorem Move.decisionsOf (hmove : ledger.Move next) (hdistinct : ledger.Distinct) (hrun : run ∈ ledger.runs)
    (hstatus : run.status ≠ .sealed) : next.decisionsOf run.id = ledger.decisionsOf run.id := by
  cases hmove with
  | proveDecision states decision hproves hfresh hchecked =>
    obtain ⟨⟨other, hother, runtime, -, hid, hsealed, -⟩, -, -⟩ := hproves
    rw [decisionsOf_append, if_neg, List.append_nil]
    intro hsame
    rw [hdistinct.eq_of_id hother hrun (hid.trans hsame)] at hsealed
    exact hstatus hsealed
  | states => rfl
  | initializeRuntime => rfl
  | acquire => rfl
  | rewrite => rfl
  | proveSource => rfl
  | complete => rfl

/-- Every success was there before. -/
def Unsucceeding (ledger next : Ledger) : Prop :=
  ∀ run ∈ next.runs, run.status = .succeeded → run ∈ ledger.runs

theorem Unsucceeding.of_runs (hruns : next.runs = ledger.runs) : ledger.Unsucceeding next := by
  intro run hrun _
  rwa [hruns] at hrun

/-- A run that is written and has not succeeded leaves the successes. -/
theorem Unsucceeding.replaceRun {new : EvaluatorRunRow} (hruns : next.runs = (ledger.replaceRun new).runs)
    (hstatus : new.status ≠ .succeeded) : ledger.Unsucceeding next := by
  intro run hrun hsucceeded
  rw [hruns] at hrun
  obtain ⟨old, hold, heq⟩ := List.mem_map.mp hrun
  split at heq
  · rw [← heq] at hsucceeded
    exact absurd hsucceeded hstatus
  · rw [← heq]
    exact hold

theorem Rewritten.unsucceeding (hrewritten : ledger.Rewritten next) : ledger.Unsucceeding next := by
  obtain rfl | ⟨old, new, runtime, hrewrites, rfl⟩ := hrewritten
  · exact .of_runs rfl
  · exact .replaceRun rfl (Live.not_succeeded hrewrites.stays)

theorem insertRun_unsucceeding {new : EvaluatorRunRow} {changes : Nat}
    (hinsert : Ledger.insertRun new ledger = .ok (next, changes)) : ledger.Unsucceeding next := by
  obtain ⟨row, freed, -, -, hshape, -, hfrees, -, rfl⟩ := insertRun_frees hinsert
  simp only [ShapeGuard, not_or, not_not, ne_eq] at hshape
  intro run hrun hsucceeded
  obtain hkept | hlast := List.mem_append.mp hrun
  · obtain ⟨rfl, -⟩ | ⟨old, -, -, -, -, rfl⟩ := hfrees
    · exact hkept
    · exact Unsucceeding.replaceRun rfl (by rintro ⟨⟩) run hkept hsucceeded
  · rw [List.mem_singleton.mp hlast, hshape.1] at hsucceeded
    cases hsucceeded

theorem insertSource_runs {source : EvaluatorSourceRow} (hinsert : Ledger.insertSource source ledger = .ok next) :
    next.runs = ledger.runs := by
  simp only [Ledger.insertSource, throwIf_bind_eq_ok_iff] at hinsert
  obtain ⟨-, -, -, heq⟩ := hinsert
  cases heq
  rfl

theorem insertDecision_runs {decision : EvaluatorDecisionRow}
    (hinsert : Ledger.insertDecision decision ledger = .ok next) : next.runs = ledger.runs := by
  simp only [Ledger.insertDecision, throwIf_bind_eq_ok_iff] at hinsert
  obtain ⟨-, -, -, -, heq⟩ := hinsert
  cases heq
  rfl

/-- Of the statements, only that of a success makes a run succeed, and a failure of a healthy status. -/
theorem run_unsucceeding {statement : EvaluatorStatement} {changes : Nat} (hdistinct : ledger.Distinct)
    (hrun : statement.run ledger = .ok (next, changes))
    (hsuccess : ∀ fence completedAt asOf, statement ≠ .recordSuccess fence completedAt asOf)
    (hfailure : ∀ fence completedAt errorCode, statement ≠ .recordFailure fence completedAt .healthy errorCode) :
    ledger.Unsucceeding next := by
  cases statement with
  | recordSource source =>
    obtain ⟨inserted, hinserted, heq⟩ := bind_eq_ok_iff.mp hrun
    cases heq
    exact .of_runs (insertSource_runs hinserted)
  | renew fence renewedAt expiresAt => exact (renewStatement_rewrites hrun).unsucceeding
  | sealPlan fence asOf updatedAt sealedAt partialSourceCount decisionCount sourceDigest decisionDigest =>
    exact (sealPlan_rewrites hrun).unsucceeding
  | recordDecision states decision =>
    obtain ⟨inserted, hinserted, heq⟩ := bind_eq_ok_iff.mp hrun
    cases heq
    exact .of_runs ((insertDecision_runs hinserted).trans rfl)
  | recordSuccess fence completedAt asOf => exact absurd rfl (hsuccess fence completedAt asOf)
  | recordFailure fence completedAt status errorCode =>
    have hunhealthy : status ≠ .healthy := by
      rintro rfl
      exact hfailure fence completedAt errorCode rfl
    obtain ⟨rfl, -⟩ | ⟨row, run, -, -, rfl⟩ :=
      terminalStatement_moves hdistinct hrun (fun _ => rfl) (fun _ => rfl) fun _ _ => rfl
    · exact .of_runs rfl
    · refine .replaceRun rfl ?_
      have hfailed : (terminalized run (failedRuntime fence completedAt status errorCode row)).status = .failed :=
        if_neg hunhealthy
      rw [hfailed]
      decide

end Ledger

section offers

variable {sha256 : Sha256} {database next earlier : RunDatabase} {past : List RunDatabase} {run : EvaluatorRunRow}

/-- The statement of a success is offered by a call that has verified the manifests of its run. -/
theorem RunDatabase.Offers.success {fence : AlertEvaluatorRunFence} {completedAt asOf : Timestamp}
    (hoffers : earlier.Offers sha256 (.later (.recordSuccess fence completedAt asOf))) :
    ∃ named, succeeding sha256 earlier.ledger named completedAt = .ok (.inr (fence, asOf)) := by
  obtain ⟨scheduledAt, startedAt, duration, runId, leaseId, hoffer⟩ | ⟨call, named, hoffer⟩ := hoffers
  · unfold acquireOffer at hoffer
    split at hoffer <;> cases hoffer
  · cases call with
    | recordSuccess instant =>
      simp only [RunCall.offer] at hoffer
      split at hoffer
      · rename_i hinput
        cases hoffer
        exact ⟨named, hinput⟩
      · cases hoffer
    | _ =>
      simp only [RunCall.offer, RunCall.offer.decisionOffer] at hoffer
      repeat' split at hoffer
      all_goals cases hoffer

theorem RunDatabase.Offers.failure {fence : AlertEvaluatorRunFence} {completedAt : Timestamp} {status : RuntimeStatus}
    {errorCode : RuntimeErrorCode}
    (hoffers : earlier.Offers sha256 (.later (.recordFailure fence completedAt status errorCode))) :
    validFailurePair status errorCode := by
  obtain ⟨scheduledAt, startedAt, duration, runId, leaseId, hoffer⟩ | ⟨call, named, hoffer⟩ := hoffers
  · unfold acquireOffer at hoffer
    split at hoffer <;> cases hoffer
  · cases call with
    | recordFailure instant failureStatus failureCode =>
      simp only [RunCall.offer] at hoffer
      split at hoffer
      · rename_i hinput
        cases hoffer
        exact (failing_offers hinput).2.2.2.1
      · cases hoffer
    | _ =>
      simp only [RunCall.offer, RunCall.offer.decisionOffer] at hoffer
      repeat' split at hoffer
      all_goals cases hoffer

/-- The run that is offered for a success has the manifests of its proofs, all of them. -/
theorem succeeding_verifies {ledger : Ledger} {named fence : AlertEvaluatorRunFence} {completedAt asOf : Timestamp}
    (hoffer : succeeding sha256 ledger named completedAt = .ok (.inr (fence, asOf))) :
    ∃ run ∈ ledger.runs, run.runtimeGeneration = fence.runtimeGeneration ∧ run.status = .sealed ∧
      ledger.Manifests sha256 run ∧ run.decisionCount = some ((ledger.decisionsOf run.id).length : Int) := by
  obtain ⟨rfl, -⟩ := succeeding_offers hoffer
  unfold succeeding at hoffer
  obtain ⟨checked, hparse, hchecked⟩ := bind_eq_ok_iff.mp hoffer
  obtain rfl : checked = fence := parseFence_returns _ _ hparse
  obtain ⟨instant, -, hreplay⟩ := bind_eq_ok_iff.mp hchecked
  obtain ⟨replay, -, hfound⟩ := bind_eq_ok_iff.mp hreplay
  clear hoffer hchecked hreplay
  split at hfound
  · cases hfound
  · split at hfound
    · cases hfound
    · rename_i run hread
      obtain ⟨hread, hmatch⟩ := Option.filter_eq_some_iff.mp hread
      obtain ⟨hrun, -⟩ := Ledger.readRunById_eq_some hread
      obtain ⟨_, hverified, -⟩ := bind_eq_ok_iff.mp hfound
      unfold verifySealedProof at hverified
      obtain ⟨hsealed, hproved⟩ := throwIf_bind_eq_ok_iff.mp hverified
      obtain ⟨sourceDigest, hsource, hproved⟩ := bind_eq_ok_iff.mp hproved
      obtain ⟨decisionDigest, hdecision, hsame⟩ := bind_eq_ok_iff.mp hproved
      simp only [throwIf_eq_ok_iff, not_or, not_not, ne_eq] at hsealed hsame
      refine ⟨run, hrun, (of_decide_eq_true hmatch).2.1, hsealed.1, ?_, ?_⟩
      · exact ⟨sourceDigest, decisionDigest, orFail_eq_ok_iff.mp hsource, orFail_eq_ok_iff.mp hdecision,
          hsame.2.2.1, hsame.2.2.2⟩
      · rw [hsame.2.1, readDecisions, List.length_mergeSort]

end offers

section runs

variable {sha256 : Sha256} {database next earlier : RunDatabase} {past : List RunDatabase} {run : EvaluatorRunRow}

theorem RunStep.path_sourcesOf (hpath : Relation.ReflTransGen (RunStep sha256) earlier database)
    (hexclusive : earlier.ledger.Exclusive) (hrun : run ∈ earlier.ledger.runs) (hstatus : run.status ≠ .running) :
    database.ledger.sourcesOf run.id = earlier.ledger.sourcesOf run.id := by
  induction hpath with
  | refl => rfl
  | tail hpath hstep ih =>
    have hmiddle := RunStep.path_exclusive hpath hexclusive
    obtain ⟨later, hlater, hfollows⟩ := RunStep.path_run hpath hexclusive hrun
    obtain ⟨hid, -, hplan⟩ := EvaluatorRunRow.Follows.path hfollows
    have hkept := (hstep.moves hmiddle.distinct).sourcesOf hmiddle.distinct hlater (hplan hstatus).1
    rw [hid] at hkept
    exact hkept.trans ih

theorem RunStep.path_decisions (hpath : Relation.ReflTransGen (RunStep sha256) earlier database)
    (hexclusive : earlier.ledger.Exclusive) : earlier.ledger.decisions <+: database.ledger.decisions := by
  induction hpath with
  | refl => exact List.prefix_rfl
  | tail hpath hstep ih =>
    have hmiddle := RunStep.path_exclusive hpath hexclusive
    exact ih.trans (hstep.moves hmiddle.distinct).keeps.2.1

/-- The run that a success completes has the manifests of its proofs: of the sources none could be added since the
call verified them, and of the decisions none is left to add. -/
theorem recordSuccess_manifests {row new : RuntimeStatusRow} {fence named : AlertEvaluatorRunFence}
    {completedAt asOf : Timestamp}
    (hoffer : succeeding sha256 earlier.ledger named completedAt = .ok (.inr (fence, asOf)))
    (hpath : Relation.ReflTransGen (RunStep sha256) earlier database) (hexclusive : earlier.ledger.Exclusive)
    (hcompletes : database.ledger.Completes row new run) (hrow : row.generation = fence.runtimeGeneration)
    (hhealthy : new.status = .healthy) : database.ledger.Manifests sha256 run := by
  have hdistinct := (RunStep.path_exclusive hpath hexclusive).distinct
  obtain ⟨verified, hverified, hgeneration, hsealed, hmanifests, hcount⟩ := succeeding_verifies hoffer
  obtain ⟨later, hlater, hfollows⟩ := RunStep.path_run hpath hexclusive hverified
  obtain ⟨hid, hlaterGeneration, hplan⟩ := EvaluatorRunRow.Follows.path hfollows
  have hrunning : verified.status ≠ .running := by
    rw [hsealed]
    decide
  obtain ⟨-, -, hsourceDigest, hlaterCount, hdecisionDigest⟩ := hplan hrunning
  obtain ⟨-, hproves⟩ | ⟨hnot, -⟩ := hcompletes.proof
  · obtain ⟨-, ⟨hheld, -⟩, -, -, -, -, -, -, -, hdecisionCount, -⟩ := hproves
    obtain rfl : later = run := hdistinct.eq_of_generation hlater hcompletes.mem
      (hlaterGeneration.trans (hgeneration.trans (hrow.symm.trans hheld.1)))
    refine hmanifests.congr hid hsourceDigest hdecisionDigest (RunStep.path_sourcesOf hpath hexclusive hverified
      hrunning) ?_
    have hbegins : earlier.ledger.decisionsOf verified.id <+: database.ledger.decisionsOf verified.id :=
      (RunStep.path_decisions hpath hexclusive).filter _
    rw [hlaterCount, hcount, hid, Option.some.injEq] at hdecisionCount
    exact (hbegins.eq_of_length (by omega)).symm
  · exact absurd hhealthy hnot

/-- Every success has the manifests of its proofs. -/
def Ledger.Manifested (sha256 : Sha256) (ledger : Ledger) : Prop :=
  ∀ run ∈ ledger.runs, run.status = .succeeded → ledger.Manifests sha256 run

/-- A run that had succeeded before a move has its manifests after it. -/
theorem Ledger.Move.manifests {ledger later : Ledger} (hmove : ledger.Move later) (hdistinct : ledger.Distinct)
    (hmanifested : ledger.Manifested sha256) (hrun : run ∈ ledger.runs) (hstatus : run.status = .succeeded) :
    later.Manifests sha256 run := by
  refine (hmanifested run hrun hstatus).congr rfl rfl rfl (hmove.sourcesOf hdistinct hrun ?_)
    (hmove.decisionsOf hdistinct hrun ?_)
  · rw [hstatus]
    decide
  · rw [hstatus]
    decide

theorem RunStatement.run_manifested {statement : RunStatement} {changes : Nat}
    (hpath : Relation.ReflTransGen (RunStep sha256) earlier database) (hexclusive : earlier.ledger.Exclusive)
    (hoffers : earlier.Offers sha256 statement) (hmanifested : database.ledger.Manifested sha256)
    (hrun : statement.run database = .ok (next, changes)) : next.ledger.Manifested sha256 := by
  have hdistinct := (RunStep.path_exclusive hpath hexclusive).distinct
  have hmove := RunStatement.run_moves hdistinct hrun
  have hkept : database.ledger.Unsucceeding next.ledger → next.ledger.Manifested sha256 :=
    fun hunsucceeding run hrun hstatus =>
      hmove.manifests hdistinct hmanifested (hunsucceeding run hrun hstatus) hstatus
  cases statement with
  | insert run => exact hkept (Ledger.insertRun_unsucceeding (RunDatabase.onLedger_eq_ok hrun).1)
  | bind fence asOf boundAt =>
    exact hkept (bindStatement_rewrites (RunDatabase.onLedger_eq_ok hrun).1).unsucceeding
  | decide absence row =>
    obtain rfl | hdecision := decisionStatement_eq_ok hrun
    · exact hmanifested
    · exact hkept (Ledger.run_unsucceeding hdistinct hdecision (fun _ _ _ => by rintro ⟨⟩) fun _ _ _ => by rintro ⟨⟩)
  | later statement =>
    obtain ⟨hledger, -⟩ := RunDatabase.onLedger_eq_ok hrun
    by_cases hsuccess : ∃ fence completedAt asOf, statement = .recordSuccess fence completedAt asOf
    · obtain ⟨fence, completedAt, asOf, rfl⟩ := hsuccess
      obtain ⟨named, hoffer⟩ := hoffers.success
      obtain hsame | ⟨row, completed, bootstrap, hcompletes, hrow, hnext⟩ := recordSuccess_completes hdistinct hledger
      · exact hkept (.of_runs (by rw [hsame]))
      · have hmanifests := recordSuccess_manifests hoffer hpath hexclusive hcompletes hrow rfl
        intro run hrun hstatus
        rw [hnext] at hrun
        obtain ⟨old, hold, heq⟩ := List.mem_map.mp hrun
        split at heq
        · rw [← heq, hnext]
          exact hmanifests.congr rfl rfl rfl rfl rfl
        · rw [heq] at hold
          exact hmove.manifests hdistinct hmanifested hold hstatus
    · refine hkept (Ledger.run_unsucceeding hdistinct hledger ?_ ?_)
      · intro fence completedAt asOf hequal
        exact hsuccess ⟨fence, completedAt, asOf, hequal⟩
      · rintro fence completedAt errorCode rfl
        obtain ⟨hstatus, -⟩ | ⟨hstatus, -⟩ | ⟨hstatus, -⟩ := hoffers.failure <;> cases hstatus

theorem OutsideStep.unsucceeding (hstep : OutsideStep database next) : database.ledger.Unsucceeding next.ledger := by
  cases hstep with
  | initializeRuntime initializedAt delivery =>
    refine delivery.send_invariant (.of_runs rfl) ?_
    intro written changes hinserted
    unfold Ledger.initializeRuntime at hinserted
    split at hinserted
    · cases hinserted
      exact .of_runs rfl
    · simp only [throwIf_bind_eq_ok_iff] at hinserted
      cases hinserted.2.2
      exact .of_runs rfl
  | apply states stateNames happlied hinsert => exact .of_runs ((Ledger.insertDecision_runs hinsert).trans rfl)
  | writeStates states stateNames => exact .of_runs rfl

theorem RunHistory.manifested {history : List RunDatabase} (hhistory : RunHistory sha256 history) :
    ∀ database ∈ history.head?, database.ledger.Manifested sha256 := by
  induction hhistory with
  | empty =>
    intro database hdatabase
    obtain rfl := Option.some.inj hdatabase
    intro run hrun
    cases hrun
  | outside hhistory houtside ih =>
    intro last hlast
    obtain rfl := Option.some.inj hlast
    have hdistinct := hhistory.reachable.exclusive.distinct
    intro run hrun hstatus
    exact houtside.moves.manifests hdistinct (ih _ rfl) (houtside.unsucceeding run hrun hstatus) hstatus
  | send hhistory hearlier statement hoffers delivery ih =>
    intro last hlast
    obtain rfl := Option.some.inj hlast
    obtain ⟨hreachable, hpath⟩ := hhistory.path_from hearlier
    have hmanifested := ih _ rfl
    refine @sql.Delivery.send_invariant _ _ (fun next : RunDatabase => next.ledger.Manifested sha256) _ _ delivery
      hmanifested ?_
    intro written changes hrun
    exact RunStatement.run_manifested hpath hreachable.exclusive hoffers hmanifested hrun

/-- In every execution in which workers read, and write what they have offered at any later time, a run that has
succeeded was sealed with the manifests of the very sources and decisions that are recorded for it. -/
theorem alertEvaluatorRuns_manifests (hhistory : RunHistory sha256 (database :: past))
    (hrun : run ∈ database.ledger.runs) (hstatus : run.status = .succeeded) :
    database.ledger.Manifests sha256 run :=
  hhistory.manifested database rfl run hrun hstatus

theorem RunHistory.performing {calls : List RunCall} (hhistory : RunHistory sha2.sha256 (database :: past)) :
    ∃ past, RunHistory sha2.sha256 (database.performing calls :: past) := by
  induction calls generalizing database past with
  | nil => exact ⟨past, hhistory⟩
  | cons call calls ih =>
    obtain hsame | hcalled := hhistory.call call earlierFence .answered
    · have hfolded : database.performing (call :: calls) = database.performing calls := by
        simp only [RunDatabase.performing, List.foldl_cons, hsame]
      rw [hfolded]
      exact ih hhistory
    · exact ih hcalled

/-- The manifests of the earlier run are those of its nine sources. -/
theorem alertEvaluatorRuns_manifests_success :
    ∃ run ∈ succeededDatabase.ledger.runs, run.status = .succeeded ∧
      succeededDatabase.ledger.Manifests sha2.sha256 run := by
  obtain ⟨past, hsealed⟩ := @RunHistory.performing acquiredDatabase _ (sealingCalls []) acquiredDatabase_history
  rw [sealedDatabase_performed.1] at hsealed
  obtain ⟨call, hperformed⟩ := succeededDatabase_performed
  obtain ⟨⟨hstatus, -⟩, hchanged, -⟩ := succeededDatabase_shows
  have hrun : succeededRun ∈ succeededDatabase.ledger.runs := List.head_mem _
  obtain hsame | hhistory := hsealed.call call earlierFence .answerLost
  · exact absurd (hperformed.symm.trans hsame) hchanged
  · rw [hperformed] at hhistory
    exact ⟨succeededRun, hrun, hstatus, alertEvaluatorRuns_manifests hhistory hrun hstatus⟩

end runs

end pgid.alert
