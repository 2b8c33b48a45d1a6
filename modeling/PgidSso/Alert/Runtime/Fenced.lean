import PgidSso.Alert.Runtime.Ended
import PgidSso.Alert.Runtime.Exclusive

open checked

namespace pgid.alert

/-- The fence names a live run with its generation and revision. -/
def Ledger.Fences (ledger : Ledger) (fence : AlertEvaluatorRunFence) : Prop :=
  ∃ run ∈ ledger.runs, run.Live ∧ run.id = fence.runId ∧ run.runtimeGeneration = fence.runtimeGeneration ∧
    run.leaseRevision = fence.leaseRevision

instance (ledger : Ledger) (fence : AlertEvaluatorRunFence) : Decidable (ledger.Fences fence) :=
  inferInstanceAs (Decidable (∃ run ∈ ledger.runs, _))

/-- The fence was that of a run. -/
def Ledger.Names (ledger : Ledger) (fence : AlertEvaluatorRunFence) : Prop :=
  ∃ run ∈ ledger.runs, run.id = fence.runId ∧ run.runtimeGeneration = fence.runtimeGeneration

theorem Ledger.Names.of_read {ledger : Ledger} {fence : AlertEvaluatorRunFence} {run : EvaluatorRunRow}
    (hread : evaluator.readRunById ledger fence.runId = some run) (hmatch : evaluator.runMatchesFence run fence) :
    ledger.Names fence := by
  obtain ⟨hrun, hid⟩ := readRunById_eq_some hread
  exact ⟨run, hrun, hid, hmatch.2.1⟩

/-- The statement changes nothing, or throws. -/
def Barred {δ ε : Type} (statement : δ → Except ε (δ × Nat)) (database : δ) : Prop :=
  ∀ next changes, statement database = .ok (next, changes) → next = database ∧ changes = 0

/-- A statement on the ledger is barred with it. -/
theorem Barred.onLedger {statement : Ledger → Except LedgerAbort (Ledger × Nat)} {database : RunDatabase}
    (hbarred : Barred statement database.ledger) : Barred (RunDatabase.onLedger statement) database := by
  intro next changes hstatement
  obtain ⟨hledger, hnames⟩ := RunDatabase.onLedger_eq_ok hstatement
  obtain ⟨hsame, rfl⟩ := hbarred next.ledger changes hledger
  obtain ⟨ledger, stateNames⟩ := next
  simp only at hsame hnames
  exact ⟨by rw [hsame, hnames], rfl⟩

theorem Barred.send {δ ε : Type} {statement : δ → Except ε (δ × Nat)} {database : δ}
    (hbarred : Barred statement database) (delivery : sql.Delivery) :
    ∃ answer, delivery.send statement database = (answer, database) ∧ ∀ changes ∈ answer, changes = 0 := by
  cases hstatement : statement database with
  | ok result =>
    obtain ⟨next, changes⟩ := result
    obtain ⟨rfl, rfl⟩ := hbarred next changes hstatement
    exact sql.Delivery.send_idle delivery hstatement
  | error abort =>
    refine ⟨none, ?_, by simp⟩
    cases delivery <;> simp only [sql.Delivery.send, hstatement]

/-- What a call with a stale fence does: it writes nothing, and does not say that it has. -/
def Refused {δ A : Type} (Committed : A → Prop) (database : δ)
    (answered : Except AlertRunRepositoryErrorCode A × δ) : Prop :=
  answered.2 = database ∧ ∀ answer, answered.1 = .ok answer → ¬ Committed answer

theorem Refused.error {δ A : Type} {Committed : A → Prop} {database : δ} {code : AlertRunRepositoryErrorCode} :
    Refused Committed database (.error code, database) := by
  refine ⟨rfl, ?_⟩
  intro answer hanswer
  cases hanswer

theorem Refused.ok {δ A : Type} {Committed : A → Prop} {database : δ} {answer : A} (hnot : ¬ Committed answer) :
    Refused Committed database (.ok answer, database) := by
  refine ⟨rfl, ?_⟩
  intro found hfound
  cases hfound
  exact hnot

/-- The mutation says that it has written. -/
def AlertEvaluatorRunMutationResult.Wrote (result : AlertEvaluatorRunMutationResult) : Prop :=
  (RunOutcome.mutation result).Committed

def AlertEvaluatorTerminalResult.Wrote (result : AlertEvaluatorTerminalResult) : Prop :=
  (RunOutcome.terminal result).Committed

namespace evaluator

open Ledger
open orchestration (Sha256)

variable {sha256 : Sha256} {ledger : Ledger} {fence : AlertEvaluatorRunFence} {delivery : sql.Delivery}

theorem updateRun_barred {matching : EvaluatorRunRow → Bool} {change : EvaluatorRunRow → EvaluatorRunRow}
    (hstale : ¬ ledger.Fences fence)
    (hmatching : ∀ run, matching run = true → run.Live ∧ run.id = fence.runId ∧
      run.runtimeGeneration = fence.runtimeGeneration ∧ run.leaseRevision = fence.leaseRevision) :
    Barred (updateRun matching change) ledger := by
  intro next changes hupdate
  obtain ⟨rfl, rfl⟩ | ⟨old, hfound, -⟩ := updateRun_cases hupdate
  · exact ⟨rfl, rfl⟩
  · obtain ⟨hlive, hid, hgeneration, hrevision⟩ := hmatching old (List.find?_some hfound)
    exact absurd ⟨old, List.mem_of_find?_eq_some hfound, hlive, hid, hgeneration, hrevision⟩ hstale

theorem renewStatement_barred {renewedAt expiresAt : Timestamp} (hstale : ¬ ledger.Fences fence) :
    Barred (renewStatement fence renewedAt expiresAt) ledger := by
  refine updateRun_barred hstale ?_
  intro run hmatch
  obtain ⟨⟨hid, hgeneration, hrevision, -⟩, hlive⟩ := of_decide_eq_true hmatch
  exact ⟨hlive, hid, hgeneration, hrevision⟩

theorem bindStatement_barred {asOf boundAt : Timestamp} (hstale : ¬ ledger.Fences fence) :
    Barred (bindStatement fence asOf boundAt) ledger := by
  refine updateRun_barred hstale ?_
  intro run hmatch
  obtain ⟨hid, hgeneration, hrevision, -, -, -, hrunning, -⟩ := of_decide_eq_true hmatch
  exact ⟨.inl hrunning, hid, hgeneration, hrevision⟩

theorem sealPlan_barred {asOf updatedAt sealedAt : Timestamp} {partialSourceCount decisionCount : Int}
    {sourceDigest decisionDigest : String} (hstale : ¬ ledger.Fences fence) :
    Barred (EvaluatorStatement.sealPlan fence asOf updatedAt sealedAt partialSourceCount decisionCount sourceDigest
      decisionDigest).run ledger := by
  refine updateRun_barred hstale ?_
  intro run hmatch
  obtain ⟨hid, hgeneration, hrevision, -, -, -, hrunning, -⟩ := of_decide_eq_true hmatch
  exact ⟨.inl hrunning, hid, hgeneration, hrevision⟩

theorem recordSource_barred {source : EvaluatorSourceRow} (hid : source.runId = fence.runId)
    (hgeneration : source.runtimeGeneration = fence.runtimeGeneration)
    (hrevision : source.runtimeRevision = fence.leaseRevision) (hstale : ¬ ledger.Fences fence) :
    Barred (EvaluatorStatement.recordSource source).run ledger := by
  intro next changes hrun
  obtain ⟨inserted, hinserted, -⟩ := bind_eq_ok_iff.mp hrun
  simp only [insertSource, throwIf_bind_eq_ok_iff, not_not] at hinserted
  obtain ⟨run, hmem, runtime, -, hsame, hrunning, -, hsameGeneration, hsameRevision, -⟩ := hinserted.1
  exact absurd ⟨run, hmem, .inl hrunning, hsame.trans hid, hsameGeneration.trans hgeneration,
    hsameRevision.trans hrevision⟩ hstale

theorem decisionStatement_barred {database : RunDatabase} {absence : Option AlertEvaluatorNoStateAbsence}
    {row : EvaluatorDecisionRow} (hid : row.runId = fence.runId)
    (hgeneration : row.runtimeGeneration = fence.runtimeGeneration)
    (hrevision : row.runtimeRevision = fence.leaseRevision) (hstale : ¬ database.ledger.Fences fence) :
    Barred (decisionStatement absence row) database := by
  intro next changes hstatement
  unfold decisionStatement at hstatement
  split at hstatement
  · obtain ⟨inserted, hinserted, -⟩ := bind_eq_ok_iff.mp hstatement
    simp only [insertDecision, throwIf_bind_eq_ok_iff, not_not] at hinserted
    obtain ⟨⟨run, hmem, runtime, -, hsame, hsealed, -, hsameGeneration, hsameRevision, -⟩, -⟩ := hinserted.1
    exact absurd ⟨run, hmem, .inr hsealed, hsame.trans hid, hsameGeneration.trans hgeneration,
      hsameRevision.trans hrevision⟩ hstale
  · cases hstatement
    exact ⟨rfl, rfl⟩

/-- The runtime row is freed for the run of the fence only. -/
theorem terminalStatement_barred {change : RuntimeStatusRow → RuntimeStatusRow}
    (hexclusive : ledger.Exclusive) (hnamed : ledger.Names fence) (hstale : ¬ ledger.Fences fence) :
    Barred (terminalStatement fence change) ledger := by
  intro next changes hterminal
  unfold terminalStatement at hterminal
  split at hterminal
  · cases hterminal
    exact ⟨rfl, rfl⟩
  · rename_i row hrow
    split at hterminal
    · rename_i hfence
      obtain ⟨hgeneration, hrevision, hlease, -⟩ := hfence
      have hheld : row.leaseId ≠ none := by
        rw [hlease]
        exact Option.some_ne_none _
      obtain ⟨live, hmem, hlive⟩ := hexclusive.held row hrow hheld
      obtain ⟨⟨hliveGeneration, hliveRevision, -, -⟩, -, -⟩ := hexclusive.leased row hrow live hmem hlive
      obtain ⟨run, hrun, hid, hrunGeneration⟩ := hnamed
      have hsame : live = run := hexclusive.distinct.eq_of_generation hmem hrun
        (hliveGeneration.symm.trans (hgeneration.trans hrunGeneration.symm))
      refine absurd ⟨live, hmem, hlive, ?_, ?_, ?_⟩ hstale
      · rw [hsame]
        exact hid
      · exact hliveGeneration.symm.trans hgeneration
      · exact hliveRevision.symm.trans hrevision
    · cases hterminal
      exact ⟨rfl, rfl⟩

theorem recordSuccess_barred {completedAt asOf : Timestamp} (hexclusive : ledger.Exclusive)
    (hnamed : ledger.Names fence) (hstale : ¬ ledger.Fences fence) :
    Barred (EvaluatorStatement.recordSuccess fence completedAt asOf).run ledger := by
  intro next changes hrun
  obtain ⟨⟨terminal, terminalChanges⟩, hterminal, hbatch⟩ := bind_eq_ok_iff.mp hrun
  obtain ⟨inserted, hinserted, heq⟩ := bind_eq_ok_iff.mp hbatch
  cases heq
  obtain ⟨rfl, rfl⟩ := terminalStatement_barred hexclusive hnamed hstale terminal changes hterminal
  rw [bootstrapStatement_idle] at hinserted
  cases hinserted
  exact ⟨rfl, rfl⟩

theorem renewAlertEvaluatorRun_refused {renewedAt : Timestamp} {duration : Int} (hstale : ¬ ledger.Fences fence) :
    Refused AlertEvaluatorRunMutationResult.Wrote ledger
      (renewAlertEvaluatorRun ledger fence renewedAt duration delivery) := by
  cases hinput : renewal fence renewedAt duration with
  | error code =>
    rw [renewAlertEvaluatorRun, hinput]
    exact .error
  | ok input =>
    obtain ⟨parsed, expiresAt⟩ := input
    obtain rfl := renewal_fence hinput
    have hbarred : Barred (renewStatement parsed renewedAt expiresAt) ledger := renewStatement_barred hstale
    obtain ⟨answer, hsend, hanswer⟩ := hbarred.send delivery
    simp only [renewAlertEvaluatorRun, hinput, hsend]
    refine ⟨rfl, ?_⟩
    intro result hresult
    have hnot : answer ≠ some 2 := by
      intro htwo
      have hzero := hanswer 2 htwo
      omega
    obtain ⟨-, hresult⟩ := throwIf_bind_eq_ok_iff.mp hresult
    split at hresult
    · cases hresult
      exact id
    · rw [if_neg hnot] at hresult
      cases hresult
      exact id

theorem bindAlertEvaluatorRunAsOf_refused {asOf boundAt : Timestamp} (hstale : ¬ ledger.Fences fence) :
    Refused AlertEvaluatorRunMutationResult.Wrote ledger
      (bindAlertEvaluatorRunAsOf ledger fence asOf boundAt delivery) := by
  cases hinput : binding fence asOf boundAt with
  | error code =>
    rw [bindAlertEvaluatorRunAsOf, hinput]
    exact .error
  | ok parsed =>
    obtain rfl := binding_fence hinput
    have hbarred : Barred (bindStatement parsed asOf boundAt) ledger := bindStatement_barred hstale
    obtain ⟨answer, hsend, hanswer⟩ := hbarred.send delivery
    simp only [bindAlertEvaluatorRunAsOf, hinput, hsend]
    refine ⟨rfl, ?_⟩
    intro result hresult
    have hnot : answer ≠ some 1 := by
      intro hone
      have hzero := hanswer 1 hone
      omega
    obtain ⟨-, hresult⟩ := throwIf_bind_eq_ok_iff.mp hresult
    split at hresult
    · cases hresult
      exact id
    · rw [if_neg hnot] at hresult
      cases hresult
      exact id

theorem recordAlertEvaluatorRunSource_refused {asOf recordedAt : Timestamp}
    {proof : orchestration.AlertEvaluatorSourceProofValue} (hstale : ¬ ledger.Fences fence) :
    Refused (fun result => result = .recorded) ledger
      (recordAlertEvaluatorRunSource ledger fence asOf proof recordedAt delivery) := by
  cases hinput : sourceInput fence asOf proof recordedAt with
  | error code =>
    rw [recordAlertEvaluatorRunSource, hinput]
    exact .error
  | ok input =>
    obtain ⟨parsed, value⟩ := input
    obtain ⟨rfl, rfl⟩ := sourceInput_returns hinput
    have hbarred : Barred (EvaluatorStatement.recordSource (sourceRow parsed asOf value recordedAt)).run ledger :=
      recordSource_barred rfl rfl rfl hstale
    obtain ⟨answer, hsend, hanswer⟩ := hbarred.send delivery
    simp only [recordAlertEvaluatorRunSource, hinput, hsend]
    split
    · split
      · exact .ok (by rintro ⟨⟩)
      · exact .error
    · cases answer with
      | none =>
        dsimp only
        split
        · split
          · exact .ok (by rintro ⟨⟩)
          · exact .ok (by rintro ⟨⟩)
        · exact .ok (by rintro ⟨⟩)
      | some changes =>
        have hzero := hanswer changes rfl
        dsimp only
        rw [if_pos (by omega)]
        exact .error

/-- Before its update the seal says that it replays or has lost the run. -/
theorem sealing_answers {decisions : List orchestration.AlertEvaluatorDecisionProofValue} {sealedAt : Timestamp}
    {result : AlertEvaluatorRunMutationResult}
    (hoffer : sealing sha256 ledger fence decisions sealedAt = .ok (.inl result)) : ¬ result.Wrote := by
  unfold sealing at hoffer
  obtain ⟨_, -, hparsed⟩ := bind_eq_ok_iff.mp hoffer
  obtain ⟨_, -, hinstant⟩ := bind_eq_ok_iff.mp hparsed
  obtain ⟨_, -, hfound⟩ := bind_eq_ok_iff.mp hinstant
  clear hoffer hparsed hinstant
  split at hfound
  · cases hfound
    exact id
  · split at hfound
    · cases hfound
      exact id
    · obtain ⟨_, -, hplanned⟩ := bind_eq_ok_iff.mp hfound
      split at hplanned
      · cases hplanned
        exact id
      · split at hplanned
        · cases hplanned
          exact id
        · split at hplanned
          · cases hplanned
            exact id
          · cases hplanned

theorem sealAlertEvaluatorRunPlan_refused {decisions : List orchestration.AlertEvaluatorDecisionProofValue}
    {sealedAt : Timestamp} (hstale : ¬ ledger.Fences fence) :
    Refused AlertEvaluatorRunMutationResult.Wrote ledger
      (sealAlertEvaluatorRunPlan sha256 ledger fence decisions sealedAt delivery) := by
  cases hoffer : sealing sha256 ledger fence decisions sealedAt with
  | error code =>
    rw [sealAlertEvaluatorRunPlan, hoffer]
    exact .error
  | ok offer =>
    cases offer with
    | inl result =>
      simp only [sealAlertEvaluatorRunPlan, hoffer]
      exact .ok (sealing_answers hoffer)
    | inr offer =>
      obtain ⟨parsed, plan, asOf, updatedAt⟩ := offer
      obtain ⟨rfl, -⟩ := sealing_offers hoffer
      have hbarred : Barred (EvaluatorStatement.sealPlan parsed asOf updatedAt sealedAt plan.partialCount
          plan.decisionCount plan.sourceDigest plan.decisionDigest).run ledger := sealPlan_barred hstale
      obtain ⟨answer, hsend, hanswer⟩ := hbarred.send delivery
      simp only [sealAlertEvaluatorRunPlan, hoffer, hsend]
      refine ⟨rfl, ?_⟩
      intro result hresult
      have hnot : answer ≠ some 1 := by
        intro hone
        have hzero := hanswer 1 hone
        omega
      obtain ⟨-, hresult⟩ := throwIf_bind_eq_ok_iff.mp hresult
      split at hresult
      · cases hresult
        exact id
      · rw [if_neg hnot] at hresult
        cases hresult
        exact id

theorem recordStatelessAlertEvaluatorDecision_refused {database : RunDatabase}
    {absence : Option AlertEvaluatorNoStateAbsence} {asOf recordedAt : Timestamp}
    {proof : orchestration.AlertEvaluatorDecisionProofValue} {expectedDisposition : EvaluatorDisposition}
    (hstale : ¬ database.ledger.Fences fence) :
    Refused (fun result => result = .recorded) database (recordStatelessAlertEvaluatorDecision database fence absence
      asOf proof recordedAt expectedDisposition delivery) := by
  cases hinput : decisionInput fence asOf proof recordedAt expectedDisposition with
  | error code =>
    rw [recordStatelessAlertEvaluatorDecision, hinput]
    exact .error
  | ok input =>
    obtain ⟨parsed, value⟩ := input
    obtain ⟨rfl, rfl⟩ := decisionInput_returns hinput
    have hbarred : Barred (decisionStatement absence (decisionRow parsed asOf value recordedAt)) database :=
      decisionStatement_barred rfl rfl rfl hstale
    obtain ⟨answer, hsend, hanswer⟩ := hbarred.send delivery
    simp only [recordStatelessAlertEvaluatorDecision, hinput, hsend]
    split
    · split
      · exact .ok (by rintro ⟨⟩)
      · exact .error
    · cases answer with
      | none =>
        dsimp only
        split
        · split
          · exact .ok (by rintro ⟨⟩)
          · exact .ok (by rintro ⟨⟩)
        · exact .ok (by rintro ⟨⟩)
      | some changes =>
        have hzero := hanswer changes rfl
        dsimp only
        split
        · exact .ok (by rintro ⟨⟩)
        · rw [if_pos (by omega)]
          exact .error

theorem terminalReplay_answers {completedAt : Timestamp} {failure : Option (RuntimeStatus × RuntimeErrorCode)}
    {result : AlertEvaluatorTerminalResult}
    (hrecover : recoverTerminal ledger fence completedAt failure = .ok result) : ¬ result.Wrote := by
  unfold recoverTerminal at hrecover
  obtain ⟨replay, -, hresult⟩ := bind_eq_ok_iff.mp hrecover
  cases replay with
  | none => cases hresult
  | some run =>
    cases hresult
    exact id

theorem succeeding_answers {completedAt : Timestamp} {result : AlertEvaluatorTerminalResult}
    (hoffer : succeeding sha256 ledger fence completedAt = .ok (.inl result)) : ¬ result.Wrote := by
  unfold succeeding at hoffer
  obtain ⟨_, -, hparsed⟩ := bind_eq_ok_iff.mp hoffer
  obtain ⟨_, -, hinstant⟩ := bind_eq_ok_iff.mp hparsed
  obtain ⟨replay, -, hfound⟩ := bind_eq_ok_iff.mp hinstant
  clear hoffer hparsed hinstant
  split at hfound
  · cases hfound
    exact id
  · split at hfound
    · cases hfound
      exact id
    · obtain ⟨_, -, hverified⟩ := bind_eq_ok_iff.mp hfound
      obtain ⟨-, hbound⟩ := throwIf_bind_eq_ok_iff.mp hverified
      split at hbound
      · cases hbound
      · cases hbound

theorem recordAlertEvaluatorRunSuccess_refused {completedAt : Timestamp} (hexclusive : ledger.Exclusive)
    (hstale : ¬ ledger.Fences fence) :
    Refused AlertEvaluatorTerminalResult.Wrote ledger
      (recordAlertEvaluatorRunSuccess sha256 ledger fence completedAt delivery) := by
  cases hoffer : succeeding sha256 ledger fence completedAt with
  | error code =>
    rw [recordAlertEvaluatorRunSuccess, hoffer]
    exact .error
  | ok offer =>
    cases offer with
    | inl result =>
      simp only [recordAlertEvaluatorRunSuccess, hoffer]
      exact .ok (succeeding_answers hoffer)
    | inr offer =>
      obtain ⟨parsed, asOf⟩ := offer
      obtain ⟨rfl, -, -, run, hread, hmatch, -⟩ := succeeding_offers hoffer
      have hbarred : Barred (EvaluatorStatement.recordSuccess parsed completedAt asOf).run ledger :=
        recordSuccess_barred hexclusive (.of_read hread hmatch) hstale
      obtain ⟨answer, hsend, hanswer⟩ := hbarred.send delivery
      simp only [recordAlertEvaluatorRunSuccess, hoffer, hsend]
      cases answer with
      | none => exact ⟨rfl, fun result hresult => terminalReplay_answers hresult⟩
      | some changes =>
        have hzero := hanswer changes rfl
        refine ⟨rfl, ?_⟩
        intro result hresult
        simp only [confirmSuccess, if_pos (show changes ≠ 2 ∨ _ from .inl (by omega))] at hresult
        obtain ⟨replay, -, hanswered⟩ := bind_eq_ok_iff.mp hresult
        cases replay with
        | none =>
          dsimp only at hanswered
          split at hanswered
          · cases hanswered
            exact id
          · cases hanswered
        | some run =>
          cases hanswered
          exact id

theorem failing_answers {completedAt : Timestamp} {status : RuntimeStatus} {errorCode : RuntimeErrorCode}
    {result : AlertEvaluatorTerminalResult}
    (hoffer : failing ledger fence completedAt status errorCode = .ok (.inl result)) : ¬ result.Wrote := by
  unfold failing at hoffer
  obtain ⟨_, -, hparsed⟩ := bind_eq_ok_iff.mp hoffer
  obtain ⟨_, -, hinstant⟩ := bind_eq_ok_iff.mp hparsed
  obtain ⟨-, hpaired⟩ := throwIf_bind_eq_ok_iff.mp hinstant
  obtain ⟨replay, -, hfound⟩ := bind_eq_ok_iff.mp hpaired
  clear hoffer hparsed hinstant hpaired
  split at hfound
  · cases hfound
    exact id
  · split at hfound
    · cases hfound
      exact id
    · obtain ⟨-, hoffered⟩ := throwIf_bind_eq_ok_iff.mp hfound
      cases hoffered

theorem recordAlertEvaluatorRunFailure_refused {completedAt : Timestamp} {status : RuntimeStatus}
    {errorCode : RuntimeErrorCode} (hexclusive : ledger.Exclusive) (hstale : ¬ ledger.Fences fence) :
    Refused AlertEvaluatorTerminalResult.Wrote ledger
      (recordAlertEvaluatorRunFailure ledger fence completedAt status errorCode delivery) := by
  cases hoffer : failing ledger fence completedAt status errorCode with
  | error code =>
    rw [recordAlertEvaluatorRunFailure, hoffer]
    exact .error
  | ok offer =>
    cases offer with
    | inl result =>
      simp only [recordAlertEvaluatorRunFailure, hoffer]
      exact .ok (failing_answers hoffer)
    | inr parsed =>
      obtain ⟨rfl, -, -, -, run, hread, hmatch⟩ := failing_offers hoffer
      have hbarred : Barred (EvaluatorStatement.recordFailure parsed completedAt status errorCode).run ledger :=
        terminalStatement_barred hexclusive (.of_read hread hmatch) hstale
      obtain ⟨answer, hsend, hanswer⟩ := hbarred.send delivery
      simp only [recordAlertEvaluatorRunFailure, hoffer, hsend]
      cases answer with
      | none => exact ⟨rfl, fun result hresult => terminalReplay_answers hresult⟩
      | some changes =>
        have hzero := hanswer changes rfl
        refine ⟨rfl, ?_⟩
        intro result hresult
        obtain ⟨-, hreplayed⟩ := throwIf_bind_eq_ok_iff.mp hresult
        obtain ⟨replay, -, hanswered⟩ := bind_eq_ok_iff.mp hreplayed
        cases replay with
        | none =>
          cases hanswered
          exact id
        | some run =>
          dsimp only at hanswered
          rw [if_neg (by omega)] at hanswered
          cases hanswered
          exact id

end evaluator

section calls

open evaluator

variable {sha256 : orchestration.Sha256} {database : RunDatabase} {fence : AlertEvaluatorRunFence}
  {delivery : sql.Delivery}

theorem Refused.answer {A : Type} {Wrote : A → Prop} {answered : Except AlertRunRepositoryErrorCode A × Ledger}
    {outcome : A → RunOutcome} (hrefused : Refused Wrote database.ledger answered)
    (hwrote : ∀ result, (outcome result).Committed → Wrote result) :
    Refused RunOutcome.Committed database (database.answer outcome answered) := by
  obtain ⟨hsame, hanswers⟩ := hrefused
  refine ⟨?_, ?_⟩
  · simp only [RunDatabase.answer, hsame]
  · intro answer hanswer hcommitted
    cases hresult : answered.1 with
    | error code =>
      simp only [RunDatabase.answer, hresult, Except.map] at hanswer
      cases hanswer
    | ok result =>
      simp only [RunDatabase.answer, hresult, Except.map, Except.ok.injEq] at hanswer
      rw [← hanswer] at hcommitted
      exact hanswers result hresult (hwrote result hcommitted)

theorem Refused.mapped {answered : Except AlertRunRepositoryErrorCode AlertEvaluatorProofWriteResult × RunDatabase}
    {Wrote : AlertEvaluatorProofWriteResult → Prop} (hrefused : Refused Wrote database answered)
    (hwrote : ∀ result, (RunOutcome.proof result).Committed → Wrote result) :
    Refused RunOutcome.Committed database (answered.1.map .proof, answered.2) := by
  obtain ⟨hsame, hanswers⟩ := hrefused
  refine ⟨hsame, ?_⟩
  intro answer hanswer hcommitted
  cases hresult : answered.1 with
  | error code =>
    simp only [hresult, Except.map] at hanswer
    cases hanswer
  | ok result =>
    simp only [hresult, Except.map, Except.ok.injEq] at hanswer
    rw [← hanswer] at hcommitted
    exact hanswers result hresult (hwrote result hcommitted)

theorem RunCall.perform_refused (hreachable : database.Reachable sha256) (call : RunCall)
    (hstale : ¬ database.ledger.Fences fence) :
    Refused RunOutcome.Committed database (call.perform sha256 fence database delivery) := by
  have hexclusive := hreachable.exclusive
  have hproof : ∀ result, (RunOutcome.proof result).Committed → result = .recorded := by
    intro result hcommitted
    cases result with
    | recorded => rfl
    | replayed => exact hcommitted.elim
    | lost => exact hcommitted.elim
  cases call with
  | renew renewedAt leaseDurationSeconds =>
    exact (renewAlertEvaluatorRun_refused hstale).answer fun _ hcommitted => hcommitted
  | bindAsOf asOf boundAt =>
    exact (bindAlertEvaluatorRunAsOf_refused hstale).answer fun _ hcommitted => hcommitted
  | recordSource asOf proof recordedAt => exact (recordAlertEvaluatorRunSource_refused hstale).answer hproof
  | sealPlan decisions sealedAt =>
    exact (sealAlertEvaluatorRunPlan_refused hstale).answer fun _ hcommitted => hcommitted
  | recordSuppressed asOf proof recordedAt =>
    exact (recordStatelessAlertEvaluatorDecision_refused hstale).mapped hproof
  | recordNoStateChange absence asOf proof recordedAt =>
    exact (recordStatelessAlertEvaluatorDecision_refused hstale).mapped hproof
  | recordSuccess completedAt =>
    exact (recordAlertEvaluatorRunSuccess_refused hexclusive hstale).answer fun _ hcommitted => hcommitted
  | recordFailure completedAt status errorCode =>
    exact (recordAlertEvaluatorRunFailure_refused hexclusive hstale).answer fun _ hcommitted => hcommitted

/-- In every reachable database a call whose fence is not that of the live run writes nothing, and is never
answered as one that has. -/
theorem alertEvaluatorRuns_fenced (hreachable : database.Reachable sha256) (call : RunCall)
    (hstale : ¬ database.ledger.Fences fence) :
    (call.perform sha256 fence database delivery).2 = database ∧
      ∀ outcome, (call.perform sha256 fence database delivery).1 = .ok outcome → ¬ outcome.Committed :=
  call.perform_refused hreachable hstale

/-- A renewal with the fence of a revision that is gone. -/
theorem alertEvaluatorRuns_fenced_stale :
    ((RunCall.renew earlierFence.startedAt 240).perform sha2.sha256 { earlierFence with leaseRevision := 7 }
      acquiredDatabase .answered).2 = acquiredDatabase :=
  (alertEvaluatorRuns_fenced acquiredDatabase_reachable _ (by decide +kernel)).1

end calls

end pgid.alert
