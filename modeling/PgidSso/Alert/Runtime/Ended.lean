import PgidSso.Alert.Runtime.Repeated

open checked

namespace pgid.alert

namespace evaluator

open Ledger
open orchestration (Sha256)

variable {sha256 : Sha256} {ledger next : Ledger} {fence : AlertEvaluatorRunFence} {completedAt : Timestamp}
  {run : EvaluatorRunRow} {delivery : sql.Delivery}

/-- A run that has ended is answered while the runtime row shows its end. -/
theorem terminalReplay_shown {failure : Option (RuntimeStatus × RuntimeErrorCode)} {runtime : RuntimeStatusRow}
    (hread : readRunById ledger fence.runId = some run) (hended : hasEnded fence completedAt failure run)
    (hruntime : ledger.runtime = some runtime) (hshows : showsEnd fence completedAt failure run.asOf runtime)
    (hleft : failure = none → ledger.bootstrap ≠ none) :
    terminalReplay ledger fence completedAt failure = .ok (some run) := by
  unfold terminalReplay
  simp only [hread, if_pos hended, hruntime, if_pos hshows]
  rw [throwIf_bind_of_not fun hnone => hleft hnone.1 hnone.2]
  rfl

/-- An update of the runtime row that gives up the lease of the fence has ended the run of the fence. -/
theorem terminalStatement_ends {change : RuntimeStatusRow → RuntimeStatusRow} {changes : Nat}
    (hdistinct : ledger.Distinct) (hread : readRunById ledger fence.runId = some run)
    (hmatch : runMatchesFence run fence) (hfreed : ∀ row, (change row).leaseId = none)
    (hterminal : terminalStatement fence change ledger = .ok (next, changes)) (hchanged : changes ≠ 0) :
    ∃ row, row.generation = fence.runtimeGeneration ∧ row.lastStartedAt = some fence.startedAt ∧ changes = 2 ∧
      next.runtime = some (change row) ∧ next.Distinct ∧
      readRunById next fence.runId = some (terminalized run (change row)) := by
  obtain ⟨-, hzero⟩ | ⟨row, hrow, hgeneration, hlease, hstarted, htwo, hwrite⟩ := terminalStatement_cases hterminal
  · exact absurd hzero hchanged
  · have hheld : row.leaseId ≠ none := by
      rw [hlease]
      exact Option.some_ne_none _
    obtain ⟨live, hlive, hsame, -, hid, hnext⟩ := writeRuntime_freed hwrite hheld (hfreed row)
    obtain ⟨hrun, hnamed⟩ := readRunById_eq_some hread
    -- the trigger finds the run by its generation, which is that of the fence
    have hlives : live = run :=
      hdistinct.eq_of_generation hlive hrun (hsame.trans (hgeneration.trans hmatch.2.1.symm))
    rw [hlives] at hid hnext
    have hwritten : Ledger.Distinct { ledger with runtime := some (change row) } := hdistinct.congr rfl
    refine ⟨row, hgeneration, hstarted, htwo, ?_, hdistinct.writeRuntime hwrite, ?_⟩
    · rw [hnext]
      rfl
    · rw [← hnamed, hnext]
      exact hwritten.readRunById_replaceRun hrun hid

section success

variable {asOf : Timestamp}

theorem hasEnded_succeeded {row : RuntimeStatusRow} (hmatch : runMatchesFence run fence)
    (hasOf : run.asOf = some asOf) :
    hasEnded fence completedAt none (terminalized run (succeededRuntime fence completedAt asOf row)) :=
  ⟨hmatch, rfl, rfl, rfl, rfl, by simp [terminalized, hasOf], hasOf.symm, rfl, rfl⟩

theorem showsEnd_succeeded {row : RuntimeStatusRow} (hgeneration : row.generation = fence.runtimeGeneration)
    (hstarted : row.lastStartedAt = some fence.startedAt) :
    showsEnd fence completedAt none (some asOf) (succeededRuntime fence completedAt asOf row) :=
  ⟨hgeneration, rfl, rfl, rfl, hstarted, rfl, rfl, rfl, rfl⟩

/-- What is offered for a sealed run that is proved. -/
theorem succeeding_offers {parsed : AlertEvaluatorRunFence}
    (hoffer : succeeding sha256 ledger fence completedAt = .ok (.inr (parsed, asOf))) :
    parsed = fence ∧ parseFence fence = .ok fence ∧ canonicalTimestamp completedAt = .ok completedAt ∧
      ∃ run, readRunById ledger fence.runId = some run ∧ runMatchesFence run fence ∧ run.asOf = some asOf := by
  unfold succeeding at hoffer
  obtain ⟨checked, hparse, hchecked⟩ := bind_eq_ok_iff.mp hoffer
  have hfence : checked = fence := parseFence_returns _ _ hparse
  rw [hfence] at hparse hchecked
  obtain ⟨instant, hinstant, hreplay⟩ := bind_eq_ok_iff.mp hchecked
  have hsame : instant = completedAt := canonicalTimestamp_returns _ _ hinstant
  rw [hsame] at hinstant hreplay
  obtain ⟨replay, -, hfound⟩ := bind_eq_ok_iff.mp hreplay
  clear hoffer hchecked hreplay
  split at hfound
  · cases hfound
  · split at hfound
    · cases hfound
    · rename_i run hread
      obtain ⟨hread, hmatch⟩ := Option.filter_eq_some_iff.mp hread
      obtain ⟨_, -, hverified⟩ := bind_eq_ok_iff.mp hfound
      rw [throwIf_bind_eq_ok_iff] at hverified
      obtain ⟨-, hbound⟩ := hverified
      split at hbound
      · cases hbound
      · rename_i instant hasOf
        cases hbound
        exact ⟨rfl, hparse, hinstant, run, hread, of_decide_eq_true hmatch, hasOf⟩

theorem succeeding_replays (hparse : parseFence fence = .ok fence)
    (hinstant : canonicalTimestamp completedAt = .ok completedAt)
    (hreplay : terminalReplay ledger fence completedAt none = .ok (some run)) :
    succeeding sha256 ledger fence completedAt = .ok (.inl (.replayed run)) := by
  unfold succeeding
  rw [hparse, ok_bind, hinstant, ok_bind, hreplay, ok_bind]
  rfl

/-- A sealed run is offered for its success once its proof is verified. -/
theorem succeeding_of_verified (hparse : parseFence fence = .ok fence)
    (hinstant : canonicalTimestamp completedAt = .ok completedAt)
    (hreplay : terminalReplay ledger fence completedAt none = .ok none)
    (hread : readRunById ledger fence.runId = some run) (hmatch : runMatchesFence run fence)
    (hverified : verifySealedProof sha256 ledger run = .ok ())
    (hcomplete : ¬ (run.partialSourceCount ≠ some 0 ∨
      (∃ source ∈ ledger.sourcesOf run.id, source.status ≠ .complete) ∨ precedesProof ledger run completedAt ∨
        fence.leaseExpiresAt ≤ completedAt)) (hasOf : run.asOf = some asOf) :
    succeeding sha256 ledger fence completedAt = .ok (.inr (fence, asOf)) := by
  have hfound : (readRunById ledger fence.runId).filter (fun run => runMatchesFence run fence) = some run :=
    Option.filter_eq_some_iff.mpr ⟨hread, decide_eq_true hmatch⟩
  unfold succeeding
  rw [hparse, ok_bind, hinstant, ok_bind, hreplay, ok_bind]
  dsimp only
  rw [hfound]
  dsimp only
  rw [hverified, ok_bind, throwIf_bind_of_not hcomplete, hasOf]
  rfl

/-- A success that changes the ledger has ended the run and left the sentinel. -/
theorem recordSuccess_changed {changes : Nat} (hregular : ledger.Regular)
    (hread : readRunById ledger fence.runId = some run) (hmatch : runMatchesFence run fence)
    (hstatement : (EvaluatorStatement.recordSuccess fence completedAt asOf).run ledger = .ok (next, changes))
    (hchanged : next ≠ ledger) :
    ∃ row, row.generation = fence.runtimeGeneration ∧ row.lastStartedAt = some fence.startedAt ∧ changes = 2 ∧
      next.runtime = some (succeededRuntime fence completedAt asOf row) ∧
      readRunById next fence.runId = some (terminalized run (succeededRuntime fence completedAt asOf row)) := by
  obtain ⟨⟨terminal, terminalChanges⟩, hterminal, hbatch⟩ := bind_eq_ok_iff.mp hstatement
  obtain ⟨inserted, hinserted, heq⟩ := bind_eq_ok_iff.mp hbatch
  cases heq
  have hwritten : changes ≠ 0 := by
    intro hzero
    rw [hzero, bootstrapStatement_idle] at hinserted
    cases hinserted
    obtain ⟨hsame, -⟩ | ⟨_, -, -, -, -, htwo, -⟩ := terminalStatement_cases hterminal
    · exact hchanged hsame
    · omega
  obtain ⟨row, hgeneration, hstarted, htwo, hruntime, -, hended⟩ :=
    terminalStatement_ends hregular.distinct hread hmatch (fun _ => rfl) hterminal hwritten
  refine ⟨row, hgeneration, hstarted, htwo, ?_, ?_⟩
  · obtain rfl | ⟨bootstrap, rfl⟩ := bootstrapStatement_cases hinserted
    · exact hruntime
    · exact hruntime
  · obtain rfl | ⟨bootstrap, rfl⟩ := bootstrapStatement_cases hinserted
    · exact hended
    · exact hended

/-- A success that has been written is found again while the runtime row shows it. -/
theorem recordAlertEvaluatorRunSuccess_repeats (hregular : ledger.Regular)
    (hchanged : (recordAlertEvaluatorRunSuccess sha256 ledger fence completedAt delivery).2 ≠ ledger) :
    ∃ created run, Repeats (fun ledger => recordAlertEvaluatorRunSuccess sha256 ledger fence completedAt) ledger
      (recordAlertEvaluatorRunSuccess sha256 ledger fence completedAt delivery).2 delivery
      (fun later => later.Regular ∧ readRunById later fence.runId = readRunById
          (recordAlertEvaluatorRunSuccess sha256 ledger fence completedAt delivery).2 fence.runId ∧
        later.runtime = (recordAlertEvaluatorRunSuccess sha256 ledger fence completedAt delivery).2.runtime)
      (.committed created run) (.replayed run) := by
  cases hoffer : succeeding sha256 ledger fence completedAt with
  | error code =>
    rw [recordAlertEvaluatorRunSuccess, hoffer] at hchanged
    exact absurd rfl hchanged
  | ok offer =>
    cases offer with
    | inl result =>
      rw [recordAlertEvaluatorRunSuccess, hoffer] at hchanged
      exact absurd rfl hchanged
    | inr offer =>
      obtain ⟨parsed, asOf⟩ := offer
      obtain ⟨rfl, hparse, hinstant, before, hbefore, hmatch, hasOf⟩ := succeeding_offers hoffer
      have hsent : (recordAlertEvaluatorRunSuccess sha256 ledger parsed completedAt delivery).2 =
          (delivery.send (EvaluatorStatement.recordSuccess parsed completedAt asOf).run ledger).2 := by
        simp only [recordAlertEvaluatorRunSuccess, hoffer]
        split
        · rename_i hsend
          rw [hsend]
        · rename_i hsend
          rw [hsend]
      rw [hsent] at hchanged ⊢
      obtain ⟨next, changes, hnext, hstatement, hanswered, hdelivered⟩ := sql.Delivery.send_changed hchanged
      rw [hnext] at hchanged ⊢
      obtain ⟨row, hgeneration, hstarted, rfl, hruntime, hread⟩ :=
        recordSuccess_changed hregular hbefore hmatch hstatement hchanged
      have hshown : ∀ {later : Ledger}, later.Regular →
          readRunById later parsed.runId = readRunById next parsed.runId → later.runtime = next.runtime →
          terminalReplay later parsed completedAt none =
            .ok (some (terminalized before (succeededRuntime parsed completedAt asOf row))) := by
        intro later hlater hsame hshows
        rw [hread] at hsame
        rw [hruntime] at hshows
        refine terminalReplay_shown hsame (hasEnded_succeeded hmatch hasOf) hshows ?_ fun _ =>
          hlater.successLeft _ hshows (Option.some_ne_none _)
        have hbound : (terminalized before (succeededRuntime parsed completedAt asOf row)).asOf = some asOf := hasOf
        rw [hbound]
        exact showsEnd_succeeded hgeneration hstarted
      have hkept : next.Regular := EvaluatorStatement.run_regular hregular hstatement
      have hcommitted : ∀ {delivery : sql.Delivery},
          delivery.send (EvaluatorStatement.recordSuccess parsed completedAt asOf).run ledger = (some 2, next) →
          recordAlertEvaluatorRunSuccess sha256 ledger parsed completedAt delivery =
            (.ok (.committed (bootstrapChanges ledger next = 1)
              (terminalized before (succeededRuntime parsed completedAt asOf row))), next) := by
        intro delivery hsend
        have hbatch : ¬ ((2 : Nat) ≠ 2 ∨ bootstrapChanges ledger next ≠ 0 ∧ bootstrapChanges ledger next ≠ 1) := by
          unfold bootstrapChanges
          split <;> omega
        simp only [recordAlertEvaluatorRunSuccess, hoffer, hsend, confirmSuccess, if_neg hbatch, hread]
        rw [throwIf_bind_of_not (by rintro (hstatus | hcompleted)
                                    · exact hstatus rfl
                                    · exact hcompleted rfl)]
        rfl
      refine ⟨bootstrapChanges ledger next = 1, _, hcommitted hanswered, ?_, ?_⟩
      · obtain hsend | hsend := hdelivered
        · exact .inl (hcommitted hsend)
        · right
          simp only [recordAlertEvaluatorRunSuccess, hoffer, hsend, recoverTerminal, hshown hkept rfl rfl, ok_bind]
          rfl
      · rintro later ⟨hlater, hsame, hshows⟩ again
        rw [recordAlertEvaluatorRunSuccess, succeeding_replays hparse hinstant (hshown hlater hsame hshows)]

end success

section failure

variable {status : RuntimeStatus} {errorCode : RuntimeErrorCode}

theorem hasEnded_failed {row : RuntimeStatusRow} (hmatch : runMatchesFence run fence)
    (hunhealthy : status ≠ .healthy) :
    hasEnded fence completedAt (some (status, errorCode))
      (terminalized run (failedRuntime fence completedAt status errorCode row)) := by
  have hstatus : (failedRuntime fence completedAt status errorCode row).status ≠ .healthy := hunhealthy
  refine ⟨hmatch, rfl, rfl, rfl, ?_, ?_, ?_, ?_⟩
  · simp only [terminalized, if_neg hstatus]
  · simp only [terminalized, if_neg hstatus]
  · simp only [terminalized, if_neg hstatus]
    rfl
  · simp only [terminalized, if_neg hstatus]
    rfl

theorem showsEnd_failed {row : RuntimeStatusRow} {asOf : Option Timestamp}
    (hgeneration : row.generation = fence.runtimeGeneration) (hstarted : row.lastStartedAt = some fence.startedAt) :
    showsEnd fence completedAt (some (status, errorCode)) asOf
      (failedRuntime fence completedAt status errorCode row) :=
  ⟨hgeneration, rfl, rfl, rfl, hstarted, rfl, rfl, rfl, rfl⟩

theorem validFailurePair_unhealthy (hpair : validFailurePair status errorCode) : status ≠ .healthy := by
  rintro rfl
  obtain ⟨hstatus, -⟩ | ⟨hstatus, -⟩ | ⟨hstatus, -⟩ := hpair <;> cases hstatus

/-- What is offered for a run that is live. -/
theorem failing_offers {parsed : AlertEvaluatorRunFence}
    (hoffer : failing ledger fence completedAt status errorCode = .ok (.inr parsed)) :
    parsed = fence ∧ parseFence fence = .ok fence ∧ canonicalTimestamp completedAt = .ok completedAt ∧
      validFailurePair status errorCode ∧
      ∃ run, readRunById ledger fence.runId = some run ∧ runMatchesFence run fence := by
  unfold failing at hoffer
  obtain ⟨checked, hparse, hchecked⟩ := bind_eq_ok_iff.mp hoffer
  have hfence : checked = fence := parseFence_returns _ _ hparse
  rw [hfence] at hparse hchecked
  obtain ⟨instant, hinstant, hpaired⟩ := bind_eq_ok_iff.mp hchecked
  have hsame : instant = completedAt := canonicalTimestamp_returns _ _ hinstant
  rw [hsame] at hinstant hpaired
  rw [throwIf_bind_eq_ok_iff, not_not] at hpaired
  obtain ⟨hpair, hreplay⟩ := hpaired
  obtain ⟨replay, -, hfound⟩ := bind_eq_ok_iff.mp hreplay
  clear hoffer hchecked hreplay
  split at hfound
  · cases hfound
  · split at hfound
    · cases hfound
    · rename_i run hread
      obtain ⟨hread, hmatch⟩ := Option.filter_eq_some_iff.mp hread
      rw [throwIf_bind_eq_ok_iff] at hfound
      cases hfound.2
      exact ⟨rfl, hparse, hinstant, hpair, run, hread, (of_decide_eq_true hmatch).1⟩

theorem failing_replays (hparse : parseFence fence = .ok fence)
    (hinstant : canonicalTimestamp completedAt = .ok completedAt) (hpair : validFailurePair status errorCode)
    (hreplay : terminalReplay ledger fence completedAt (some (status, errorCode)) = .ok (some run)) :
    failing ledger fence completedAt status errorCode = .ok (.inl (.replayed run)) := by
  unfold failing
  rw [hparse, ok_bind, hinstant, ok_bind, throwIf_bind_of_not (not_not.mpr hpair), hreplay, ok_bind]
  rfl

/-- A failure that has been written is found again while the runtime row shows it. -/
theorem recordAlertEvaluatorRunFailure_repeats (hdistinct : ledger.Distinct)
    (hchanged :
      (recordAlertEvaluatorRunFailure ledger fence completedAt status errorCode delivery).2 ≠ ledger) :
    ∃ run, Repeats (fun ledger => recordAlertEvaluatorRunFailure ledger fence completedAt status errorCode) ledger
      (recordAlertEvaluatorRunFailure ledger fence completedAt status errorCode delivery).2 delivery
      (fun later => readRunById later fence.runId = readRunById
          (recordAlertEvaluatorRunFailure ledger fence completedAt status errorCode delivery).2 fence.runId ∧
        later.runtime =
          (recordAlertEvaluatorRunFailure ledger fence completedAt status errorCode delivery).2.runtime)
      (.committed false run) (.replayed run) := by
  cases hoffer : failing ledger fence completedAt status errorCode with
  | error code =>
    rw [recordAlertEvaluatorRunFailure, hoffer] at hchanged
    exact absurd rfl hchanged
  | ok offer =>
    cases offer with
    | inl result =>
      rw [recordAlertEvaluatorRunFailure, hoffer] at hchanged
      exact absurd rfl hchanged
    | inr parsed =>
      obtain ⟨rfl, hparse, hinstant, hpair, before, hbefore, hmatch⟩ := failing_offers hoffer
      have hsent : (recordAlertEvaluatorRunFailure ledger parsed completedAt status errorCode delivery).2 =
          (delivery.send (EvaluatorStatement.recordFailure parsed completedAt status errorCode).run ledger).2 := by
        simp only [recordAlertEvaluatorRunFailure, hoffer]
        split
        · rename_i hsend
          rw [hsend]
        · rename_i hsend
          rw [hsend]
      rw [hsent] at hchanged ⊢
      obtain ⟨next, changes, hnext, hstatement, hanswered, hdelivered⟩ := sql.Delivery.send_changed hchanged
      rw [hnext] at hchanged ⊢
      have hwritten : changes ≠ 0 := by
        obtain ⟨hsame, -⟩ | ⟨_, -, -, -, -, htwo, -⟩ := terminalStatement_cases hstatement
        · exact absurd hsame hchanged
        · omega
      obtain ⟨row, hgeneration, hstarted, rfl, hruntime, -, hread⟩ :=
        terminalStatement_ends hdistinct hbefore hmatch (fun _ => rfl) hstatement hwritten
      have hshown : ∀ {later : Ledger}, readRunById later parsed.runId = readRunById next parsed.runId →
          later.runtime = next.runtime →
          terminalReplay later parsed completedAt (some (status, errorCode)) =
            .ok (some (terminalized before (failedRuntime parsed completedAt status errorCode row))) := by
        intro later hsame hshows
        rw [hread] at hsame
        rw [hruntime] at hshows
        refine terminalReplay_shown hsame (hasEnded_failed hmatch (validFailurePair_unhealthy hpair)) hshows
          (showsEnd_failed hgeneration hstarted) ?_
        intro hnone
        cases hnone
      have hcommitted : ∀ {delivery : sql.Delivery}, delivery.send
            (EvaluatorStatement.recordFailure parsed completedAt status errorCode).run ledger = (some 2, next) →
          recordAlertEvaluatorRunFailure ledger parsed completedAt status errorCode delivery =
            (.ok (.committed false
              (terminalized before (failedRuntime parsed completedAt status errorCode row))), next) := by
        intro delivery hsend
        simp only [recordAlertEvaluatorRunFailure, hoffer, hsend]
        rw [throwIf_bind_of_not (by decide), hshown rfl rfl]
        rfl
      refine ⟨_, hcommitted hanswered, ?_, ?_⟩
      · obtain hsend | hsend := hdelivered
        · exact .inl (hcommitted hsend)
        · right
          simp only [recordAlertEvaluatorRunFailure, hoffer, hsend, recoverTerminal, hshown rfl rfl, ok_bind]
          rfl
      · rintro later ⟨hsame, hshows⟩ again
        rw [recordAlertEvaluatorRunFailure, failing_replays hparse hinstant hpair (hshown hsame hshows)]

end failure

end evaluator

end pgid.alert
