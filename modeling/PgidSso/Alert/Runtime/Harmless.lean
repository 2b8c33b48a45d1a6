import PgidSso.Alert.Runtime.Ended

open checked

namespace pgid.alert

open orchestration (Sha256)

variable {sha256 : Sha256} {database next : RunDatabase} {fence : AlertEvaluatorRunFence} {delivery : sql.Delivery}

/-- The answers to a call that finds its effect: that of the call that has written, or that of a replay. -/
def RunOutcome.Confirms (outcome answer : RunOutcome) : Prop :=
  answer = outcome ∨ answer = outcome.replayed

/-- A call that has written is harmless to repeat, whether it was answered or not: as long as what lies
between holds, the repetition is answered with the same run and writes nothing. -/
def RunCall.Harmless (call : RunCall) (sha256 : Sha256) (fence : AlertEvaluatorRunFence) (database : RunDatabase)
    (delivery : sql.Delivery) (Between : RunDatabase → RunDatabase → Prop) : Prop :=
  (call.perform sha256 fence database delivery).2 ≠ database →
    ∃ outcome : RunOutcome, outcome.Committed ∧
      call.perform sha256 fence database .answered =
        (.ok outcome, (call.perform sha256 fence database delivery).2) ∧
      (∃ answer, (call.perform sha256 fence database delivery).1 = .ok answer ∧ outcome.Confirms answer) ∧
      ∀ later, Relation.ReflTransGen (RunStep sha256) (call.perform sha256 fence database delivery).2 later →
        Between (call.perform sha256 fence database delivery).2 later →
        ∀ again : sql.Delivery, ∃ answer, call.perform sha256 fence later again = (.ok answer, later) ∧
          outcome.Confirms answer

section regular

open evaluator

theorem RunStatement.run_regular {statement : RunStatement} {changes : Nat} (hregular : database.ledger.Regular)
    (hrun : statement.run database = .ok (next, changes)) : next.ledger.Regular := by
  cases statement with
  | insert run => exact hregular.insertRun (RunDatabase.onLedger_eq_ok hrun).1
  | bind fence asOf boundAt => exact hregular.updateRun (RunDatabase.onLedger_eq_ok hrun).1
  | decide absence row =>
    obtain rfl | hdecision := decisionStatement_eq_ok hrun
    · exact hregular
    · exact EvaluatorStatement.run_regular hregular hdecision
  | later statement => exact EvaluatorStatement.run_regular hregular (RunDatabase.onLedger_eq_ok hrun).1

theorem RunDatabase.sending_regular {offer : Option RunStatement} (hregular : database.ledger.Regular) :
    (database.sending delivery offer).ledger.Regular :=
  @RunDatabase.sending_invariant _ _ (fun next => next.ledger.Regular) _ hregular fun _ hrun =>
    RunStatement.run_regular hregular hrun

theorem RunCall.perform_regular (call : RunCall) (hregular : database.ledger.Regular) :
    (call.perform sha256 fence database delivery).2.ledger.Regular := by
  rw [RunCall.perform_offer]
  exact RunDatabase.sending_regular hregular

theorem OutsideStep.regular (hstep : OutsideStep database next) (hregular : database.ledger.Regular) :
    next.ledger.Regular := by
  cases hstep with
  | initializeRuntime initializedAt delivery =>
    exact delivery.send_invariant hregular fun hinserted => hregular.initializeRuntime hinserted
  | apply states stateNames happlied hinsert =>
    rename_i inserted decision
    have hrun : (EvaluatorStatement.recordDecision states decision).run database.ledger = .ok (inserted, 1) :=
      bind_eq_ok_iff.mpr ⟨inserted, hinsert, rfl⟩
    exact EvaluatorStatement.run_regular hregular hrun
  | writeStates states stateNames =>
    exact ⟨hregular.distinct.congr rfl, hregular.successLeft.congr ⟨rfl, rfl⟩⟩

theorem RunStep.regular (hstep : RunStep sha256 database next) (hregular : database.ledger.Regular) :
    next.ledger.Regular := by
  cases hstep with
  | outside houtside => exact houtside.regular hregular
  | acquire scheduledAt startedAt leaseDurationSeconds runId leaseId delivery =>
    rw [acquireAlertEvaluatorRun_offer]
    exact RunDatabase.sending_regular hregular
  | call call fence delivery => exact call.perform_regular hregular
  | late statement delivery => exact @RunDatabase.sending_regular _ delivery (some statement) hregular

theorem RunStep.path_regular (hpath : Relation.ReflTransGen (RunStep sha256) database next)
    (hregular : database.ledger.Regular) : next.ledger.Regular := by
  induction hpath with
  | refl => exact hregular
  | tail _ hstep ih => exact hstep.regular ih

theorem RunDatabase.Reachable.regular (hreachable : database.Reachable sha256) : database.ledger.Regular := by
  refine RunStep.path_regular hreachable ⟨⟨List.nodup_nil, List.nodup_nil⟩, ?_⟩
  intro row hrow
  cases hrow

end regular

section harmless

/-- The answer of a call is repeated when that of the repository is. -/
theorem Repeats.answer {A : Type} {perform : Ledger → sql.Delivery → Except AlertRunRepositoryErrorCode A × Ledger}
    {ledger : Ledger} {Later : Ledger → Prop} {first again : A} (outcome : A → RunOutcome)
    (hrepeats : Repeats perform database.ledger ledger delivery Later first again) :
    Repeats (fun database delivery => database.answer outcome (perform database.ledger delivery)) database
      { database with ledger } delivery (fun later => Later later.ledger) (outcome first) (outcome again) := by
  refine ⟨?_, ?_, ?_⟩
  · simp only [RunDatabase.answer, hrepeats.answered, Except.map]
  · obtain hdelivered | hdelivered := hrepeats.delivered
    · left
      simp only [RunDatabase.answer, hdelivered, Except.map]
    · right
      simp only [RunDatabase.answer, hdelivered, Except.map]
  · intro later hlater delivery
    simp only [RunDatabase.answer, hrepeats.repeated later.ledger hlater delivery, Except.map]

theorem Repeats.mapped {perform : RunDatabase → sql.Delivery →
      Except AlertRunRepositoryErrorCode AlertEvaluatorProofWriteResult × RunDatabase}
    {Later : RunDatabase → Prop} {first again : AlertEvaluatorProofWriteResult}
    (hrepeats : Repeats perform database next delivery Later first again) :
    Repeats (fun database delivery => ((perform database delivery).1.map .proof, (perform database delivery).2))
      database next delivery Later (RunOutcome.proof first) (RunOutcome.proof again) := by
  refine ⟨?_, ?_, ?_⟩
  · simp only [hrepeats.answered, Except.map]
  · obtain hdelivered | hdelivered := hrepeats.delivered
    · left
      simp only [hdelivered, Except.map]
    · right
      simp only [hdelivered, Except.map]
  · intro later hlater delivery
    simp only [hrepeats.repeated later hlater delivery, Except.map]

theorem Repeats.harmless {call : RunCall} {Between : RunDatabase → RunDatabase → Prop} {Later : RunDatabase → Prop}
    (outcome : RunOutcome) (hcommitted : outcome.Committed)
    (hrepeats : Repeats (fun database => call.perform sha256 fence database) database
      (call.perform sha256 fence database delivery).2 delivery Later outcome outcome.replayed)
    (hlater : ∀ later, Relation.ReflTransGen (RunStep sha256) (call.perform sha256 fence database delivery).2 later →
      Between (call.perform sha256 fence database delivery).2 later → Later later) :
    call.Harmless sha256 fence database delivery Between := by
  intro _
  refine ⟨outcome, hcommitted, hrepeats.answered, ?_, ?_⟩
  · obtain hdelivered | hdelivered := hrepeats.delivered
    · exact ⟨outcome, congrArg Prod.fst hdelivered, .inl rfl⟩
    · exact ⟨outcome.replayed, congrArg Prod.fst hdelivered, .inr rfl⟩
  · intro later hpath hbetween again
    exact ⟨outcome.replayed, hrepeats.repeated later (hlater later hpath hbetween) again, .inr rfl⟩

/-- A call on the ledger that changes the database changes the ledger. -/
theorem RunDatabase.answer_changed {A : Type} {outcome : A → RunOutcome}
    {answered : Except AlertRunRepositoryErrorCode A × Ledger}
    (hchanged : (database.answer outcome answered).2 ≠ database) : answered.2 ≠ database.ledger := by
  intro hsame
  apply hchanged
  simp only [RunDatabase.answer, hsame]

/-- The fence of a binding shows when the run started. -/
def RunCall.StartedAs (call : RunCall) (fence : AlertEvaluatorRunFence) (ledger : Ledger) : Prop :=
  ∀ asOf boundAt, call = .bindAsOf asOf boundAt →
    ∀ run, evaluator.readRunById ledger fence.runId = some run → run.startedAt = fence.startedAt

theorem RunCall.harmless_of_regular (call : RunCall) (hregular : database.ledger.Regular)
    (hstarted : call.StartedAs fence database.ledger) :
    call.Harmless sha256 fence database delivery (call.Undisturbed fence.runId) := by
  intro hchanged
  have hkept : ∀ {later}, Relation.ReflTransGen (RunStep sha256)
      (call.perform sha256 fence database delivery).2 later → later.ledger.Regular :=
    fun hpath => RunStep.path_regular hpath (call.perform_regular hregular)
  cases call with
  | renew renewedAt leaseDurationSeconds =>
    obtain ⟨lease, run, hrepeats⟩ :=
      evaluator.renewAlertEvaluatorRun_repeats hregular.distinct (RunDatabase.answer_changed hchanged)
    exact Repeats.harmless (.mutation (.committed lease run)) trivial (hrepeats.answer .mutation)
      (fun later hpath hundisturbed => ⟨(hkept hpath).distinct, hundisturbed.run⟩) hchanged
  | bindAsOf asOf boundAt =>
    obtain ⟨run, hrepeats⟩ := evaluator.bindAlertEvaluatorRunAsOf_repeats hregular.distinct
      (hstarted asOf boundAt rfl) (RunDatabase.answer_changed hchanged)
    exact Repeats.harmless (.mutation (.committed fence run)) trivial (hrepeats.answer .mutation)
      (fun later hpath hundisturbed => ⟨(hkept hpath).distinct, hundisturbed.run⟩) hchanged
  | recordSource asOf proof recordedAt =>
    have hrepeats := evaluator.recordAlertEvaluatorRunSource_repeats (RunDatabase.answer_changed hchanged)
    exact Repeats.harmless (.proof .recorded) trivial (hrepeats.answer .proof)
      (fun later hpath hundisturbed => hundisturbed.sources) hchanged
  | sealPlan decisions sealedAt =>
    obtain ⟨run, hrepeats⟩ :=
      evaluator.sealAlertEvaluatorRunPlan_repeats hregular.distinct (RunDatabase.answer_changed hchanged)
    exact Repeats.harmless (.mutation (.committed fence run)) trivial (hrepeats.answer .mutation)
      (fun later hpath hundisturbed => ⟨hundisturbed.run, hundisturbed.sources⟩) hchanged
  | recordSuppressed asOf proof recordedAt =>
    have hrepeats := evaluator.recordStatelessAlertEvaluatorDecision_repeats hchanged
    exact Repeats.harmless (.proof .recorded) trivial hrepeats.mapped
      (fun later hpath hundisturbed => ⟨hundisturbed.decisions, fun _ => nofun⟩) hchanged
  | recordNoStateChange absence asOf proof recordedAt =>
    have hrepeats := evaluator.recordStatelessAlertEvaluatorDecision_repeats hchanged
    refine Repeats.harmless (.proof .recorded) trivial hrepeats.mapped ?_ hchanged
    intro later hpath hundisturbed
    refine ⟨hundisturbed.decisions, ?_⟩
    intro habsent name hname
    obtain rfl := Option.some.inj hname
    exact hundisturbed.absence _ _ _ _ rfl (habsent _ rfl)
  | recordSuccess completedAt =>
    obtain ⟨created, run, hrepeats⟩ :=
      evaluator.recordAlertEvaluatorRunSuccess_repeats hregular (RunDatabase.answer_changed hchanged)
    exact Repeats.harmless (.terminal (.committed created run)) trivial (hrepeats.answer .terminal)
      (fun later hpath hundisturbed =>
        ⟨hkept hpath, hundisturbed.run, hundisturbed.runtime.1 completedAt rfl⟩) hchanged
  | recordFailure completedAt status errorCode =>
    obtain ⟨run, hrepeats⟩ := evaluator.recordAlertEvaluatorRunFailure_repeats hregular.distinct
      (RunDatabase.answer_changed hchanged)
    exact Repeats.harmless (.terminal (.committed false run)) trivial (hrepeats.answer .terminal)
      (fun later hpath hundisturbed =>
        ⟨hundisturbed.run, hundisturbed.runtime.2 completedAt status errorCode rfl⟩) hchanged

/-- A call that did not write may be repeated as a first call, and one that has written is harmless to
repeat while what it reads back is undisturbed. -/
theorem RunCall.perform_harmless (hreachable : database.Reachable sha256) (call : RunCall)
    (fence : AlertEvaluatorRunFence) (delivery : sql.Delivery) (hstarted : call.StartedAs fence database.ledger) :
    ((call.perform sha256 fence database delivery).2 = database →
        ∀ again, call.perform sha256 fence (call.perform sha256 fence database delivery).2 again =
          call.perform sha256 fence database again) ∧
      call.Harmless sha256 fence database delivery (call.Undisturbed fence.runId) := by
  refine ⟨?_, call.harmless_of_regular hreachable.regular hstarted⟩
  intro hsame again
  rw [hsame]

/-- A call whose response is lost may be repeated. Where its request did not arrive, or its statement has written
nothing, it is repeated as a first call. Where it has written, the database is that of the call that is answered, and
the repetition confirms that answer and leaves every later database as it is, while what it reads back is
undisturbed. -/
theorem RunCall.perform_answerLost (hreachable : database.Reachable sha256) (call : RunCall)
    (fence : AlertEvaluatorRunFence) (hstarted : call.StartedAs fence database.ledger) :
    (call.perform sha256 fence database .requestLost).2 = database ∧
      (∀ delivery, (call.perform sha256 fence database delivery).2 = database → ∀ again,
        call.perform sha256 fence (call.perform sha256 fence database delivery).2 again =
          call.perform sha256 fence database again) ∧
      ((call.perform sha256 fence database .answerLost).2 ≠ database →
        ∃ outcome : RunOutcome, outcome.Committed ∧
          call.perform sha256 fence database .answered =
            (.ok outcome, (call.perform sha256 fence database .answerLost).2) ∧
          ∀ later, Relation.ReflTransGen (RunStep sha256) (call.perform sha256 fence database .answerLost).2 later →
            call.Undisturbed fence.runId (call.perform sha256 fence database .answerLost).2 later →
            ∀ again : sql.Delivery, ∃ answer, call.perform sha256 fence later again = (.ok answer, later) ∧
              outcome.Confirms answer) := by
  refine ⟨?_, ?_, ?_⟩
  · rw [RunCall.perform_offer]
    cases call.offer sha256 fence database with
    | none => rfl
    | some statement => rfl
  · intro delivery hsame again
    rw [hsame]
  · intro hwritten
    obtain ⟨outcome, hcommitted, hanswered, -, hrepeated⟩ :=
      @RunCall.harmless_of_regular _ _ _ .answerLost call hreachable.regular hstarted hwritten
    exact ⟨outcome, hcommitted, hanswered, hrepeated⟩

end harmless

section disturbed

deriving instance DecidableEq for Ledger, RunDatabase

open orchestration (AlertEvaluatorSourceProofValue AlertEvaluatorDecisionProofValue)

/-- What does not confirm a call that has written. -/
theorem RunOutcome.Committed.not_lost {outcome answer : RunOutcome} (hcommitted : outcome.Committed)
    (hconfirms : outcome.Confirms answer) : answer ≠ .mutation .lost ∧ answer ≠ .terminal .lost := by
  obtain rfl | rfl := hconfirms
  · constructor <;> rintro rfl <;> exact hcommitted
  · cases outcome with
    | mutation result =>
      cases result with
      | committed fence run => exact ⟨nofun, nofun⟩
      | replayed fence run => exact hcommitted.elim
      | lost => exact hcommitted.elim
    | proof result =>
      cases result with
      | recorded => exact ⟨nofun, nofun⟩
      | replayed => exact hcommitted.elim
      | lost => exact hcommitted.elim
    | terminal result =>
      cases result with
      | committed created run => exact ⟨nofun, nofun⟩
      | replayed run => exact hcommitted.elim
      | lost => exact hcommitted.elim

/-- A call is not harmless where its repetition throws, or has lost its run. -/
theorem RunCall.not_harmless {call : RunCall} {Between : RunDatabase → RunDatabase → Prop} (later : RunDatabase)
    (hchanged : (call.perform sha256 fence database delivery).2 ≠ database)
    (hpath : Relation.ReflTransGen (RunStep sha256) (call.perform sha256 fence database delivery).2 later)
    (hbetween : Between (call.perform sha256 fence database delivery).2 later)
    (hrepeated : (call.perform sha256 fence later .answered).1 ∈
      [.error .conflict, .ok (.mutation .lost), .ok (.terminal .lost)]) :
    ¬ call.Harmless sha256 fence database delivery Between := by
  intro hharmless
  obtain ⟨outcome, hcommitted, -, -, hagain⟩ := hharmless hchanged
  obtain ⟨answer, hanswer, hconfirms⟩ := hagain later hpath hbetween .answered
  obtain ⟨hmutation, hterminal⟩ := hcommitted.not_lost hconfirms
  rw [hanswer] at hrepeated
  simp [hmutation, hterminal] at hrepeated

/-- The calls of the earlier run, all of them answered. -/
def RunDatabase.performing (database : RunDatabase) (calls : List RunCall) : RunDatabase :=
  calls.foldl (fun database call => (call.perform sha2.sha256 earlierFence database .answered).2) database

theorem RunDatabase.Reachable.performing (hreachable : database.Reachable sha2.sha256) (calls : List RunCall) :
    (database.performing calls).Reachable sha2.sha256 := by
  induction calls generalizing database with
  | nil => exact hreachable
  | cons call calls ih => exact ih (hreachable.tail (.call call earlierFence .answered))

/-- The database once the run after it has been acquired. -/
def RunDatabase.following (database : RunDatabase) : RunDatabase :=
  database.acquiring ⟨240000, by decide⟩ ⟨240010, by decide⟩ "following" "later"

/-- A fence that shows another start than the run has. -/
def misfenced : AlertEvaluatorRunFence :=
  { earlierFence with startedAt := ⟨180011, by decide⟩ }

def misfencedBinding : RunCall :=
  .bindAsOf ⟨180020, by decide⟩ ⟨180030, by decide⟩

/-- What the failure of the acquired run, and a binding with a fence of another start, come to. -/
theorem acquiredDatabase_performed :
    ((earlierFailure.perform sha2.sha256 earlierFence acquiredDatabase .answerLost).2 ≠ acquiredDatabase ∧
      SameRun "earlier" (earlierFailure.perform sha2.sha256 earlierFence acquiredDatabase .answerLost).2
        (earlierFailure.perform sha2.sha256 earlierFence acquiredDatabase .answerLost).2.following ∧
      (earlierFailure.perform sha2.sha256 earlierFence
        (earlierFailure.perform sha2.sha256 earlierFence acquiredDatabase .answerLost).2.following .answered).1 ∈
          [.error .conflict, .ok (.mutation .lost), .ok (.terminal .lost)]) ∧
      (misfencedBinding.perform sha2.sha256 misfenced acquiredDatabase .answerLost).2 ≠ acquiredDatabase ∧
        (misfencedBinding.perform sha2.sha256 misfenced
          (misfencedBinding.perform sha2.sha256 misfenced acquiredDatabase .answerLost).2 .answered).1 ∈
            [.error .conflict, .ok (.mutation .lost), .ok (.terminal .lost)] :=
  ⟨⟨by decide +kernel, ⟨by decide +kernel, by decide +kernel, by decide +kernel⟩, by decide +kernel⟩,
    by decide +kernel, by decide +kernel⟩

/-- A failure of the acquired run writes, and is harmless to repeat. -/
theorem RunCall.perform_harmless_failure :
    (earlierFailure.perform sha2.sha256 earlierFence acquiredDatabase .answerLost).2 ≠ acquiredDatabase ∧
      earlierFailure.Harmless sha2.sha256 earlierFence acquiredDatabase .answerLost
        (earlierFailure.Undisturbed earlierFence.runId) := by
  have hstarted : earlierFailure.StartedAs earlierFence acquiredDatabase.ledger := by
    intro asOf boundAt hcall
    cases hcall
  refine ⟨acquiredDatabase_performed.1.1, ?_⟩
  exact (RunCall.perform_harmless acquiredDatabase_reachable _ earlierFence .answerLost hstarted).2

/-- The response of the same failure is lost: it is repeated with the same answer, and written once. -/
theorem RunCall.perform_answerLost_failure :
    ∃ outcome : RunOutcome, outcome.Committed ∧
      earlierFailure.perform sha2.sha256 earlierFence acquiredDatabase .answered =
        (.ok outcome, (earlierFailure.perform sha2.sha256 earlierFence acquiredDatabase .answerLost).2) ∧
      ∃ answer, outcome.Confirms answer ∧
        earlierFailure.perform sha2.sha256 earlierFence
            (earlierFailure.perform sha2.sha256 earlierFence acquiredDatabase .answerLost).2 .answered =
          (.ok answer, (earlierFailure.perform sha2.sha256 earlierFence acquiredDatabase .answerLost).2) := by
  have hstarted : earlierFailure.StartedAs earlierFence acquiredDatabase.ledger := by
    intro asOf boundAt hcall
    cases hcall
  obtain ⟨-, -, hwritten⟩ := RunCall.perform_answerLost acquiredDatabase_reachable earlierFailure earlierFence hstarted
  obtain ⟨outcome, hcommitted, hanswered, hrepeated⟩ := hwritten acquiredDatabase_performed.1.1
  obtain ⟨answer, hanswer, hconfirms⟩ := hrepeated _ .refl ⟨⟨rfl, rfl, rfl⟩, ⟨fun _ _ => rfl, fun _ _ _ _ => rfl⟩, fun _ _ _ _ _ habsent => habsent⟩
    .answered
  exact ⟨outcome, hcommitted, hanswered, answer, hconfirms, hanswer⟩

theorem RunDatabase.following_path :
    Relation.ReflTransGen (RunStep sha256) database database.following :=
  .single (.acquire ⟨240000, by decide⟩ ⟨240010, by decide⟩ 240 "following" "later" .answered)

/-- After a failure the next run is acquired. -/
theorem recordFailure_disturbed :
    ¬ earlierFailure.Harmless sha2.sha256 earlierFence acquiredDatabase .answerLost (SameRun "earlier") := by
  obtain ⟨⟨hchanged, hbetween, hrepeated⟩, -⟩ := acquiredDatabase_performed
  exact RunCall.not_harmless _ hchanged RunDatabase.following_path hbetween hrepeated

/-- A binding whose fence shows another start is written, and never found. -/
theorem bindAsOf_disturbed :
    ¬ misfencedBinding.Harmless sha2.sha256 misfenced acquiredDatabase .answerLost (SameRun "earlier") := by
  obtain ⟨-, hchanged, hrepeated⟩ := acquiredDatabase_performed
  exact RunCall.not_harmless _ hchanged .refl ⟨rfl, rfl, rfl⟩ hrepeated

def zeroText : Text := Text.of "AAAAAAAAAAAAAAAAAAAAAAAAAAAAAAAAAAAAAAAAAAA"

def unchangedDecision : AlertEvaluatorDecisionProofValue :=
  ⟨zeroText, .noStateChange, zeroText, zeroText, 0, .d1Audit⟩

def completeSourceIds : List AlertEvaluatorSourceId :=
  [.queueSecurityEventsDlq, .queueLogoutDeliveriesDlq, .queueAlertDeliveriesDlq, .queueAuditArchiveDlq, .d1Audit,
    .d1OauthClientReport, .d1SecurityFanoutGap, .d1LogoutDelivery, .d1AlertRuntime]

def completeSource (sourceId : AlertEvaluatorSourceId) : AlertEvaluatorSourceProofValue :=
  ⟨0, 0, zeroText, sourceId, .complete⟩

/-- The calls that record nine complete sources for the earlier run. -/
def recordingCalls : List RunCall :=
  .bindAsOf ⟨180020, by decide⟩ ⟨180030, by decide⟩ :: completeSourceIds.map fun sourceId =>
    .recordSource ⟨180020, by decide⟩ (completeSource sourceId) ⟨180040, by decide⟩

/-- The calls that seal the earlier run with its decisions, after its sources. -/
def sealingCalls (decisions : List AlertEvaluatorDecisionProofValue) : List RunCall :=
  recordingCalls ++ [.sealPlan decisions ⟨180044, by decide⟩]

/-- The rows that the sources leave. -/
def recordedSources : RunDatabase :=
  { acquiredDatabase with
    ledger := { acquiredDatabase.ledger with
      runs := acquiredDatabase.ledger.runs.map fun run =>
        { run with asOf := some ⟨180020, by decide⟩, updatedAt := ⟨180030, by decide⟩ }
      sources := completeSourceIds.map fun sourceId =>
        evaluator.sourceRow earlierFence ⟨180020, by decide⟩ (completeSource sourceId) ⟨180040, by decide⟩ } }

/-- The run with its sources. -/
def recordedRun : EvaluatorRunRow :=
  recordedSources.ledger.runs.head (by decide +kernel)

/-- The digest of the manifest of these sources. -/
def completeManifest : String := "x7OpwmpNMi5PxEahUZqzPOg3NgdHfjp2s8LjpS-7EYE"

/-- The digest of the manifest of no decision, or of the unchanged one. -/
def decisionManifest (decisionCount : Int) : String :=
  if decisionCount = 0 then "fpdV6lJ7NJ4ig-EdtHYnc7Sgt3ZXSPyVtVAAIopRjVU"
  else "Jf5KkYxINhP1KR9QUuho0GA9fmpBwMP-HkA5tVA1wp0"

/-- The rows that the plan leaves. -/
def sealedDatabase (decisionCount : Int) : RunDatabase :=
  { recordedSources with
    ledger := { recordedSources.ledger with
      runs := recordedSources.ledger.runs.map fun run =>
        { run with
          sourceCount := some 9
          partialSourceCount := some 0
          sourceManifestSha256 := some completeManifest
          decisionCount := some decisionCount
          decisionManifestSha256 := some (decisionManifest decisionCount)
          status := .sealed
          updatedAt := ⟨180044, by decide⟩ } } }

/-- The run with its plan. -/
def sealedRun : EvaluatorRunRow :=
  (sealedDatabase 0).ledger.runs.head (by decide +kernel)

section manifests

open evaluator

/-- The rows of the sources, and the digests of the manifests as their columns have them. -/
structure RecordedManifests : Prop where
  proofs : (recordedSources.ledger.sourcesOf earlierFence.runId).map sourceProofValue =
    completeSourceIds.map completeSource
  complete : (recordedSources.ledger.sourcesOf earlierFence.runId).countP
    (fun source => source.status ≠ .complete) = 0
  sourceDigest : orchestration.alertEvaluatorSourceManifestDigest sha2.sha256
    (completeSourceIds.map completeSource) = .ok (Text.of completeManifest)
  noneDigest : orchestration.alertEvaluatorDecisionManifestDigest sha2.sha256 [] =
    .ok (Text.of (decisionManifest 0))
  oneDigest : orchestration.alertEvaluatorDecisionManifestDigest sha2.sha256 [unchangedDecision] =
    .ok (Text.of (decisionManifest 1))
  sourceColumn : columnDigest (Text.of completeManifest) = completeManifest
  noneColumn : columnDigest (Text.of (decisionManifest 0)) = decisionManifest 0
  oneColumn : columnDigest (Text.of (decisionManifest 1)) = decisionManifest 1
  fence : parseFence earlierFence = .ok earlierFence
  instant : evaluator.canonicalTimestamp ⟨180044, by decide⟩ = .ok ⟨180044, by decide⟩
  run : readRunById recordedSources.ledger earlierFence.runId = some recordedRun ∧
    runMatchesFence recordedRun earlierFence ∧ recordedRun.status = .running ∧
    recordedRun.asOf = some ⟨180020, by decide⟩ ∧ recordedRun.updatedAt = ⟨180030, by decide⟩ ∧
    recordedRun.updatedAt < ⟨180044, by decide⟩ ∧ ⟨180044, by decide⟩ < recordedRun.leaseExpiresAt

theorem recordedManifests : RecordedManifests := by
  constructor <;> decide +kernel

theorem recordedSources_seals {decisions : List AlertEvaluatorDecisionProofValue} {digest : String}
    (hdecisions : decisions.mapM orchestration.parseAlertEvaluatorDecisionProofValue = .ok decisions)
    (happlied : ∀ decision ∈ decisions, decision.disposition ≠ .suppressedPartial)
    (hdigest : orchestration.alertEvaluatorDecisionManifestDigest sha2.sha256 decisions = .ok (Text.of digest))
    (hcolumn : columnDigest (Text.of digest) = digest) :
    sealing sha2.sha256 recordedSources.ledger earlierFence decisions ⟨180044, by decide⟩ =
      .ok (.inr (earlierFence, ⟨0, completeManifest, decisions.length, digest⟩, ⟨180020, by decide⟩,
        ⟨180030, by decide⟩)) := by
  have hsuppressed : ¬ ∃ decision ∈ decisions, decision.disposition = .suppressedPartial ∧
      ¬ ∃ source ∈ recordedSources.ledger.sourcesOf earlierFence.runId,
        source.sourceId = decision.sourceId ∧ source.status = .partly := by
    rintro ⟨decision, hdecision, hdisposition, -⟩
    exact happlied decision hdecision hdisposition
  have hplan : sealedPlan sha2.sha256 recordedSources.ledger earlierFence.runId decisions =
      .ok ⟨0, completeManifest, decisions.length, digest⟩ := by
    rw [sealedPlan, recordedManifests.proofs, orFail_eq_ok_iff.mpr recordedManifests.sourceDigest, ok_bind,
      orFail_eq_ok_iff.mpr hdigest, ok_bind, throwIf_bind_of_not hsuppressed, recordedManifests.complete, hcolumn,
      recordedManifests.sourceColumn]
    rfl
  obtain ⟨hread, hmatch, hstatus, hasOf, hupdated, htime⟩ := recordedManifests.run
  rw [← hupdated]
  exact sealing_of_plan recordedManifests.fence recordedManifests.instant hdecisions hread hmatch hplan hstatus hasOf
    htime

theorem offer_sealPlan {decisions : List AlertEvaluatorDecisionProofValue} {sealedAt asOf updatedAt : Timestamp}
    {plan : SealedPlan}
    (hoffer : sealing sha256 database.ledger fence decisions sealedAt = .ok (.inr (fence, plan, asOf, updatedAt))) :
    (RunCall.sealPlan decisions sealedAt).offer sha256 fence database =
      some (.later (.sealPlan fence asOf updatedAt sealedAt plan.partialCount plan.decisionCount plan.sourceDigest
        plan.decisionDigest)) := by
  simp only [RunCall.offer, hoffer]

theorem offer_recordSuccess {completedAt asOf : Timestamp}
    (hoffer : succeeding sha256 database.ledger fence completedAt = .ok (.inr (fence, asOf))) :
    (RunCall.recordSuccess completedAt).offer sha256 fence database =
      some (.later (.recordSuccess fence completedAt asOf)) := by
  simp only [RunCall.offer, hoffer]

/-- Sealing the recorded run leaves the rows of the plan. -/
theorem sealedDatabase_performed :
    acquiredDatabase.performing (sealingCalls []) = sealedDatabase 0 ∧
      acquiredDatabase.performing (sealingCalls [unchangedDecision]) = sealedDatabase 1 := by
  have hrecorded : acquiredDatabase.performing recordingCalls = recordedSources := by decide +kernel
  have hseals := @recordedSources_seals [] (decisionManifest 0) rfl (by decide) recordedManifests.noneDigest
    recordedManifests.noneColumn
  have hsealsOne := @recordedSources_seals [unchangedDecision] (decisionManifest 1) (by decide +kernel) (by decide)
    recordedManifests.oneDigest recordedManifests.oneColumn
  rw [RunDatabase.performing] at hrecorded
  refine ⟨?_, ?_⟩
  · rw [RunDatabase.performing, sealingCalls, List.foldl_append, hrecorded, List.foldl_cons, List.foldl_nil,
      RunCall.perform_offer, offer_sealPlan hseals]
    decide +kernel
  · rw [RunDatabase.performing, sealingCalls, List.foldl_append, hrecorded, List.foldl_cons, List.foldl_nil,
      RunCall.perform_offer, offer_sealPlan hsealsOne]
    decide +kernel

end manifests

theorem sealedDatabase_reachable :
    (sealedDatabase 0).Reachable sha2.sha256 ∧ (sealedDatabase 1).Reachable sha2.sha256 := by
  rw [← sealedDatabase_performed.1, ← sealedDatabase_performed.2]
  exact ⟨acquiredDatabase_reachable.performing _, acquiredDatabase_reachable.performing _⟩

theorem readDecisions_of_short {ledger : Ledger} (hshort : ledger.decisions.length ≤ 1) (runId : String) :
    evaluator.readDecisions ledger runId = ledger.decisionsOf runId := by
  have hfew : (ledger.decisionsOf runId).length ≤ 1 := (List.length_filter_le _ _).trans hshort
  rw [evaluator.readDecisions]
  cases hdecisions : ledger.decisionsOf runId with
  | nil => exact List.mergeSort_nil
  | cons decision decisions =>
    rw [hdecisions, List.length_cons] at hfew
    obtain rfl := List.eq_nil_of_length_eq_zero (by omega : decisions.length = 0)
    exact List.mergeSort_singleton decision

def succeededDatabase : RunDatabase :=
  { sealedDatabase 0 with
    ledger := (sql.Delivery.answered.send (evaluator.EvaluatorStatement.recordSuccess earlierFence
      ⟨180052, by decide⟩ ⟨180020, by decide⟩).run (sealedDatabase 0).ledger).2 }

theorem sealedDatabase_succeeding :
    evaluator.succeeding sha2.sha256 (sealedDatabase 0).ledger earlierFence ⟨180052, by decide⟩ =
      .ok (.inr (earlierFence, ⟨180020, by decide⟩)) := by
  have hshort : (sealedDatabase 0).ledger.decisions.length ≤ 1 := by decide +kernel
  obtain ⟨hread, hmatch, hasOf, hid, hsealed, hrecorded, hcomplete⟩ :
      evaluator.readRunById (sealedDatabase 0).ledger earlierFence.runId = some sealedRun ∧
        evaluator.runMatchesFence sealedRun earlierFence ∧ sealedRun.asOf = some ⟨180020, by decide⟩ ∧
        sealedRun.id = earlierFence.runId ∧
        ¬ (sealedRun.status ≠ .sealed ∨ sealedRun.asOf = none ∨ sealedRun.sourceManifestSha256 = none ∨
          sealedRun.decisionManifestSha256 = none ∨ sealedRun.sourceCount ≠ some 9 ∨
          sealedRun.partialSourceCount = none ∨ sealedRun.decisionCount = none) ∧
        (sealedRun.partialSourceCount = some 0 ∧ sealedRun.decisionCount = some 0 ∧
          sealedRun.sourceManifestSha256 = some completeManifest ∧
          sealedRun.decisionManifestSha256 = some (decisionManifest 0)) ∧
        ¬ (sealedRun.partialSourceCount ≠ some 0 ∨
          (∃ source ∈ (sealedDatabase 0).ledger.sourcesOf sealedRun.id, source.status ≠ .complete) ∨
          evaluator.precedesProof (sealedDatabase 0).ledger sealedRun ⟨180052, by decide⟩ ∨
          earlierFence.leaseExpiresAt ≤ ⟨180052, by decide⟩) := by
    decide +kernel
  have hnone : (sealedDatabase 0).ledger.decisionsOf sealedRun.id = [] := by
    rw [hid]
    decide +kernel
  have hverified : evaluator.verifySealedProof sha2.sha256 (sealedDatabase 0).ledger sealedRun = .ok () := by
    have hproofs : ((sealedDatabase 0).ledger.sourcesOf earlierFence.runId).map evaluator.sourceProofValue =
        completeSourceIds.map completeSource := recordedManifests.proofs
    have hcounted : (((sealedDatabase 0).ledger.sourcesOf earlierFence.runId).countP
        fun source => source.status ≠ .complete) = 0 := recordedManifests.complete
    obtain ⟨hpartly, hcount, hsource, hdecision⟩ := hrecorded
    rw [evaluator.verifySealedProof, throwIf_bind_of_not hsealed, readDecisions_of_short hshort, hnone, hid]
    dsimp only
    rw [hproofs, evaluator.orFail_eq_ok_iff.mpr recordedManifests.sourceDigest, ok_bind, List.map_nil,
      evaluator.orFail_eq_ok_iff.mpr recordedManifests.noneDigest, ok_bind, hcounted, hpartly, hcount, hsource,
      hdecision, recordedManifests.sourceColumn, recordedManifests.noneColumn]
    rfl
  exact evaluator.succeeding_of_verified (by decide +kernel) (by decide +kernel) (by decide +kernel) hread hmatch
    hverified hcomplete hasOf

theorem recordSuccess_succeeds :
    ((RunCall.recordSuccess ⟨180052, by decide⟩).perform sha2.sha256 earlierFence (sealedDatabase 0)
      .answerLost).2 = succeededDatabase := by
  rw [RunCall.perform_offer, offer_recordSuccess sealedDatabase_succeeding]
  decide +kernel

theorem succeededDatabase_performed :
    ∃ call : RunCall, (call.perform sha2.sha256 earlierFence (sealedDatabase 0) .answerLost).2 = succeededDatabase :=
  ⟨_, recordSuccess_succeeds⟩

theorem succeededDatabase_reachable : succeededDatabase.Reachable sha2.sha256 := by
  rw [← recordSuccess_succeeds]
  exact sealedDatabase_reachable.1.tail (.call (.recordSuccess ⟨180052, by decide⟩) earlierFence .answerLost)

/-- The run that has succeeded. -/
def succeededRun : EvaluatorRunRow :=
  succeededDatabase.ledger.runs.head (by decide +kernel)

/-- What the success leaves, and what its repetition behind the next run comes to. -/
theorem succeededDatabase_shows :
    (succeededRun.status = .succeeded ∧ ∃ row ∈ succeededDatabase.ledger.runtime, row.watermarkAt ≠ none) ∧
      succeededDatabase ≠ sealedDatabase 0 ∧ SameRun "earlier" succeededDatabase succeededDatabase.following ∧
      ((RunCall.recordSuccess ⟨180052, by decide⟩).perform sha2.sha256 earlierFence succeededDatabase.following
        .answered).1 ∈ [.error .conflict, .ok (.mutation .lost), .ok (.terminal .lost)] :=
  ⟨by decide +kernel, by decide +kernel, ⟨by decide +kernel, by decide +kernel, by decide +kernel⟩, by decide +kernel⟩

/-- After a success the next run is acquired. -/
theorem recordSuccess_disturbed :
    ¬ (RunCall.recordSuccess ⟨180052, by decide⟩).Harmless sha2.sha256 earlierFence (sealedDatabase 0)
      .answerLost (SameRun "earlier") := by
  obtain ⟨-, hchanged, hbetween, hrepeated⟩ := succeededDatabase_shows
  refine RunCall.not_harmless succeededDatabase.following ?_ ?_ ?_ hrepeated
  · rw [recordSuccess_succeeds]
    exact hchanged
  · rw [recordSuccess_succeeds]
    exact RunDatabase.following_path
  · rw [recordSuccess_succeeds]
    exact hbetween

def absentState : AlertEvaluatorNoStateAbsence :=
  ⟨.production, none, "rule", .d1Exact, none⟩

def recordedDatabase : RunDatabase :=
  { sealedDatabase 1 with
    ledger := (sql.Delivery.answered.send (evaluator.EvaluatorStatement.recordDecision []
      (evaluator.decisionRow earlierFence ⟨180020, by decide⟩ unchangedDecision ⟨180046, by decide⟩)).run
        (sealedDatabase 1).ledger).2 }

theorem recordNoStateChange_records :
    ((RunCall.recordNoStateChange absentState ⟨180020, by decide⟩ unchangedDecision ⟨180046, by decide⟩).perform
      sha2.sha256 earlierFence (sealedDatabase 1) .answerLost).2 = recordedDatabase := by
  have hshort : (sealedDatabase 1).ledger.decisions.length ≤ 1 := by decide +kernel
  have hinput : evaluator.decisionInput earlierFence ⟨180020, by decide⟩ unchangedDecision ⟨180046, by decide⟩
      .noStateChange = .ok (earlierFence, unchangedDecision) := by decide +kernel
  have hfree : evaluator.readDecision (sealedDatabase 1).ledger earlierFence.runId
      unchangedDecision.ordinal = none := by
    rw [evaluator.readDecision, readDecisions_of_short hshort]
    decide +kernel
  simp only [RunCall.perform, evaluator.recordNoStateChangeAlertEvaluatorDecision,
    evaluator.recordStatelessAlertEvaluatorDecision, hinput, hfree]
  decide +kernel

/-- A state of the name appears once the decision has been written. -/
theorem recordNoStateChange_disturbed :
    ¬ (RunCall.recordNoStateChange absentState ⟨180020, by decide⟩ unchangedDecision ⟨180046, by decide⟩).Harmless
      sha2.sha256 earlierFence (sealedDatabase 1) .answerLost (SameRun "earlier") := by
  refine RunCall.not_harmless { recordedDatabase with stateNames := [absentState] } ?_ ?_ ?_ ?_
  · rw [recordNoStateChange_records]
    decide +kernel
  · rw [recordNoStateChange_records]
    exact .single (.outside (.writeStates _ [absentState]))
  · rw [recordNoStateChange_records]
    exact ⟨rfl, rfl, rfl⟩
  · have hshort : recordedDatabase.ledger.decisions.length ≤ 1 := by decide +kernel
    simp only [RunCall.perform, evaluator.recordNoStateChangeAlertEvaluatorDecision,
      evaluator.recordStatelessAlertEvaluatorDecision, evaluator.readDecision, readDecisions_of_short hshort]
    decide +kernel

/-- The calls that disturb nothing but the run itself are not enough: a failure and a success are lost
behind the next run, a decision of no change behind a state of its name, and a binding behind a fence
with another start. -/
theorem RunCall.perform_disturbed :
    ¬ (∀ (sha256 : Sha256) (database : RunDatabase), database.Reachable sha256 →
        ∀ (fence : AlertEvaluatorRunFence) (delivery : sql.Delivery) (completedAt : Timestamp)
          (status : RuntimeStatus) (errorCode : RuntimeErrorCode),
          (RunCall.recordFailure completedAt status errorCode).Harmless sha256 fence database delivery
            (SameRun fence.runId)) ∧
      ¬ (∀ (sha256 : Sha256) (database : RunDatabase), database.Reachable sha256 →
        ∀ (fence : AlertEvaluatorRunFence) (delivery : sql.Delivery) (completedAt : Timestamp),
          (RunCall.recordSuccess completedAt).Harmless sha256 fence database delivery (SameRun fence.runId)) ∧
      ¬ (∀ (sha256 : Sha256) (database : RunDatabase), database.Reachable sha256 →
        ∀ (fence : AlertEvaluatorRunFence) (delivery : sql.Delivery) (absence : AlertEvaluatorNoStateAbsence)
          (asOf : Timestamp) (proof : AlertEvaluatorDecisionProofValue) (recordedAt : Timestamp),
          (RunCall.recordNoStateChange absence asOf proof recordedAt).Harmless sha256 fence database delivery
            (SameRun fence.runId)) ∧
      ¬ (∀ (sha256 : Sha256) (database : RunDatabase), database.Reachable sha256 →
        ∀ (fence : AlertEvaluatorRunFence) (delivery : sql.Delivery) (asOf boundAt : Timestamp),
          (RunCall.bindAsOf asOf boundAt).Harmless sha256 fence database delivery (SameRun fence.runId)) := by
  obtain ⟨hnone, hone⟩ := sealedDatabase_reachable
  refine ⟨?_, ?_, ?_, ?_⟩
  · intro hclaim
    exact recordFailure_disturbed (hclaim _ _ acquiredDatabase_reachable _ _ _ _ _)
  · intro hclaim
    exact recordSuccess_disturbed (hclaim _ _ hnone _ _ _)
  · intro hclaim
    exact recordNoStateChange_disturbed (hclaim _ _ hone _ _ _ _ _ _)
  · intro hclaim
    exact bindAsOf_disturbed (hclaim _ _ acquiredDatabase_reachable _ _ _ _)

end disturbed

end pgid.alert
