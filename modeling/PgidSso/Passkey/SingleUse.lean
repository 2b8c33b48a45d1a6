import PgidSso.Passkey.System

open checked transition

namespace pgid.passkey

variable {webAuthn : WebAuthn} {tables next : Tables}

section statements

theorem issueChallenge_ok {challenge : ChallengeRow} (hissue : issueChallenge challenge tables = .ok next) :
    next = { tables with
      challenges := table.delete
        (fun row : ChallengeRow => row.sessionId = challenge.sessionId ∨ row.expiresAt ≤ challenge.createdAt)
        tables.challenges ++ [challenge] } := by
  simp only [issueChallenge, throwIf_bind_eq_ok_iff, pure_eq_ok_iff] at hissue
  exact hissue.2.2.2.2.symm

/-- A challenge that is returned was live, and is deleted. -/
theorem consumeChallenge_some {challengeId sessionId userId challenge : Text} {now : Int}
    (hconsume : consumeChallenge challengeId sessionId userId now tables = (some challenge, next)) :
    (∃ row ∈ tables.challenges, row.Consumable challengeId sessionId userId now ∧ row.challenge = challenge) ∧
      next = { tables with
        challenges := table.delete
          (fun row : ChallengeRow => row.Consumable challengeId sessionId userId now) tables.challenges } := by
  simp only [consumeChallenge, Prod.mk.injEq, Option.map_eq_some_iff] at hconsume
  obtain ⟨⟨row, hhead, hchallenge⟩, rfl⟩ := hconsume
  obtain ⟨hmem, hconsumable⟩ := table.mem_matched.mp (List.mem_of_mem_head? hhead)
  exact ⟨⟨row, hmem, hconsumable, hchallenge⟩, rfl⟩

theorem consumeChallenge_none {challengeId sessionId userId : Text} {now : Int}
    (hconsume : consumeChallenge challengeId sessionId userId now tables = (none, next)) : next = tables := by
  simp only [consumeChallenge, Prod.mk.injEq, Option.map_eq_none_iff, List.head?_eq_none_iff] at hconsume
  obtain ⟨hnone, rfl⟩ := hconsume
  rw [table.delete_of_none (table.matched_eq_nil_iff.mp hnone)]

/-- The compare-and-set changes the one row at the stored counter, or nothing. -/
theorem updateCounter_spec {passkeyId userId : Text} {stored newCounter changes : Nat}
    (hunique : (tables.passkeys.map (·.id)).Nodup)
    (hupdate : updateCounter passkeyId userId stored newCounter tables = (changes, next)) :
    (changes = 0 ∧ next = tables) ∨
      (changes = 1 ∧ (∃ row ∈ tables.passkeys, row.At passkeyId userId stored) ∧
        next = { tables with
          passkeys := table.update (fun row : PasskeyRow => row.At passkeyId userId stored)
            (fun row => { row with counter := newCounter }) tables.passkeys }) := by
  simp only [updateCounter, Prod.mk.injEq] at hupdate
  obtain ⟨rfl, rfl⟩ := hupdate
  by_cases hcurrent : ∃ row ∈ tables.passkeys, row.At passkeyId userId stored
  · obtain ⟨row, hrow, hat⟩ := hcurrent
    have hsingle : table.matched (fun row : PasskeyRow => row.At passkeyId userId stored)
        tables.passkeys = [row] := by
      apply table.matched_eq_singleton hunique hrow hat
      intro other _ hother
      exact hother.1.trans hat.1.symm
    refine .inr ⟨?_, ⟨row, hrow, hat⟩, rfl⟩
    rw [hsingle]
    rfl
  · have hnone : ∀ row ∈ tables.passkeys, ¬ row.At passkeyId userId stored :=
      fun row hrow hat => hcurrent ⟨row, hrow, hat⟩
    refine .inl ⟨?_, ?_⟩
    · rw [table.matched_of_none hnone]
      rfl
    · rw [table.update_of_none hnone]

/-- The final batch writes the timestamp with its success event, or nothing. -/
theorem finalizeStepUp_ok {eventId sessionId userId passkeyId : Text} {newCounter : Nat} {verifiedAt : Int}
    {changes : Nat × Nat × Nat} (hunique : (tables.sessions.map (·.id)).Nodup)
    (hfresh : ∀ event ∈ tables.auditEvents, event.id ≠ eventId)
    (hfinalize : finalizeStepUp eventId sessionId userId passkeyId newCounter verifiedAt tables =
      .ok (changes, next)) :
    (changes = (0, 0, 0) ∧ next = tables) ∨
      (changes = (1, 1, 0) ∧ (∃ row ∈ tables.sessions, row.Of sessionId userId) ∧
        next = { tables with
          sessions := table.update (fun row : SessionRow => row.Of sessionId userId)
            (fun row => { row with passkeyStepUpAt := some verifiedAt }) tables.sessions
          auditEvents := tables.auditEvents ++ [stepUpSucceeded eventId userId verifiedAt] }) := by
  simp only [finalizeStepUp, bind_eq_ok_iff, pure_eq_ok_iff] at hfinalize
  obtain ⟨⟨inserted, between⟩, hinserted, hresult⟩ := hfinalize
  unfold auditInsertForCounterVerifiedSession at hinserted
  split at hinserted
  · rename_i hguard
    obtain ⟨⟨row, hrow, hof⟩, hpasskey⟩ := hguard
    simp only [throwIf_bind_eq_ok_iff, pure_eq_ok_iff, Prod.mk.injEq] at hinserted
    obtain ⟨-, rfl, rfl⟩ := hinserted
    obtain ⟨success, hsuccess⟩ : ∃ success, success = stepUpSucceeded eventId userId verifiedAt := ⟨_, rfl⟩
    rw [← hsuccess] at hresult ⊢
    let sessions := table.update (fun row : SessionRow => row.Of sessionId userId)
      (fun row => { row with passkeyStepUpAt := some verifiedAt }) tables.sessions
    have hverified : ∀ row ∈ tables.sessions, (row.Of sessionId userId ∧
        (∃ event ∈ tables.auditEvents ++ [success], event.id = eventId ∧
          event.eventType = .stepUpSucceeded ∧ event.actorUserId = userId ∧ event.subjectId = userId ∧
          event.outcome = .success) ∧
        ∃ passkey ∈ tables.passkeys, passkey.At passkeyId userId newCounter) ↔ row.Of sessionId userId := by
      intro row _
      refine ⟨And.left, fun hrow => ⟨hrow, ?_, hpasskey⟩⟩
      exact ⟨success, List.mem_append_right _ List.mem_cons_self, by simp [hsuccess, stepUpSucceeded]⟩
    have hsingle : table.matched (fun row : SessionRow => row.Of sessionId userId) tables.sessions = [row] := by
      apply table.matched_eq_singleton hunique hrow hof
      intro other _ hother
      exact hother.1.trans hof.1.symm
    have hupdated : updateStepUpAt eventId sessionId userId passkeyId newCounter verifiedAt
        { tables with auditEvents := tables.auditEvents ++ [success] } =
          (1, { tables with sessions, auditEvents := tables.auditEvents ++ [success] }) := by
      rw [updateStepUpAt, table.matched_congr hverified, table.update_congr hverified, hsingle]
      rfl
    have hmatched : ∀ row ∈ tables.auditEvents ++ [success], ¬ (row.id = eventId ∧
        row.eventType = .stepUpSucceeded ∧
        ¬ ∃ row ∈ sessions, row.Of sessionId userId ∧ row.passkeyStepUpAt = some verifiedAt) := by
      rintro - - ⟨-, -, hmissing⟩
      exact hmissing ⟨_, table.change_mem_update hrow hof, hof, rfl⟩
    have hdeleted : deleteUnmatchedAudit eventId sessionId userId verifiedAt
        { tables with sessions, auditEvents := tables.auditEvents ++ [success] } =
          (0, { tables with sessions, auditEvents := tables.auditEvents ++ [success] }) := by
      rw [deleteUnmatchedAudit, table.matched_of_none hmatched, table.delete_of_none hmatched]
      rfl
    simp only [hupdated, hdeleted, Prod.mk.injEq] at hresult
    exact .inr ⟨hresult.1.symm, ⟨row, hrow, hof⟩, hresult.2.symm⟩
  · simp only [pure_eq_ok_iff, Prod.mk.injEq] at hinserted
    obtain ⟨rfl, rfl⟩ := hinserted
    -- without the success event the other statements change nothing
    have hverified : ∀ row ∈ tables.sessions, ¬ (row.Of sessionId userId ∧
        (∃ event ∈ tables.auditEvents, event.id = eventId ∧ event.eventType = .stepUpSucceeded ∧
          event.actorUserId = userId ∧ event.subjectId = userId ∧ event.outcome = .success) ∧
        ∃ passkey ∈ tables.passkeys, passkey.At passkeyId userId newCounter) := by
      rintro row - ⟨-, ⟨event, hevent, hid, -⟩, -⟩
      exact hfresh event hevent hid
    have hunmatched : ∀ event ∈ tables.auditEvents, ¬ (event.id = eventId ∧
        event.eventType = .stepUpSucceeded ∧
        ¬ ∃ row ∈ tables.sessions, row.Of sessionId userId ∧ row.passkeyStepUpAt = some verifiedAt) :=
      fun event hevent hmatch => hfresh event hevent hmatch.1
    have hupdated : updateStepUpAt eventId sessionId userId passkeyId newCounter verifiedAt tables =
        (0, tables) := by
      rw [updateStepUpAt, table.matched_of_none hverified, table.update_of_none hverified]
      rfl
    have hdeleted : deleteUnmatchedAudit eventId sessionId userId verifiedAt tables = (0, tables) := by
      rw [deleteUnmatchedAudit, table.matched_of_none hunmatched, table.delete_of_none hunmatched]
      rfl
    simp only [hupdated, hdeleted, Prod.mk.injEq] at hresult
    exact .inl ⟨hresult.1.symm, hresult.2.symm⟩

end statements

/-- A verify request consumed a challenge for its session. -/
def Consumed (past : List Event) (call : Nat) (challengeId challenge : Text) (session : SessionRow) : Prop :=
  ∃ now, .consumed call challengeId challenge session.id session.userId now ∈ past

/-- What the phase of a request tells of the events before. -/
def Call.Knows (webAuthn : WebAuthn) (past : List Event) (call : Nat) : Call → Prop
  | .consumed session challengeId challenge _ => Consumed past call challengeId challenge session
  | .asserting session challengeId challenge _ _ => Consumed past call challengeId challenge session
  | .verified session challengeId challenge response passkey newCounter =>
    Consumed past call challengeId challenge session ∧ webAuthn.challengeOf response = challenge ∧
      (passkey.counter < newCounter ∨ (passkey.counter = 0 ∧ newCounter = 0))
  | .counted session challengeId challenge response passkey newCounter =>
    Consumed past call challengeId challenge session ∧ webAuthn.challengeOf response = challenge ∧
      .counted call passkey.id passkey.counter newCounter ∈ past
  | _ => True

theorem Consumed.snoc {past : List Event} {call : Nat} {challengeId challenge : Text} {session : SessionRow}
    {event : Event} (hconsumed : Consumed past call challengeId challenge session) :
    Consumed (past ++ [event]) call challengeId challenge session := by
  obtain ⟨now, hmem⟩ := hconsumed
  exact ⟨now, List.mem_append_left _ hmem⟩

theorem Call.Knows.snoc {past : List Event} {call : Nat} {phase : Call} {event : Event}
    (hknows : phase.Knows webAuthn past call) : phase.Knows webAuthn (past ++ [event]) call := by
  cases phase with
  | consumed => exact Consumed.snoc hknows
  | asserting => exact Consumed.snoc hknows
  | verified => exact ⟨hknows.1.snoc, hknows.2⟩
  | counted => exact ⟨hknows.1.snoc, hknows.2.1, List.mem_append_left _ hknows.2.2⟩
  | _ => trivial

/-- The keys of the tables, and the origin of the ids. -/
structure System.Keys (system : System) : Prop where
  sessions : (system.sessions.map (·.id)).Nodup
  passkeys : (system.passkeys.map (·.id)).Nodup
  challenges : (system.challenges.map (·.id)).Nodup
  sessionIds : ∀ row ∈ system.sessions, row.id ∈ system.generated
  passkeyIds : ∀ row ∈ system.passkeys, row.id ∈ system.generated
  challengeIds : ∀ row ∈ system.challenges, row.id ∈ system.generated
  auditIds : ∀ row ∈ system.auditEvents, row.id ∈ system.generated

/-- What a step does to the tables and the requests. -/
inductive Move (webAuthn : WebAuthn) (system : System) : Event → System → Prop
  | signedIn {sessionId userId : Text} {now : Int} (hfresh : sessionId ∉ system.generated) :
      Move webAuthn system .other
        { system with
          sessions := system.sessions ++ [{ id := sessionId, userId, createdAt := now, passkeyStepUpAt := none }]
          generated := sessionId :: system.generated }
  | revoked {sessionId : Text} :
      Move webAuthn system .other
        { system with
          sessions := table.delete (fun row : SessionRow => row.id = sessionId) system.sessions
          challenges :=
            table.delete (fun row : ChallengeRow => row.sessionId = sessionId) system.challenges }
  | registered {passkey : PasskeyRow} (hfresh : passkey.id ∉ system.generated) :
      Move webAuthn system .other
        { system with
          passkeys := system.passkeys ++ [passkey], generated := passkey.id :: system.generated }
  | unregistered {passkeyId userId : Text} :
      Move webAuthn system .other
        { system with
          passkeys := table.delete (fun row : PasskeyRow => row.id = passkeyId ∧ row.userId = userId)
            system.passkeys }
  | issued {call : Nat} {row : ChallengeRow} (hfresh : row.id ∉ system.generated) :
      Move webAuthn system (.issued row)
        ({ system with
            challenges := table.delete
              (fun other : ChallengeRow => other.sessionId = row.sessionId ∨ other.expiresAt ≤ row.createdAt)
              system.challenges ++ [row]
            generated := row.id :: system.generated }.setCall call .finished)
  | consumed {call : Nat} {session : SessionRow} {challengeId challenge : Text}
      {response : AuthenticationResponse} {now : Int} {row : ChallengeRow} (hrow : row ∈ system.challenges)
      (hconsumable : row.Consumable challengeId session.id session.userId now)
      (hchallenge : row.challenge = challenge) :
      Move webAuthn system (.consumed call challengeId challenge session.id session.userId now)
        ({ system with
            challenges := table.delete
              (fun row : ChallengeRow => row.Consumable challengeId session.id session.userId now)
              system.challenges }.setCall call (.consumed session challengeId challenge response))
  | counted {call : Nat} {session : SessionRow} {challengeId challenge : Text}
      {response : AuthenticationResponse} {passkey : PasskeyRow} {newCounter : Nat}
      (hcall : system.calls call =
        some (.verified session challengeId challenge response passkey newCounter))
      (hrow : ∃ row ∈ system.passkeys, row.At passkey.id session.userId passkey.counter) :
      Move webAuthn system (.counted call passkey.id passkey.counter newCounter)
        ({ system with
            passkeys := table.update
              (fun row : PasskeyRow => row.At passkey.id session.userId passkey.counter)
              (fun row => { row with counter := newCounter }) system.passkeys }.setCall call
          (.counted session challengeId challenge response passkey newCounter))
  | succeeded {call : Nat} {session : SessionRow} {challengeId challenge : Text}
      {response : AuthenticationResponse} {passkey : PasskeyRow} {newCounter : Nat} {eventId : Text}
      {verifiedAt : Int}
      (hcall : system.calls call =
        some (.counted session challengeId challenge response passkey newCounter))
      (hfresh : eventId ∉ system.generated)
      (hrow : ∃ row ∈ system.sessions, row.Of session.id session.userId) :
      Move webAuthn system
        (.succeeded call session challengeId challenge response passkey newCounter eventId verifiedAt)
        ({ system with
            sessions := table.update (fun row : SessionRow => row.Of session.id session.userId)
              (fun row => { row with passkeyStepUpAt := some verifiedAt }) system.sessions
            auditEvents := system.auditEvents ++ [stepUpSucceeded eventId session.userId verifiedAt]
            generated := eventId :: system.generated }.setCall call .finished)
  | recorded {call : Nat} {failure : AuditRow} (hfailed : failure.eventType = .stepUpFailed) :
      Move webAuthn system .other
        ({ system with
            auditEvents := system.auditEvents ++ [failure]
            generated := failure.id :: system.generated }.setCall call .finished)
  /-- A request moves on, and the tables stay. -/
  | moved {call : Nat} {phase : Call} {generated : List Text} (hgenerated : system.generated ⊆ generated)
      (hphase : ∀ past, (∀ found, system.calls call = some found → found.Knows webAuthn past call) →
        phase.Knows webAuthn past call) :
      Move webAuthn system .other ({ system with generated }.setCall call phase)

/-- A request that moves to a phase which tells nothing of the events. -/
theorem Move.plain {system : System} {call : Nat} {phase : Call}
    (hphase : ∀ past, phase.Knows webAuthn past call) :
    Move webAuthn system .other (system.setCall call phase) :=
  .moved (List.Subset.refl _) fun past _ => hphase past

theorem perform_move {system next : System} {action : Action} {event : Event} (hkeys : system.Keys)
    (hperform : perform webAuthn system action = some (event, next)) : Move webAuthn system event next := by
  cases action with
  | signIn sessionId userId now =>
    simp only [perform] at hperform
    split at hperform
    · cases hperform
    · rename_i hfresh
      cases hperform
      exact .signedIn hfresh
  | revokeSession sessionId =>
    cases hperform
    exact .revoked
  | registerPasskey passkey =>
    simp only [perform] at hperform
    split at hperform
    · cases hperform
    · rename_i hfresh
      cases hperform
      exact .registered hfresh
  | deletePasskey passkeyId userId =>
    cases hperform
    exact .unregistered
  | requestChallenge call sessionId userActive rateLimit now =>
    simp only [perform] at hperform
    split at hperform
    · cases hperform
    · split at hperform
      · cases hperform
        exact .plain fun _ => trivial
      · split at hperform
        · cases hperform
          exact .plain fun _ => trivial
        · cases hperform
          exact .plain fun _ => trivial
  | readState call maxAgeMs now =>
    simp only [perform] at hperform
    split at hperform
    · split at hperform
      · cases hperform
        exact .plain fun _ => trivial
      · split at hperform
        · cases hperform
          exact .plain fun _ => trivial
        · split at hperform
          · cases hperform
            exact .plain fun _ => trivial
          · cases hperform
            exact .plain fun _ => trivial
    · cases hperform
  | listPasskeys call =>
    simp only [perform] at hperform
    split at hperform
    · split at hperform
      · cases hperform
        exact .plain fun _ => trivial
      · cases hperform
        exact .plain fun _ => trivial
    · cases hperform
  | issue call challengeId challenge now =>
    simp only [perform] at hperform
    split at hperform
    · split at hperform
      · cases hperform
      · rename_i hfresh
        split at hperform
        · cases hperform
          exact .plain fun _ => trivial
        · rename_i tables hissue
          cases hperform
          rw [issueChallenge_ok hissue]
          exact .issued hfresh
    · cases hperform
  | requestVerify call sessionId userActive rateLimit challengeId response =>
    simp only [perform] at hperform
    split at hperform
    · cases hperform
    · split at hperform
      · cases hperform
        exact .plain fun _ => trivial
      · split at hperform
        · cases hperform
          exact .plain fun _ => trivial
        · cases hperform
          exact .plain fun _ => trivial
  | consume call now =>
    simp only [perform] at hperform
    split at hperform
    · split at hperform
      · rename_i tables hconsume
        cases hperform
        rw [consumeChallenge_none hconsume]
        exact .plain fun _ => trivial
      · rename_i challenge tables hconsume
        cases hperform
        obtain ⟨⟨row, hrow, hconsumable, hchallenge⟩, rfl⟩ := consumeChallenge_some hconsume
        exact .consumed hrow hconsumable hchallenge
    · cases hperform
  | readPasskey call =>
    simp only [perform] at hperform
    split at hperform
    · rename_i session challengeId challenge response hcall
      split at hperform
      · cases hperform
        exact .plain fun _ => trivial
      · split at hperform
        · cases hperform
          exact .plain fun _ => trivial
        · cases hperform
          refine .moved (List.Subset.refl _) ?_
          intro past hknows
          have hconsumed := hknows _ hcall
          exact hconsumed
    · cases hperform
  | assert call =>
    simp only [perform] at hperform
    split at hperform
    · rename_i session challengeId challenge response passkey hcall
      split at hperform
      · cases hperform
        exact .plain fun _ => trivial
      · rename_i info hverify
        split at hperform
        · cases hperform
          exact .plain fun _ => trivial
        · rename_i hverified
          cases hperform
          rw [not_or, Bool.not_eq_false, Bool.not_eq_false] at hverified
          exact .moved (List.Subset.refl _) fun past hknows =>
            ⟨hknows _ hcall, webAuthn.verified_challenge hverify hverified.1,
              webAuthn.verified_counter hverify hverified.1⟩
    · cases hperform
  | updateCounter call =>
    simp only [perform] at hperform
    split at hperform
    · rename_i session challengeId challenge response passkey newCounter hcall
      generalize hupdate : updateCounter passkey.id session.userId passkey.counter newCounter
        system.toTables = result at hperform
      obtain ⟨changes, tables⟩ := result
      rcases updateCounter_spec hkeys.passkeys hupdate with ⟨rfl, rfl⟩ | ⟨rfl, hrow, rfl⟩
      · cases hperform
        exact .plain fun _ => trivial
      · cases hperform
        exact .counted hcall hrow
    · cases hperform
  | finalize call eventId verifiedAt =>
    simp only [perform] at hperform
    split at hperform
    · rename_i session challengeId challenge response passkey newCounter hcall
      split at hperform
      · cases hperform
      · rename_i hfresh
        have hnew : ∀ event ∈ system.auditEvents, event.id ≠ eventId :=
          fun event hevent heq => hfresh (heq ▸ hkeys.auditIds event hevent)
        split at hperform
        · cases hperform
          exact .plain fun _ => trivial
        · rename_i changes tables hfinalize
          rcases finalizeStepUp_ok hkeys.sessions hnew hfinalize with
            ⟨rfl, rfl⟩ | ⟨rfl, hrow, rfl⟩
          · cases hperform
            exact .moved (List.subset_cons_self _ _) fun _ _ => trivial
          · cases hperform
            exact .succeeded hcall hfresh hrow
    · cases hperform
  | checkSession call =>
    simp only [perform] at hperform
    split at hperform
    · split at hperform
      · cases hperform
        exact .plain fun _ => trivial
      · cases hperform
        exact .plain fun _ => trivial
    · cases hperform
  | recordDenied call eventId now =>
    simp only [perform] at hperform
    split at hperform
    · rename_i userId reason hcall
      split at hperform
      · cases hperform
      · split at hperform
        · cases hperform
          exact .plain fun _ => trivial
        · rename_i tables hrecord
          cases hperform
          simp only [recordDeniedStepUp, throwIf_bind_eq_ok_iff, pure_eq_ok_iff] at hrecord
          obtain ⟨-, rfl⟩ := hrecord
          exact .recorded rfl
    · cases hperform

theorem System.Keys.start {system : System} (hstart : system.Start) : system.Keys := by
  obtain ⟨hsessions, hpasskeys, hchallenges, haudits, -, -⟩ := hstart
  refine ⟨?_, ?_, ?_, ?_, ?_, ?_, ?_⟩
  all_goals
    simp [hsessions, hpasskeys, hchallenges, haudits]

/-- Rows whose ids were generated before a new text. -/
theorem mem_generated_of_delete {ρ : Type} {matching : ρ → Prop} [DecidablePred matching] {rows : List ρ}
    {key : ρ → Text} {generated : List Text} (hids : ∀ row ∈ rows, key row ∈ generated) :
    ∀ row ∈ table.delete matching rows, key row ∈ generated :=
  fun row hrow => hids row (table.mem_delete.mp hrow).1

theorem System.Keys.step {system next : System} {event : Event} (hkeys : system.Keys)
    (hmove : Move webAuthn system event next) : next.Keys := by
  cases hmove with
  | @signedIn sessionId userId now hfresh =>
    have hnew : ∀ row ∈ system.sessions, row.id ≠ sessionId :=
      fun row hrow heq => hfresh (heq ▸ hkeys.sessionIds row hrow)
    refine ⟨table.nodup_map_append hkeys.sessions hnew, hkeys.passkeys, hkeys.challenges, ?_,
      fun row hrow => List.mem_cons_of_mem _ (hkeys.passkeyIds row hrow),
      fun row hrow => List.mem_cons_of_mem _ (hkeys.challengeIds row hrow),
      fun row hrow => List.mem_cons_of_mem _ (hkeys.auditIds row hrow)⟩
    intro row hrow
    rcases List.mem_append.mp hrow with hrow | hrow
    · exact List.mem_cons_of_mem _ (hkeys.sessionIds row hrow)
    · rw [List.mem_singleton.mp hrow]
      exact List.mem_cons_self
  | revoked =>
    exact ⟨table.nodup_map_delete hkeys.sessions, hkeys.passkeys, table.nodup_map_delete hkeys.challenges,
      mem_generated_of_delete hkeys.sessionIds, hkeys.passkeyIds, mem_generated_of_delete hkeys.challengeIds,
      hkeys.auditIds⟩
  | @registered passkey hfresh =>
    have hnew : ∀ row ∈ system.passkeys, row.id ≠ passkey.id :=
      fun row hrow heq => hfresh (heq ▸ hkeys.passkeyIds row hrow)
    refine ⟨hkeys.sessions, table.nodup_map_append hkeys.passkeys hnew, hkeys.challenges,
      fun row hrow => List.mem_cons_of_mem _ (hkeys.sessionIds row hrow), ?_,
      fun row hrow => List.mem_cons_of_mem _ (hkeys.challengeIds row hrow),
      fun row hrow => List.mem_cons_of_mem _ (hkeys.auditIds row hrow)⟩
    intro row hrow
    rcases List.mem_append.mp hrow with hrow | hrow
    · exact List.mem_cons_of_mem _ (hkeys.passkeyIds row hrow)
    · rw [List.mem_singleton.mp hrow]
      exact List.mem_cons_self
  | unregistered =>
    exact ⟨hkeys.sessions, table.nodup_map_delete hkeys.passkeys, hkeys.challenges, hkeys.sessionIds,
      mem_generated_of_delete hkeys.passkeyIds, hkeys.challengeIds, hkeys.auditIds⟩
  | @issued call row hfresh =>
    have hkept : ∀ other ∈ table.delete
        (fun other : ChallengeRow => other.sessionId = row.sessionId ∨ other.expiresAt ≤ row.createdAt)
        system.challenges, other.id ∈ system.generated :=
      mem_generated_of_delete hkeys.challengeIds
    have hnew : ∀ other ∈ table.delete
        (fun other : ChallengeRow => other.sessionId = row.sessionId ∨ other.expiresAt ≤ row.createdAt)
        system.challenges, other.id ≠ row.id :=
      fun other hother heq => hfresh (heq ▸ hkept other hother)
    refine ⟨hkeys.sessions, hkeys.passkeys,
      table.nodup_map_append (table.nodup_map_delete hkeys.challenges) hnew,
      fun row hrow => List.mem_cons_of_mem _ (hkeys.sessionIds row hrow),
      fun row hrow => List.mem_cons_of_mem _ (hkeys.passkeyIds row hrow), ?_,
      fun row hrow => List.mem_cons_of_mem _ (hkeys.auditIds row hrow)⟩
    intro other hother
    rcases List.mem_append.mp hother with hother | hother
    · exact List.mem_cons_of_mem _ (hkept other hother)
    · rw [List.mem_singleton.mp hother]
      exact List.mem_cons_self
  | consumed =>
    exact ⟨hkeys.sessions, hkeys.passkeys, table.nodup_map_delete hkeys.challenges, hkeys.sessionIds,
      hkeys.passkeyIds, mem_generated_of_delete hkeys.challengeIds, hkeys.auditIds⟩
  | counted =>
    refine ⟨hkeys.sessions, table.nodup_map_update hkeys.passkeys fun _ => rfl, hkeys.challenges,
      hkeys.sessionIds, ?_, hkeys.challengeIds, hkeys.auditIds⟩
    intro row hrow
    rcases table.mem_update.mp hrow with ⟨old, hold, -, rfl⟩ | ⟨hold, -⟩
    · exact hkeys.passkeyIds old hold
    · exact hkeys.passkeyIds row hold
  | succeeded =>
    refine ⟨table.nodup_map_update hkeys.sessions fun _ => rfl, hkeys.passkeys, hkeys.challenges, ?_,
      fun row hrow => List.mem_cons_of_mem _ (hkeys.passkeyIds row hrow),
      fun row hrow => List.mem_cons_of_mem _ (hkeys.challengeIds row hrow), ?_⟩
    · intro row hrow
      rcases table.mem_update.mp hrow with ⟨old, hold, -, rfl⟩ | ⟨hold, -⟩
      · exact List.mem_cons_of_mem _ (hkeys.sessionIds old hold)
      · exact List.mem_cons_of_mem _ (hkeys.sessionIds row hold)
    · intro row hrow
      rcases List.mem_append.mp hrow with hrow | hrow
      · exact List.mem_cons_of_mem _ (hkeys.auditIds row hrow)
      · rw [List.mem_singleton.mp hrow]
        exact List.mem_cons_self
  | recorded =>
    refine ⟨hkeys.sessions, hkeys.passkeys, hkeys.challenges,
      fun row hrow => List.mem_cons_of_mem _ (hkeys.sessionIds row hrow),
      fun row hrow => List.mem_cons_of_mem _ (hkeys.passkeyIds row hrow),
      fun row hrow => List.mem_cons_of_mem _ (hkeys.challengeIds row hrow), ?_⟩
    intro row hrow
    rcases List.mem_append.mp hrow with hrow | hrow
    · exact List.mem_cons_of_mem _ (hkeys.auditIds row hrow)
    · rw [List.mem_singleton.mp hrow]
      exact List.mem_cons_self
  | moved hgenerated =>
    exact ⟨hkeys.sessions, hkeys.passkeys, hkeys.challenges,
      fun row hrow => hgenerated (hkeys.sessionIds row hrow),
      fun row hrow => hgenerated (hkeys.passkeyIds row hrow),
      fun row hrow => hgenerated (hkeys.challengeIds row hrow),
      fun row hrow => hgenerated (hkeys.auditIds row hrow)⟩

namespace Event

def consumedChallenge? : Event → Option Text
  | .consumed _ challengeId _ _ _ _ => some challengeId
  | _ => none

/-- The passkey and the stored counter of a verification that raised it. -/
def raisedCounter? : Event → Option (Text × Nat)
  | .counted _ passkeyId stored newCounter => if stored < newCounter then some (passkeyId, stored) else none
  | _ => none

end Event

/-- What the tables and the requests know of the events before. -/
structure Books (webAuthn : WebAuthn) (past : List Event) (system : System) : Prop where
  keys : system.Keys
  issued : ∀ row ∈ system.challenges, .issued row ∈ past
  consumed : ∀ challengeId ∈ past.filterMap Event.consumedChallenge?,
    challengeId ∈ system.generated ∧ ∀ row ∈ system.challenges, row.id ≠ challengeId
  counters : ∀ call passkeyId stored newCounter, .counted call passkeyId stored newCounter ∈ past →
    passkeyId ∈ system.generated ∧ ∀ row ∈ system.passkeys, row.id = passkeyId → newCounter ≤ row.counter
  calls : ∀ call phase, system.calls call = some phase → phase.Knows webAuthn past call

theorem Books.start {system : System} (hstart : system.Start) : Books webAuthn [] system := by
  refine ⟨.start hstart, ?_, ?_, ?_, ?_⟩
  all_goals
    obtain ⟨-, -, hchallenges, -, -, hcalls⟩ := hstart
    simp [hchallenges, hcalls]

/-- The challenges that were consumed are gone for good: rows are removed, or have a
new id. -/
theorem Books.consumed_snoc {past : List Event} {system next : System} {event : Event}
    (hbooks : Books webAuthn past system) (hgenerated : system.generated ⊆ next.generated)
    (hevent : event.consumedChallenge? = none)
    (hchallenges : ∀ row ∈ next.challenges, row ∈ system.challenges ∨ row.id ∉ system.generated) :
    ∀ challengeId ∈ (past ++ [event]).filterMap Event.consumedChallenge?,
      challengeId ∈ next.generated ∧ ∀ row ∈ next.challenges, row.id ≠ challengeId := by
  intro challengeId hconsumed
  rw [List.filterMap_append, List.filterMap_cons_none hevent, List.filterMap_nil, List.append_nil]
    at hconsumed
  obtain ⟨hmem, hgone⟩ := hbooks.consumed challengeId hconsumed
  refine ⟨hgenerated hmem, ?_⟩
  intro row hrow
  rcases hchallenges row hrow with hold | hnew
  · exact hgone row hold
  · exact fun heq => hnew (heq ▸ hmem)

/-- The counters of the passkeys only grow, and new passkeys have new ids. -/
theorem Books.counters_snoc {past : List Event} {system next : System} {event : Event}
    (hbooks : Books webAuthn past system) (hgenerated : system.generated ⊆ next.generated)
    (hevent : ∀ call passkeyId stored newCounter, event ≠ .counted call passkeyId stored newCounter)
    (hpasskeys : ∀ row ∈ next.passkeys, row ∈ system.passkeys ∨ row.id ∉ system.generated) :
    ∀ call passkeyId stored newCounter, .counted call passkeyId stored newCounter ∈ past ++ [event] →
      passkeyId ∈ next.generated ∧ ∀ row ∈ next.passkeys, row.id = passkeyId → newCounter ≤ row.counter := by
  intro call passkeyId stored newCounter hcounted
  rcases List.mem_append.mp hcounted with hcounted | hcounted
  · obtain ⟨hmem, hcounter⟩ := hbooks.counters call passkeyId stored newCounter hcounted
    refine ⟨hgenerated hmem, ?_⟩
    intro row hrow hid
    rcases hpasskeys row hrow with hold | hnew
    · exact hcounter row hold hid
    · exact absurd (hid ▸ hmem) hnew
  · exact absurd (List.mem_singleton.mp hcounted).symm (hevent call passkeyId stored newCounter)

/-- The requests keep their knowledge, and the one that moves has that of its phase. -/
theorem Books.calls_snoc {past : List Event} {system changed : System} {event : Event} {call : Nat}
    {phase : Call} (hbooks : Books webAuthn past system) (hcalls : changed.calls = system.calls)
    (hphase : phase.Knows webAuthn (past ++ [event]) call) :
    ∀ other found, (changed.setCall call phase).calls other = some found →
      found.Knows webAuthn (past ++ [event]) other := by
  intro other found hfound
  rcases setCall_calls hfound with ⟨rfl, rfl⟩ | ⟨-, hfound⟩
  · exact hphase
  · exact (hbooks.calls other found (hcalls ▸ hfound)).snoc

theorem Books.step {past : List Event} {system next : System} {event : Event}
    (hbooks : Books webAuthn past system) (hstep : Step webAuthn system event next) :
    Books webAuthn (past ++ [event]) next := by
  obtain ⟨action, hperform⟩ := hstep
  have hmove := perform_move hbooks.keys hperform
  have hkeys := hbooks.keys.step hmove
  have hissued : ∀ row ∈ system.challenges, .issued row ∈ past ++ [event] :=
    fun row hrow => List.mem_append_left _ (hbooks.issued row hrow)
  cases hmove with
  | signedIn hfresh =>
    exact ⟨hkeys, hissued,
      hbooks.consumed_snoc (List.subset_cons_self _ _) rfl fun _ hrow => .inl hrow,
      hbooks.counters_snoc (List.subset_cons_self _ _) (fun _ _ _ _ => nofun) fun _ hrow => .inl hrow,
      fun call phase hcall => (hbooks.calls call phase hcall).snoc⟩
  | revoked =>
    exact ⟨hkeys, fun row hrow => hissued row (table.mem_delete.mp hrow).1,
      hbooks.consumed_snoc (List.Subset.refl _) rfl fun _ hrow => .inl (table.mem_delete.mp hrow).1,
      hbooks.counters_snoc (List.Subset.refl _) (fun _ _ _ _ => nofun) fun _ hrow => .inl hrow,
      fun call phase hcall => (hbooks.calls call phase hcall).snoc⟩
  | registered hfresh =>
    refine ⟨hkeys, hissued,
      hbooks.consumed_snoc (List.subset_cons_self _ _) rfl fun _ hrow => .inl hrow,
      hbooks.counters_snoc (List.subset_cons_self _ _) (fun _ _ _ _ => nofun) ?_,
      fun call phase hcall => (hbooks.calls call phase hcall).snoc⟩
    intro row hrow
    rcases List.mem_append.mp hrow with hrow | hrow
    · exact .inl hrow
    · rw [List.mem_singleton.mp hrow]
      exact .inr hfresh
  | unregistered =>
    exact ⟨hkeys, hissued,
      hbooks.consumed_snoc (List.Subset.refl _) rfl fun _ hrow => .inl hrow,
      hbooks.counters_snoc (List.Subset.refl _) (fun _ _ _ _ => nofun)
        fun _ hrow => .inl (table.mem_delete.mp hrow).1,
      fun call phase hcall => (hbooks.calls call phase hcall).snoc⟩
  | @issued call row hfresh =>
    refine ⟨hkeys, ?_, hbooks.consumed_snoc (List.subset_cons_self _ _) rfl ?_,
      hbooks.counters_snoc (List.subset_cons_self _ _) (fun _ _ _ _ => nofun) fun _ hrow => .inl hrow,
      hbooks.calls_snoc rfl trivial⟩
    · intro other hother
      rcases List.mem_append.mp hother with hother | hother
      · exact hissued other (table.mem_delete.mp hother).1
      · rw [List.mem_singleton.mp hother]
        exact List.mem_append_right _ List.mem_cons_self
    · intro other hother
      rcases List.mem_append.mp hother with hother | hother
      · exact .inl (table.mem_delete.mp hother).1
      · rw [List.mem_singleton.mp hother]
        exact .inr hfresh
  | @consumed call session challengeId challenge response now row hrow hconsumable hchallenge =>
    refine ⟨hkeys, fun row hrow => hissued row (table.mem_delete.mp hrow).1, ?_,
      hbooks.counters_snoc (List.Subset.refl _) (fun _ _ _ _ => nofun) fun _ hrow => .inl hrow,
      hbooks.calls_snoc rfl ⟨now, List.mem_append_right _ List.mem_cons_self⟩⟩
    intro other hconsumed
    rw [List.filterMap_append, List.mem_append] at hconsumed
    rcases hconsumed with hconsumed | hconsumed
    · obtain ⟨hmem, hgone⟩ := hbooks.consumed other hconsumed
      exact ⟨hmem, fun row hrow => hgone row (table.mem_delete.mp hrow).1⟩
    · rw [List.mem_singleton.mp hconsumed]
      refine ⟨hconsumable.1 ▸ hbooks.keys.challengeIds row hrow, ?_⟩
      intro left hleft hid
      obtain ⟨hold, hnot⟩ := table.mem_delete.mp hleft
      have hsame : left = row :=
        table.eq_of_key hbooks.keys.challenges hold hrow (hid.trans hconsumable.1.symm)
      exact hnot (hsame ▸ hconsumable)
  | @counted call session challengeId challenge response passkey newCounter hcall hcurrent =>
    obtain ⟨hconsumed, hchallenge, hcounter⟩ := hbooks.calls call _ hcall
    have hgrows : passkey.counter ≤ newCounter := by omega
    refine ⟨hkeys, hissued,
      hbooks.consumed_snoc (List.Subset.refl _) rfl fun _ hrow => .inl hrow, ?_,
      hbooks.calls_snoc rfl ⟨hconsumed.snoc, hchallenge, List.mem_append_right _ List.mem_cons_self⟩⟩
    obtain ⟨current, hmem, hid, huser, hstored⟩ := hcurrent
    intro other passkeyId stored updated hcounted
    rcases List.mem_append.mp hcounted with hcounted | hcounted
    · obtain ⟨hgenerated, hbound⟩ := hbooks.counters other passkeyId stored updated hcounted
      refine ⟨hgenerated, ?_⟩
      intro row hrow hrowId
      rcases table.mem_update.mp hrow with ⟨old, hold, hat, rfl⟩ | ⟨hold, -⟩
      · have hle := hbound old hold hrowId
        rw [hat.2.2] at hle
        exact Nat.le_trans hle hgrows
      · exact hbound row hold hrowId
    · have hsame := List.mem_singleton.mp hcounted
      rw [Event.counted.injEq] at hsame
      obtain ⟨-, rfl, -, rfl⟩ := hsame
      refine ⟨hid ▸ hbooks.keys.passkeyIds current hmem, ?_⟩
      intro row hrow hrowId
      rcases table.mem_update.mp hrow with ⟨old, -, -, rfl⟩ | ⟨hold, hnot⟩
      · exact Nat.le_refl _
      · have hsame : row = current :=
          table.eq_of_key hbooks.keys.passkeys hold hmem (hrowId.trans hid.symm)
        exact absurd (hsame ▸ ⟨hid, huser, hstored⟩) hnot
  | succeeded hcall hfresh hrow =>
    exact ⟨hkeys, hissued,
      hbooks.consumed_snoc (List.subset_cons_self _ _) rfl fun _ hrow => .inl hrow,
      hbooks.counters_snoc (List.subset_cons_self _ _) (fun _ _ _ _ => nofun) fun _ hrow => .inl hrow,
      hbooks.calls_snoc rfl trivial⟩
  | recorded =>
    exact ⟨hkeys, hissued,
      hbooks.consumed_snoc (List.subset_cons_self _ _) rfl fun _ hrow => .inl hrow,
      hbooks.counters_snoc (List.subset_cons_self _ _) (fun _ _ _ _ => nofun) fun _ hrow => .inl hrow,
      hbooks.calls_snoc rfl trivial⟩
  | @moved call phase generated hgenerated hphase =>
    exact ⟨hkeys, hissued, hbooks.consumed_snoc hgenerated rfl fun _ hrow => .inl hrow,
      hbooks.counters_snoc hgenerated (fun _ _ _ _ => nofun) fun _ hrow => .inl hrow,
      hbooks.calls_snoc rfl (hphase past fun found => hbooks.calls call found).snoc⟩

theorem books_of_history {past : List Event} {system : System} (hhistory : History webAuthn past system) :
    Books webAuthn past system :=
  Trace.invariant Books.start Books.step hhistory

/-- What the events before a consumption, a count and a success must be. -/
def Event.Founded (webAuthn : WebAuthn) (before : List Event) : Event → Prop
  | .consumed _ challengeId challenge sessionId userId now => ∃ row, .issued row ∈ before ∧
      row.id = challengeId ∧ row.challenge = challenge ∧ row.sessionId = sessionId ∧ row.userId = userId ∧
      now < row.expiresAt
  | .counted _ _ stored newCounter => stored < newCounter ∨ (stored = 0 ∧ newCounter = 0)
  | .succeeded call session challengeId challenge response passkey newCounter _ _ =>
    Consumed before call challengeId challenge session ∧ webAuthn.challengeOf response = challenge ∧
      .counted call passkey.id passkey.counter newCounter ∈ before
  | _ => True

theorem Books.founded {past : List Event} {system next : System} {event : Event}
    (hbooks : Books webAuthn past system) (hstep : Step webAuthn system event next) :
    event.Founded webAuthn past := by
  obtain ⟨action, hperform⟩ := hstep
  cases perform_move hbooks.keys hperform with
  | signedIn => trivial
  | revoked => trivial
  | registered => trivial
  | unregistered => trivial
  | issued => trivial
  | recorded => trivial
  | moved => trivial
  | consumed hrow hconsumable hchallenge =>
    obtain ⟨hid, hsession, huser, hexpiry⟩ := hconsumable
    exact ⟨_, hbooks.issued _ hrow, hid, hchallenge, hsession, huser, hexpiry⟩
  | counted hcall hrow => exact (hbooks.calls _ _ hcall).2.2
  | succeeded hcall hfresh hrow => exact hbooks.calls _ _ hcall

theorem Books.consumed_fresh {past : List Event} {system next : System} {event : Event}
    (hbooks : Books webAuthn past system) (hstep : Step webAuthn system event next) :
    ∀ challengeId, event.consumedChallenge? = some challengeId →
      challengeId ∉ past.filterMap Event.consumedChallenge? := by
  obtain ⟨action, hperform⟩ := hstep
  intro challengeId hevent hbefore
  cases perform_move hbooks.keys hperform with
  | consumed hrow hconsumable hchallenge =>
    cases hevent
    exact (hbooks.consumed _ hbefore).2 _ hrow hconsumable.1
  | _ => cases hevent

/-- A counter that was raised from a stored value is never there again. -/
theorem Books.raised_fresh {past : List Event} {system next : System} {event : Event}
    (hbooks : Books webAuthn past system) (hstep : Step webAuthn system event next) :
    ∀ raised, event.raisedCounter? = some raised → raised ∉ past.filterMap Event.raisedCounter? := by
  obtain ⟨action, hperform⟩ := hstep
  intro raised hevent hbefore
  cases perform_move hbooks.keys hperform with
  | counted hcall hrow =>
    obtain ⟨row, hmem, hid, -, hstored⟩ := hrow
    obtain ⟨earlier, hearlier, hraised⟩ := List.mem_filterMap.mp hbefore
    rw [← hevent] at hraised
    cases earlier with
    | counted other passkeyId stored newCounter =>
      simp only [Event.raisedCounter?] at hraised hevent
      split at hraised
      · rename_i hlt
        split at hraised
        · rw [Option.some.injEq, Prod.mk.injEq] at hraised
          obtain ⟨rfl, rfl⟩ := hraised
          have hle := (hbooks.counters _ _ _ _ hearlier).2 row hmem hid
          omega
        · cases hraised
      · split at hevent
        · rename_i hnot hlt
          rw [if_pos hlt] at hraised
          cases hraised
        · cases hevent
    | _ => rw [hevent] at hraised; cases hraised
  | _ => cases hevent

/-- The success events of step-up. -/
def Tables.successes (tables : Tables) : List AuditRow :=
  table.matched (fun event : AuditRow => event.eventType = .stepUpSucceeded) tables.auditEvents

/-- The timestamps of the sessions and the success events are as before. -/
def StepUpKept (system next : System) : Prop :=
  (∀ row ∈ next.sessions, row ∈ system.sessions ∨ ∀ old ∈ system.sessions, old.id ≠ row.id) ∧
    next.successes = system.successes

/-- The timestamp of the session is written with one new success event. -/
def StepUpWritten (session : SessionRow) (eventId : Text) (verifiedAt : Int) (system next : System) : Prop :=
  (∃ row ∈ system.sessions, row.Of session.id session.userId) ∧
    next.sessions = table.update (fun row : SessionRow => row.Of session.id session.userId)
      (fun row => { row with passkeyStepUpAt := some verifiedAt }) system.sessions ∧
    next.successes = system.successes ++ [stepUpSucceeded eventId session.userId verifiedAt] ∧
    ∀ event ∈ system.auditEvents, event.id ≠ eventId

theorem successes_append_failed {auditEvents : List AuditRow} {failure : AuditRow}
    (hfailed : failure.eventType = .stepUpFailed) :
    table.matched (fun event : AuditRow => event.eventType = .stepUpSucceeded) (auditEvents ++ [failure]) =
      table.matched (fun event : AuditRow => event.eventType = .stepUpSucceeded) auditEvents := by
  have hnone : table.matched (fun event : AuditRow => event.eventType = .stepUpSucceeded) [failure] = [] := by
    apply table.matched_of_none
    intro event hevent hsucceeded
    rw [List.mem_singleton.mp hevent, hfailed] at hsucceeded
    cases hsucceeded
  rw [table.matched_append, hnone, List.append_nil]

/-- A step writes a timestamp with its success event, or leaves both alone. -/
theorem Books.writes {past : List Event} {system next : System} {event : Event}
    (hbooks : Books webAuthn past system) (hstep : Step webAuthn system event next) :
    StepUpKept system next ∨
      ∃ call session challengeId challenge response passkey newCounter eventId verifiedAt,
        event =
            .succeeded call session challengeId challenge response passkey newCounter eventId verifiedAt ∧
          StepUpWritten session eventId verifiedAt system next := by
  obtain ⟨action, hperform⟩ := hstep
  cases perform_move hbooks.keys hperform with
  | @signedIn sessionId userId now hfresh =>
    refine .inl ⟨?_, rfl⟩
    intro row hrow
    rcases List.mem_append.mp hrow with hold | hnew
    · exact .inl hold
    · rw [List.mem_singleton.mp hnew]
      refine .inr ?_
      intro old hold heq
      have hid : old.id = sessionId := heq
      exact hfresh (hid ▸ hbooks.keys.sessionIds old hold)
  | revoked => exact .inl ⟨fun row hrow => .inl (table.mem_delete.mp hrow).1, rfl⟩
  | recorded hfailed => exact .inl ⟨fun row hrow => .inl hrow, successes_append_failed hfailed⟩
  | @succeeded call session challengeId challenge response passkey newCounter eventId verifiedAt hcall
      hfresh hrow =>
    refine .inr ⟨call, session, challengeId, challenge, response, passkey, newCounter, eventId, verifiedAt, rfl,
      hrow, rfl, table.matched_append, ?_⟩
    exact fun event hevent heq => hfresh (heq ▸ hbooks.keys.auditIds event hevent)
  | _ => exact .inl ⟨fun row hrow => .inl hrow, rfl⟩

/-- Stored counters never decrease. -/
theorem Books.counters_grow {past : List Event} {system next : System} {event : Event}
    (hbooks : Books webAuthn past system) (hstep : Step webAuthn system event next) :
    ∀ row ∈ system.passkeys, ∀ later ∈ next.passkeys, later.id = row.id → row.counter ≤ later.counter := by
  have hsame : ∀ row ∈ system.passkeys, ∀ later ∈ system.passkeys, later.id = row.id →
      row.counter ≤ later.counter := by
    intro row hrow later hlater hid
    rw [table.eq_of_key hbooks.keys.passkeys hlater hrow hid]
  have hfounded := hbooks.founded hstep
  obtain ⟨action, hperform⟩ := hstep
  cases perform_move hbooks.keys hperform with
  | registered hfresh =>
    intro row hrow later hlater hid
    rcases List.mem_append.mp hlater with hold | hnew
    · exact hsame row hrow later hold hid
    · rw [List.mem_singleton.mp hnew] at hid
      exact absurd (hid ▸ hbooks.keys.passkeyIds row hrow) hfresh
  | unregistered =>
    intro row hrow later hlater hid
    exact hsame row hrow later (table.mem_delete.mp hlater).1 hid
  | @counted call session challengeId challenge response passkey newCounter hcall hcurrent =>
    intro row hrow later hlater hid
    rcases table.mem_update.mp hlater with ⟨old, hold, hat, rfl⟩ | ⟨hold, -⟩
    · have hle := hsame row hrow old hold hid
      have hstored := hat.2.2
      have hgrows : passkey.counter < newCounter ∨ passkey.counter = 0 ∧ newCounter = 0 := hfounded
      change row.counter ≤ newCounter
      omega
    · exact hsame row hrow later hold hid
  | _ => exact hsame

/-- Two verifications that raise one stored counter are one when both succeed. -/
theorem succeeded_call_unique {past : List Event} {system : System} (hhistory : History webAuthn past system)
    {left right : Nat} {session session' : SessionRow} {challengeId challengeId' challenge challenge' : Text}
    {response response' : AuthenticationResponse} {passkey passkey' : PasskeyRow}
    {newCounter newCounter' : Nat} {eventId eventId' : Text} {verifiedAt verifiedAt' : Int}
    (hleft : .succeeded left session challengeId challenge response passkey newCounter eventId verifiedAt ∈
      past)
    (hright : .succeeded right session' challengeId' challenge' response' passkey' newCounter' eventId'
      verifiedAt' ∈ past)
    (hid : passkey.id = passkey'.id) (hcounter : passkey.counter = passkey'.counter)
    (hleftGrows : passkey.counter < newCounter) (hrightGrows : passkey'.counter < newCounter') :
    left = right := by
  have hfounded := Trace.each books_of_history Books.founded hhistory
  have hraised := nodup_of_each (Trace.each books_of_history Books.raised_fresh hhistory)
  obtain ⟨before, after, hsplit⟩ := List.append_of_mem hleft
  obtain ⟨before', after', hsplit'⟩ := List.append_of_mem hright
  have hcounted := (hfounded before _ after hsplit).2.2
  have hcounted' := (hfounded before' _ after' hsplit').2.2
  have hkey : Event.raisedCounter? (.counted left passkey.id passkey.counter newCounter) =
      some (passkey.id, passkey.counter) := if_pos hleftGrows
  have hkey' : Event.raisedCounter? (.counted right passkey'.id passkey'.counter newCounter') =
      some (passkey.id, passkey.counter) := by
    rw [hid, hcounter]
    exact if_pos hrightGrows
  have hsame := eq_of_key hraised (hsplit ▸ List.mem_append_left _ hcounted)
    (hsplit' ▸ List.mem_append_left _ hcounted') hkey hkey'
  rw [Event.counted.injEq] at hsame
  exact hsame.1

/-- Step-up by passkey in every history: challenges are used once, a timestamp is written
exactly with its success event, counters never decrease, and of the verifications that
raise one stored counter one succeeds. -/
theorem passkeyStepUp_single_use {past : List Event} {system : System}
    (hhistory : History webAuthn past system) :
    Each (fun before event => event.Founded webAuthn before) past ∧
      (past.filterMap Event.consumedChallenge?).Nodup ∧
      (∀ left right session session' challengeId challengeId' challenge challenge' response response'
          passkey passkey' newCounter newCounter' eventId eventId' verifiedAt verifiedAt',
        .succeeded left session challengeId challenge response passkey newCounter eventId verifiedAt ∈ past →
        .succeeded right session' challengeId' challenge' response' passkey' newCounter' eventId'
          verifiedAt' ∈ past →
        passkey.id = passkey'.id → passkey.counter = passkey'.counter → passkey.counter < newCounter →
        passkey'.counter < newCounter' → left = right) ∧
      ∀ event next, Step webAuthn system event next →
        (StepUpKept system next ∨
          ∃ call session challengeId challenge response passkey newCounter eventId verifiedAt,
            event =
                .succeeded call session challengeId challenge response passkey newCounter eventId verifiedAt ∧
              StepUpWritten session eventId verifiedAt system next) ∧
        ∀ row ∈ system.passkeys, ∀ later ∈ next.passkeys, later.id = row.id → row.counter ≤ later.counter := by
  refine ⟨Trace.each books_of_history Books.founded hhistory, ?_, ?_, ?_⟩
  · exact nodup_of_each (Trace.each books_of_history Books.consumed_fresh hhistory)
  · intro left right session session' challengeId challengeId' challenge challenge' response response' passkey
      passkey' newCounter newCounter' eventId eventId' verifiedAt verifiedAt' hleft hright
    exact succeeded_call_unique hhistory hleft hright
  · intro event next hstep
    have hbooks := books_of_history hhistory
    exact ⟨hbooks.writes hstep, hbooks.counters_grow hstep⟩

/-- An authenticator that counts and answers with the challenge itself. -/
def counting : WebAuthn :=
  { challengeOf := AuthenticationResponse.clientDataJSON
    decodable := fun _ => true
    verifyAuthenticationResponse := fun response expectedChallenge passkey =>
      if response.clientDataJSON = expectedChallenge then
        some { verified := true, userVerified := true, newCounter := passkey.counter + 1 }
      else none
    verified_challenge := by
      intro response expectedChallenge passkey info hverify _
      split at hverify
      · assumption
      · cases hverify
    verified_counter := by
      intro response expectedChallenge passkey info hverify _
      split at hverify
      · cases hverify
        exact .inl (Nat.lt_succ_self _)
      · cases hverify }

/-- A session that registers a passkey, asks for a challenge and answers it. -/
def stepUp : List Action :=
  let challenge := List.replicate 32 (Text.unit 'c')
  [ .signIn (Text.of "session") (Text.of "user") 0,
    .registerPasskey
      { id := Text.of "passkey", userId := Text.of "user", credentialID := Text.of "credential"
        publicKey := Text.of "key", counter := 7 },
    .requestChallenge 0 (Text.of "session") true true 10,
    .readState 0 600000 20,
    .listPasskeys 0,
    .issue 0 (Text.of "challenge") challenge 30,
    .requestVerify 1 (Text.of "session") true true (Text.of "challenge")
      { id := Text.of "credential", clientDataJSON := challenge, authenticatorData := Text.of "data"
        signature := Text.of "signature", userHandle := none },
    .consume 1 40,
    .readPasskey 1,
    .assert 1,
    .updateCounter 1,
    .finalize 1 (Text.of "event") 50 ]

theorem passkeyStepUp_single_use_stepUp :
    ∃ past system, History counting past system ∧ (∃ row ∈ system.sessions, row.passkeyStepUpAt = some 50) ∧
      system.successes.length = 1 ∧ (past.filterMap Event.consumedChallenge?).Nodup := by
  have hhistory : History counting _ _ := replay_trace System.empty_start stepUp
  exact ⟨_, _, hhistory, by decide, by decide, (passkeyStepUp_single_use hhistory).2.1⟩

end pgid.passkey
