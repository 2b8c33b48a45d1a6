import PgidSso.Recovery.Sound

open checked transition

namespace pgid.recovery

/-- The recovery session that a request has read. -/
def Call.session? : Call → Option RecoverySession
  | .offering session _ => some session
  | .verifying session _ _ => some session
  | .challenged session _ => some session
  | _ => none

/-- What a step can do. -/
structure Moved (system : System) (event : Event) (next : System) : Prop where
  generated : system.generated ⊆ next.generated
  kept : Kept system.generated next.generated system.toTables next.toTables
  revoked : ∀ setId ∈ event.revokedSetIds, ∃ set ∈ system.codeSets, set.id = setId ∧
    ∃ later ∈ next.codeSets, later.id = setId ∧ later.revokedAt ≠ none
  sessions : ∀ call phase session, next.calls call = some phase → phase.session? = some session →
    (∃ earlier, system.calls call = some earlier ∧ earlier.session? = some session) ∨
      ∃ tokenHash now, recoverySession tokenHash now system.toTables = some session
  started : ∀ codeId setId, event.outcome = .started codeId setId →
    ∃ input : StartInput, input.codeId = codeId ∧ input.setId = setId ∧
      startRecovery input system.toTables = .ok (true, next.toTables)
  completed : ∀ session tokenHash completion, event.outcome = .completed session tokenHash completion →
    (∃ call, system.calls call = some (.challenged session tokenHash)) ∧ system.Unused completion.ids ∧
      completeRecovery session tokenHash completion system.toTables = .ok (true, next.toTables)

section moved

variable {system next : System} {event : Event}

theorem mem_revokedBetween {before after : Tables} {setId : Text} (hmem : setId ∈ revokedBetween before after) :
    ∃ set ∈ before.codeSets, set.id = setId ∧
      ∃ later ∈ after.codeSets, later.id = setId ∧ later.revokedAt ≠ none := by
  obtain ⟨set, hset, rfl⟩ := List.mem_map.mp hmem
  obtain ⟨hset, -, hlater⟩ := table.mem_matched.mp hset
  exact ⟨set, hset, rfl, hlater⟩

/-- A step of the account. -/
theorem Moved.write {tables : Tables} {generated : List Text} (hgenerated : system.generated ⊆ generated)
    (hkept : Kept system.generated generated system.toTables tables) :
    Moved system (system.write .other tables).1 { (system.write .other tables).2 with generated } where
  generated := hgenerated
  kept := hkept
  revoked _ := mem_revokedBetween
  sessions _ phase _ hphase hsession := .inl ⟨phase, hphase, hsession⟩
  started _ _ h := by cases h
  completed _ _ _ h := by cases h

/-- A request that reads a recovery session, or none. -/
theorem Moved.request {call : Nat} {phase : Call}
    (hread : ∀ session, phase.session? = some session →
      ∃ tokenHash now, recoverySession tokenHash now system.toTables = some session) :
    Moved system { outcome := .other, revokedSetIds := [] } (system.setCall call phase) where
  generated := List.Subset.refl _
  kept := .refl
  revoked _ h := absurd h List.not_mem_nil
  sessions other found session hfound hsession := by
    rcases setCall_calls hfound with ⟨-, rfl⟩ | ⟨-, hother⟩
    · exact .inr (hread session hsession)
    · exact .inl ⟨found, hother, hsession⟩
  started _ _ h := by cases h
  completed _ _ _ h := by cases h

/-- A batch that closes its request. -/
theorem Moved.close {call : Nat} {ids : List Text} {outcome : Outcome} {tables : Tables}
    (hkept : Kept system.generated (ids ++ system.generated) system.toTables tables)
    (hstarted : ∀ codeId setId, outcome = .started codeId setId →
      ∃ input : StartInput, input.codeId = codeId ∧ input.setId = setId ∧
        startRecovery input system.toTables = .ok (true, tables))
    (hcompleted : ∀ session tokenHash completion, outcome = .completed session tokenHash completion →
      (∃ call, system.calls call = some (.challenged session tokenHash)) ∧ system.Unused completion.ids ∧
        completeRecovery session tokenHash completion system.toTables = .ok (true, tables)) :
    Moved system (system.close call ids outcome tables).1 (system.close call ids outcome tables).2 where
  generated := List.subset_append_right ids system.generated
  kept := hkept
  revoked _ := mem_revokedBetween
  sessions other phase session hphase hsession := by
    rcases update_eq_some hphase with ⟨-, rfl⟩ | ⟨-, hother⟩
    · cases hsession
    · exact .inl ⟨phase, hother, hsession⟩
  started := hstarted
  completed := hcompleted

theorem Moved.close_other {call : Nat} {ids : List Text} {tables : Tables}
    (hkept : Kept system.generated (ids ++ system.generated) system.toTables tables) :
    Moved system (system.close call ids .other tables).1 (system.close call ids .other tables).2 := by
  refine .close hkept ?_ ?_
  · intro codeId setId h
    cases h
  · intro session tokenHash completion h
    cases h

theorem takeChallenge_eq_some {session : RecoverySession} {tokenHash challengeId challenge : Text} {now : Int}
    {before tables : Tables}
    (htake : takeChallenge session tokenHash challengeId now before = some (challenge, tables)) :
    ∃ challenges, tables = { before with challenges } := by
  rw [takeChallenge, Option.bind_eq_bind, Option.bind_eq_some_iff] at htake
  obtain ⟨found, -, heq⟩ := htake
  cases heq
  exact ⟨_, rfl⟩

theorem manage_eventId {stepUpMaxAgeMs : Int} {call : Nat} {eventId : Text} {now : Int}
    {management : Management} (hmanage : manage stepUpMaxAgeMs system call eventId now = some management) :
    management.eventId = eventId := by
  unfold manage at hmanage
  split at hmanage
  · split at hmanage
    · cases hmanage
      rfl
    · cases hmanage
  · cases hmanage

theorem unused_ids {ids : List Text} (hunused : system.Unused ids) :
    ∀ id ∈ ids, id ∉ system.generated ∧ id ∈ ids ++ system.generated :=
  fun id hid => ⟨hunused.2 id hid, List.mem_append_left _ hid⟩

theorem moved_of_step {stepUpMaxAgeMs : Int} (hstep : Step stepUpMaxAgeMs system event next) :
    Moved system event next := by
  obtain ⟨action, hperform⟩ := hstep
  have hself : system.generated ⊆ system.generated := List.Subset.refl _
  have hsame : ∀ {tables : Tables}, tables.passkeys = system.passkeys → tables.auditEvents = system.auditEvents →
      tables.codeSets = system.codeSets → tables.codes = system.codes →
      tables.recoverySessions = system.recoverySessions →
      Kept system.generated system.generated system.toTables tables :=
    fun hpasskeys haudits hsets hcodes hsessions =>
      .of_eq (fun _ h => hpasskeys ▸ h) haudits hsets hcodes hsessions
  cases action with
  | registerUser userId =>
    rw [perform] at hperform
    split at hperform
    · cases hperform
    · cases hperform
      exact .write hself (hsame rfl rfl rfl rfl rfl)
  | setStatus userId status =>
    cases hperform
    refine .write hself (Kept.trans ?_ (deleteRecoverySessions_kept _))
    exact hsame rfl rfl rfl rfl rfl
  | registerPasskey passkey =>
    rw [perform] at hperform
    split at hperform
    · cases hperform
    · split at hperform
      · cases hperform
      · rename_i tables hinsert
        cases hperform
        exact .write (List.subset_cons_self _ _) (insertPasskey_kept List.mem_cons_self hinsert)
  | deletePasskeys ids =>
    cases hperform
    exact .write hself (.of_eq (fun _ h => (table.mem_delete.mp h).1) rfl rfl rfl rfl)
  | writeSessions sessions =>
    cases hperform
    exact .write hself (hsame rfl rfl rfl rfl rfl)
  | writeTokens accessTokens refreshTokens =>
    cases hperform
    exact .write hself (hsame rfl rfl rfl rfl rfl)
  | cancel tokenHash =>
    cases hperform
    exact .write hself (deleteRecoverySessions_kept _)
  | requestStart call codeHash =>
    rw [perform] at hperform
    split at hperform
    · cases hperform
    · cases hperform
      apply Moved.request
      intro session h
      cases h
  | start call input =>
    rw [perform] at hperform
    split at hperform
    · split at hperform
      · have hid : input.eventId ∈ [input.eventId] ++ system.generated := List.mem_cons_self
        split at hperform
        · rename_i tables hstart
          cases hperform
          refine .close (startRecovery_kept hid hstart) ?_ ?_
          · intro codeId setId h
            cases h
            exact ⟨input, rfl, rfl, hstart⟩
          · intro session tokenHash completion h
            cases h
        · rename_i tables hstart
          cases hperform
          exact .close_other (startRecovery_kept hid hstart)
        · cases hperform
          exact .close_other .refl
      · cases hperform
    · cases hperform
  | requestOptions call tokenHash now =>
    rw [perform] at hperform
    split at hperform
    · rename_i session hcall hread
      cases hperform
      apply Moved.request
      intro found h
      cases h
      exact ⟨tokenHash, now, hread⟩
    · cases hperform
  | storeChallenge call challengeId challenge =>
    rw [perform] at hperform
    split at hperform
    · split at hperform
      · rename_i stored tables hstore
        cases hperform
        exact .close_other (storeChallenge_kept hstore)
      · cases hperform
        exact .close_other .refl
    · cases hperform
  | requestVerify call tokenHash now =>
    rw [perform] at hperform
    split at hperform
    · rename_i session hcall hread
      cases hperform
      apply Moved.request
      intro found h
      cases h
      exact ⟨tokenHash, now, hread⟩
    · cases hperform
  | takeChallenge call challengeId =>
    rw [perform] at hperform
    split at hperform
    · rename_i session tokenHash now hcall
      split at hperform
      · cases hperform
        exact .close_other .refl
      · rename_i challenge tables htake
        cases hperform
        obtain ⟨challenges, rfl⟩ := takeChallenge_eq_some htake
        refine ⟨hself, hsame rfl rfl rfl rfl rfl, fun _ => mem_revokedBetween, ?_, ?_, ?_⟩
        · intro other phase found hphase hfound
          rcases update_eq_some hphase with ⟨rfl, rfl⟩ | ⟨-, hother⟩
          · exact .inl ⟨_, hcall, hfound⟩
          · exact .inl ⟨phase, hother, hfound⟩
        · intro codeId setId h
          cases h
        · intro found hash completion h
          cases h
    · cases hperform
  | complete call completion =>
    rw [perform] at hperform
    split at hperform
    · rename_i session tokenHash hcall
      split at hperform
      · rename_i hunused
        split at hperform
        · rename_i tables hcomplete
          cases hperform
          refine .close (completeRecovery_kept (unused_ids hunused) hcomplete) ?_ ?_
          · intro codeId setId h
            cases h
          · intro found hash other h
            cases h
            exact ⟨⟨call, hcall⟩, hunused, hcomplete⟩
        · rename_i tables hcomplete
          cases hperform
          refine .close (completeRecovery_kept (unused_ids hunused) hcomplete) ?_ ?_
          · intro codeId setId h
            cases h
          · intro found hash other h
            cases h
        · cases hperform
          refine .close .refl ?_ ?_
          · intro codeId setId h
            cases h
          · intro found hash other h
            cases h
      · cases hperform
    · cases hperform
  | requestManagement call sessionId userId =>
    rw [perform] at hperform
    split at hperform
    · cases hperform
      apply Moved.request
      intro session h
      cases h
    · cases hperform
  | rotate call eventId setId generated now =>
    rw [perform] at hperform
    split at hperform
    · cases hperform
    · rename_i management hmanage
      dsimp only at hperform
      split at hperform
      · rename_i hunused
        split at hperform
        · rename_i result tables hrotate
          cases hperform
          refine .close_other (rotateCodes_kept ?_ ?_ ?_ hrotate)
          · rw [manage_eventId hmanage]
            exact List.mem_cons_self
          · exact unused_ids hunused setId (List.mem_cons_of_mem _ List.mem_cons_self)
          · intro code hcode
            apply unused_ids hunused code.1
            exact List.mem_cons_of_mem _ (List.mem_cons_of_mem _ (List.mem_map_of_mem hcode))
        · cases hperform
          exact .close_other .refl
      · cases hperform
  | deleteSet call eventId now =>
    rw [perform] at hperform
    split at hperform
    · cases hperform
    · rename_i management hmanage
      split at hperform
      · split at hperform
        · rename_i result tables hdelete
          cases hperform
          refine .close_other (deleteCodeSet_kept ?_ hdelete)
          rw [manage_eventId hmanage]
          exact List.mem_cons_self
        · cases hperform
          exact .close_other .refl
      · cases hperform

end moved

/-- The owner and the generation of a set that a request has read are those of its row. -/
def RecoverySession.Known (session : RecoverySession) (generated : List Text) (tables : Tables) : Prop :=
  session.codeSetId ∈ generated ∧ ∀ set ∈ tables.codeSets, set.id = session.codeSetId →
    set.userId = session.userId ∧ set.generation = session.generation

section known

variable {generated later : List Text} {before after tables : Tables} {session : RecoverySession}

theorem recoverySession_known {tokenHash : Text} {now : Int} (hsound : tables.Sound generated)
    (hread : recoverySession tokenHash now tables = some session) : session.Known generated tables := by
  rw [recoverySession, Option.bind_eq_bind, Option.bind_eq_some_iff] at hread
  obtain ⟨row, hrow, hread⟩ := hread
  rw [Option.bind_eq_bind, Option.bind_eq_some_iff] at hread
  obtain ⟨set, hset, heq⟩ := hread
  cases heq
  have hrowMem := List.mem_of_find?_eq_some hrow
  have hsetMem := List.mem_of_find?_eq_some hset
  have hfound := List.find?_some hset
  have hsetId : set.id = row.codeSetId := of_decide_eq_true hfound
  obtain ⟨owned, howned, hownedId, howner⟩ := hsound.owners row hrowMem
  have hsame : ∀ other ∈ tables.codeSets, other.id = row.codeSetId → other = set :=
    fun other hother h => table.eq_of_key hsound.setIds hother hsetMem (h.trans hsetId.symm)
  refine ⟨hsetId ▸ hsound.sets set hsetMem, ?_⟩
  intro other hother hid
  cases hsame other hother hid
  cases hsame owned howned hownedId
  exact ⟨howner, rfl⟩

theorem RecoverySession.Known.follow (hknown : session.Known generated before)
    (hgenerated : generated ⊆ later) (hfollows : Follows generated before after) :
    session.Known later after := by
  obtain ⟨hmem, hsets⟩ := hknown
  refine ⟨hgenerated hmem, ?_⟩
  intro set hset hid
  obtain ⟨row, hrow, hrowId, huser, hgeneration, -⟩ := hfollows.sets set hset (hid ▸ hmem)
  obtain ⟨hrowUser, hrowGeneration⟩ := hsets row hrow (hrowId.trans hid)
  exact ⟨huser ▸ hrowUser, hgeneration ▸ hrowGeneration⟩

theorem Tables.Sound.mono (hsound : tables.Sound generated) (hgenerated : generated ⊆ later) :
    tables.Sound later :=
  { hsound with
    passkeys := fun row hrow => hgenerated (hsound.passkeys row hrow)
    audits := fun row hrow => hgenerated (hsound.audits row hrow)
    sets := fun row hrow => hgenerated (hsound.sets row hrow)
    codes := fun row hrow => hgenerated (hsound.codes row hrow) }

/-- A start consumes a code that is not consumed, of a set that is not revoked. -/
theorem startRecovery_started {input : StartInput} (hsound : before.Sound generated)
    (hstart : startRecovery input before = .ok (true, after)) :
    (∃ code ∈ before.codes, code.id = input.codeId ∧ code.consumedAt = none) ∧
      (∃ set ∈ before.codeSets, set.id = input.setId ∧ set.revokedAt = none) ∧
      ∀ code ∈ after.codes, code.id = input.codeId → code.consumedAt ≠ none := by
  rw [startRecovery] at hstart
  obtain ⟨⟨audits, audited⟩, haudit, hstart⟩ := bind_eq_ok_iff.mp hstart
  obtain ⟨⟨changes, consumed⟩, hconsume, hstart⟩ := bind_eq_ok_iff.mp hstart
  obtain ⟨⟨sessions, last⟩, hsession, heq⟩ := bind_eq_ok_iff.mp hstart
  rw [pure_eq_ok_iff, Prod.mk.injEq, decide_eq_true_eq] at heq
  obtain ⟨⟨haudits, -, -⟩, rfl⟩ := heq
  rcases insertWhere_eq_ok_iff.mp haudit with ⟨hstartable, -, hinsert⟩ | ⟨-, hzero, -⟩
  · rw [insertAudit, throwIf_bind_eq_ok_iff, pure_eq_ok_iff] at hinsert
    obtain ⟨-, rfl⟩ := hinsert
    obtain ⟨⟨code, hcode, hcodeId, hhash, hlive, set, hset, hcodeSet, hsetId, -, hactive, -⟩, -⟩ := hstartable
    have hcodes : last.codes = consumed.codes := by
      rcases insertWhere_eq_ok_iff.mp hsession with ⟨-, -, h⟩ | ⟨-, -, rfl⟩
      · obtain ⟨-, -, -, rfl⟩ := insertRecoverySession_eq_ok_iff.mp h
        rfl
      · rfl
    obtain ⟨-, -, rfl⟩ := consumeCodes_eq_ok_iff.mp hconsume
    refine ⟨⟨code, hcode, hcodeId, hlive⟩, ⟨set, hset, hsetId, hactive⟩, ?_⟩
    rw [hcodes]
    intro other hother hid
    rcases table.mem_update.mp hother with ⟨old, -, -, rfl⟩ | ⟨hother, hnot⟩
    · exact Option.some_ne_none input.now
    · cases table.eq_of_key hsound.codeIds hother hcode (hid.trans hcodeId.symm)
      refine absurd ⟨hlive, hcodeId, hcodeSet.symm.trans hsetId, hhash, ?_⟩ hnot
      exact ⟨input.event, List.mem_append_right _ List.mem_cons_self, rfl⟩
  · exact absurd (hzero.symm.trans haudits) Nat.zero_ne_one

end known

end pgid.recovery
