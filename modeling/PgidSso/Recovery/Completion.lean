import PgidSso.Recovery.Lifecycle

open checked

namespace pgid.recovery

/-- The rows of ten new codes. -/
def newCodes (setId : Text) (codes : List (Text × Text)) (ordinal : Nat) : List CodeRow :=
  (codes.zipIdx ordinal).map fun entry =>
    { id := entry.1.1, setId, ordinal := entry.2, codeHash := entry.1.2, consumedAt := none }

/-- All the effects of a completed recovery, in the tables before and after it. -/
structure Completed (session : RecoverySession) (completion : Completion) (before after : Tables) : Prop where
  passkey : after.passkeys = before.passkeys ++ [completion.passkey session]
  audit : after.auditEvents = before.auditEvents ++ [completion.event session]
  revoked : (∃ set ∈ after.codeSets, set.id = session.codeSetId) ∧
    ∀ set ∈ after.codeSets, set.id = session.codeSetId → set.revokedAt = some completion.now
  nextSet : ∃ sets, after.codeSets = sets ++ [completion.nextSet session] ∧
    sets.map (·.id) = before.codeSets.map (·.id)
  codes : table.matched (fun code : CodeRow => code.setId = completion.nextSetId) after.codes =
    newCodes completion.nextSetId completion.generated.codes 1
  recoverySession : ∀ row ∈ after.recoverySessions, row.userId ≠ session.userId
  sessions : ∀ row, row ∈ after.sessions ↔ row ∈ before.sessions ∧ row.userId ≠ session.userId
  accessTokens : ∀ token, token ∈ after.accessTokens ↔
    token ∈ before.accessTokens ∧ token.userId ≠ some session.userId
  refreshTokens : ∀ token ∈ after.refreshTokens, token.userId = session.userId → token.revoked ≠ none

section statements

variable {tables next : Tables}

theorem deleteRecoverySessions_of_none {matching : RecoverySessionRow → Prop} [DecidablePred matching]
    (hnone : ∀ session ∈ tables.recoverySessions, ¬ matching session) :
    deleteRecoverySessions matching tables = tables := by
  have hchallenges : table.delete (fun challenge : ChallengeRow => ∃ row ∈ tables.recoverySessions,
      row.id = challenge.recoverySessionId ∧ matching row) tables.challenges = tables.challenges :=
    table.delete_of_none fun challenge _ ⟨row, hrow, _, h⟩ => hnone row hrow h
  rw [deleteRecoverySessions, table.delete_of_none hnone]
  dsimp only
  rw [hchallenges]

theorem deleteCodes_of_none {matching : CodeRow → Prop} [DecidablePred matching]
    (hnone : ∀ code ∈ tables.codes, ¬ matching code) : deleteCodes matching tables = tables := by
  rw [deleteCodes, table.delete_of_none hnone]
  apply deleteRecoverySessions_of_none
  rintro session - ⟨code, hcode, -, -, h⟩
  exact hnone code hcode h

theorem revokeCodeSets_of_none {matching : CodeSetRow → Prop} [DecidablePred matching] {now : Int}
    {changes : Nat} (hnone : ∀ set ∈ tables.codeSets, ¬ matching set)
    (hrevoke : revokeCodeSets matching now tables = .ok (changes, next)) : next = tables := by
  obtain ⟨-, -, rfl⟩ := revokeCodeSets_eq_ok_iff.mp hrevoke
  rw [table.update_of_none fun set hset h => hnone set hset h.2]
  apply deleteCodes_of_none
  rintro code - ⟨set, hset, -, -, h⟩
  exact hnone set hset h

/-- With its set and its event every code is inserted, without its event none. -/
theorem insertCodes_of_audited {setId userId eventId : Text} {codes : List (Text × Text)} {ordinal : Nat}
    {changes : List Nat}
    (hinsert : insertCodes setId userId eventId codes ordinal tables = .ok (changes, next))
    (hset : ∃ set ∈ tables.codeSets, set.id = setId ∧ set.userId = userId ∧ set.revokedAt = none)
    (haudit : tables.HasAudit eventId) :
    (∀ inserted ∈ changes, inserted = 1) ∧
      next = { tables with codes := tables.codes ++ newCodes setId codes ordinal } := by
  induction codes generalizing ordinal changes tables with
  | nil =>
    cases hinsert
    refine ⟨fun _ h => absurd h List.not_mem_nil, ?_⟩
    rw [newCodes, List.zipIdx_nil, List.map_nil, List.append_nil]
  | cons code rest ih =>
    rw [insertCodes] at hinsert
    obtain ⟨⟨inserted, middle⟩, hinserted, hinsert⟩ := bind_eq_ok_iff.mp hinsert
    obtain ⟨⟨others, last⟩, hothers, heq⟩ := bind_eq_ok_iff.mp hinsert
    cases heq
    rcases insertWhere_eq_ok_iff.mp hinserted with ⟨-, rfl, hcode⟩ | ⟨hnot, -⟩
    · obtain ⟨-, -, -, -, rfl⟩ := insertCode_eq_ok_iff.mp hcode
      obtain ⟨hones, hnext⟩ := ih hothers hset haudit
      refine ⟨List.forall_mem_cons.mpr ⟨rfl, hones⟩, ?_⟩
      rw [hnext, newCodes, newCodes, List.zipIdx_cons, List.map_cons, List.append_assoc, List.singleton_append]
    · exact absurd ⟨hset, haudit⟩ hnot

theorem insertCodes_of_not_audited {setId userId eventId : Text} {codes : List (Text × Text)} {ordinal : Nat}
    {changes : List Nat} (haudit : ¬ tables.HasAudit eventId)
    (hinsert : insertCodes setId userId eventId codes ordinal tables = .ok (changes, next)) : next = tables := by
  induction codes generalizing ordinal changes tables with
  | nil =>
    cases hinsert
    rfl
  | cons code rest ih =>
    rw [insertCodes] at hinsert
    obtain ⟨⟨inserted, middle⟩, hinserted, hinsert⟩ := bind_eq_ok_iff.mp hinsert
    obtain ⟨⟨others, last⟩, hothers, heq⟩ := bind_eq_ok_iff.mp hinsert
    cases heq
    rcases insertWhere_eq_ok_iff.mp hinserted with ⟨h, -⟩ | ⟨-, -, rfl⟩
    · exact absurd h.2 haudit
    · exact ih haudit hothers

theorem logoutUser_of_not_audited {userId eventId : Text} {now : Int} (haudit : ¬ tables.HasAudit eventId) :
    logoutUser userId eventId now tables = tables := by
  rw [logoutUser, table.update_of_none fun token _ h => haudit h.2.2,
    table.delete_of_none fun token _ h => haudit h.2, table.delete_of_none fun token _ h => haudit h.2]

end statements

section completion

variable {generated : List Text} {before after : Tables} {session : RecoverySession} {tokenHash : Text}
  {completion : Completion} {result : Bool}

/-- Without its passkey the batch of a verify request changes nothing. -/
theorem completeRecovery_of_not_completable (hsound : before.Sound generated)
    (hids : ∀ id ∈ completion.ids, id ∉ generated)
    (hnot : ¬ completion.Completable session tokenHash before)
    (hcomplete : completeRecovery session tokenHash completion before = .ok (result, after)) :
    result = false ∧ after = before := by
  have hpasskeyId := hids completion.passkeyId List.mem_cons_self
  have heventId := hids completion.eventId (List.mem_cons_of_mem _ List.mem_cons_self)
  have hpasskey : ¬ completion.HasPasskey session before := by
    rintro ⟨passkey, hmem, hid, -⟩
    exact hpasskeyId (hid ▸ hsound.passkeys passkey hmem)
  have haudit : ¬ before.HasAudit completion.eventId := by
    rintro ⟨event, hmem, hid⟩
    exact heventId (hid ▸ hsound.audits event hmem)
  rw [completeRecovery] at hcomplete
  obtain ⟨⟨passkeys, first⟩, hfirst, hcomplete⟩ := bind_eq_ok_iff.mp hcomplete
  obtain ⟨⟨audits, second⟩, hsecond, hcomplete⟩ := bind_eq_ok_iff.mp hcomplete
  obtain ⟨⟨revoked, third⟩, hthird, hcomplete⟩ := bind_eq_ok_iff.mp hcomplete
  obtain ⟨⟨sets, fourth⟩, hfourth, hcomplete⟩ := bind_eq_ok_iff.mp hcomplete
  obtain ⟨⟨codes, fifth⟩, hfifth, heq⟩ := bind_eq_ok_iff.mp hcomplete
  rcases insertWhere_eq_ok_iff.mp hfirst with ⟨h, -⟩ | ⟨-, rfl, rfl⟩
  · exact absurd h hnot
  rcases insertWhere_eq_ok_iff.mp hsecond with ⟨h, -⟩ | ⟨-, rfl, rfl⟩
  · exact absurd h.1 hpasskey
  cases revokeCodeSets_of_none (fun set _ h => haudit h.2.2.2.1) hthird
  rcases insertWhere_eq_ok_iff.mp hfourth with ⟨h, -⟩ | ⟨-, rfl, rfl⟩
  · exact absurd h.1 haudit
  cases insertCodes_of_not_audited haudit hfifth
  rw [pure_eq_ok_iff, Prod.mk.injEq, logoutUser_of_not_audited haudit] at heq
  exact ⟨heq.1.symm.trans (decide_eq_false fun h => absurd h.1 Nat.zero_ne_one), heq.2.symm⟩

theorem completeRecovery_of_completable (hsound : before.Sound generated)
    (hids : ∀ id ∈ completion.ids, id ∉ generated) (hknown : session.Known generated before)
    (hcompletable : completion.Completable session tokenHash before)
    (hcomplete : completeRecovery session tokenHash completion before = .ok (result, after)) :
    result = true ∧ Completed session completion before after := by
  have hsetId := hids completion.nextSetId (List.mem_cons_of_mem _ (List.mem_cons_of_mem _ List.mem_cons_self))
  obtain ⟨⟨row, hrow, hrowId, hhash, hrowUser, hrowSet, hrowSource, hrecovering, -⟩, -⟩ := id hcompletable
  obtain ⟨hlive, -, set, hset, hsetRow, hactive, -⟩ := hrecovering
  have hsetSession : set.id = session.codeSetId := hsetRow.trans hrowSet
  obtain ⟨hsetUser, hsetGeneration⟩ := hknown.2 set hset hsetSession
  rw [completeRecovery] at hcomplete
  obtain ⟨⟨passkeys, first⟩, hfirst, hcomplete⟩ := bind_eq_ok_iff.mp hcomplete
  obtain ⟨⟨audits, second⟩, hsecond, hcomplete⟩ := bind_eq_ok_iff.mp hcomplete
  obtain ⟨⟨revoked, third⟩, hthird, hcomplete⟩ := bind_eq_ok_iff.mp hcomplete
  obtain ⟨⟨sets, fourth⟩, hfourth, hcomplete⟩ := bind_eq_ok_iff.mp hcomplete
  obtain ⟨⟨codes, fifth⟩, hfifth, heq⟩ := bind_eq_ok_iff.mp hcomplete
  rcases insertWhere_eq_ok_iff.mp hfirst with ⟨-, rfl, h⟩ | ⟨hnot, -⟩
  swap
  · exact absurd hcompletable hnot
  rw [insertPasskey, throwIf_bind_eq_ok_iff, pure_eq_ok_iff] at h
  obtain ⟨-, rfl⟩ := h
  have hpasskey : completion.HasPasskey session
      { before with passkeys := before.passkeys ++ [completion.passkey session] } :=
    ⟨completion.passkey session, List.mem_append_right _ List.mem_cons_self, rfl, rfl, rfl⟩
  rcases insertWhere_eq_ok_iff.mp hsecond with ⟨-, rfl, h⟩ | ⟨hnot, -⟩
  swap
  · exact absurd ⟨hpasskey, row, hrow, hrowId, hhash, hrowUser, hrowSet, hlive⟩ hnot
  rw [insertAudit, throwIf_bind_eq_ok_iff, pure_eq_ok_iff] at h
  obtain ⟨-, rfl⟩ := h
  have haudit : Tables.HasAudit
      { before with
        passkeys := before.passkeys ++ [completion.passkey session]
        auditEvents := before.auditEvents ++ [completion.event session] } completion.eventId :=
    ⟨completion.event session, List.mem_append_right _ List.mem_cons_self, rfl⟩
  obtain ⟨-, hrevoked, rfl⟩ := revokeCodeSets_eq_ok_iff.mp hthird
  rcases insertWhere_eq_ok_iff.mp hfourth with ⟨-, rfl, h⟩ | ⟨hnot, -⟩
  swap
  · exact absurd ⟨haudit, hpasskey⟩ hnot
  obtain ⟨-, -, -, rfl⟩ := insertCodeSet_eq_ok_iff.mp h
  obtain ⟨hones, rfl⟩ := insertCodes_of_audited hfifth
    ⟨completion.nextSet session, List.mem_append_right _ List.mem_cons_self, rfl, rfl, rfl⟩ haudit
  rw [pure_eq_ok_iff, Prod.mk.injEq] at heq
  obtain ⟨hresult, rfl⟩ := heq
  have hrevoking : set.revokedAt = none ∧ set.id = session.codeSetId ∧ set.userId = session.userId ∧
      set.generation = session.generation ∧ _ ∧ _ :=
    ⟨hactive, hsetSession, hsetUser, hsetGeneration, haudit, hpasskey⟩
  have hsame : ∀ other ∈ before.codeSets, other.id = session.codeSetId → other = set :=
    fun other hother hid => table.eq_of_key hsound.setIds hother hset (hid.trans hsetSession.symm)
  have hother : ∀ set ∈ before.codeSets, set.id ≠ completion.nextSetId :=
    fun set hset hid => hsetId (hid ▸ hsound.sets set hset)
  refine ⟨?_, ⟨rfl, rfl, ⟨?_, ?_⟩, ?_, ?_, ?_, ?_, ?_, ?_⟩⟩
  · rw [← hresult, decide_eq_true_eq, hrevoked]
    refine ⟨rfl, rfl, ?_, rfl, hones⟩
    exact List.length_pos_of_mem (table.mem_matched.mpr ⟨hset, hrevoking⟩)
  · refine ⟨_, List.mem_append_left _ (table.change_mem_update hset hrevoking), hsetSession⟩
  · intro later hlater hid
    change later ∈ table.update _ _ before.codeSets ++ [completion.nextSet session] at hlater
    rcases List.mem_append.mp hlater with hlater | hlast
    · rcases table.mem_update.mp hlater with ⟨old, -, -, rfl⟩ | ⟨hold, hnot⟩
      · rfl
      · cases hsame later hold hid
        exact absurd hrevoking hnot
    · cases List.mem_singleton.mp hlast
      exact absurd (hid.trans hsetSession.symm).symm (hother set hset)
  · exact ⟨_, rfl, table.map_update fun _ _ _ => rfl⟩
  · change table.matched _ (table.delete _ before.codes ++ _) = _
    rw [table.matched_append, table.matched_of_none, List.nil_append]
    · exact List.filter_eq_self.mpr fun code hcode => by
        obtain ⟨entry, -, rfl⟩ := List.mem_map.mp hcode
        exact decide_eq_true rfl
    · intro code hcode hid
      obtain ⟨owner, howner, hownerId, -⟩ := hsound.codeSets code (table.mem_delete.mp hcode).1
      exact hother owner howner (hownerId.trans hid)
  · intro later hlater huser
    obtain ⟨hlater, hnot⟩ := table.mem_delete.mp hlater
    cases table.eq_of_key hsound.users hlater hrow (huser.trans hrowUser.symm)
    obtain ⟨code, hcode, hcodeId, hcodeSet, -⟩ := hsound.sources row hrow
    exact hnot ⟨code, hcode, hcodeId, hcodeSet, set, hset, hsetRow.trans hcodeSet.symm, hrevoking⟩
  · intro later
    exact table.mem_delete.trans (and_congr_right fun _ => not_congr (and_iff_left haudit))
  · intro token
    exact table.mem_delete.trans (and_congr_right fun _ => not_congr (and_iff_left haudit))
  · intro token htoken huser
    rcases table.mem_update.mp htoken with ⟨old, -, -, rfl⟩ | ⟨-, hnot⟩
    · exact Option.some_ne_none completion.now
    · exact fun h => hnot ⟨huser, h, haudit⟩

end completion

end pgid.recovery
