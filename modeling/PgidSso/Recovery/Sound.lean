import PgidSso.Recovery.System

open checked

namespace pgid.recovery

/-- What holds of the tables between any two statements. -/
structure Tables.Sound (generated : List Text) (tables : Tables) : Prop where
  passkeys : ∀ passkey ∈ tables.passkeys, passkey.id ∈ generated
  audits : ∀ event ∈ tables.auditEvents, event.id ∈ generated
  sets : ∀ set ∈ tables.codeSets, set.id ∈ generated
  setIds : (tables.codeSets.map (·.id)).Nodup
  active : ∀ left ∈ tables.codeSets, ∀ right ∈ tables.codeSets, left.revokedAt = none →
    right.revokedAt = none → left.userId = right.userId → left = right
  codes : ∀ code ∈ tables.codes, code.id ∈ generated
  codeIds : (tables.codes.map (·.id)).Nodup
  codeSets : ∀ code ∈ tables.codes, ∃ set ∈ tables.codeSets, set.id = code.setId ∧ set.revokedAt = none
  users : (tables.recoverySessions.map (·.userId)).Nodup
  sources : ∀ session ∈ tables.recoverySessions, ∃ code ∈ tables.codes,
    code.id = session.sourceCodeId ∧ code.setId = session.codeSetId ∧ code.consumedAt ≠ none
  owners : ∀ session ∈ tables.recoverySessions, ∃ set ∈ tables.codeSets,
    set.id = session.codeSetId ∧ set.userId = session.userId

/-- What later tables keep of the sets and the codes whose ids are known: who owns them,
and that they are revoked or consumed. -/
structure Follows (known : List Text) (before after : Tables) : Prop where
  sets : ∀ later ∈ after.codeSets, later.id ∈ known → ∃ set ∈ before.codeSets, set.id = later.id ∧
    set.userId = later.userId ∧ set.generation = later.generation ∧
    (set.revokedAt ≠ none → later.revokedAt ≠ none)
  codes : ∀ later ∈ after.codes, later.id ∈ known → ∃ code ∈ before.codes, code.id = later.id ∧
    (code.consumedAt ≠ none → later.consumedAt ≠ none)

section follows

variable {known : List Text} {before middle after : Tables}

theorem Follows.of_eq (hsets : after.codeSets = before.codeSets) (hcodes : after.codes = before.codes) :
    Follows known before after := by
  refine ⟨?_, ?_⟩
  · intro later hlater _
    exact ⟨later, hsets ▸ hlater, rfl, rfl, rfl, id⟩
  · intro later hlater _
    exact ⟨later, hcodes ▸ hlater, rfl, id⟩

theorem Follows.trans (hfirst : Follows known before middle) (hsecond : Follows known middle after) :
    Follows known before after := by
  refine ⟨?_, ?_⟩
  · intro later hlater hknown
    obtain ⟨set, hset, hid, huser, hgeneration, hrevoked⟩ := hsecond.sets later hlater hknown
    obtain ⟨old, hold, holdId, holdUser, holdGeneration, holdRevoked⟩ := hfirst.sets set hset (hid ▸ hknown)
    exact ⟨old, hold, holdId.trans hid, holdUser.trans huser, holdGeneration.trans hgeneration,
      fun h => hrevoked (holdRevoked h)⟩
  · intro later hlater hknown
    obtain ⟨code, hcode, hid, hconsumed⟩ := hsecond.codes later hlater hknown
    obtain ⟨old, hold, holdId, holdConsumed⟩ := hfirst.codes code hcode (hid ▸ hknown)
    exact ⟨old, hold, holdId.trans hid, fun h => hconsumed (holdConsumed h)⟩

end follows

/-- A statement that keeps sound tables sound, with the ids that were known before. -/
def Kept (known generated : List Text) (before after : Tables) : Prop :=
  before.Sound generated → after.Sound generated ∧ Follows known before after

section kept

variable {known generated : List Text} {before middle after : Tables}

theorem Kept.refl : Kept known generated before before :=
  fun hsound => ⟨hsound, .of_eq rfl rfl⟩

theorem Kept.trans (hfirst : Kept known generated before middle) (hsecond : Kept known generated middle after) :
    Kept known generated before after := by
  intro hsound
  obtain ⟨hmiddle, hfollows⟩ := hfirst hsound
  obtain ⟨hafter, hlater⟩ := hsecond hmiddle
  exact ⟨hafter, hfollows.trans hlater⟩

/-- A write to the rows that the rest of recovery only reads. -/
theorem Kept.of_eq (hpasskeys : ∀ passkey ∈ after.passkeys, passkey ∈ before.passkeys)
    (haudits : after.auditEvents = before.auditEvents) (hsets : after.codeSets = before.codeSets)
    (hcodes : after.codes = before.codes) (hsessions : after.recoverySessions = before.recoverySessions) :
    Kept known generated before after := by
  intro hsound
  refine ⟨⟨?_, ?_, ?_, ?_, ?_, ?_, ?_, ?_, ?_, ?_, ?_⟩, .of_eq hsets hcodes⟩
  · exact fun passkey hpasskey => hsound.passkeys passkey (hpasskeys passkey hpasskey)
  all_goals
    simp only [haudits, hsets, hcodes, hsessions]
  · exact hsound.audits
  · exact hsound.sets
  · exact hsound.setIds
  · exact hsound.active
  · exact hsound.codes
  · exact hsound.codeIds
  · exact hsound.codeSets
  · exact hsound.users
  · exact hsound.sources
  · exact hsound.owners

end kept

section statements

variable {known generated : List Text} {tables next : Tables}

theorem insertAudit_kept {event : AuditRow} (hid : event.id ∈ generated)
    (hinsert : insertAudit event tables = .ok next) : Kept known generated tables next := by
  rw [insertAudit, throwIf_bind_eq_ok_iff, pure_eq_ok_iff] at hinsert
  obtain ⟨-, rfl⟩ := hinsert
  intro hsound
  refine ⟨{ hsound with audits := ?_ }, .of_eq rfl rfl⟩
  intro row hrow
  rcases List.mem_append.mp hrow with hold | hlast
  · exact hsound.audits row hold
  · exact List.mem_singleton.mp hlast ▸ hid

theorem insertPasskey_kept {passkey : PasskeyRow} (hid : passkey.id ∈ generated)
    (hinsert : insertPasskey passkey tables = .ok next) : Kept known generated tables next := by
  rw [insertPasskey, throwIf_bind_eq_ok_iff, pure_eq_ok_iff] at hinsert
  obtain ⟨-, rfl⟩ := hinsert
  intro hsound
  refine ⟨{ hsound with passkeys := ?_ }, .of_eq rfl rfl⟩
  intro row hrow
  rcases List.mem_append.mp hrow with hold | hlast
  · exact hsound.passkeys row hold
  · exact List.mem_singleton.mp hlast ▸ hid

theorem insertCodeSet_eq_ok_iff {set : CodeSetRow} : insertCodeSet set tables = .ok next ↔
    tables.ActiveUser set.userId ∧
      ¬ (set.generation = 0 ∨ (∃ expiresAt ∈ set.expiresAt, expiresAt ≤ set.createdAt) ∨
        ∃ revokedAt ∈ set.revokedAt, revokedAt < set.createdAt) ∧
      (¬ ∃ row ∈ tables.codeSets, row.id = set.id ∨
        (row.userId = set.userId ∧ row.generation = set.generation) ∨
        (row.userId = set.userId ∧ row.revokedAt = none ∧ set.revokedAt = none)) ∧
      next = { tables with codeSets := tables.codeSets ++ [set] } := by
  rw [insertCodeSet, throwIf_bind_eq_ok_iff, throwIf_bind_eq_ok_iff, throwIf_bind_eq_ok_iff, pure_eq_ok_iff,
    not_not, eq_comm (a := next)]

theorem insertCodeSet_kept {set : CodeSetRow} (hknown : set.id ∉ known) (hid : set.id ∈ generated)
    (hinsert : insertCodeSet set tables = .ok next) : Kept known generated tables next := by
  obtain ⟨-, -, hunique, rfl⟩ := insertCodeSet_eq_ok_iff.mp hinsert
  intro hsound
  have hother : ∀ row ∈ tables.codeSets, row.id ≠ set.id := fun row hrow h => hunique ⟨row, hrow, .inl h⟩
  have hactive : ∀ row ∈ tables.codeSets, row.revokedAt = none → set.revokedAt = none →
      row.userId ≠ set.userId :=
    fun row hrow hold hnew h => hunique ⟨row, hrow, .inr (.inr ⟨h, hold, hnew⟩)⟩
  refine ⟨{ hsound with sets := ?_, setIds := ?_, active := ?_, codeSets := ?_, owners := ?_ }, ?_, ?_⟩
  · intro row hrow
    rcases List.mem_append.mp hrow with hold | hlast
    · exact hsound.sets row hold
    · exact List.mem_singleton.mp hlast ▸ hid
  · exact table.nodup_map_append hsound.setIds hother
  · intro left hleft right hright hleftActive hrightActive huser
    rcases List.mem_append.mp hleft with hleftOld | hleftNew
    · rcases List.mem_append.mp hright with hrightOld | hrightNew
      · exact hsound.active left hleftOld right hrightOld hleftActive hrightActive huser
      · cases List.mem_singleton.mp hrightNew
        exact absurd huser (hactive left hleftOld hleftActive hrightActive)
    · cases List.mem_singleton.mp hleftNew
      rcases List.mem_append.mp hright with hrightOld | hrightNew
      · exact absurd huser.symm (hactive right hrightOld hrightActive hleftActive)
      · exact (List.mem_singleton.mp hrightNew).symm
  · intro code hcode
    obtain ⟨row, hrow, hrest⟩ := hsound.codeSets code hcode
    exact ⟨row, List.mem_append_left _ hrow, hrest⟩
  · intro session hsession
    obtain ⟨row, hrow, hrest⟩ := hsound.owners session hsession
    exact ⟨row, List.mem_append_left _ hrow, hrest⟩
  · intro later hlater hlaterKnown
    rcases List.mem_append.mp hlater with hold | hlast
    · exact ⟨later, hold, rfl, rfl, rfl, id⟩
    · cases List.mem_singleton.mp hlast
      exact absurd hlaterKnown hknown
  · exact fun later hlater _ => ⟨later, hlater, rfl, id⟩

theorem insertCode_eq_ok_iff {code : CodeRow} : insertCode code tables = .ok next ↔
    code.consumedAt = none ∧ (∃ set ∈ tables.codeSets, set.id = code.setId ∧ set.revokedAt = none) ∧
      (1 ≤ code.ordinal ∧ code.ordinal ≤ 10) ∧
      (¬ ∃ row ∈ tables.codes, row.id = code.id ∨ row.codeHash = code.codeHash ∨
        (row.setId = code.setId ∧ row.ordinal = code.ordinal)) ∧
      next = { tables with codes := tables.codes ++ [code] } := by
  rw [insertCode, throwIf_bind_eq_ok_iff, throwIf_bind_eq_ok_iff, throwIf_bind_eq_ok_iff, pure_eq_ok_iff,
    not_or, not_not, not_not, not_not, and_assoc, eq_comm (a := next)]

theorem insertCode_kept {code : CodeRow} (hknown : code.id ∉ known) (hid : code.id ∈ generated)
    (hinsert : insertCode code tables = .ok next) : Kept known generated tables next := by
  obtain ⟨-, hset, -, hunique, rfl⟩ := insertCode_eq_ok_iff.mp hinsert
  intro hsound
  refine ⟨{ hsound with codes := ?_, codeIds := ?_, codeSets := ?_, sources := ?_ }, ?_, ?_⟩
  · intro row hrow
    rcases List.mem_append.mp hrow with hold | hlast
    · exact hsound.codes row hold
    · exact List.mem_singleton.mp hlast ▸ hid
  · exact table.nodup_map_append hsound.codeIds fun row hrow h => hunique ⟨row, hrow, .inl h⟩
  · intro row hrow
    rcases List.mem_append.mp hrow with hold | hlast
    · exact hsound.codeSets row hold
    · exact List.mem_singleton.mp hlast ▸ hset
  · intro session hsession
    obtain ⟨row, hrow, hrest⟩ := hsound.sources session hsession
    exact ⟨row, List.mem_append_left _ hrow, hrest⟩
  · exact fun later hlater _ => ⟨later, hlater, rfl, rfl, rfl, id⟩
  · intro later hlater hlaterKnown
    rcases List.mem_append.mp hlater with hold | hlast
    · exact ⟨later, hold, rfl, id⟩
    · cases List.mem_singleton.mp hlast
      exact absurd hlaterKnown hknown

theorem deleteRecoverySessions_kept (matching : RecoverySessionRow → Prop) [DecidablePred matching] :
    Kept known generated tables (deleteRecoverySessions matching tables) := by
  intro hsound
  refine ⟨{ hsound with users := ?_, sources := ?_, owners := ?_ }, .of_eq rfl rfl⟩
  · exact table.nodup_map_delete hsound.users
  · exact fun session hsession => hsound.sources session (table.mem_delete.mp hsession).1
  · exact fun session hsession => hsound.owners session (table.mem_delete.mp hsession).1

/-- Sets that are revoked lose their codes, and so the sessions that these started. -/
theorem revokeCodeSets_eq_ok_iff {matching : CodeSetRow → Prop} [DecidablePred matching] {now : Int}
    {changes : Nat} : revokeCodeSets matching now tables = .ok (changes, next) ↔
    (¬ ∃ set ∈ tables.codeSets, (set.revokedAt = none ∧ matching set) ∧ now < set.createdAt) ∧
      changes = (table.matched (fun set => set.revokedAt = none ∧ matching set) tables.codeSets).length ∧
      next = deleteCodes
        (fun code => ∃ set ∈ tables.codeSets, set.id = code.setId ∧ set.revokedAt = none ∧ matching set)
        { tables with
          codeSets := table.update (fun set => set.revokedAt = none ∧ matching set)
            (fun set => { set with revokedAt := some now }) tables.codeSets } := by
  rw [revokeCodeSets, throwIf_bind_eq_ok_iff, pure_eq_ok_iff, Prod.mk.injEq, eq_comm (a := changes),
    eq_comm (a := next)]

theorem revokeCodeSets_kept {matching : CodeSetRow → Prop} [DecidablePred matching] {now : Int} {changes : Nat}
    (hrevoke : revokeCodeSets matching now tables = .ok (changes, next)) :
    Kept known generated tables next := by
  obtain ⟨-, -, rfl⟩ := revokeCodeSets_eq_ok_iff.mp hrevoke
  intro hsound
  let revoking := fun set : CodeSetRow => set.revokedAt = none ∧ matching set
  have hold : ∀ later ∈ table.update revoking (fun set => { set with revokedAt := some now }) tables.codeSets,
      ∃ set ∈ tables.codeSets, set.id = later.id ∧ set.userId = later.userId ∧
        set.generation = later.generation ∧ (set.revokedAt ≠ none → later.revokedAt ≠ none) ∧
        (later.revokedAt = none → later = set) := by
    intro later hlater
    rcases table.mem_update.mp hlater with ⟨set, hset, -, rfl⟩ | ⟨hlater, -⟩
    · exact ⟨set, hset, rfl, rfl, rfl, fun _ => Option.some_ne_none now,
        fun h => absurd h (Option.some_ne_none now)⟩
    · exact ⟨later, hlater, rfl, rfl, rfl, id, fun _ => rfl⟩
  -- A code that stays is of a set that is not revoked here.
  have hsets : ∀ code ∈ tables.codes, (¬ ∃ set ∈ tables.codeSets, set.id = code.setId ∧ revoking set) →
      ∃ set ∈ table.update revoking (fun set => { set with revokedAt := some now }) tables.codeSets,
        set.id = code.setId ∧ set.revokedAt = none := by
    intro code hcode hnot
    obtain ⟨set, hset, hid, hactive⟩ := hsound.codeSets code hcode
    exact ⟨set, table.mem_update_of_not hset fun h => hnot ⟨set, hset, hid, h⟩, hid, hactive⟩
  have hsound' : Tables.Sound generated (deleteCodes
      (fun code => ∃ set ∈ tables.codeSets, set.id = code.setId ∧ revoking set)
      { tables with
        codeSets := table.update revoking (fun set => { set with revokedAt := some now }) tables.codeSets }) := by
    refine { passkeys := hsound.passkeys, audits := hsound.audits, sets := ?_, setIds := ?_, active := ?_,
             codes := ?_, codeIds := ?_, codeSets := ?_, users := ?_, sources := ?_, owners := ?_ }
    · intro later hlater
      obtain ⟨set, hset, hid, -⟩ := hold later hlater
      exact hid ▸ hsound.sets set hset
    · exact table.nodup_map_update hsound.setIds fun _ => rfl
    · intro left hleft right hright hleftActive hrightActive huser
      obtain ⟨first, hfirst, -, -, -, -, hfirstSame⟩ := hold left hleft
      obtain ⟨second, hsecond, -, -, -, -, hsecondSame⟩ := hold right hright
      cases hfirstSame hleftActive
      cases hsecondSame hrightActive
      exact hsound.active left hfirst right hsecond hleftActive hrightActive huser
    · exact fun code hcode => hsound.codes code (table.mem_delete.mp hcode).1
    · exact table.nodup_map_delete hsound.codeIds
    · intro code hcode
      obtain ⟨hcode, hnot⟩ := table.mem_delete.mp hcode
      exact hsets code hcode hnot
    · exact table.nodup_map_delete hsound.users
    · intro session hsession
      obtain ⟨hsession, hnot⟩ := table.mem_delete.mp hsession
      obtain ⟨code, hcode, hid, hset, hconsumed⟩ := hsound.sources session hsession
      exact ⟨code, table.mem_delete.mpr ⟨hcode, fun h => hnot ⟨code, hcode, hid, hset, h⟩⟩, hid, hset, hconsumed⟩
    · intro session hsession
      obtain ⟨hsession, -⟩ := table.mem_delete.mp hsession
      obtain ⟨set, hset, hid, huser⟩ := hsound.owners session hsession
      by_cases hrevoking : revoking set
      · exact ⟨_, table.change_mem_update hset hrevoking, hid, huser⟩
      · exact ⟨set, table.mem_update_of_not hset hrevoking, hid, huser⟩
  refine ⟨hsound', ?_, ?_⟩
  · intro later hlater _
    obtain ⟨set, hset, hid, huser, hgeneration, hrevoked, -⟩ := hold later hlater
    exact ⟨set, hset, hid, huser, hgeneration, hrevoked⟩
  · exact fun later hlater _ => ⟨later, (table.mem_delete.mp hlater).1, rfl, id⟩

theorem consumeCodes_eq_ok_iff {matching : CodeRow → Prop} [DecidablePred matching] {now : Int}
    {changes : Nat} : consumeCodes matching now tables = .ok (changes, next) ↔
    (¬ ∃ code ∈ tables.codes, (code.consumedAt = none ∧ matching code) ∧
      ∃ set ∈ tables.codeSets, set.id = code.setId ∧ now < set.createdAt) ∧
      changes = (table.matched (fun code => code.consumedAt = none ∧ matching code) tables.codes).length ∧
      next = { tables with
        codes := table.update (fun code => code.consumedAt = none ∧ matching code)
          (fun code => { code with consumedAt := some now }) tables.codes } := by
  rw [consumeCodes, throwIf_bind_eq_ok_iff, pure_eq_ok_iff, Prod.mk.injEq, eq_comm (a := changes),
    eq_comm (a := next)]

theorem consumeCodes_kept {matching : CodeRow → Prop} [DecidablePred matching] {now : Int} {changes : Nat}
    (hconsume : consumeCodes matching now tables = .ok (changes, next)) : Kept known generated tables next := by
  obtain ⟨-, -, rfl⟩ := consumeCodes_eq_ok_iff.mp hconsume
  intro hsound
  let consuming := fun code : CodeRow => code.consumedAt = none ∧ matching code
  have hold : ∀ later ∈ table.update consuming (fun code => { code with consumedAt := some now }) tables.codes,
      ∃ code ∈ tables.codes, code.id = later.id ∧ code.setId = later.setId ∧
        (code.consumedAt ≠ none → later.consumedAt ≠ none) := by
    intro later hlater
    rcases table.mem_update.mp hlater with ⟨code, hcode, -, rfl⟩ | ⟨hlater, -⟩
    · exact ⟨code, hcode, rfl, rfl, fun _ => Option.some_ne_none now⟩
    · exact ⟨later, hlater, rfl, rfl, id⟩
  refine ⟨{ hsound with codes := ?_, codeIds := ?_, codeSets := ?_, sources := ?_ }, ?_, ?_⟩
  · intro later hlater
    obtain ⟨code, hcode, hid, -⟩ := hold later hlater
    exact hid ▸ hsound.codes code hcode
  · exact table.nodup_map_update hsound.codeIds fun _ => rfl
  · intro later hlater
    obtain ⟨code, hcode, -, hset, -⟩ := hold later hlater
    exact hset ▸ hsound.codeSets code hcode
  · intro session hsession
    obtain ⟨code, hcode, hid, hset, hconsumed⟩ := hsound.sources session hsession
    exact ⟨code, table.mem_update_of_not hcode fun h => hconsumed h.1, hid, hset, hconsumed⟩
  · exact fun later hlater _ => ⟨later, hlater, rfl, rfl, rfl, id⟩
  · intro later hlater _
    obtain ⟨code, hcode, hid, -, hconsumed⟩ := hold later hlater
    exact ⟨code, hcode, hid, hconsumed⟩

theorem insertRecoverySession_eq_ok_iff {session : RecoverySessionRow} :
    insertRecoverySession session tables = .ok next ↔
      tables.Source session ∧
        (unixepoch session.createdAt < unixepoch session.expiresAt ∧
          unixepoch session.expiresAt ≤ unixepoch session.createdAt + 600) ∧
        (¬ ∃ row ∈ tables.recoverySessions, row.id = session.id ∨ row.tokenHash = session.tokenHash ∨
          row.userId = session.userId) ∧
        next = { tables with recoverySessions := tables.recoverySessions ++ [session] } := by
  rw [insertRecoverySession, throwIf_bind_eq_ok_iff, throwIf_bind_eq_ok_iff, throwIf_bind_eq_ok_iff,
    pure_eq_ok_iff, not_not, not_not, eq_comm (a := next)]

theorem insertRecoverySession_kept {session : RecoverySessionRow}
    (hinsert : insertRecoverySession session tables = .ok next) : Kept known generated tables next := by
  obtain ⟨hsource, -, hunique, rfl⟩ := insertRecoverySession_eq_ok_iff.mp hinsert
  obtain ⟨-, set, hset, hsetId, huser, -, code, hcode, hcodeId, hcodeSet, consumedAt, hconsumed, -⟩ := hsource
  intro hsound
  refine ⟨{ hsound with users := ?_, sources := ?_, owners := ?_ }, .of_eq rfl rfl⟩
  · exact table.nodup_map_append hsound.users fun row hrow h => hunique ⟨row, hrow, .inr (.inr h)⟩
  · intro row hrow
    rcases List.mem_append.mp hrow with hold | hlast
    · exact hsound.sources row hold
    · cases List.mem_singleton.mp hlast
      exact ⟨code, hcode, hcodeId, hcodeSet.trans hsetId, Option.ne_none_iff_exists'.mpr ⟨consumedAt, hconsumed⟩⟩
  · intro row hrow
    rcases List.mem_append.mp hrow with hold | hlast
    · exact hsound.owners row hold
    · cases List.mem_singleton.mp hlast
      exact ⟨set, hset, hsetId, huser⟩

theorem insertChallenge_kept {challenge : ChallengeRow} (hinsert : insertChallenge challenge tables = .ok next) :
    Kept known generated tables next := by
  rw [insertChallenge, throwIf_bind_eq_ok_iff, throwIf_bind_eq_ok_iff, pure_eq_ok_iff] at hinsert
  obtain ⟨-, -, rfl⟩ := hinsert
  exact .of_eq (fun _ h => h) rfl rfl rfl rfl

/-- What a guarded insert does: its insert when the guard holds, else nothing. -/
theorem insertWhere_eq_ok_iff {guard : Prop} [Decidable guard] {insert : Tables → Except StoreError Tables}
    {changes : Nat} : insertWhere guard insert tables = .ok (changes, next) ↔
      (guard ∧ changes = 1 ∧ insert tables = .ok next) ∨ (¬ guard ∧ changes = 0 ∧ next = tables) := by
  unfold insertWhere
  by_cases hguard : guard
  · rw [if_pos hguard, bind_eq_ok_iff]
    constructor
    · rintro ⟨inserted, hinsert, heq⟩
      cases heq
      exact .inl ⟨hguard, rfl, hinsert⟩
    · rintro (⟨-, rfl, hinsert⟩ | ⟨hnot, -⟩)
      · exact ⟨next, hinsert, rfl⟩
      · exact absurd hguard hnot
  · rw [if_neg hguard, pure_eq_ok_iff]
    constructor
    · intro heq
      cases heq
      exact .inr ⟨hguard, rfl, rfl⟩
    · rintro (⟨h, -⟩ | ⟨-, rfl, rfl⟩)
      · exact absurd h hguard
      · rfl

theorem insertWhere_kept {guard : Prop} [Decidable guard] {insert : Tables → Except StoreError Tables}
    {changes : Nat} (hinsert : ∀ {after}, insert tables = .ok after → Kept known generated tables after)
    (hok : insertWhere guard insert tables = .ok (changes, next)) : Kept known generated tables next := by
  rcases insertWhere_eq_ok_iff.mp hok with ⟨-, -, h⟩ | ⟨-, -, rfl⟩
  · exact hinsert h
  · exact .refl

theorem insertCodes_kept {setId userId eventId : Text} {codes : List (Text × Text)} {ordinal : Nat}
    {changes : List Nat} (hknown : ∀ code ∈ codes, code.1 ∉ known ∧ code.1 ∈ generated)
    (hinsert : insertCodes setId userId eventId codes ordinal tables = .ok (changes, next)) :
    Kept known generated tables next := by
  induction codes generalizing ordinal changes tables with
  | nil =>
    cases hinsert
    exact .refl
  | cons code rest ih =>
    obtain ⟨hfirst, hrest⟩ := List.forall_mem_cons.mp hknown
    rw [insertCodes, bind_eq_ok_iff] at hinsert
    obtain ⟨⟨inserted, middle⟩, hinserted, hinsert⟩ := hinsert
    obtain ⟨⟨others, last⟩, hothers, heq⟩ := bind_eq_ok_iff.mp hinsert
    cases heq
    exact (insertWhere_kept (insertCode_kept hfirst.1 hfirst.2) hinserted).trans (ih hrest hothers)

end statements

section batches

variable {known generated : List Text} {tables next : Tables} {result : Bool}

theorem startRecovery_kept {input : StartInput} (hid : input.eventId ∈ generated)
    (hstart : startRecovery input tables = .ok (result, next)) : Kept known generated tables next := by
  rw [startRecovery] at hstart
  obtain ⟨⟨audits, audited⟩, haudit, hstart⟩ := bind_eq_ok_iff.mp hstart
  obtain ⟨⟨changes, consumed⟩, hconsume, hstart⟩ := bind_eq_ok_iff.mp hstart
  obtain ⟨⟨sessions, last⟩, hsession, heq⟩ := bind_eq_ok_iff.mp hstart
  cases heq
  exact (deleteRecoverySessions_kept _).trans
    (((insertWhere_kept (insertAudit_kept hid) haudit).trans (consumeCodes_kept hconsume)).trans
      (insertWhere_kept insertRecoverySession_kept hsession))

theorem storeChallenge_kept {session : RecoverySession} {challengeId challenge : Text} {now : Int}
    (hstore : storeChallenge session challengeId challenge now tables = .ok (result, next)) :
    Kept known generated tables next := by
  rw [storeChallenge] at hstore
  obtain ⟨⟨stored, last⟩, hinsert, heq⟩ := bind_eq_ok_iff.mp hstore
  cases heq
  refine Kept.trans ?_ (insertWhere_kept insertChallenge_kept hinsert)
  exact .of_eq (fun _ h => h) rfl rfl rfl rfl

theorem completeRecovery_kept {session : RecoverySession} {tokenHash : Text} {completion : Completion}
    (hids : ∀ id ∈ completion.ids, id ∉ known ∧ id ∈ generated)
    (hcomplete : completeRecovery session tokenHash completion tables = .ok (result, next)) :
    Kept known generated tables next := by
  rw [completeRecovery] at hcomplete
  obtain ⟨⟨passkeys, first⟩, hpasskey, hcomplete⟩ := bind_eq_ok_iff.mp hcomplete
  obtain ⟨⟨audits, second⟩, haudit, hcomplete⟩ := bind_eq_ok_iff.mp hcomplete
  obtain ⟨⟨revoked, third⟩, hrevoke, hcomplete⟩ := bind_eq_ok_iff.mp hcomplete
  obtain ⟨⟨sets, fourth⟩, hset, hcomplete⟩ := bind_eq_ok_iff.mp hcomplete
  obtain ⟨⟨codes, fifth⟩, hcodes, heq⟩ := bind_eq_ok_iff.mp hcomplete
  cases heq
  have hpasskeyId := hids completion.passkeyId List.mem_cons_self
  have heventId := hids completion.eventId (List.mem_cons_of_mem _ List.mem_cons_self)
  have hsetId := hids completion.nextSetId (List.mem_cons_of_mem _ (List.mem_cons_of_mem _ List.mem_cons_self))
  have hcodeIds : ∀ code ∈ completion.generated.codes, code.1 ∉ known ∧ code.1 ∈ generated := by
    intro code hcode
    apply hids code.1
    exact List.mem_cons_of_mem _ (List.mem_cons_of_mem _ (List.mem_cons_of_mem _ (List.mem_map_of_mem hcode)))
  have hinserted : Kept known generated tables second :=
    (insertWhere_kept (insertPasskey_kept hpasskeyId.2) hpasskey).trans
      (insertWhere_kept (insertAudit_kept heventId.2) haudit)
  have hreplaced : Kept known generated second fourth := (revokeCodeSets_kept hrevoke).trans
    (insertWhere_kept (insertCodeSet_kept hsetId.1 hsetId.2) hset)
  have hlast : Kept known generated fifth
      (logoutUser session.userId completion.eventId completion.now fifth) :=
    .of_eq (fun _ h => h) rfl rfl rfl rfl
  exact (hinserted.trans hreplaced).trans ((insertCodes_kept hcodeIds hcodes).trans hlast)

theorem rotateCodes_kept {management : Management} {setId : Text} {codes : GeneratedCodes}
    (hevent : management.eventId ∈ generated) (hset : setId ∉ known ∧ setId ∈ generated)
    (hcodes : ∀ code ∈ codes.codes, code.1 ∉ known ∧ code.1 ∈ generated)
    (hrotate : rotateCodes management setId codes tables = .ok (result, next)) :
    Kept known generated tables next := by
  rw [rotateCodes] at hrotate
  obtain ⟨⟨audits, first⟩, haudit, hrotate⟩ := bind_eq_ok_iff.mp hrotate
  obtain ⟨⟨revoked, second⟩, hrevoke, hrotate⟩ := bind_eq_ok_iff.mp hrotate
  obtain ⟨⟨sets, third⟩, hinsert, hrotate⟩ := bind_eq_ok_iff.mp hrotate
  obtain ⟨⟨inserted, last⟩, hlast, heq⟩ := bind_eq_ok_iff.mp hrotate
  cases heq
  have hrevoked : Kept known generated tables second :=
    (insertWhere_kept (insertAudit_kept hevent) haudit).trans (revokeCodeSets_kept hrevoke)
  exact (hrevoked.trans (insertWhere_kept (insertCodeSet_kept hset.1 hset.2) hinsert)).trans
    (insertCodes_kept hcodes hlast)

theorem deleteCodeSet_kept {management : Management} (hevent : management.eventId ∈ generated)
    (hdelete : deleteCodeSet management tables = .ok (result, next)) : Kept known generated tables next := by
  rw [deleteCodeSet] at hdelete
  obtain ⟨⟨audits, first⟩, haudit, hdelete⟩ := bind_eq_ok_iff.mp hdelete
  obtain ⟨⟨revoked, second⟩, hrevoke, heq⟩ := bind_eq_ok_iff.mp hdelete
  cases heq
  exact (insertWhere_kept (insertAudit_kept hevent) haudit).trans (revokeCodeSets_kept hrevoke)

end batches

end pgid.recovery
