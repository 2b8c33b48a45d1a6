import PgidSso.Recovery.Lifecycle

open checked transition

namespace pgid.recovery

/-- Tables that keep the passkeys of others, and the ids of the passkeys as keys. -/
def Grown (before after : Tables) : Prop :=
  (before.passkeys.map (·.id)).Nodup → (after.passkeys.map (·.id)).Nodup ∧ before.passkeys ⊆ after.passkeys

section statements

variable {before middle after tables next : Tables} {changes : Nat}

theorem Grown.of_eq (hpasskeys : after.passkeys = before.passkeys) : Grown before after :=
  fun hkeys => ⟨hpasskeys ▸ hkeys, fun _ hpasskey => hpasskeys ▸ hpasskey⟩

theorem Grown.trans (hfirst : Grown before middle) (hsecond : Grown middle after) : Grown before after := by
  intro hkeys
  obtain ⟨hmiddle, hkept⟩ := hfirst hkeys
  obtain ⟨hafter, hlater⟩ := hsecond hmiddle
  exact ⟨hafter, fun _ hpasskey => hlater (hkept hpasskey)⟩

theorem insertPasskey_grown {passkey : PasskeyRow} (hinsert : insertPasskey passkey tables = .ok next) :
    Grown tables next := by
  rw [insertPasskey, throwIf_bind_eq_ok_iff, pure_eq_ok_iff] at hinsert
  obtain ⟨hnew, rfl⟩ := hinsert
  intro hkeys
  refine ⟨table.nodup_map_append hkeys ?_, List.subset_append_left _ _⟩
  exact fun row hrow hid => hnew ⟨row, hrow, .inl hid⟩

theorem insertAudit_grown {event : AuditRow} (hinsert : insertAudit event tables = .ok next) :
    Grown tables next := by
  rw [insertAudit, throwIf_bind_eq_ok_iff, pure_eq_ok_iff] at hinsert
  obtain ⟨-, rfl⟩ := hinsert
  exact .of_eq rfl

theorem insertCodeSet_grown {set : CodeSetRow} (hinsert : insertCodeSet set tables = .ok next) :
    Grown tables next := by
  obtain ⟨-, -, -, rfl⟩ := insertCodeSet_eq_ok_iff.mp hinsert
  exact .of_eq rfl

theorem insertCode_grown {code : CodeRow} (hinsert : insertCode code tables = .ok next) : Grown tables next := by
  obtain ⟨-, -, -, -, rfl⟩ := insertCode_eq_ok_iff.mp hinsert
  exact .of_eq rfl

theorem revokeCodeSets_grown {matching : CodeSetRow → Prop} [DecidablePred matching] {now : Int}
    (hrevoke : revokeCodeSets matching now tables = .ok (changes, next)) : Grown tables next := by
  obtain ⟨-, -, rfl⟩ := revokeCodeSets_eq_ok_iff.mp hrevoke
  exact .of_eq rfl

theorem consumeCodes_grown {matching : CodeRow → Prop} [DecidablePred matching] {now : Int}
    (hconsume : consumeCodes matching now tables = .ok (changes, next)) : Grown tables next := by
  obtain ⟨-, -, rfl⟩ := consumeCodes_eq_ok_iff.mp hconsume
  exact .of_eq rfl

theorem insertRecoverySession_grown {session : RecoverySessionRow}
    (hinsert : insertRecoverySession session tables = .ok next) : Grown tables next := by
  obtain ⟨-, -, -, rfl⟩ := insertRecoverySession_eq_ok_iff.mp hinsert
  exact .of_eq rfl

theorem insertChallenge_grown {challenge : ChallengeRow} (hinsert : insertChallenge challenge tables = .ok next) :
    Grown tables next := by
  rw [insertChallenge, throwIf_bind_eq_ok_iff, throwIf_bind_eq_ok_iff, pure_eq_ok_iff] at hinsert
  obtain ⟨-, -, rfl⟩ := hinsert
  exact .of_eq rfl

theorem insertWhere_grown {guard : Prop} [Decidable guard] {insert : Tables → Except StoreError Tables}
    (hinsert : ∀ {after}, insert tables = .ok after → Grown tables after)
    (hok : insertWhere guard insert tables = .ok (changes, next)) : Grown tables next := by
  rcases insertWhere_eq_ok_iff.mp hok with ⟨-, -, h⟩ | ⟨-, -, rfl⟩
  · exact hinsert h
  · exact .of_eq rfl

theorem insertCodes_grown {setId userId eventId : Text} {codes : List (Text × Text)} {ordinal : Nat}
    {inserted : List Nat} (hinsert : insertCodes setId userId eventId codes ordinal tables = .ok (inserted, next)) :
    Grown tables next := by
  induction codes generalizing ordinal inserted tables with
  | nil =>
    cases hinsert
    exact .of_eq rfl
  | cons code rest ih =>
    rw [insertCodes, bind_eq_ok_iff] at hinsert
    obtain ⟨⟨first, middle⟩, hfirst, hinsert⟩ := hinsert
    obtain ⟨⟨others, last⟩, hothers, heq⟩ := bind_eq_ok_iff.mp hinsert
    cases heq
    exact (insertWhere_grown insertCode_grown hfirst).trans (ih hothers)

end statements

section batches

variable {tables next : Tables} {result : Bool}

theorem startRecovery_grown {input : StartInput} (hstart : startRecovery input tables = .ok (result, next)) :
    Grown tables next := by
  rw [startRecovery] at hstart
  obtain ⟨⟨audits, first⟩, hfirst, hstart⟩ := bind_eq_ok_iff.mp hstart
  obtain ⟨⟨consumed, second⟩, hsecond, hstart⟩ := bind_eq_ok_iff.mp hstart
  obtain ⟨⟨sessions, third⟩, hthird, heq⟩ := bind_eq_ok_iff.mp hstart
  cases heq
  have haudits := insertWhere_grown insertAudit_grown hfirst
  have hsessions := insertWhere_grown insertRecoverySession_grown hthird
  exact Grown.trans (.of_eq rfl) (haudits.trans ((consumeCodes_grown hsecond).trans hsessions))

theorem storeChallenge_grown {session : RecoverySession} {challengeId challenge : Text} {now : Int}
    (hstore : storeChallenge session challengeId challenge now tables = .ok (result, next)) :
    Grown tables next := by
  rw [storeChallenge] at hstore
  obtain ⟨⟨stored, after⟩, hstored, heq⟩ := bind_eq_ok_iff.mp hstore
  cases heq
  have hinserted := insertWhere_grown insertChallenge_grown hstored
  exact Grown.trans (.of_eq rfl) hinserted

theorem completeRecovery_grown {session : RecoverySession} {tokenHash : Text} {completion : Completion}
    (hcomplete : completeRecovery session tokenHash completion tables = .ok (result, next)) :
    Grown tables next := by
  rw [completeRecovery] at hcomplete
  obtain ⟨⟨passkeys, first⟩, hfirst, hcomplete⟩ := bind_eq_ok_iff.mp hcomplete
  obtain ⟨⟨audits, second⟩, hsecond, hcomplete⟩ := bind_eq_ok_iff.mp hcomplete
  obtain ⟨⟨revoked, third⟩, hthird, hcomplete⟩ := bind_eq_ok_iff.mp hcomplete
  obtain ⟨⟨sets, fourth⟩, hfourth, hcomplete⟩ := bind_eq_ok_iff.mp hcomplete
  obtain ⟨⟨codes, fifth⟩, hfifth, heq⟩ := bind_eq_ok_iff.mp hcomplete
  cases heq
  have hpasskeys := insertWhere_grown insertPasskey_grown hfirst
  have haudits := insertWhere_grown insertAudit_grown hsecond
  have hsets := insertWhere_grown insertCodeSet_grown hfourth
  have hcodes := (revokeCodeSets_grown hthird).trans (hsets.trans (insertCodes_grown hfifth))
  exact hpasskeys.trans (haudits.trans (hcodes.trans (.of_eq rfl)))

theorem rotateCodes_grown {management : Management} {setId : Text} {generated : GeneratedCodes}
    (hrotate : rotateCodes management setId generated tables = .ok (result, next)) : Grown tables next := by
  rw [rotateCodes] at hrotate
  obtain ⟨⟨audits, first⟩, hfirst, hrotate⟩ := bind_eq_ok_iff.mp hrotate
  obtain ⟨⟨revoked, second⟩, hsecond, hrotate⟩ := bind_eq_ok_iff.mp hrotate
  obtain ⟨⟨sets, third⟩, hthird, hrotate⟩ := bind_eq_ok_iff.mp hrotate
  obtain ⟨⟨codes, fourth⟩, hfourth, heq⟩ := bind_eq_ok_iff.mp hrotate
  cases heq
  have haudits := insertWhere_grown insertAudit_grown hfirst
  have hsets := insertWhere_grown insertCodeSet_grown hthird
  exact haudits.trans ((revokeCodeSets_grown hsecond).trans (hsets.trans (insertCodes_grown hfourth)))

theorem deleteCodeSet_grown {management : Management} (hdelete : deleteCodeSet management tables = .ok (result, next)) :
    Grown tables next := by
  rw [deleteCodeSet] at hdelete
  obtain ⟨⟨audits, first⟩, hfirst, hdelete⟩ := bind_eq_ok_iff.mp hdelete
  obtain ⟨⟨revoked, second⟩, hsecond, heq⟩ := bind_eq_ok_iff.mp hdelete
  cases heq
  exact (insertWhere_grown insertAudit_grown hfirst).trans (revokeCodeSets_grown hsecond)

end batches

/-- A step of recovery takes no passkey away, unless it is the deletion of passkeys. -/
theorem perform_grown {stepUpMaxAgeMs : Int} {system next : System} {action : Action} {event : Event}
    (hperform : perform stepUpMaxAgeMs system action = some (event, next))
    (haction : ∀ ids, action ≠ .deletePasskeys ids) : Grown system.toTables next.toTables := by
  cases action with
  | deletePasskeys ids => exact absurd rfl (haction ids)
  | registerUser userId =>
    rw [perform] at hperform
    split at hperform
    · cases hperform
    · cases hperform
      exact .of_eq rfl
  | registerPasskey passkey =>
    rw [perform] at hperform
    split at hperform
    · cases hperform
    · split at hperform
      · cases hperform
      · rename_i tables hinsert
        cases hperform
        exact insertPasskey_grown hinsert
  | setStatus | writeSessions | writeTokens | cancel =>
    cases hperform
    exact .of_eq rfl
  | requestStart call codeHash =>
    rw [perform] at hperform
    split at hperform
    · cases hperform
    · cases hperform
      exact .of_eq rfl
  | start call input =>
    rw [perform] at hperform
    split at hperform
    · split at hperform
      · split at hperform
        · rename_i tables hstart
          cases hperform
          exact startRecovery_grown hstart
        · rename_i tables hstart
          cases hperform
          exact startRecovery_grown hstart
        · cases hperform
          exact .of_eq rfl
      · cases hperform
    · cases hperform
  | requestOptions | requestVerify | requestManagement =>
    rw [perform] at hperform
    split at hperform
    · cases hperform
      exact .of_eq rfl
    · cases hperform
  | storeChallenge call challengeId challenge =>
    rw [perform] at hperform
    split at hperform
    · split at hperform
      · rename_i stored tables hstore
        cases hperform
        exact storeChallenge_grown hstore
      · cases hperform
        exact .of_eq rfl
    · cases hperform
  | takeChallenge call challengeId =>
    rw [perform] at hperform
    split at hperform
    · split at hperform
      · cases hperform
        exact .of_eq rfl
      · rename_i challenge tables htake
        cases hperform
        obtain ⟨challenges, rfl⟩ := takeChallenge_eq_some htake
        exact .of_eq rfl
    · cases hperform
  | complete call completion =>
    rw [perform] at hperform
    split at hperform
    · split at hperform
      · split at hperform
        · rename_i tables hcomplete
          cases hperform
          exact completeRecovery_grown hcomplete
        · rename_i tables hcomplete
          cases hperform
          exact completeRecovery_grown hcomplete
        · cases hperform
          exact .of_eq rfl
      · cases hperform
    · cases hperform
  | rotate call eventId setId generated now =>
    rw [perform] at hperform
    split at hperform
    · cases hperform
    · dsimp only at hperform
      split at hperform
      · split at hperform
        · rename_i result tables hrotate
          cases hperform
          exact rotateCodes_grown hrotate
        · cases hperform
          exact .of_eq rfl
      · cases hperform
  | deleteSet call eventId now =>
    rw [perform] at hperform
    split at hperform
    · cases hperform
    · split at hperform
      · split at hperform
        · rename_i result tables hdelete
          cases hperform
          exact deleteCodeSet_grown hdelete
        · cases hperform
          exact .of_eq rfl
      · cases hperform

end pgid.recovery
