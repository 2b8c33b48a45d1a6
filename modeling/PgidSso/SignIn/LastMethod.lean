import PgidSso.Recovery.Passkeys
import PgidSso.SignIn.System

open checked transition

namespace pgid.signin

def Tables.HasMethod (tables : Tables) (userId : Text) : Prop :=
  (∃ account ∈ tables.accounts, account.userId = userId) ∨
    ∃ passkey ∈ tables.recovery.passkeys, passkey.userId = userId

/-- The check of a passkey deletion, made again on the tables that its `DELETE` finds the
passkey in, does not refuse it. -/
def Event.Unblocked (event : Event) : Prop :=
  match event.kind with
  | .deletePasskey userId id =>
    (∃ passkey ∈ event.before.recovery.passkeys, passkey.id = id ∧ passkey.userId = userId) →
      ¬ lastLoginMethod (loginMethodCounts userId event.before)
  | _ => True

instance (event : Event) : Decidable event.Unblocked := by
  unfold Event.Unblocked
  cases event.kind <;> infer_instance

/-- A step that leaves every user who has a sign-in method with one, and that removes the
last linked account of a user only beside a passkey and a recovery code. -/
structure Event.Safe (event : Event) : Prop where
  kept : ∀ userId, event.before.HasMethod userId → event.after.HasMethod userId
  last : ∀ userId, (∃ account ∈ event.before.accounts, account.userId = userId) →
    (¬ ∃ account ∈ event.after.accounts, account.userId = userId) →
    (∃ passkey ∈ event.before.recovery.passkeys, passkey.userId = userId) ∧
      ∃ accountId now, event.kind = .deleteAccount userId accountId now ∧ event.before.HasRecoveryCode userId now

section counts

variable {tables : Tables} {userId : Text}

theorem accounts_eq_zero_iff :
    (loginMethodCounts userId tables).accounts = 0 ↔ ∀ account ∈ tables.accounts, account.userId ≠ userId := by
  rw [loginMethodCounts, List.length_eq_zero_iff]
  exact table.matched_eq_nil_iff

theorem passkeys_eq_zero_iff :
    (loginMethodCounts userId tables).passkeys = 0 ↔
      ∀ passkey ∈ tables.recovery.passkeys, passkey.userId ≠ userId := by
  rw [loginMethodCounts, List.length_eq_zero_iff]
  exact table.matched_eq_nil_iff

theorem hasMethod_of_accounts (haccounts : (loginMethodCounts userId tables).accounts ≠ 0) :
    ∃ account ∈ tables.accounts, account.userId = userId := by
  by_contra hnone
  exact haccounts (accounts_eq_zero_iff.mpr fun account hmem huser => hnone ⟨account, hmem, huser⟩)

theorem hasMethod_of_passkeys (hpasskeys : (loginMethodCounts userId tables).passkeys ≠ 0) :
    ∃ passkey ∈ tables.recovery.passkeys, passkey.userId = userId := by
  by_contra hnone
  exact hpasskeys (passkeys_eq_zero_iff.mpr fun passkey hmem huser => hnone ⟨passkey, hmem, huser⟩)

end counts

/-- What a step can do: it takes no sign-in method away, or it is one of the deletions. -/
inductive Move (recoveryEnabled : Bool) : Event → Prop
  | grow {before after : Tables} (hpasskeys : recovery.Grown before.recovery after.recovery)
      (haccounts : (before.accounts.map (·.id)).Nodup →
        (after.accounts.map (·.id)).Nodup ∧ before.accounts ⊆ after.accounts) :
      Move recoveryEnabled { kind := .other, before, after }
  | deletePasskey (before : Tables) (userId id : Text) :
      Move recoveryEnabled
        { kind := .deletePasskey userId id, before, after := (before.deletePasskey userId id).2 }
  | deleteAccount (before : Tables) (userId accountId : Text) (now : Int) :
      Move recoveryEnabled
        { kind := .deleteAccount userId accountId now, before
          after := (before.deleteAccount recoveryEnabled userId accountId now).2 }

section moves

variable {recoveryEnabled : Bool} {tables : Tables}

/-- A statement that only reads. -/
theorem Move.read : Move recoveryEnabled { kind := .other, before := tables, after := tables } :=
  .grow (.of_eq rfl) fun hkeys => ⟨hkeys, List.Subset.refl _⟩

theorem insertAccount_move {account : AccountRow} {changes : Nat} {after : Tables}
    (hinsert : tables.insertAccount account = .ok (changes, after)) :
    Move recoveryEnabled { kind := .other, before := tables, after } := by
  rw [Tables.insertAccount, throwIf_bind_eq_ok_iff] at hinsert
  obtain ⟨-, hinsert⟩ := hinsert
  split at hinsert
  · cases hinsert
    exact .read
  · rename_i hnew
    obtain ⟨-, heq⟩ := throwIf_bind_eq_ok_iff.mp hinsert
    cases heq
    refine .grow (.of_eq rfl) fun hkeys => ⟨?_, List.subset_append_left _ _⟩
    exact table.nodup_map_append hkeys fun row hrow hid => hnew ⟨row, hrow, .inl hid⟩

/-- The next statement of a request. -/
theorem Call.run_move {now : Int} {id : Text} {call next : Call} {kind : Kind} {after : Tables}
    (hrun : call.run recoveryEnabled now id tables = some (kind, after, next)) :
    Move recoveryEnabled { kind, before := tables, after } := by
  cases call with
  | deletePasskey request =>
    cases hrun
    exact .deletePasskey tables request.userId request.id
  | deleteAccount request now =>
    cases hrun
    exact .deleteAccount tables request.userId request.accountId now
  | insertAccount request =>
    rw [Call.run] at hrun
    split at hrun
    · rename_i inserted hinsert
      cases hrun
      exact insertAccount_move hinsert
    · rename_i changes inserted hchanges hinsert
      cases hrun
      exact insertAccount_move hinsert
    · cases hrun
      exact .read
  | closed response => cases hrun
  | findRecoveryCodes request instant =>
    rw [Call.run] at hrun
    split at hrun <;> cases hrun <;> exact .read
  | refreshCounts request =>
    cases hrun
    exact .read
  | countLoginMethods request =>
    rw [Call.run] at hrun
    split at hrun
    · cases hrun
      exact .read
    · split at hrun
      · split at hrun <;> cases hrun <;> exact .read
      · cases hrun
        exact .read
  | countAccounts request | readAccess request =>
    rw [Call.run] at hrun
    split at hrun
    · cases hrun
      exact .read
    · split at hrun <;> cases hrun <;> exact .read
  | findPasskey request | countPasskeys request | requireActiveUser request | findAccount request
  | stillOwned request | findOwner request =>
    rw [Call.run] at hrun
    split at hrun <;> cases hrun <;> exact .read

theorem System.start_move {system next : System} {call : Nat} {phase : Call} {event : Event}
    (hstart : system.start call phase = some (event, next)) :
    event.before = system.tables ∧ event.after = next.tables ∧ Move recoveryEnabled event := by
  rw [System.start] at hstart
  split at hstart
  · cases hstart
  · cases hstart
    exact ⟨rfl, rfl, .read⟩

theorem move_of_step {stepUpMaxAgeMs : Int} {system next : System} {event : Event}
    (hstep : Step recoveryEnabled stepUpMaxAgeMs system event next) :
    event.before = system.tables ∧ event.after = next.tables ∧ Move recoveryEnabled event := by
  obtain ⟨action, hperform⟩ := hstep
  cases action with
  | recover action =>
    by_cases hdelete : ∃ ids, action = .deletePasskeys ids
    · obtain ⟨ids, rfl⟩ := hdelete
      cases hperform
    · have haction : ∀ ids, action ≠ .deletePasskeys ids := fun ids h => hdelete ⟨ids, h⟩
      rw [perform] at hperform
      · obtain ⟨⟨recovered, reached⟩, hrecover, heq⟩ := Option.map_eq_some_iff.mp hperform
        cases heq
        refine ⟨rfl, rfl, .grow (recovery.perform_grown hrecover haction) ?_⟩
        exact fun hkeys => ⟨hkeys, List.Subset.refl _⟩
      · exact haction
  | restrict userIds =>
    cases hperform
    exact ⟨rfl, rfl, .grow (.of_eq rfl) fun hkeys => ⟨hkeys, List.Subset.refl _⟩⟩
  | requestPasskeyDeletion call session id => exact System.start_move hperform
  | requestUnlink call session accountId => exact System.start_move hperform
  | requestTelegramLink call session telegramId => exact System.start_move hperform
  | advance call now id =>
    rw [perform, Option.bind_eq_bind, Option.bind_eq_some_iff] at hperform
    obtain ⟨phase, -, hperform⟩ := hperform
    obtain ⟨⟨kind, after, reached⟩, hrun, heq⟩ := Option.bind_eq_some_iff.mp hperform
    cases heq
    exact ⟨rfl, rfl, Call.run_move hrun⟩

end moves

section deletions

variable {recoveryEnabled : Bool} {tables : Tables} {userId id : Text}

/-- A passkey that is not the last sign-in method leaves another one. -/
theorem deletePasskey_kept (hkeyed : tables.Keyed)
    (hunblocked : (∃ passkey ∈ tables.recovery.passkeys, passkey.id = id ∧ passkey.userId = userId) →
      ¬ lastLoginMethod (loginMethodCounts userId tables)) {owner : Text} (hmethod : tables.HasMethod owner) :
    (tables.deletePasskey userId id).2.HasMethod owner := by
  rcases hmethod with haccount | ⟨passkey, hpasskey, howner⟩
  · exact .inl haccount
  by_cases hdeleted : passkey.id = id ∧ passkey.userId = userId
  · obtain ⟨hid, huser⟩ := hdeleted
    cases howner
    cases huser
    have hnot := hunblocked ⟨passkey, hpasskey, hid, rfl⟩
    by_cases haccounts : (loginMethodCounts passkey.userId tables).accounts = 0
    · have hmany : 1 < (loginMethodCounts passkey.userId tables).passkeys := by
        by_contra hone
        exact hnot ⟨not_lt.mp hone, haccounts⟩
      obtain ⟨other, hother, hsame, hne⟩ := table.exists_other_key hkeyed.passkeys id hmany
      exact .inr ⟨other, table.mem_delete.mpr ⟨hother, fun h => hne h.1⟩, hsame⟩
    · exact .inl (hasMethod_of_accounts haccounts)
  · exact .inr ⟨passkey, table.mem_delete.mpr ⟨hpasskey, hdeleted⟩, howner⟩

/-- A passkey that is the last sign-in method leaves none. -/
theorem deletePasskey_last {passkey : recovery.PasskeyRow} (hpasskey : passkey ∈ tables.recovery.passkeys)
    (hid : passkey.id = id) (huser : passkey.userId = userId)
    (hlast : lastLoginMethod (loginMethodCounts userId tables)) :
    ¬ (tables.deletePasskey userId id).2.HasMethod userId := by
  rintro (⟨account, haccount, howner⟩ | ⟨other, hother, howner⟩)
  · exact accounts_eq_zero_iff.mp hlast.2 account haccount howner
  · obtain ⟨hother, hkept⟩ := table.mem_delete.mp hother
    have hsame : other = passkey := table.eq_of_length_le_one hlast.1 hother howner hpasskey huser
    exact hkept ⟨hsame ▸ hid, howner⟩

/-- What the guards of the deletion of an account say of the account that it deletes. -/
theorem deleteAccount_guarded {accountId : Text} {now : Int} {account : AccountRow}
    (haccount : account ∈ tables.accounts)
    (hgone : account ∉ (tables.deleteAccount recoveryEnabled userId accountId now).2.accounts) :
    account.id = accountId ∧ account.userId = userId ∧
      (1 < (loginMethodCounts userId tables).accounts ∨
        (recoveryEnabled = true ∧ tables.HasRecoveryCode userId now)) ∧
      1 < (loginMethodCounts userId tables).accounts + (loginMethodCounts userId tables).passkeys := by
  by_contra hnot
  exact hgone (table.mem_delete.mpr ⟨haccount, hnot⟩)

/-- An account of a user with several leaves another one, and a last account leaves a
passkey beside a recovery code. -/
theorem deleteAccount_last {accountId : Text} {now : Int} {owner : Text} (hkeyed : tables.Keyed)
    (haccount : ∃ account ∈ tables.accounts, account.userId = owner)
    (hlast : ¬ ∃ account ∈ (tables.deleteAccount recoveryEnabled userId accountId now).2.accounts,
      account.userId = owner) :
    owner = userId ∧ (∃ passkey ∈ tables.recovery.passkeys, passkey.userId = owner) ∧
      tables.HasRecoveryCode owner now := by
  obtain ⟨account, hmem, rfl⟩ := haccount
  have hgone : account ∉ (tables.deleteAccount recoveryEnabled userId accountId now).2.accounts :=
    fun h => hlast ⟨account, h, rfl⟩
  obtain ⟨hid, rfl, hguard, htotal⟩ := deleteAccount_guarded hmem hgone
  have hone : (loginMethodCounts account.userId tables).accounts ≤ 1 := by
    by_contra hmany
    obtain ⟨other, hother, hsame, hne⟩ := table.exists_other_key hkeyed.accounts accountId (not_le.mp hmany)
    exact hlast ⟨other, table.mem_delete.mpr ⟨hother, fun h => hne h.1⟩, hsame⟩
  refine ⟨rfl, hasMethod_of_passkeys (by omega), ?_⟩
  rcases hguard with hmany | ⟨-, hcode⟩
  · exact absurd hmany (not_lt.mpr hone)
  · exact hcode

end deletions

section steps

variable {recoveryEnabled : Bool} {event : Event}

theorem Move.keyed (hmove : Move recoveryEnabled event) (hkeyed : event.before.Keyed) : event.after.Keyed := by
  cases hmove with
  | grow hpasskeys haccounts => exact ⟨(hpasskeys hkeyed.passkeys).1, (haccounts hkeyed.accounts).1⟩
  | deletePasskey before userId id => exact ⟨table.nodup_map_delete hkeyed.passkeys, hkeyed.accounts⟩
  | deleteAccount before userId accountId now =>
    exact ⟨hkeyed.passkeys, table.nodup_map_delete hkeyed.accounts⟩

/-- A step is safe exactly if it does not delete the passkey that its check would refuse. -/
theorem Move.safe_iff (hmove : Move recoveryEnabled event) (hkeyed : event.before.Keyed) :
    event.Safe ↔ event.Unblocked := by
  cases hmove with
  | grow hpasskeys haccounts =>
    have hgrown := (hpasskeys hkeyed.passkeys).2
    have hlinked := (haccounts hkeyed.accounts).2
    refine iff_of_true ⟨?_, ?_⟩ trivial
    · rintro userId (⟨account, haccount, howner⟩ | ⟨passkey, hpasskey, howner⟩)
      · exact .inl ⟨account, hlinked haccount, howner⟩
      · exact .inr ⟨passkey, hgrown hpasskey, howner⟩
    · rintro userId ⟨account, haccount, howner⟩ hlast
      exact absurd ⟨account, hlinked haccount, howner⟩ hlast
  | deletePasskey before userId id =>
    constructor
    · rintro hsafe ⟨passkey, hpasskey, hid, huser⟩ hlast
      exact deletePasskey_last hpasskey hid huser hlast (hsafe.kept userId (.inr ⟨passkey, hpasskey, huser⟩))
    · intro hunblocked
      refine ⟨fun owner => deletePasskey_kept hkeyed hunblocked, ?_⟩
      exact fun owner haccount hlast => absurd haccount hlast
  | deleteAccount before userId accountId now =>
    refine iff_of_true ⟨?_, ?_⟩ trivial
    · rintro owner (haccount | hpasskey)
      · by_cases hkept : ∃ account ∈ (before.deleteAccount recoveryEnabled userId accountId now).2.accounts,
            account.userId = owner
        · exact .inl hkept
        · exact .inr (deleteAccount_last hkeyed haccount hkept).2.1
      · exact .inr hpasskey
    · intro owner haccount hgone
      obtain ⟨rfl, hpasskey, hcode⟩ := deleteAccount_last hkeyed haccount hgone
      exact ⟨hpasskey, accountId, now, rfl, hcode⟩

end steps

section runs

variable {recoveryEnabled : Bool} {stepUpMaxAgeMs : Int} {initial system : System} {past : List Event}

theorem keyed_of_run (hrun : Run recoveryEnabled stepUpMaxAgeMs initial past system) : system.tables.Keyed := by
  induction hrun with
  | start hstart => exact hstart.2
  | step _ hstep ih =>
    obtain ⟨hbefore, hafter, hmove⟩ := move_of_step hstep
    exact hafter ▸ hmove.keyed (hbefore ▸ ih)

theorem safe_iff_of_run (hrun : Run recoveryEnabled stepUpMaxAgeMs initial past system) :
    ∀ event ∈ past, event.Safe ↔ event.Unblocked := by
  induction hrun with
  | start => exact fun _ hevent => absurd hevent List.not_mem_nil
  | step hbefore hstep ih =>
    intro event hevent
    rcases List.mem_append.mp hevent with hearlier | hlast
    · exact ih event hearlier
    · obtain ⟨htables, -, hmove⟩ := move_of_step hstep
      cases List.mem_singleton.mp hlast
      exact hmove.safe_iff (htables ▸ keyed_of_run hbefore)

/-- What no step takes away is there at the end. -/
theorem hasMethod_of_safe (hrun : Run recoveryEnabled stepUpMaxAgeMs initial past system)
    (hsafe : ∀ event ∈ past, event.Safe) {userId : Text} (hmethod : initial.tables.HasMethod userId) :
    system.tables.HasMethod userId := by
  induction hrun with
  | start hstart => exact hstart.1 ▸ hmethod
  | step _ hstep ih =>
    obtain ⟨hearlier, hlast⟩ := List.forall_mem_append.mp hsafe
    obtain ⟨hbefore, hafter, -⟩ := move_of_step hstep
    have hkept := (hlast _ List.mem_cons_self).kept userId
    rw [hbefore, hafter] at hkept
    exact hkept (ih hearlier)

/-- The steps of a run are safe exactly if each passkey that is deleted is one that the check
of its request, made again, would let go; and then no user loses the last sign-in method. -/
theorem signInMethods_kept_iff (hrun : Run recoveryEnabled stepUpMaxAgeMs initial past system) :
    ((∀ event ∈ past, event.Safe) ↔ ∀ event ∈ past, event.Unblocked) ∧
      ((∀ event ∈ past, event.Unblocked) →
        ∀ userId, initial.tables.HasMethod userId → system.tables.HasMethod userId) := by
  have hiff : (∀ event ∈ past, event.Safe) ↔ ∀ event ∈ past, event.Unblocked :=
    forall₂_congr (safe_iff_of_run hrun)
  refine ⟨hiff, ?_⟩
  intro hunblocked userId
  exact hasMethod_of_safe hrun (hiff.mpr hunblocked)

end runs

def userId : Text := Text.of "00000000-0000-4000-8000-000000000001"
def laptop : Text := Text.of "00000000-0000-4000-8000-00000000000a"
def phone : Text := Text.of "00000000-0000-4000-8000-00000000000b"

def session : recovery.SessionRow where
  id := Text.of "session"
  userId := userId
  createdAt := 0
  expiresAt := 604800000
  passkeyStepUpAt := none

/-- A user with two passkeys and no linked account. -/
def passkeysOnly : System where
  recovery := { recovery.System.empty with
    users := [{ id := userId, status := .active }]
    passkeys := [laptop, phone].map fun id =>
      { id, userId, credentialID := id, publicKey := id, counter := 0, createdAt := 0 }
    sessions := [session] }
  accounts := []
  restricted := []
  calls := fun _ => none

/-- One deletion alone, up to its answer. -/
def deletion (call : Nat) (id : Text) : List Action :=
  [.requestPasskeyDeletion call session id, .advance call 1000 [], .advance call 1000 [], .advance call 1000 []]

/-- The deletions of both passkeys, which count the passkeys before either of them deletes. -/
def bothDeletions : List Action :=
  (deletion 1 laptop).take 3 ++ (deletion 2 phone).take 3 ++ [.advance 1 1000 [], .advance 2 1000 []]

theorem passkeysOnly_keyed : passkeysOnly.tables.Keyed :=
  ⟨by decide, by decide⟩

theorem passkeysOnly_run (actions : List Action) :
    Run true 0 passkeysOnly (replay (perform true 0) passkeysOnly actions).1
      (replay (perform true 0) passkeysOnly actions).2 :=
  replay_trace ⟨rfl, passkeysOnly_keyed⟩ actions

theorem signInMethods_kept_fails :
    ¬ ∀ (recoveryEnabled : Bool) (stepUpMaxAgeMs : Int) (initial system : System) (past : List Event),
      Run recoveryEnabled stepUpMaxAgeMs initial past system →
      (∀ event ∈ past, event.Safe) ∧
        ∀ userId, initial.tables.HasMethod userId → system.tables.HasMethod userId := by
  intro h
  obtain ⟨-, hkept⟩ := h true 0 passkeysOnly _ _ (passkeysOnly_run bothDeletions)
  have hmethod : passkeysOnly.tables.HasMethod userId := .inr ⟨_, List.mem_cons_self, rfl⟩
  have haccounts : (replay (perform true 0) passkeysOnly bothDeletions).2.tables.accounts = [] := by decide
  have hpasskeys : (replay (perform true 0) passkeysOnly bothDeletions).2.tables.recovery.passkeys = [] := by decide
  rcases hkept userId hmethod with ⟨account, haccount, -⟩ | ⟨passkey, hpasskey, -⟩
  · exact absurd (haccounts ▸ haccount) List.not_mem_nil
  · exact absurd (hpasskeys ▸ hpasskey) List.not_mem_nil

theorem signInMethods_kept_iff_deletion :
    (replay (perform true 0) passkeysOnly (deletion 1 laptop)).2.tables.HasMethod userId := by
  obtain ⟨-, hkept⟩ := signInMethods_kept_iff (passkeysOnly_run (deletion 1 laptop))
  apply hkept
  · decide
  · exact .inr ⟨_, List.mem_cons_self, rfl⟩

end pgid.signin
