import PgidSso.Client.Managed

open checked pgid.administration

namespace pgid.management

/-- No access token, and no refresh token that is not revoked. -/
def Tables.NoTokens (tables : Tables) (clientId : Text) : Prop :=
  (∀ row ∈ tables.accessTokens, row.clientId ≠ clientId) ∧
    ∀ row ∈ tables.refreshTokens, row.clientId = clientId → row.revoked ≠ none

/-- No pending authorization code. -/
def Tables.NoCodes (tables : Tables) (clientId : Text) : Prop :=
  ∀ row ∈ tables.verifications, row.codeClientId ≠ some clientId

instance (tables : Tables) (clientId : Text) : Decidable (tables.NoCodes clientId) :=
  inferInstanceAs (Decidable (∀ row ∈ tables.verifications, row.codeClientId ≠ some clientId))

def Tables.NoConsents (tables : Tables) (clientId : Text) : Prop :=
  ∀ row ∈ tables.consents, row.clientId ≠ clientId

/-- The whole mutation of a request, in the tables before and after it. -/
def Request.Effect (before after : Tables) : Request → Prop
  | .create _ client => after.clients = before.clients ++ [client]
  | .provision _ clientRowId storedClientSecret now =>
    after.clients = before.clients ++ [mailIntrospector clientRowId storedClientSecret now]
  | .patch guard _ settings changes now =>
    after.clients = table.update (fun row : ClientRow => row.id = guard.clientRowId)
        (ClientRow.edited settings now) before.clients ∧
      (changes.redirectUris ∨ changes.permissions →
        after.NoCodes guard.clientId ∧ after.NoConsents guard.clientId) ∧
      (changes.permissions → after.NoTokens guard.clientId)
  | .rotateSecret guard storedClientSecret now =>
    after.clients = table.update (fun row : ClientRow => row.id = guard.clientRowId)
      (ClientRow.withSecret storedClientSecret now) before.clients
  | .status guard disabled now =>
    after.clients = table.update (fun row : ClientRow => row.id = guard.clientRowId)
        (ClientRow.withDisabled disabled now) before.clients ∧
      (disabled → after.NoTokens guard.clientId ∧ after.NoCodes guard.clientId)
  | .delete guard =>
    after.clients = table.delete (fun row : ClientRow => row.id = guard.clientRowId) before.clients ∧
      after.NoCodes guard.clientId

/-- A mutation is audited or does not happen: its rows change if and only if its event is
inserted, then all of it happens, and a conflict is an answer that nothing changed. -/
structure Audited (event : AuditRow) (before : Tables) (Effect : Tables → Prop) (result : BatchResult) : Prop where
  together : result.mutated = true ↔ result.tables.HasAudit event.id
  whole : result.tables.HasAudit event.id → Effect result.tables
  conflict : result.response.Conflict → result.tables = before

/-- The insert of a client fails, and its batch is rolled back. -/
def InsertFails (client : ClientRow) (tables : Tables) : Prop :=
  OwnerNotEligible client tables ∨ ¬ backchannelLogoutUriCheck client.backchannelLogoutUri ∨ Taken client tables

/-- What the first statement of a batch lets through, its later ones let through too; for
a deletion, whose first statement deletes no row of the client, when it deletes a code. -/
def Steady (times : Nat → Int) (tables : Tables) : Request → Prop
  | .create actor client =>
    actor.Commits tables.users tables.sessions (times 0) →
      actor.Commits tables.users tables.sessions (times 1) ∨ InsertFails client tables
  | .provision actor clientRowId storedClientSecret now =>
    actor.Commits tables.users tables.sessions (times 0) →
      actor.Commits tables.users tables.sessions (times 1) ∨
        InsertFails (mailIntrospector clientRowId storedClientSecret now) tables
  | .patch _ _ _ _ _ => True
  | .rotateSecret guard _ _ =>
    guard.managed.Permits tables (times 0) → guard.managed.Permits tables (times 1)
  | .status guard disabled _ =>
    guard.managed.Permits tables (times 0) →
      guard.managed.Permits tables (if disabled then times 4 else times 1)
  | .delete guard =>
    (guard.managed.Permits tables (times 0) →
        guard.managed.Permits tables (times 1) ∨ tables.NoCodes guard.clientId) ∧
      (guard.managed.Permits tables (times 1) → guard.managed.Permits tables (times 2))

section statements

variable {tables : Tables} {event : AuditRow} {guard : ManagedClientGuard} {now : Int}

theorem managed_permits_iff {guard : MutationGuard} :
    guard.managed.Permits tables now ↔ guard.managed.Auditable tables now := by
  have hauthorizes : guard.managed.Authorizes tables now ↔
      guard.actor.Commits tables.users tables.sessions now := by
    refine ⟨fun h => h.2.resolve_left fun hne => hne rfl, fun h => ⟨?_, .inr h⟩⟩
    intro eventId hevent
    cases hevent
  rw [ManagedClientGuard.Permits, ManagedClientGuard.Auditable, hauthorizes]
  exact ⟨fun ⟨row, hrow, hselects, h⟩ => ⟨⟨row, hrow, hselects⟩, h⟩,
    fun ⟨⟨row, hrow, hselects⟩, h⟩ => ⟨row, hrow, hselects, h⟩⟩

theorem managed_permits_earlier {guard : MutationGuard} {earlier : Int} (hle : earlier ≤ now)
    (hpermits : guard.managed.Permits tables now) : guard.managed.Permits tables earlier := by
  rw [managed_permits_iff] at hpermits ⊢
  exact ⟨hpermits.1, hpermits.2.earlier hle⟩

theorem audit_of_auditable (hfresh : ¬ tables.HasAudit event.id) (haudit : guard.Auditable tables now) :
    auditInsertForExistingClientStatement event guard now tables =
      .ok (2, { tables with auditEvents := tables.auditEvents ++ [event] }) := by
  rw [auditInsertForExistingClientStatement, if_pos haudit, throwIf_bind_of_not hfresh]
  rfl

theorem audit_of_not_auditable (haudit : ¬ guard.Auditable tables now) :
    auditInsertForExistingClientStatement event guard now tables = .ok (0, tables) := by
  rw [auditInsertForExistingClientStatement, if_neg haudit]
  rfl

theorem hasAudit_append : Tables.HasAudit { tables with auditEvents := tables.auditEvents ++ [event] } event.id :=
  ⟨event, List.mem_append_right _ List.mem_cons_self, rfl⟩

/-- The row that a guard selects is the row with its id. -/
theorem matched_of_permits (hkeys : (tables.clients.map (·.id)).Nodup) (hpermits : guard.Permits tables now) :
    ∃ row, table.matched (fun row : ClientRow => guard.Selects row ∧ guard.Authorizes tables now) tables.clients =
        [row] ∧
      ∀ other ∈ tables.clients, (guard.Selects other ∧ guard.Authorizes tables now) ↔
        other.id = guard.clientRowId := by
  obtain ⟨row, hrow, hselects, hauthorizes⟩ := hpermits
  refine ⟨row, ?_, ?_⟩
  · apply table.matched_eq_singleton hkeys hrow ⟨hselects, hauthorizes⟩
    intro other _ hother
    exact hother.1.1.trans hselects.1.symm
  · intro other hother
    refine ⟨fun h => h.1.1, fun hid => ?_⟩
    cases table.eq_of_key hkeys hother hrow (hid.trans hselects.1.symm)
    exact ⟨hselects, hauthorizes⟩

theorem updateClient_of_permits (change : ClientRow → ClientRow) (hkeys : (tables.clients.map (·.id)).Nodup)
    (hpermits : guard.Permits tables now) :
    updateClient guard change now tables =
      (1, { tables with
        clients := table.update (fun row : ClientRow => row.id = guard.clientRowId) change tables.clients }) := by
  obtain ⟨row, hmatched, hiff⟩ := matched_of_permits hkeys hpermits
  rw [updateClient, hmatched, table.update_congr hiff]
  rfl

theorem none_of_not_permits (hpermits : ¬ guard.Permits tables now) :
    ∀ row ∈ tables.clients, ¬ (guard.Selects row ∧ guard.Authorizes tables now) :=
  fun row hrow h => hpermits ⟨row, hrow, h⟩

theorem updateClient_of_not_permits {change : ClientRow → ClientRow} (hpermits : ¬ guard.Permits tables now) :
    updateClient guard change now tables = (0, tables) := by
  rw [updateClient, table.matched_of_none (none_of_not_permits hpermits),
    table.update_of_none (none_of_not_permits hpermits)]
  rfl

theorem updateClientSettings_of_permits {settings : ClientSettings} {updatedAt : Int}
    (hkeys : (tables.clients.map (·.id)).Nodup) (hpermits : guard.Permits tables now)
    (hcheck : backchannelLogoutUriCheck settings.backchannelLogoutUri = true) :
    updateClientSettings guard settings updatedAt now tables =
      .ok (1, { tables with
        clients := table.update (fun row : ClientRow => row.id = guard.clientRowId)
          (ClientRow.edited settings updatedAt) tables.clients }) := by
  rw [updateClientSettings, throwIf_bind_of_not fun h => h.2 hcheck, updateClient_of_permits _ hkeys hpermits]
  rfl

theorem updateClientSettings_of_not_permits {settings : ClientSettings} {updatedAt : Int}
    (hpermits : ¬ guard.Permits tables now) :
    updateClientSettings guard settings updatedAt now tables = .ok (0, tables) := by
  rw [updateClientSettings, throwIf_bind_of_not fun h => hpermits h.1, updateClient_of_not_permits hpermits]
  rfl

theorem deleteClients_of_permits (hkeys : (tables.clients.map (·.id)).Nodup)
    (hpermits : guard.Permits tables now) :
    (deleteClients guard now tables).1 = 1 ∧
      (deleteClients guard now tables).2.clients =
        table.delete (fun row : ClientRow => row.id = guard.clientRowId) tables.clients := by
  obtain ⟨row, hmatched, hiff⟩ := matched_of_permits hkeys hpermits
  rw [deleteClients, hmatched]
  exact ⟨rfl, table.delete_congr hiff⟩

theorem deleteClients_of_not_permits (hpermits : ¬ guard.Permits tables now) :
    deleteClients guard now tables = (0, tables) := by
  have hnone := none_of_not_permits hpermits
  have hgone : ∀ clientId : Text, ¬ ∃ row ∈ tables.clients, row.clientId = clientId ∧
      guard.Selects row ∧ guard.Authorizes tables now :=
    fun clientId ⟨row, hrow, _, h⟩ => hnone row hrow h
  rw [deleteClients, table.matched_of_none hnone, table.delete_of_none hnone]
  dsimp only
  rw [table.delete_of_none fun row _ => hgone row.clientId, table.delete_of_none fun row _ => hgone row.clientId,
    table.delete_of_none fun row _ => hgone row.clientId]
  rfl

theorem cleanups_of_not_permits (revokedAt : Int) (hpermits : ¬ guard.Permits tables now) :
    pendingAuthorizationCodeCleanup guard now tables = tables ∧ clientConsentCleanup guard now tables = tables ∧
      clientAccessTokenCleanup guard now tables = tables ∧
      clientRefreshTokenRevocation guard revokedAt now tables = tables := by
  refine ⟨?_, ?_, ?_, ?_⟩
  · rw [pendingAuthorizationCodeCleanup, table.delete_of_none fun row _ h => hpermits h.2]
  · rw [clientConsentCleanup, table.delete_of_none fun row _ h => hpermits h.2]
  · rw [clientAccessTokenCleanup, table.delete_of_none fun row _ h => hpermits h.2]
  · rw [clientRefreshTokenRevocation, table.update_of_none fun row _ h => hpermits h.2.2]

theorem noCodes_of_permits (hpermits : guard.Permits tables now) :
    (pendingAuthorizationCodeCleanup guard now tables).NoCodes guard.clientId :=
  fun _ hrow hclient => (table.mem_delete.mp hrow).2 ⟨hclient, hpermits⟩

theorem noConsents_of_permits (hpermits : guard.Permits tables now) :
    (clientConsentCleanup guard now tables).NoConsents guard.clientId :=
  fun _ hrow hclient => (table.mem_delete.mp hrow).2 ⟨hclient, hpermits⟩

theorem noAccessTokens_of_permits (hpermits : guard.Permits tables now) :
    ∀ row ∈ (clientAccessTokenCleanup guard now tables).accessTokens, row.clientId ≠ guard.clientId :=
  fun _ hrow hclient => (table.mem_delete.mp hrow).2 ⟨hclient, hpermits⟩

theorem noRefreshTokens_of_permits {revokedAt : Int} (hpermits : guard.Permits tables now) :
    ∀ row ∈ (clientRefreshTokenRevocation guard revokedAt now tables).refreshTokens,
      row.clientId = guard.clientId → row.revoked ≠ none := by
  intro row hrow hclient
  rcases table.mem_update.mp hrow with ⟨old, -, -, rfl⟩ | ⟨-, hnot⟩
  · exact Option.some_ne_none revokedAt
  · exact fun h => hnot ⟨hclient, h, hpermits⟩

end statements

section audited

variable {event : AuditRow} {before : Tables} {Effect : Tables → Prop} {result : BatchResult}

theorem audited_of_unchanged (hfresh : ¬ before.HasAudit event.id) (hmutated : result.mutated = false)
    (htables : result.tables = before) : Audited event before Effect result where
  together := by
    rw [hmutated, htables]
    exact iff_of_false Bool.false_ne_true hfresh
  whole h := absurd (htables ▸ h) hfresh
  conflict _ := htables

theorem audited_of_whole (hmutated : result.mutated = true) (haudit : result.tables.HasAudit event.id)
    (heffect : Effect result.tables) (hresponse : result.response = .ok) : Audited event before Effect result where
  together := iff_of_true hmutated haudit
  whole _ := heffect
  conflict h := by
    rw [hresponse] at h
    rcases h with h | h <;> cases h

theorem not_audited_of_mutated (hmutated : result.mutated = true) (haudit : ¬ result.tables.HasAudit event.id) :
    ¬ Audited event before Effect result :=
  fun h => haudit (h.together.mp hmutated)

theorem not_audited_of_audit (hmutated : result.mutated = false) (haudit : result.tables.HasAudit event.id) :
    ¬ Audited event before Effect result :=
  fun h => Bool.false_ne_true (hmutated.symm.trans (h.together.mpr haudit))

end audited

theorem settled_response {mutations audits : Nat} {succeeded : Prop} [Decidable succeeded] {tables : Tables}
    (hsucceeded : succeeded) : (settled mutations audits succeeded tables).response = .ok :=
  if_pos hsucceeded

theorem settled_conflict {mutations audits : Nat} {succeeded : Prop} [Decidable succeeded] {tables : Tables}
    (hfailed : ¬ succeeded) : (settled mutations audits succeeded tables).response = .managementStateChanged :=
  if_neg hfailed

section requests

variable {tables : Tables} {event : AuditRow} {times : Nat → Int}

theorem rolledBack_unchanged (onUnique : Response) (tables : Tables) (error : StoreError) :
    (rolledBack onUnique tables error).mutated = false ∧ (rolledBack onUnique tables error).tables = tables := by
  cases error <;> exact ⟨rfl, rfl⟩

theorem insertClient_of_fails {actor : AdminActorCommitGuard} {client : ClientRow} {now : Int}
    (hcommits : actor.Commits tables.users tables.sessions now) (hfails : InsertFails client tables) :
    ∃ error, insertClient client actor now tables = .error error := by
  rw [insertClient, if_pos hcommits]
  by_cases howner : OwnerNotEligible client tables
  · exact ⟨_, throwIf_bind_of howner⟩
  rw [throwIf_bind_of_not howner]
  by_cases hcheck : ¬ backchannelLogoutUriCheck client.backchannelLogoutUri
  · exact ⟨_, throwIf_bind_of hcheck⟩
  rw [throwIf_bind_of_not hcheck]
  have htaken : Taken client tables := (hfails.resolve_left howner).resolve_left hcheck
  exact ⟨_, throwIf_bind_of htaken⟩

theorem insertClient_of_not_fails {actor : AdminActorCommitGuard} {client : ClientRow} {now : Int}
    (hcommits : actor.Commits tables.users tables.sessions now) (hfails : ¬ InsertFails client tables) :
    insertClient client actor now tables = .ok (1, { tables with clients := tables.clients ++ [client] }) := by
  obtain ⟨howner, hfails⟩ := not_or.mp hfails
  obtain ⟨hcheck, htaken⟩ := not_or.mp hfails
  rw [insertClient, if_pos hcommits, throwIf_bind_of_not howner, throwIf_bind_of_not hcheck,
    throwIf_bind_of_not htaken]
  rfl

/-- The batch of a new client, or the rollback of one that fails. -/
theorem createBatch_audited_iff (hfresh : ¬ tables.HasAudit event.id) (hmonotone : Monotone times)
    (actor : AdminActorCommitGuard) (client : ClientRow) :
    Audited event tables (fun after => after.clients = tables.clients ++ [client])
        (match createBatch actor client event times tables with
          | .ok result => result
          | .error error => rolledBack .clientExists tables error) ↔
      (actor.Commits tables.users tables.sessions (times 0) →
        actor.Commits tables.users tables.sessions (times 1) ∨ InsertFails client tables) := by
  let guard : ManagedClientGuard :=
    { actor, clientId := client.clientId, clientRowId := client.id, expectedOwnerUserId := client.ownerUserId
      authorizationEventId := none, expectedUpdatedAt := none }
  by_cases hfirst : actor.Commits tables.users tables.sessions (times 0)
  · by_cases hfails : InsertFails client tables
    · obtain ⟨error, hinsert⟩ := insertClient_of_fails hfirst hfails
      have hbatch : createBatch actor client event times tables = .error error := by
        rw [createBatch, hinsert]
        rfl
      rw [hbatch]
      obtain ⟨hmutated, htables⟩ := rolledBack_unchanged .clientExists tables error
      exact iff_of_true (audited_of_unchanged hfresh hmutated htables) fun _ => .inr hfails
    · let inserted : Tables := { tables with clients := tables.clients ++ [client] }
      have hinsert : insertClient client actor (times 0) tables = .ok (1, inserted) :=
        insertClient_of_not_fails hfirst hfails
      have hfreshInserted : ¬ inserted.HasAudit event.id := hfresh
      have hselects : ∃ row ∈ inserted.clients, guard.Selects row := by
        refine ⟨client, List.mem_append_right _ List.mem_cons_self, rfl, rfl, fun owner h => h, ?_⟩
        intro expected h
        cases h
      by_cases hsecond : actor.Commits tables.users tables.sessions (times 1)
      · have hbatch : createBatch actor client event times tables =
            .ok (settled 1 2 (1 = 1 ∧ 2 = 2) { inserted with auditEvents := tables.auditEvents ++ [event] }) := by
          rw [createBatch, hinsert]
          change (auditInsertForExistingClientStatement event guard (times 1) inserted >>= _) = _
          rw [audit_of_auditable hfreshInserted ⟨hselects, hsecond⟩]
          rfl
        rw [hbatch]
        refine iff_of_true (audited_of_whole rfl hasAudit_append rfl ?_) fun _ => .inl hsecond
        exact settled_response ⟨rfl, rfl⟩
      · have hbatch : createBatch actor client event times tables =
            .ok (settled 1 0 (1 = 1 ∧ 0 = 2) inserted) := by
          rw [createBatch, hinsert]
          change (auditInsertForExistingClientStatement event guard (times 1) inserted >>= _) = _
          rw [audit_of_not_auditable fun h => hsecond h.2]
          rfl
        rw [hbatch]
        exact iff_of_false (not_audited_of_mutated rfl hfreshInserted) fun h => (h hfirst).elim hsecond hfails
  · have hsecond : ¬ actor.Commits tables.users tables.sessions (times 1) :=
      fun h => hfirst (h.earlier (hmonotone (Nat.zero_le 1)))
    have hbatch : createBatch actor client event times tables = .ok (settled 0 0 (0 = 1 ∧ 0 = 2) tables) := by
      rw [createBatch, insertClient, if_neg hfirst]
      change (auditInsertForExistingClientStatement event guard (times 1) tables >>= _) = _
      rw [audit_of_not_auditable fun h => hsecond h.2]
      rfl
    rw [hbatch]
    exact iff_of_true (audited_of_unchanged hfresh rfl rfl) fun h => absurd h hfirst

theorem patchCleanups_of_permits {guard : ManagedClientGuard} (changes : EditChanges) (now : Int)
    (times : Nat → Int)
    (hpermits : ∀ later : Tables, later.clients = tables.clients → later.users = tables.users →
      later.sessions = tables.sessions → later.auditEvents = tables.auditEvents →
        ∀ now, guard.Permits later now) :
    (changes.redirectUris ∨ changes.permissions →
      (patchCleanups guard changes now times tables).NoCodes guard.clientId ∧
        (patchCleanups guard changes now times tables).NoConsents guard.clientId) ∧
      (changes.permissions → (patchCleanups guard changes now times tables).NoTokens guard.clientId) := by
  have hfirst := noCodes_of_permits (hpermits tables rfl rfl rfl rfl (times 1))
  have hsecond := noConsents_of_permits (hpermits
    (pendingAuthorizationCodeCleanup guard (times 1) tables) rfl rfl rfl rfl (times 2))
  refine ⟨fun hchanges => ?_, fun hchanges => ?_⟩
  · unfold patchCleanups
    rw [if_pos hchanges]
    dsimp only
    split <;> exact ⟨hfirst, hsecond⟩
  · unfold patchCleanups
    rw [if_pos (Or.inr hchanges), if_pos hchanges]
    exact ⟨noAccessTokens_of_permits (hpermits _ rfl rfl rfl rfl (times 3)),
      noRefreshTokens_of_permits (hpermits _ rfl rfl rfl rfl (times 4))⟩

theorem patchCleanups_kept (guard : ManagedClientGuard) (changes : EditChanges) (now : Int)
    (times : Nat → Int) (tables : Tables) :
    (patchCleanups guard changes now times tables).clients = tables.clients ∧
      (patchCleanups guard changes now times tables).users = tables.users ∧
      (patchCleanups guard changes now times tables).sessions = tables.sessions ∧
      (patchCleanups guard changes now times tables).auditEvents = tables.auditEvents := by
  unfold patchCleanups
  dsimp only
  split <;> split <;> exact ⟨rfl, rfl, rfl, rfl⟩

theorem patchCleanups_of_not_permits {guard : ManagedClientGuard} {changes : EditChanges} {now : Int}
    (hpermits : ∀ now, ¬ guard.Permits tables now) : patchCleanups guard changes now times tables = tables := by
  have hcodes := (cleanups_of_not_permits now (hpermits (times 1))).1
  have hconsents := (cleanups_of_not_permits now (hpermits (times 2))).2.1
  have haccess := (cleanups_of_not_permits now (hpermits (times 3))).2.2.1
  have hrefresh := (cleanups_of_not_permits now (hpermits (times 4))).2.2.2
  unfold patchCleanups
  rw [hcodes, hconsents, ite_self]
  dsimp only
  rw [haccess, hrefresh, ite_self]

theorem patch_of_not_auditable (hfresh : ¬ tables.HasAudit event.id) (guard : MutationGuard)
    (expectedUpdatedAt : Option Int) (settings : ClientSettings) (changes : EditChanges) (now : Int)
    (haudit : ¬ (guard.versioned expectedUpdatedAt).Auditable tables (times 0)) :
    Request.run event times tables (.patch guard expectedUpdatedAt settings changes now) =
      settled 0 0 (¬ (0 < 2 ∨ 0 ≠ 1)) tables := by
  have hpermits : ∀ now, ¬ ManagedClientGuard.Permits
      { guard.versioned expectedUpdatedAt with authorizationEventId := some event.id } tables now :=
    fun now ⟨_, _, _, h, _⟩ => hfresh (h event.id rfl)
  have hbatch : patchBatch guard expectedUpdatedAt settings changes now event times tables =
      .ok (settled 0 0 (¬ (0 < 2 ∨ 0 ≠ 1)) tables) := by
    rw [patchBatch, audit_of_not_auditable haudit, ok_bind]
    dsimp only
    rw [patchCleanups_of_not_permits hpermits, updateClientSettings_of_not_permits (hpermits (times 5))]
    rfl
  rw [Request.run, hbatch]

/-- After the event of an edit its other statements ask for the event alone. -/
theorem patch_permits {guard : MutationGuard} {expectedUpdatedAt : Option Int} {now : Int}
    (haudit : (guard.versioned expectedUpdatedAt).Auditable tables now) {later : Tables}
    (hclients : later.clients = tables.clients) (haudits : later.auditEvents = tables.auditEvents ++ [event])
    (instant : Int) :
    ManagedClientGuard.Permits { guard.versioned expectedUpdatedAt with authorizationEventId := some event.id }
      later instant := by
  obtain ⟨⟨row, hrow, hselects⟩, -⟩ := haudit
  refine ⟨row, hclients ▸ hrow, hselects, ?_, .inl (Option.some_ne_none event.id)⟩
  intro eventId h
  cases h
  exact ⟨event, haudits ▸ List.mem_append_right _ List.mem_cons_self, rfl⟩

/-- An edit writes its event first, and then all that it is to write. -/
theorem patch_of_auditable (hkeys : (tables.clients.map (·.id)).Nodup) (hfresh : ¬ tables.HasAudit event.id)
    (guard : MutationGuard) (expectedUpdatedAt : Option Int) (settings : ClientSettings) (changes : EditChanges)
    (now : Int) (haudit : (guard.versioned expectedUpdatedAt).Auditable tables (times 0))
    (hcheck : backchannelLogoutUriCheck settings.backchannelLogoutUri = true) :
    ∃ after : Tables,
      Request.run event times tables (.patch guard expectedUpdatedAt settings changes now) =
          settled 1 2 (¬ (2 < 2 ∨ 1 ≠ 1)) after ∧
        after.HasAudit event.id ∧
        Request.Effect tables after (.patch guard expectedUpdatedAt settings changes now) := by
  let commitGuard : ManagedClientGuard :=
    { guard.versioned expectedUpdatedAt with authorizationEventId := some event.id }
  let audited : Tables := { tables with auditEvents := tables.auditEvents ++ [event] }
  have hkept := patchCleanups_kept commitGuard changes now times audited
  have hclean := @patchCleanups_of_permits audited commitGuard changes now times fun _ hclients _ _ haudits =>
    patch_permits haudit hclients haudits
  have hupdate := @updateClientSettings_of_permits _ _ (times 5) settings now (hkept.1 ▸ hkeys)
    (patch_permits haudit hkept.1 hkept.2.2.2 (times 5)) hcheck
  let cleaned := patchCleanups commitGuard changes now times audited
  let after : Tables :=
    { cleaned with
      clients := table.update (fun row : ClientRow => row.id = guard.clientRowId) (ClientRow.edited settings now)
        cleaned.clients }
  have hbatch : patchBatch guard expectedUpdatedAt settings changes now event times tables =
      .ok (settled 1 2 (¬ (2 < 2 ∨ 1 ≠ 1)) after) := by
    rw [patchBatch, audit_of_auditable hfresh haudit, ok_bind]
    dsimp only
    rw [hupdate]
    rfl
  refine ⟨after, ?_, ?_, ?_, hclean⟩
  · rw [Request.run, hbatch]
  · exact ⟨event, hkept.2.2.2 ▸ List.mem_append_right _ List.mem_cons_self, rfl⟩
  · exact congrArg (table.update _ _) hkept.1

/-- The CHECK of the logout URI takes back the event too. -/
theorem patch_of_check (hfresh : ¬ tables.HasAudit event.id) (guard : MutationGuard)
    (expectedUpdatedAt : Option Int) (settings : ClientSettings) (changes : EditChanges) (now : Int)
    (haudit : (guard.versioned expectedUpdatedAt).Auditable tables (times 0))
    (hcheck : ¬ backchannelLogoutUriCheck settings.backchannelLogoutUri) :
    Request.run event times tables (.patch guard expectedUpdatedAt settings changes now) =
      rolledBack .failed tables .check := by
  let commitGuard : ManagedClientGuard :=
    { guard.versioned expectedUpdatedAt with authorizationEventId := some event.id }
  let audited : Tables := { tables with auditEvents := tables.auditEvents ++ [event] }
  have hkept := patchCleanups_kept commitGuard changes now times audited
  have hpermits : commitGuard.Permits (patchCleanups commitGuard changes now times audited) (times 5) :=
    patch_permits haudit hkept.1 hkept.2.2.2 (times 5)
  have hbatch : patchBatch guard expectedUpdatedAt settings changes now event times tables = .error .check := by
    rw [patchBatch, audit_of_auditable hfresh haudit, ok_bind]
    dsimp only
    rw [updateClientSettings, throwIf_bind_of ⟨hpermits, hcheck⟩]
    rfl
  rw [Request.run, hbatch]

theorem patch_audited (hkeys : (tables.clients.map (·.id)).Nodup) (hfresh : ¬ tables.HasAudit event.id)
    (guard : MutationGuard) (expectedUpdatedAt : Option Int) (settings : ClientSettings) (changes : EditChanges)
    (now : Int) :
    Audited event tables (Request.Effect tables · (.patch guard expectedUpdatedAt settings changes now))
      (Request.run event times tables (.patch guard expectedUpdatedAt settings changes now)) := by
  by_cases haudit : (guard.versioned expectedUpdatedAt).Auditable tables (times 0)
  · by_cases hcheck : backchannelLogoutUriCheck settings.backchannelLogoutUri = true
    · obtain ⟨after, hrun, hevent, heffect⟩ :=
        patch_of_auditable hkeys hfresh guard expectedUpdatedAt settings changes now haudit hcheck
      rw [hrun]
      exact audited_of_whole rfl hevent heffect (settled_response (by omega))
    · rw [patch_of_check hfresh guard expectedUpdatedAt settings changes now haudit hcheck]
      exact audited_of_unchanged hfresh rfl rfl
  · rw [patch_of_not_auditable hfresh guard expectedUpdatedAt settings changes now haudit]
    exact audited_of_unchanged hfresh rfl rfl

/-- Who a row is to a guard without a version. -/
def SameIdentity (change : ClientRow → ClientRow) : Prop :=
  ∀ row, (change row).id = row.id ∧ (change row).clientId = row.clientId ∧
    (change row).ownerUserId = row.ownerUserId

theorem selects_update_iff {guard : MutationGuard} {matching : ClientRow → Prop} [DecidablePred matching]
    {change : ClientRow → ClientRow} (hchange : SameIdentity change) {clients : List ClientRow} :
    (∃ row ∈ table.update matching change clients, guard.managed.Selects row) ↔
      ∃ row ∈ clients, guard.managed.Selects row := by
  have hselects : ∀ row, guard.managed.Selects (change row) ↔ guard.managed.Selects row := by
    intro row
    obtain ⟨hid, hclient, howner⟩ := hchange row
    rw [ManagedClientGuard.Selects, ManagedClientGuard.Selects, hid, hclient, howner]
    refine and_congr_right fun _ => and_congr_right fun _ => and_congr_right fun _ => iff_of_true ?_ ?_
    all_goals
      intro expected h
      cases h
  constructor
  · rintro ⟨row, hrow, h⟩
    rcases table.mem_update.mp hrow with ⟨old, hold, -, rfl⟩ | ⟨hold, -⟩
    · exact ⟨old, hold, (hselects old).mp h⟩
    · exact ⟨row, hold, h⟩
  · rintro ⟨row, hrow, h⟩
    by_cases hmatch : matching row
    · exact ⟨change row, table.change_mem_update hrow hmatch, (hselects row).mpr h⟩
    · exact ⟨row, table.mem_update_of_not hrow hmatch, h⟩

/-- A cleanup leaves alone what the guards of the later statements read. -/
def KeepsGuards (cleanup : Tables → Tables) : Prop :=
  ∀ tables : Tables, (cleanup tables).clients = tables.clients ∧ (cleanup tables).users = tables.users ∧
    (cleanup tables).sessions = tables.sessions ∧ (cleanup tables).auditEvents = tables.auditEvents

/-- The client that a batch has updated, before its other statements. -/
def updatedClient (guard : MutationGuard) (change : ClientRow → ClientRow) (tables : Tables) : Tables :=
  { tables with
    clients := table.update (fun row : ClientRow => row.id = guard.clientRowId) change tables.clients }

/-- The last statement of a batch sees the row and the actor as the first has seen them. -/
theorem auditable_cleanup_iff {guard : MutationGuard} {change : ClientRow → ClientRow}
    {cleanup : Tables → Tables} {now : Int} (hchange : SameIdentity change) (hkeeps : KeepsGuards cleanup) :
    guard.managed.Auditable (cleanup (updatedClient guard change tables)) now ↔
      guard.managed.Permits tables now := by
  obtain ⟨hclients, husers, hsessions, -⟩ := hkeeps (updatedClient guard change tables)
  rw [managed_permits_iff, ManagedClientGuard.Auditable, ManagedClientGuard.Auditable, hclients, husers,
    hsessions]
  exact and_congr_left fun _ => selects_update_iff hchange

theorem fresh_cleanup {guard : MutationGuard} {change : ClientRow → ClientRow} {cleanup : Tables → Tables}
    (hfresh : ¬ tables.HasAudit event.id) (hkeeps : KeepsGuards cleanup) :
    ¬ (cleanup (updatedClient guard change tables)).HasAudit event.id := by
  rw [Tables.HasAudit, (hkeeps (updatedClient guard change tables)).2.2.2]
  exact hfresh

section updates

variable {guard : MutationGuard} {change : ClientRow → ClientRow} {cleanup : Tables → Tables} {first last : Int}

theorem updateBatch_of_permits (hkeys : (tables.clients.map (·.id)).Nodup)
    (hfresh : ¬ tables.HasAudit event.id) (hchange : SameIdentity change) (hkeeps : KeepsGuards cleanup)
    (hfirst : guard.managed.Permits tables first) (hlast : guard.managed.Permits tables last) :
    updateBatch guard change cleanup event first last tables =
      .ok (settled 1 2 (1 = 1 ∧ 2 = 2)
        { cleanup (updatedClient guard change tables) with
          auditEvents := (cleanup (updatedClient guard change tables)).auditEvents ++ [event] }) := by
  rw [updateBatch, updateClient_of_permits change hkeys hfirst]
  dsimp only
  change (auditInsertForExistingClientStatement event guard.managed last
    (cleanup (updatedClient guard change tables)) >>= _) = _
  rw [audit_of_auditable (fresh_cleanup hfresh hkeeps) ((auditable_cleanup_iff hchange hkeeps).mpr hlast)]
  rfl

theorem updateBatch_of_expired (hkeys : (tables.clients.map (·.id)).Nodup) (hchange : SameIdentity change)
    (hkeeps : KeepsGuards cleanup) (hfirst : guard.managed.Permits tables first)
    (hlast : ¬ guard.managed.Permits tables last) :
    updateBatch guard change cleanup event first last tables =
      .ok (settled 1 0 (1 = 1 ∧ 0 = 2) (cleanup (updatedClient guard change tables))) := by
  rw [updateBatch, updateClient_of_permits change hkeys hfirst]
  dsimp only
  change (auditInsertForExistingClientStatement event guard.managed last
    (cleanup (updatedClient guard change tables)) >>= _) = _
  rw [audit_of_not_auditable fun h => hlast ((auditable_cleanup_iff hchange hkeeps).mp h)]
  rfl

theorem updateBatch_of_not_permits (hle : first ≤ last)
    (hidle : ¬ guard.managed.Permits tables first → cleanup tables = tables)
    (hfirst : ¬ guard.managed.Permits tables first) :
    updateBatch guard change cleanup event first last tables = .ok (settled 0 0 (0 = 1 ∧ 0 = 2) tables) := by
  have hlast : ¬ guard.managed.Auditable tables last :=
    fun h => hfirst (managed_permits_earlier hle (managed_permits_iff.mpr h))
  rw [updateBatch, updateClient_of_not_permits hfirst]
  dsimp only
  rw [hidle hfirst, audit_of_not_auditable hlast]
  rfl

/-- A batch that updates first and inserts its event last is audited when the actor whom its
first statement lets through still commits in its last. -/
theorem updateBatch_audited_iff (hkeys : (tables.clients.map (·.id)).Nodup)
    (hfresh : ¬ tables.HasAudit event.id) {Effect : Tables → Prop} (hle : first ≤ last)
    (hchange : SameIdentity change) (hkeeps : KeepsGuards cleanup)
    (hidle : ¬ guard.managed.Permits tables first → cleanup tables = tables)
    (heffect : guard.managed.Permits tables last → ∀ auditEvents,
      Effect { cleanup (updatedClient guard change tables) with auditEvents }) :
    Audited event tables Effect
        (match updateBatch guard change cleanup event first last tables with
          | .ok result => result
          | .error error => rolledBack .failed tables error) ↔
      (guard.managed.Permits tables first → guard.managed.Permits tables last) := by
  by_cases hfirst : guard.managed.Permits tables first
  · by_cases hlast : guard.managed.Permits tables last
    · rw [updateBatch_of_permits hkeys hfresh hchange hkeeps hfirst hlast]
      refine iff_of_true (audited_of_whole rfl hasAudit_append (heffect hlast _) ?_) fun _ => hlast
      exact settled_response ⟨rfl, rfl⟩
    · rw [updateBatch_of_expired hkeys hchange hkeeps hfirst hlast]
      exact iff_of_false (not_audited_of_mutated rfl (fresh_cleanup hfresh hkeeps)) fun h => hlast (h hfirst)
  · rw [updateBatch_of_not_permits hle hidle hfirst]
    exact iff_of_true (audited_of_unchanged hfresh rfl rfl) fun h => absurd h hfirst

/-- What a batch that updates first changes of the clients, audited or not. -/
def Updates (guard : MutationGuard) (change : ClientRow → ClientRow) (first : Int) (before : Tables)
    (result : BatchResult) : Prop :=
  (result.mutated = true ∧ guard.managed.Permits before first ∧
      result.tables.clients = (updatedClient guard change before).clients) ∨
    (result.mutated = false ∧ result.tables = before)

theorem updateBatch_updates (hkeys : (tables.clients.map (·.id)).Nodup)
    (hfresh : ¬ tables.HasAudit event.id) (hle : first ≤ last) (hchange : SameIdentity change)
    (hkeeps : KeepsGuards cleanup) (hidle : ¬ guard.managed.Permits tables first → cleanup tables = tables) :
    ∃ result, updateBatch guard change cleanup event first last tables = .ok result ∧
      Updates guard change first tables result := by
  by_cases hfirst : guard.managed.Permits tables first
  · have hclients := (hkeeps (updatedClient guard change tables)).1
    by_cases hlast : guard.managed.Permits tables last
    · exact ⟨_, updateBatch_of_permits hkeys hfresh hchange hkeeps hfirst hlast, .inl ⟨rfl, hfirst, hclients⟩⟩
    · exact ⟨_, updateBatch_of_expired hkeys hchange hkeeps hfirst hlast, .inl ⟨rfl, hfirst, hclients⟩⟩
  · exact ⟨_, updateBatch_of_not_permits hle hidle hfirst, .inr ⟨rfl, rfl⟩⟩

end updates

theorem statusCleanups_keeps (guard : ManagedClientGuard) (now : Int) (times : Nat → Int) :
    KeepsGuards (statusCleanups guard now times) :=
  fun _ => ⟨rfl, rfl, rfl, rfl⟩

theorem statusCleanups_of_permits {guard : ManagedClientGuard} {now : Int}
    (hpermits : ∀ later : Tables, later.clients = tables.clients → later.users = tables.users →
      later.sessions = tables.sessions → later.auditEvents = tables.auditEvents →
        ∀ number ≤ 4, guard.Permits later (times number)) :
    (statusCleanups guard now times tables).NoTokens guard.clientId ∧
      (statusCleanups guard now times tables).NoCodes guard.clientId := by
  refine ⟨⟨?_, ?_⟩, ?_⟩
  · exact noAccessTokens_of_permits (hpermits tables rfl rfl rfl rfl 1 (by decide))
  · exact noRefreshTokens_of_permits (hpermits _ rfl rfl rfl rfl 2 (by decide))
  · exact noCodes_of_permits (hpermits _ rfl rfl rfl rfl 3 (by decide))

theorem statusCleanups_of_not_permits {guard : ManagedClientGuard} {now : Int}
    (hpermits : ∀ number, ¬ guard.Permits tables (times number)) :
    statusCleanups guard now times tables = tables := by
  rw [statusCleanups, (cleanups_of_not_permits now (hpermits 1)).2.2.1,
    (cleanups_of_not_permits now (hpermits 2)).2.2.2, (cleanups_of_not_permits now (hpermits 3)).1]

theorem statusCleanups_idle (hmonotone : Monotone times) {guard : MutationGuard} {now : Int}
    (hfirst : ¬ guard.managed.Permits tables (times 0)) :
    statusCleanups guard.managed now times tables = tables := by
  apply statusCleanups_of_not_permits
  exact fun number h => hfirst (managed_permits_earlier (hmonotone (Nat.zero_le number)) h)

theorem rotateSecret_audited_iff (hkeys : (tables.clients.map (·.id)).Nodup)
    (hfresh : ¬ tables.HasAudit event.id) (hmonotone : Monotone times) (guard : MutationGuard)
    (storedClientSecret : Text) (now : Int) :
    Audited event tables (Request.Effect tables · (.rotateSecret guard storedClientSecret now))
        (Request.run event times tables (.rotateSecret guard storedClientSecret now)) ↔
      Steady times tables (.rotateSecret guard storedClientSecret now) := by
  apply updateBatch_audited_iff hkeys hfresh (hmonotone (Nat.zero_le 1))
  · exact fun _ => ⟨rfl, rfl, rfl⟩
  · exact fun _ => ⟨rfl, rfl, rfl, rfl⟩
  · exact fun _ => rfl
  · exact fun _ _ => rfl

theorem status_audited_iff (hkeys : (tables.clients.map (·.id)).Nodup)
    (hfresh : ¬ tables.HasAudit event.id) (hmonotone : Monotone times) (guard : MutationGuard)
    (disabled : Bool) (now : Int) :
    Audited event tables (Request.Effect tables · (.status guard disabled now))
        (Request.run event times tables (.status guard disabled now)) ↔
      Steady times tables (.status guard disabled now) := by
  cases disabled with
  | false =>
    apply updateBatch_audited_iff hkeys hfresh (hmonotone (Nat.zero_le 1))
    · exact fun _ => ⟨rfl, rfl, rfl⟩
    · exact fun _ => ⟨rfl, rfl, rfl, rfl⟩
    · exact fun _ => rfl
    · exact fun _ _ => ⟨rfl, fun h => absurd h Bool.false_ne_true⟩
  | true =>
    apply updateBatch_audited_iff hkeys hfresh (hmonotone (Nat.zero_le 4))
    · exact fun _ => ⟨rfl, rfl, rfl⟩
    · exact statusCleanups_keeps guard.managed now times
    · exact statusCleanups_idle hmonotone
    · intro hlast auditEvents
      refine ⟨rfl, fun _ => ?_⟩
      apply statusCleanups_of_permits
      intro later hclients husers hsessions _ number hnumber
      have hnumbered := managed_permits_iff.mp (managed_permits_earlier (hmonotone hnumber) hlast)
      have hchange : SameIdentity (ClientRow.withDisabled true now) := fun _ => ⟨rfl, rfl, rfl⟩
      rw [managed_permits_iff, ManagedClientGuard.Auditable, hclients, husers, hsessions]
      exact ⟨(selects_update_iff hchange).mpr hnumbered.1, hnumbered.2⟩

/-- A deletion purges the codes, inserts its event and deletes the client, each of the
three when the actor commits at its own instant. -/
theorem delete_audited_iff (hkeys : (tables.clients.map (·.id)).Nodup) (hfresh : ¬ tables.HasAudit event.id)
    (hmonotone : Monotone times) (guard : MutationGuard) :
    Audited event tables (Request.Effect tables · (.delete guard))
        (Request.run event times tables (.delete guard)) ↔ Steady times tables (.delete guard) := by
  let purged := pendingAuthorizationCodeCleanup guard.managed (times 0) tables
  have hfreshPurged : ¬ purged.HasAudit event.id := hfresh
  have hpermits : ∀ now, guard.managed.Permits purged now ↔ guard.managed.Permits tables now := by
    intro now
    rw [managed_permits_iff, managed_permits_iff]
    exact Iff.rfl
  have hzeroOne : (0 : Nat) ≤ 1 := Nat.zero_le 1
  have hearlier : guard.managed.Permits tables (times 1) → guard.managed.Permits tables (times 0) :=
    managed_permits_earlier (hmonotone hzeroOne)
  have hlater : guard.managed.Permits tables (times 2) → guard.managed.Permits tables (times 1) :=
    managed_permits_earlier (hmonotone (by decide))
  by_cases hsecond : guard.managed.Permits tables (times 1)
  · let audited : Tables := { purged with auditEvents := tables.auditEvents ++ [event] }
    have haudit : auditInsertForExistingClientStatement event guard.managed (times 1) purged = .ok (2, audited) :=
      audit_of_auditable hfreshPurged (managed_permits_iff.mp ((hpermits (times 1)).mpr hsecond))
    have hpermitsAudited : guard.managed.Permits audited (times 2) ↔ guard.managed.Permits tables (times 2) := by
      rw [managed_permits_iff, managed_permits_iff]
      exact Iff.rfl
    have hrun : Request.run event times tables (.delete guard) =
        settled (deleteClients guard.managed (times 2) audited).1 2
          (2 = 2 ∧ (deleteClients guard.managed (times 2) audited).1 ≠ 0)
          (deleteClients guard.managed (times 2) audited).2 := by
      rw [Request.run, deleteBatch]
      change (match (auditInsertForExistingClientStatement event guard.managed (times 1) purged >>= _) with
        | .ok result => result
        | .error error => rolledBack .failed tables error) = _
      rw [haudit]
      rfl
    rw [hrun]
    by_cases hthird : guard.managed.Permits tables (times 2)
    · have hkeysAudited : (audited.clients.map (·.id)).Nodup := hkeys
      obtain ⟨hchanges, hclients⟩ := deleteClients_of_permits hkeysAudited (hpermitsAudited.mpr hthird)
      have hcodes : purged.NoCodes guard.clientId := noCodes_of_permits (hearlier hsecond)
      refine iff_of_true (audited_of_whole ?_ hasAudit_append ⟨hclients, hcodes⟩ ?_)
        ⟨fun _ => .inl hsecond, fun _ => hthird⟩
      · rw [settled, hchanges]
        rfl
      · apply settled_response
        rw [hchanges]
        exact ⟨rfl, Nat.one_ne_zero⟩
    · rw [deleteClients_of_not_permits fun h => hthird (hpermitsAudited.mp h)]
      exact iff_of_false (not_audited_of_audit rfl hasAudit_append) fun h => hthird (h.2 hsecond)
  · have hthird : ¬ guard.managed.Permits tables (times 2) := fun h => hsecond (hlater h)
    have hrun : Request.run event times tables (.delete guard) = settled 0 0 (0 = 2 ∧ 0 ≠ 0) purged := by
      rw [Request.run, deleteBatch]
      change (match (auditInsertForExistingClientStatement event guard.managed (times 1) purged >>= _) with
        | .ok result => result
        | .error error => rolledBack .failed tables error) = _
      rw [audit_of_not_auditable fun h => hsecond ((hpermits _).mp (managed_permits_iff.mpr h)), ok_bind]
      dsimp only
      rw [deleteClients_of_not_permits fun h => hthird ((hpermits _).mp h)]
      rfl
    rw [hrun]
    by_cases hfirst : guard.managed.Permits tables (times 0)
    · by_cases hcodes : tables.NoCodes guard.clientId
      · have hpurged : purged = tables := by
          unfold purged
          rw [pendingAuthorizationCodeCleanup, table.delete_of_none fun row hrow h => hcodes row hrow h.1]
        rw [hpurged]
        exact iff_of_true (audited_of_unchanged hfresh rfl rfl) ⟨fun _ => .inr hcodes, fun h => absurd h hsecond⟩
      · refine iff_of_false ?_ fun h => (h.1 hfirst).elim hsecond hcodes
        intro haudited
        have hfailed : ¬ ((0 : Nat) = 2 ∧ (0 : Nat) ≠ 0) := fun h => h.2 rfl
        have hsame : purged = tables := haudited.conflict (.inl (settled_conflict hfailed))
        exact hcodes (hsame ▸ noCodes_of_permits hfirst)
    · have hpurged : purged = tables := (cleanups_of_not_permits 0 hfirst).1
      rw [hpurged]
      exact iff_of_true (audited_of_unchanged hfresh rfl rfl) ⟨fun h => absurd h hfirst, fun h => absurd h hsecond⟩

end requests

/-- The mutations of clients are audited or do not happen, in the batches whose first
statement lets nobody through whom the later ones stop; an edit, which writes its event
first and hangs the rest on it, needs no such condition. -/
theorem client_mutation_audited_iff {tables : Tables} {event : AuditRow} {times : Nat → Int}
    (hkeys : (tables.clients.map (·.id)).Nodup) (hfresh : ¬ tables.HasAudit event.id) (hmonotone : Monotone times)
    (request : Request) :
    Audited event tables (Request.Effect tables · request) (Request.run event times tables request) ↔
      Steady times tables request := by
  cases request with
  | create actor client => exact createBatch_audited_iff hfresh hmonotone actor client
  | provision actor clientRowId storedClientSecret now =>
    exact createBatch_audited_iff hfresh hmonotone actor (mailIntrospector clientRowId storedClientSecret now)
  | patch guard expectedUpdatedAt settings changes now =>
    exact iff_of_true (patch_audited hkeys hfresh guard expectedUpdatedAt settings changes now) trivial
  | rotateSecret guard storedClientSecret now =>
    exact rotateSecret_audited_iff hkeys hfresh hmonotone guard storedClientSecret now
  | status guard disabled now => exact status_audited_iff hkeys hfresh hmonotone guard disabled now
  | delete guard => exact delete_audited_iff hkeys hfresh hmonotone guard

/-- A client of an administrator whose session ends at the instant 1000. -/
def managedTables : Tables where
  users :=
    [{ id := Text.of "actor", email := Text.of "admin@mail.example", role := some .admin, status := .active
       accessLevel := .standard }]
  sessions := [{ id := Text.of "session", userId := Text.of "actor", expiresAt := 1000 }]
  clients :=
    [{ id := Text.of "row", clientId := Text.of "client", clientSecret := some (Text.of "hash"), disabled := false
       isPublic := false, tokenEndpointAuthMethod := Text.of "client_secret_post", ownerUserId := none
       createdAt := some 0, updatedAt := some 0, name := none, uri := none, redirectUris := []
       postLogoutRedirectUris := none, scopes := none, grantTypes := none, enableEndSession := none, metadata := []
       tos := none, policy := none, backchannelLogoutUri := none }]
  accessTokens := []
  refreshTokens := []
  consents := []
  verifications := []
  auditEvents := []

def rotation : Request :=
  .rotateSecret
    { actor :=
        { expectedEmail := Text.of "admin@mail.example", expectedRole := some .admin
          sessionId := Text.of "session", userId := Text.of "actor" }
      clientId := Text.of "client", clientRowId := Text.of "row", expectedOwnerUserId := none }
    (Text.of "new hash") 999

def rotated : AuditRow :=
  { id := Text.of "event", eventType := .secretRotated, clientId := Text.of "client"
    actorUserId := Text.of "actor" }

theorem client_mutation_audited_iff_rotation :
    Audited rotated managedTables (Request.Effect managedTables · rotation)
      (Request.run rotated (fun _ => 999) managedTables rotation) := by
  have hsteady : Steady (fun _ => 999) managedTables rotation := fun h => h
  exact (client_mutation_audited_iff (by decide) (by decide) monotone_const rotation).mpr hsteady

/-- The session ends between the update and the event. -/
theorem client_mutation_audited_fails :
    ¬ ∀ (tables : Tables) (event : AuditRow) (times : Nat → Int) (request : Request),
      (tables.clients.map (·.id)).Nodup → ¬ tables.HasAudit event.id → Monotone times →
        Audited event tables (Request.Effect tables · request) (Request.run event times tables request) := by
  intro h
  have hmonotone : Monotone fun number : Nat => 999 + (number : Int) :=
    fun _ _ hle => Int.add_le_add_left (Int.ofNat_le.mpr hle) 999
  have haudited := h managedTables rotated (fun number => 999 + (number : Int)) rotation (by decide) (by decide)
    hmonotone
  have hmutated : (Request.run rotated (fun number => 999 + (number : Int)) managedTables rotation).mutated = true := by
    decide
  have hunaudited : ¬ (Request.run rotated (fun number => 999 + (number : Int)) managedTables
      rotation).tables.HasAudit rotated.id := by
    decide
  exact hunaudited (haudited.together.mp hmutated)

end pgid.management
