import PgidSso.Deletion.Tables
import PgidSso.Session.Notified

/-! Both deletions of an account do all that they are for, or nothing. -/

open checked pgid.logout

namespace pgid.deletion

variable {db mid after : Database} {event : AuditRow} {eventId userId deliveryKeyPrefix : Text} {now : Int}

section guards

theorem guarded_of_audited {statement : Database → Database} (haudit : db.HasAudit eventId) :
    guarded eventId statement db = statement db :=
  if_pos haudit

theorem guarded_of_unaudited {statement : Database → Database} (hunaudited : ¬ db.HasAudit eventId) :
    guarded eventId statement db = db :=
  if_neg hunaudited

theorem endAccess_of_unaudited (hunaudited : ¬ db.HasAudit eventId) :
    endAccess deliveryKeyPrefix eventId userId now db = db := by
  simp only [endAccess, guarded_of_unaudited hunaudited]

/-- The statements of the end of access, one after the other. -/
theorem endAccess_of_audited (haudit : db.HasAudit eventId) :
    endAccess deliveryKeyPrefix eventId userId now db =
      disownClients userId now (deleteOwnedCodes userId (revokeOwnedRefreshTokens userId now
        (deleteOwnedAccessTokens userId (deleteAccessTokens userId (revokeRefreshTokens userId now
          (logoutOutbox deliveryKeyPrefix eventId userId now db)))))) := by
  have houtbox : (logoutOutbox deliveryKeyPrefix eventId userId now db).HasAudit eventId := haudit
  have hrefresh : (revokeRefreshTokens userId now
      (logoutOutbox deliveryKeyPrefix eventId userId now db)).HasAudit eventId := haudit
  have haccess : (deleteAccessTokens userId (revokeRefreshTokens userId now
      (logoutOutbox deliveryKeyPrefix eventId userId now db))).HasAudit eventId := haudit
  have howned : (deleteOwnedAccessTokens userId (deleteAccessTokens userId (revokeRefreshTokens userId now
      (logoutOutbox deliveryKeyPrefix eventId userId now db)))).HasAudit eventId := haudit
  have hrevoked : (revokeOwnedRefreshTokens userId now (deleteOwnedAccessTokens userId (deleteAccessTokens userId
      (revokeRefreshTokens userId now (logoutOutbox deliveryKeyPrefix eventId userId now db))))).HasAudit eventId :=
    haudit
  have hcodes : (deleteOwnedCodes userId (revokeOwnedRefreshTokens userId now (deleteOwnedAccessTokens userId
      (deleteAccessTokens userId (revokeRefreshTokens userId now
        (logoutOutbox deliveryKeyPrefix eventId userId now db)))))).HasAudit eventId := haudit
  rw [endAccess, guarded_of_audited haudit, guarded_of_audited houtbox, guarded_of_audited hrefresh,
    guarded_of_audited haccess, guarded_of_audited howned, guarded_of_audited hrevoked, guarded_of_audited hcodes]

theorem deleteUser_of_unaudited {matching : UserRow → Prop} [DecidablePred matching]
    (hunaudited : ¬ db.HasAudit eventId) : deleteUser eventId matching db = .ok (0, db) := by
  rw [deleteUser, if_neg hunaudited]
  rfl

/-- The tables with the event. -/
def audited (event : AuditRow) (db : Database) : Database :=
  { db with auditEvents := db.auditEvents ++ [event] }

theorem audited_hasAudit : (audited event db).HasAudit event.id :=
  ⟨event, List.mem_append_right _ List.mem_cons_self, rfl⟩

theorem insertAudit_of_guard {guard : Database → Prop} [DecidablePred guard] (hfresh : ¬ db.HasAudit event.id)
    (hguard : guard db) : insertAudit event guard db = .ok (audited event db) := by
  rw [insertAudit, if_pos hguard, throwIf_bind_of_not hfresh]
  rfl

theorem insertAudit_of_not {guard : Database → Prop} [DecidablePred guard] (hguard : ¬ guard db) :
    insertAudit event guard db = .ok db := by
  rw [insertAudit, if_neg hguard]
  rfl

end guards

section ended

/-- What the constraints of the tables say of their keys. -/
structure Database.Keys (db : Database) : Prop where
  users : (db.users.map fun row => row.id).Nodup
  sessions : (db.sessions.map fun row => row.id).Nodup
  clients : (db.clients.map fun row => row.clientId).Nodup
  visits : (db.visits.map fun visit => (visit.sessionId, visit.clientId)).Nodup
  deliveries : ∀ row ∈ db.deliveries, db.HasAudit row.eventId

/-- The tables before the user goes, seen from those before the batch. -/
structure Ended (deliveryKeyPrefix : Text) (event : AuditRow) (userId : Text) (now : Int) (db mid : Database) :
    Prop where
  users : mid.users = db.users
  auditEvents : mid.auditEvents = db.auditEvents ++ [event]
  clients : mid.clients =
    table.update (fun row : ClientRow => row.ownerUserId = some userId) (ClientRow.shutDown now) db.clients
  accessTokens : ∀ row ∈ mid.accessTokens, row.userId ≠ some userId ∧ ¬ Owned userId db.clients row.clientId
  refreshTokens : ∀ row ∈ mid.refreshTokens, Owned userId db.clients row.clientId → row.revoked ≠ none
  verifications : ∀ row ∈ mid.verifications, ∀ clientId ∈ row.codeClientId, ¬ Owned userId db.clients clientId
  deliveries : mid.deliveries = (logoutOutbox deliveryKeyPrefix event.id userId now db).deliveries

theorem endAccess_ended : Ended deliveryKeyPrefix event userId now db
    (endAccess deliveryKeyPrefix event.id userId now (audited event db)) := by
  rw [endAccess_of_audited audited_hasAudit]
  simp only [disownClients, deleteOwnedCodes, revokeOwnedRefreshTokens, deleteOwnedAccessTokens, deleteAccessTokens,
    revokeRefreshTokens, logoutOutbox, audited]
  constructor
  case users => rfl
  case auditEvents => rfl
  case clients => rfl
  case deliveries => rfl
  case accessTokens =>
    intro row hrow
    obtain ⟨hrow, hunowned⟩ := table.mem_delete.mp hrow
    exact ⟨(table.mem_delete.mp hrow).2, hunowned⟩
  case refreshTokens =>
    intro row hrow howned
    obtain ⟨old, -, -, rfl⟩ | ⟨-, hkept⟩ := table.mem_update.mp hrow
    · exact Option.some_ne_none now
    · intro hlive
      exact hkept ⟨hlive, howned⟩
  case verifications =>
    intro row hrow clientId hclient howned
    exact (table.mem_delete.mp hrow).2 ⟨clientId, hclient, howned⟩

theorem Ended.deleteSessions (hended : Ended deliveryKeyPrefix event userId now db mid) :
    Ended deliveryKeyPrefix event userId now db (deleteSessions userId mid) := by
  obtain ⟨husers, haudit, hclients, haccess, hrefresh, hcodes, hdeliveries⟩ := hended
  refine ⟨husers, haudit, hclients, ?_, ?_, hcodes, hdeliveries⟩
  · intro row hrow
    obtain ⟨old, hold, -, rfl⟩ | ⟨hrow, -⟩ := table.mem_update.mp hrow
    · exact haccess old hold
    · exact haccess row hrow
  · intro row hrow howned
    obtain ⟨old, hold, -, rfl⟩ | ⟨hrow, -⟩ := table.mem_update.mp hrow
    · exact hrefresh old hold howned
    · exact hrefresh row hrow howned

theorem Ended.deleteAccounts (hended : Ended deliveryKeyPrefix event userId now db mid) :
    Ended deliveryKeyPrefix event userId now db (deleteAccounts userId mid) :=
  ⟨hended.users, hended.auditEvents, hended.clients, hended.accessTokens, hended.refreshTokens,
    hended.verifications, hended.deliveries⟩

theorem Ended.deleteUserCodes (hended : Ended deliveryKeyPrefix event userId now db mid) :
    Ended deliveryKeyPrefix event userId now db (deleteUserCodes userId mid) := by
  obtain ⟨husers, haudit, hclients, haccess, hrefresh, hcodes, hdeliveries⟩ := hended
  refine ⟨husers, haudit, hclients, haccess, hrefresh, ?_, hdeliveries⟩
  intro row hrow
  exact hcodes row (table.mem_delete.mp hrow).1

theorem Ended.hasAudit (hended : Ended deliveryKeyPrefix event userId now db mid) : mid.HasAudit event.id := by
  rw [Database.HasAudit, hended.auditEvents]
  exact audited_hasAudit

end ended

section deleted

/-- All that a deletion is for, in the tables before and after it. A client of the user goes
with the user when the column of the authentication library names it too. -/
structure Deleted (userId eventId : Text) (now : Int) (before after : Database) : Prop where
  users : ∀ row ∈ after.users, row.id ≠ userId
  sessions : ∀ row ∈ after.sessions, row.userId ≠ userId
  accounts : ∀ row ∈ after.accounts, row.userId ≠ userId
  accessTokens : ∀ row ∈ after.accessTokens, row.userId ≠ some userId
  refreshTokens : ∀ row ∈ after.refreshTokens, row.userId ≠ userId
  ownedAccessTokens : ∀ row ∈ after.accessTokens, ¬ Owned userId before.clients row.clientId
  ownedRefreshTokens : ∀ row ∈ after.refreshTokens, Owned userId before.clients row.clientId → row.revoked ≠ none
  ownedCodes : ∀ row ∈ after.verifications, ∀ clientId ∈ row.codeClientId, ¬ Owned userId before.clients clientId
  shutDown : ∀ row ∈ before.clients, row.ownerUserId = some userId → row.userId ≠ some userId →
    row.shutDown now ∈ after.clients
  unowned : ∀ row ∈ after.clients, row.ownerUserId ≠ some userId
  taken : ∀ row ∈ after.clients, row.userId ≠ some userId
  kept : ∀ row ∈ after.clients, ∃ old ∈ before.clients, old.clientId = row.clientId ∧ old.userId = row.userId
  deliveries : ∀ session ∈ before.sessions, session.userId = userId → ∀ client ∈ before.clients,
    (∃ visit ∈ before.visits, visit.sessionId = session.id ∧ visit.clientId = client.clientId) →
      ∃ delivery, table.matched (fun row : LogoutDelivery => row.eventId = eventId ∧ row.sessionId = session.id ∧
        row.clientId = client.clientId) after.deliveries = [delivery]

/-- A visited pair has one delivery. -/
theorem outbox_matched (hkeys : db.Keys) (hfresh : ¬ db.HasAudit eventId) {session : SessionRow}
    (hsession : session ∈ db.sessions) (hown : session.userId = userId) {client : ClientRow}
    (hclient : client ∈ db.clients)
    (hvisit : ∃ visit ∈ db.visits, visit.sessionId = session.id ∧ visit.clientId = client.clientId) :
    ∃ delivery, table.matched (fun row : LogoutDelivery => row.eventId = eventId ∧ row.sessionId = session.id ∧
      row.clientId = client.clientId) (logoutOutbox deliveryKeyPrefix eventId userId now db).deliveries = [delivery] := by
  obtain ⟨visit, hvisit, hsessionId, hclientId⟩ := hvisit
  have hsessions : (db.visited.sessions.map (·.id)).Nodup := by
    rw [Database.visited, List.map_map]
    exact hkeys.sessions
  have hclients : (db.visited.clients.map (·.clientId)).Nodup := by
    rw [Database.visited, List.map_map]
    exact hkeys.clients
  have hunique := revocation.sortedVisits_nodup (.userAll userId) hsessions hclients hkeys.visits
  have hdeliveries : ∀ row ∈ db.deliveries, row.eventId ≠ eventId := by
    rintro row hrow rfl
    exact hfresh (hkeys.deliveries row hrow)
  have hmem : (⟨session.id, session.userId, client.clientId, client.backchannelLogoutUri⟩ : OutboxVisit) ∈
      (revocation.selectedVisits (.userAll userId) db.visited).mergeSort revocation.visitOrder := by
    rw [List.mem_mergeSort, revocation.mem_selectedVisits]
    exact ⟨visit, hvisit, _, List.mem_map_of_mem hsession, _, List.mem_map_of_mem hclient, hown, hsessionId.symm,
      hclientId.symm, rfl⟩
  obtain ⟨delivery, -, hmatched⟩ :=
    revocation.insertOutbox_matched deliveryKeyPrefix .accountDelete now hunique hdeliveries hmem
  exact ⟨delivery, hmatched⟩

theorem cascade_hasAudit {gone : Text → Prop} [DecidablePred gone] (haudit : mid.HasAudit eventId) :
    (cascade gone mid).HasAudit eventId := by
  obtain ⟨event, hevent, hid⟩ := haudit
  by_cases hactor : ∃ actor ∈ event.actorUserId, gone actor
  · exact ⟨_, table.change_mem_update hevent hactor, hid⟩
  · exact ⟨event, table.mem_update_of_not hevent hactor, hid⟩

/-- A client of the user is shut down, and its other column is what it was. -/
theorem Ended.mem_clients (hended : Ended deliveryKeyPrefix event userId now db mid) {row : ClientRow}
    (hrow : row ∈ mid.clients) : row.ownerUserId ≠ some userId := by
  rw [hended.clients] at hrow
  obtain ⟨old, -, -, rfl⟩ | ⟨-, hother⟩ := table.mem_update.mp hrow
  · exact Option.some_ne_none userId ∘ Eq.symm
  · exact hother

/-- A client after the end of access was there before it, with its other column. -/
theorem Ended.old_client (hended : Ended deliveryKeyPrefix event userId now db mid) {row : ClientRow}
    (hrow : row ∈ mid.clients) : ∃ old ∈ db.clients, old.clientId = row.clientId ∧ old.userId = row.userId := by
  rw [hended.clients] at hrow
  obtain ⟨old, hold, -, rfl⟩ | ⟨hold, -⟩ := table.mem_update.mp hrow
  · exact ⟨old, hold, rfl, rfl⟩
  · exact ⟨row, hold, rfl, rfl⟩

/-- What goes with the user, in tables that have been prepared for it. -/
theorem Ended.cascade_deleted (hended : Ended deliveryKeyPrefix event userId now db mid) (hkeys : db.Keys)
    (hfresh : ¬ db.HasAudit event.id) {gone : Text → Prop} [DecidablePred gone] (hgone : ∀ id, gone id ↔ id = userId)
    {users : List UserRow} (husers : ∀ row ∈ users, row.id ≠ userId) :
    Deleted userId event.id now db { cascade gone mid with users } := by
  have huser : gone userId := (hgone userId).mpr rfl
  simp only [cascade]
  constructor
  case users => exact husers
  case sessions =>
    rintro row hrow rfl
    exact (table.mem_delete.mp hrow).2 huser
  case accounts =>
    rintro row hrow rfl
    exact (table.mem_delete.mp hrow).2 huser
  case accessTokens =>
    intro row hrow
    obtain ⟨old, hold, -, rfl⟩ | ⟨hrow, -⟩ := table.mem_update.mp hrow
    · exact (hended.accessTokens old (table.mem_delete.mp hold).1).1
    · exact (hended.accessTokens row (table.mem_delete.mp hrow).1).1
  case refreshTokens =>
    rintro row hrow rfl
    obtain ⟨old, hold, -, rfl⟩ | ⟨hrow, -⟩ := table.mem_update.mp hrow
    · exact (table.mem_delete.mp hold).2 (.inl huser)
    · exact (table.mem_delete.mp hrow).2 (.inl huser)
  case ownedAccessTokens =>
    intro row hrow
    obtain ⟨old, hold, -, rfl⟩ | ⟨hrow, -⟩ := table.mem_update.mp hrow
    · exact (hended.accessTokens old (table.mem_delete.mp hold).1).2
    · exact (hended.accessTokens row (table.mem_delete.mp hrow).1).2
  case ownedRefreshTokens =>
    intro row hrow howned
    obtain ⟨old, hold, -, rfl⟩ | ⟨hrow, -⟩ := table.mem_update.mp hrow
    · exact hended.refreshTokens old (table.mem_delete.mp hold).1 howned
    · exact hended.refreshTokens row (table.mem_delete.mp hrow).1 howned
  case ownedCodes => exact hended.verifications
  case shutDown =>
    intro row hrow howner huserId
    have hshut : row.shutDown now ∈ mid.clients := by
      rw [hended.clients]
      exact table.change_mem_update hrow howner
    apply table.mem_update_of_not
    · refine table.mem_delete.mpr ⟨hshut, ?_⟩
      rintro ⟨other, hother, htaken⟩
      exact huserId (hother.trans (congrArg some ((hgone other).mp htaken)))
    · rintro ⟨owner, howner, -⟩
      cases howner
  case unowned =>
    intro row hrow
    obtain ⟨old, -, -, rfl⟩ | ⟨hrow, -⟩ := table.mem_update.mp hrow
    · exact Option.some_ne_none userId ∘ Eq.symm
    · exact hended.mem_clients (table.mem_delete.mp hrow).1
  case taken =>
    intro row hrow huserId
    obtain ⟨old, hold, -, rfl⟩ | ⟨hrow, -⟩ := table.mem_update.mp hrow
    · exact (table.mem_delete.mp hold).2 ⟨userId, huserId, huser⟩
    · exact (table.mem_delete.mp hrow).2 ⟨userId, huserId, huser⟩
  case kept =>
    intro row hrow
    obtain ⟨old, hold, -, rfl⟩ | ⟨hrow, -⟩ := table.mem_update.mp hrow
    · obtain ⟨before, hbefore, hid, huserId⟩ := hended.old_client (table.mem_delete.mp hold).1
      exact ⟨before, hbefore, hid, huserId⟩
    · exact hended.old_client (table.mem_delete.mp hrow).1
  case deliveries =>
    intro session hsession hown client hclient hvisit
    rw [hended.deliveries]
    exact outbox_matched hkeys hfresh hsession hown hclient hvisit

/-- The last statement finds the user that the guard of the event has found. -/
theorem Ended.deleteUser_deleted (hended : Ended deliveryKeyPrefix event userId now db mid) (hkeys : db.Keys)
    (hfresh : ¬ db.HasAudit event.id) {matching : UserRow → Prop} [DecidablePred matching]
    (hmatching : ∀ row, matching row → row.id = userId) (hfound : ∃ row ∈ db.users, matching row) {deleted : Nat}
    (hdelete : deleteUser event.id matching mid = .ok (deleted, after)) :
    after.HasAudit event.id ∧ Deleted userId event.id now db after := by
  obtain ⟨user, huser, hmatch⟩ := hfound
  rw [deleteUser, if_pos hended.hasAudit, throwIf_bind_eq_ok_iff] at hdelete
  obtain ⟨-, hresult⟩ := hdelete
  cases hresult
  have hgone : ∀ id, (∃ row ∈ mid.users, row.id = id ∧ matching row) ↔ id = userId := by
    intro id
    constructor
    · rintro ⟨row, -, rfl, hrow⟩
      exact hmatching row hrow
    · rintro rfl
      exact ⟨user, hended.users ▸ huser, hmatching user hmatch, hmatch⟩
  refine ⟨cascade_hasAudit hended.hasAudit, hended.cascade_deleted hkeys hfresh hgone ?_⟩
  rintro row hrow hid
  obtain ⟨hrow, hother⟩ := table.mem_delete.mp hrow
  rw [hended.users] at hrow
  have hsame : row = user := table.eq_of_key hkeys.users hrow huser (hid.trans (hmatching user hmatch).symm)
  exact hother (hsame ▸ hmatch)

/-- The trigger aborts the deletion of the stored bootstrap administrator, and of no other. -/
theorem Ended.deleteUser_returns (hended : Ended deliveryKeyPrefix event userId now db mid)
    (matching : UserRow → Prop) [DecidablePred matching] :
    (∃ result, deleteUser event.id matching mid = .ok result) ↔
      ∀ row ∈ db.users, matching row → row.role ≠ some .bootadmin := by
  rw [← hended.users]
  constructor
  · rintro ⟨result, hdelete⟩ row hrow hmatch hrole
    rw [deleteUser, if_pos hended.hasAudit, throwIf_bind_eq_ok_iff] at hdelete
    exact hdelete.1 ⟨row, hrow, hmatch, hrole⟩
  · intro hroles
    rw [deleteUser, if_pos hended.hasAudit, throwIf_bind_of_not]
    · exact ⟨_, rfl⟩
    · rintro ⟨row, hrow, hmatch, hrole⟩
      exact hroles row hrow hmatch hrole

end deleted

section batches

/-- The event has been inserted and all is done, or nothing has changed. -/
def AllOrNothing (userId eventId : Text) (now : Int) (before after : Database) : Prop :=
  (after.HasAudit eventId ∧ Deleted userId eventId now before after) ∨ (¬ after.HasAudit eventId ∧ after = before)

/-- Every client that the user owned is there, disabled and without an owner. -/
def OwnedPreserved (userId : Text) (before after : Database) : Prop :=
  ∀ row ∈ before.clients, row.ownerUserId = some userId →
    ∃ kept ∈ after.clients, kept.clientId = row.clientId ∧ kept.disabled = true ∧ kept.ownerUserId = none

/-- All is done and the clients of the user are preserved, or nothing has changed. -/
def PreservingOrNothing (userId eventId : Text) (now : Int) (before after : Database) : Prop :=
  (after.HasAudit eventId ∧ Deleted userId eventId now before after ∧ OwnedPreserved userId before after) ∨
    (¬ after.HasAudit eventId ∧ after = before)

/-- No client of the user names it in the column of the authentication library too. -/
def NamesNoOwner (userId : Text) (db : Database) : Prop :=
  ∀ row ∈ db.clients, row.ownerUserId = some userId → row.userId ≠ some userId

/-- The user and its session are as they were read, and no trigger keeps the user. -/
def AccountDeleteSnapshot.Deletes (snapshot : AccountDeleteSnapshot) (now : Int) (db : Database) : Prop :=
  snapshot.Current now db ∧ snapshot.user.role ≠ some .bootadmin

/-- The guard of an administrator permits the deletion, and no trigger keeps the user. -/
def Deletes (guard : accounts.ExistingUserAuditGuard) (now : Int) (db : Database) : Prop :=
  Permits guard now db ∧ guard.expectedRole ≠ some .bootadmin

/-- A deletion takes the clients that name the user with it, and disables the others. -/
theorem Deleted.preserved_iff {before : Database} (hdeleted : Deleted userId eventId now before after)
    (hkeys : before.Keys) : OwnedPreserved userId before after ↔ NamesNoOwner userId before := by
  constructor
  · intro hpreserved row hrow howner huserId
    obtain ⟨kept, hkept, hid, -⟩ := hpreserved row hrow howner
    obtain ⟨old, hold, hsame, hcolumn⟩ := hdeleted.kept kept hkept
    rw [table.eq_of_key hkeys.clients hold hrow (hsame.trans hid), huserId] at hcolumn
    exact hdeleted.taken kept hkept hcolumn.symm
  · intro hnames row hrow howner
    exact ⟨row.shutDown now, hdeleted.shutDown row hrow howner (hnames row hrow howner), rfl, rfl, rfl⟩

/-- The user goes by the batch, or the batch leaves all rows as they are. -/
structure Outcome (userId eventId : Text) (now : Int) (deletes : Prop) (before after : Database) : Prop where
  all : deletes → after.HasAudit eventId ∧ Deleted userId eventId now before after
  nothing : ¬ deletes → after = before

theorem Outcome.allOrNothing {deletes : Prop} (houtcome : Outcome userId eventId now deletes db after)
    (hfresh : ¬ db.HasAudit eventId) : AllOrNothing userId eventId now db after := by
  by_cases hdeletes : deletes
  · exact .inl (houtcome.all hdeletes)
  · rw [houtcome.nothing hdeletes]
    exact .inr ⟨hfresh, rfl⟩

theorem Outcome.preserving_iff {deletes : Prop} (houtcome : Outcome userId eventId now deletes db after)
    (hfresh : ¬ db.HasAudit eventId) (hkeys : db.Keys) :
    PreservingOrNothing userId eventId now db after ↔ (deletes → NamesNoOwner userId db) := by
  constructor
  · rintro (⟨-, hdeleted, hpreserved⟩ | ⟨hunaudited, -⟩) hdeletes
    · exact (hdeleted.preserved_iff hkeys).mp hpreserved
    · exact absurd (houtcome.all hdeletes).1 hunaudited
  · intro hnames
    by_cases hdeletes : deletes
    · obtain ⟨haudit, hdeleted⟩ := houtcome.all hdeletes
      exact .inl ⟨haudit, hdeleted, (hdeleted.preserved_iff hkeys).mpr (hnames hdeletes)⟩
    · rw [houtcome.nothing hdeletes]
      exact .inr ⟨hfresh, rfl⟩

theorem selfDeleteBatch_outcome (deliveryKeyPrefix : Text) (now : Int) (hkeys : db.Keys)
    (hfresh : ¬ db.HasAudit event.id) (snapshot : AccountDeleteSnapshot) :
    Outcome snapshot.user.id event.id now (snapshot.Deletes now db) db
      (transaction (selfDeleteBatch snapshot event deliveryKeyPrefix now) db).2 := by
  by_cases hcurrent : snapshot.Current now db
  · have hended : Ended deliveryKeyPrefix event snapshot.user.id now db
        (endAccess deliveryKeyPrefix event.id snapshot.user.id now (audited event db)) := endAccess_ended
    have hlast := hended.deleteSessions.deleteAccounts
    have hroles : (∀ row ∈ db.users, snapshot.SameUser row → row.role ≠ some .bootadmin) ↔
        snapshot.user.role ≠ some .bootadmin := by
      obtain ⟨user, huser, hsame⟩ := hcurrent.2
      constructor
      · intro hroles
        rw [← hsame.2.2.2.1]
        exact hroles user huser hsame
      · intro hrole row hrow hmatch
        rw [hmatch.2.2.2.1]
        exact hrole
    have hreturns := hlast.deleteUser_returns snapshot.SameUser
    rw [hroles] at hreturns
    rw [transaction, selfDeleteBatch, insertAudit_of_guard hfresh hcurrent, ok_bind]
    simp only [guarded_of_audited hended.hasAudit, guarded_of_audited hended.deleteSessions.hasAudit]
    constructor
    · rintro ⟨-, hrole⟩
      obtain ⟨⟨deleted, after⟩, hdelete⟩ := hreturns.mpr hrole
      rw [hdelete]
      exact hlast.deleteUser_deleted hkeys hfresh (fun row hrow => hrow.1) hcurrent.2 hdelete
    · intro hdeletes
      cases hdelete : deleteUser event.id snapshot.SameUser
          (deleteAccounts snapshot.user.id (deleteSessions snapshot.user.id
            (endAccess deliveryKeyPrefix event.id snapshot.user.id now (audited event db)))) with
      | error error => rfl
      | ok result => exact absurd ⟨hcurrent, hreturns.mp ⟨result, hdelete⟩⟩ hdeletes
  · rw [transaction, selfDeleteBatch, insertAudit_of_not hcurrent, ok_bind]
    simp only [endAccess_of_unaudited hfresh, guarded_of_unaudited hfresh, deleteUser_of_unaudited hfresh]
    exact ⟨fun hdeletes => absurd hdeletes.1 hcurrent, fun _ => rfl⟩

theorem adminDeleteBatch_outcome (deliveryKeyPrefix : Text) (now : Int) (hkeys : db.Keys)
    (hfresh : ¬ db.HasAudit event.id) (guard : accounts.ExistingUserAuditGuard) :
    Outcome guard.userId event.id now (Deletes guard now db) db
      (transaction (adminDeleteBatch guard event deliveryKeyPrefix now) db).2 := by
  by_cases hpermits : Permits guard now db
  · have hended : Ended deliveryKeyPrefix event guard.userId now db
        (endAccess deliveryKeyPrefix event.id guard.userId now (audited event db)) := endAccess_ended
    have hlast := hended.deleteUserCodes
    obtain ⟨user, huser, hselects⟩ := hpermits.1
    have hroles : (∀ row ∈ db.users, row.id = guard.userId → row.role ≠ some .bootadmin) ↔
        guard.expectedRole ≠ some .bootadmin := by
      constructor
      · intro hroles
        rw [← hselects.2.2.1]
        exact hroles user huser hselects.1
      · intro hrole row hrow hid
        rw [table.eq_of_key hkeys.users hrow huser (hid.trans hselects.1.symm), hselects.2.2.1]
        exact hrole
    have hreturns := hlast.deleteUser_returns fun row => row.id = guard.userId
    rw [hroles] at hreturns
    rw [transaction, adminDeleteBatch, insertAudit_of_guard hfresh hpermits, ok_bind]
    simp only [guarded_of_audited hended.hasAudit]
    constructor
    · rintro ⟨-, hrole⟩
      obtain ⟨⟨deleted, after⟩, hdelete⟩ := hreturns.mpr hrole
      rw [hdelete]
      exact hlast.deleteUser_deleted hkeys hfresh (fun row hrow => hrow) ⟨user, huser, hselects.1⟩ hdelete
    · intro hdeletes
      cases hdelete : deleteUser event.id (fun row => row.id = guard.userId)
          (deleteUserCodes guard.userId
            (endAccess deliveryKeyPrefix event.id guard.userId now (audited event db))) with
      | error error => rfl
      | ok result => exact absurd ⟨hpermits, hreturns.mp ⟨result, hdelete⟩⟩ hdeletes
  · rw [transaction, adminDeleteBatch, insertAudit_of_not hpermits, ok_bind]
    simp only [endAccess_of_unaudited hfresh, guarded_of_unaudited hfresh, deleteUser_of_unaudited hfresh]
    exact ⟨fun hdeletes => absurd hdeletes.1 hpermits, fun _ => rfl⟩

theorem loadAccountDeleteSnapshot_user {seen : Database} {sessionToken : Text} {seenAt : Int}
    {snapshot : AccountDeleteSnapshot}
    (hsnapshot : loadAccountDeleteSnapshot seen sessionToken userId seenAt = some snapshot) :
    snapshot.user.id = userId := by
  rw [loadAccountDeleteSnapshot] at hsnapshot
  simp only [Option.bind_eq_bind, Option.bind_eq_some_iff, Option.pure_def, Option.some.injEq] at hsnapshot
  obtain ⟨session, hsession, user, huser, rfl⟩ := hsnapshot
  have hsessionUser := List.find?_some hsession
  have huserId := List.find?_some huser
  rw [decide_eq_true_eq] at hsessionUser huserId
  exact huserId.trans hsessionUser.2.1

/-- The read before the batch has found the account, and the batch deletes it. -/
def SelfDeletes (sessionToken : Option Text) (userId : Text) (seenAt now : Int) (seen db : Database) : Prop :=
  ∃ snapshot, (sessionToken.bind fun token => loadAccountDeleteSnapshot seen token userId seenAt) = some snapshot ∧
    snapshot.Deletes now db

theorem deleteOwnAccountAtomically_outcome (deliveryKeyPrefix : Text) (now : Int) (hkeys : db.Keys)
    (hfresh : ¬ db.HasAudit event.id) (sessionToken : Option Text) (userId : Text) (seenAt : Int) (seen : Database) :
    Outcome userId event.id now (SelfDeletes sessionToken userId seenAt now seen db) db
      (deleteOwnAccountAtomically sessionToken userId event deliveryKeyPrefix seenAt now seen db).2 := by
  rw [deleteOwnAccountAtomically]
  cases hsnapshot : sessionToken.bind fun token => loadAccountDeleteSnapshot seen token userId seenAt with
  | none =>
    refine ⟨?_, fun _ => rfl⟩
    rintro ⟨snapshot, hfound, -⟩
    rw [hsnapshot] at hfound
    cases hfound
  | some snapshot =>
    have hiff : SelfDeletes sessionToken userId seenAt now seen db ↔ snapshot.Deletes now db := by
      rw [SelfDeletes, hsnapshot]
      constructor
      · rintro ⟨_, hsame, hdeletes⟩
        cases hsame
        exact hdeletes
      · exact fun hdeletes => ⟨snapshot, rfl, hdeletes⟩
    obtain ⟨token, -, hload⟩ := Option.bind_eq_some_iff.mp hsnapshot
    have houtcome := selfDeleteBatch_outcome deliveryKeyPrefix now hkeys hfresh snapshot
    rw [loadAccountDeleteSnapshot_user hload] at houtcome
    rw [propext hiff]
    exact houtcome

/-- The deletion of the own account and the one by an administrator insert their event and do
all that they are for, or they change no row. The clients of the account are preserved exactly
when none names it in its other column too, or no deletion takes place. The id of the event is new. -/
theorem account_deletion_atomic (db : Database) (hkeys : db.Keys) (event : AuditRow)
    (hfresh : ¬ db.HasAudit event.id) (deliveryKeyPrefix : Text) (now : Int) :
    (∀ sessionToken userId seenAt seen,
      AllOrNothing userId event.id now db
        (deleteOwnAccountAtomically sessionToken userId event deliveryKeyPrefix seenAt now seen db).2 ∧
      (PreservingOrNothing userId event.id now db
        (deleteOwnAccountAtomically sessionToken userId event deliveryKeyPrefix seenAt now seen db).2 ↔
          (SelfDeletes sessionToken userId seenAt now seen db → NamesNoOwner userId db))) ∧
    ∀ guard,
      AllOrNothing guard.userId event.id now db
        (transaction (adminDeleteBatch guard event deliveryKeyPrefix now) db).2 ∧
      (PreservingOrNothing guard.userId event.id now db
        (transaction (adminDeleteBatch guard event deliveryKeyPrefix now) db).2 ↔
          (Deletes guard now db → NamesNoOwner guard.userId db)) := by
  constructor
  · intro sessionToken userId seenAt seen
    have houtcome := deleteOwnAccountAtomically_outcome deliveryKeyPrefix now hkeys
      hfresh sessionToken userId seenAt seen
    exact ⟨houtcome.allOrNothing hfresh, houtcome.preserving_iff hfresh hkeys⟩
  · intro guard
    have houtcome := adminDeleteBatch_outcome deliveryKeyPrefix now hkeys hfresh guard
    exact ⟨houtcome.allOrNothing hfresh, houtcome.preserving_iff hfresh hkeys⟩

/-- The account of Alice, with one session and one client, whose other column may name her. -/
def databaseExample (clientUser : Option Text) : Database where
  users := [{ id := Text.of "alice", email := Text.of "alice@example.com", role := some .developer, status := .active
              accessLevel := .standard, emailVerified := true, updatedAt := Text.of "u" }]
  sessions := [{ id := Text.of "s", userId := Text.of "alice", expiresAt := 100, token := Text.of "t"
                 createdAt := Text.of "c", updatedAt := Text.of "u" }]
  accounts := [{ id := Text.of "a", userId := Text.of "alice" }]
  clients := [{ id := Text.of "row", clientId := Text.of "rp", backchannelLogoutUri := none, userId := clientUser
                ownerUserId := some (Text.of "alice"), disabled := false, updatedAt := none }]
  refreshTokens := [{ id := Text.of "r", clientId := Text.of "rp", sessionId := some (Text.of "s")
                      userId := Text.of "alice", revoked := none }]
  accessTokens := [{ id := Text.of "at", clientId := Text.of "rp", sessionId := some (Text.of "s")
                     userId := some (Text.of "alice"), createdAt := 10, refreshId := some (Text.of "r") }]
  verifications := [{ id := Text.of "v", codeUserId := some (Text.of "alice"), codeClientId := some (Text.of "rp") }]
  visits := [{ sessionId := Text.of "s", clientId := Text.of "rp", firstSeenAt := 10, lastSeenAt := 10 }]
  auditEvents := []
  deliveries := []

def eventExample : AuditRow where
  id := Text.of "e"
  eventType := Text.of "account.deleted"
  actorUserId := some (Text.of "alice")
  subjectId := some (Text.of "alice")
  occurredAt := Text.of "now"

/-- The tables after Alice has deleted her account. -/
def deletedExample (clientUser : Option Text) : Database :=
  (deleteOwnAccountAtomically (some (Text.of "t")) (Text.of "alice") eventExample (Text.of "key") 20 30
    (databaseExample clientUser) (databaseExample clientUser)).2

theorem databaseExample_keys (clientUser : Option Text) : (databaseExample clientUser).Keys where
  users := List.nodup_singleton _
  sessions := List.nodup_singleton _
  clients := List.nodup_singleton _
  visits := List.nodup_singleton _
  deliveries := fun _ hrow => absurd hrow List.not_mem_nil

/-- Without the other column the client of Alice is preserved. -/
theorem account_deletion_atomic_example :
    (deletedExample none).HasAudit (Text.of "e") ∧
      PreservingOrNothing (Text.of "alice") (Text.of "e") 30 (databaseExample none) (deletedExample none) := by
  obtain ⟨hself, -⟩ := account_deletion_atomic (databaseExample none) (databaseExample_keys none) eventExample
    (by decide) (Text.of "key") 30
  refine ⟨by decide, (hself (some (Text.of "t")) (Text.of "alice") 20 (databaseExample none)).2.mpr ?_⟩
  intro _ row hrow _ huserId
  obtain rfl := List.mem_singleton.mp hrow
  cases huserId

/-- A client that both columns give to Alice goes with her. -/
theorem account_deletion_takes_client :
    (databaseExample (some (Text.of "alice"))).clients.map ClientRow.ownerUserId = [some (Text.of "alice")] ∧
    ¬ PreservingOrNothing (Text.of "alice") (Text.of "e") 30 (databaseExample (some (Text.of "alice")))
      (deletedExample (some (Text.of "alice"))) := by
  have haudit : (deletedExample (some (Text.of "alice"))).HasAudit (Text.of "e") := by decide
  have hnone : (deletedExample (some (Text.of "alice"))).clients = [] := by decide
  refine ⟨by decide, ?_⟩
  rintro (⟨-, -, hpreserved⟩ | ⟨hunaudited, -⟩)
  · obtain ⟨kept, hkept, -⟩ := hpreserved _ List.mem_cons_self rfl
    rw [hnone] at hkept
    cases hkept
  · exact hunaudited haudit

end batches

end pgid.deletion
