import PgidSso.Admin.Users
import PgidSso.Session.Revocation

/-! The two batches that delete an account, with the rows that foreign keys take along. -/

open checked pgid.logout

namespace pgid.deletion

/-- A row of `user`, as far as a deletion reads it. -/
structure UserRow extends administration.UserRow where
  emailVerified : Bool
  updatedAt : Text
  deriving DecidableEq

/-- A row of `session`, as far as a deletion reads it. -/
structure SessionRow extends administration.SessionRow where
  token : Text
  createdAt : Text
  updatedAt : Text
  deriving DecidableEq

structure AccountRow where
  id : Text
  userId : Text
  deriving DecidableEq

/-- A client, with the column of the authentication library that also names a user. -/
structure ClientRow extends revocation.ClientRow where
  userId : Option Text
  ownerUserId : Option Text
  disabled : Bool
  updatedAt : Option Int
  deriving DecidableEq

structure AccessTokenRow extends revocation.AccessTokenRow where
  refreshId : Option Text
  deriving DecidableEq

/-- An event; its actor is forgotten with the account. -/
structure AuditRow where
  id : Text
  eventType : Text
  actorUserId : Option Text
  subjectId : Option Text
  occurredAt : Text
  deriving DecidableEq

structure Database where
  users : List UserRow
  sessions : List SessionRow
  accounts : List AccountRow
  clients : List ClientRow
  refreshTokens : List revocation.RefreshTokenRow
  accessTokens : List AccessTokenRow
  verifications : List pgid.accounts.VerificationRow
  visits : List revocation.VisitRow
  auditEvents : List AuditRow
  deliveries : List LogoutDelivery

def Database.HasAudit (db : Database) (eventId : Text) : Prop :=
  ∃ event ∈ db.auditEvents, event.id = eventId

instance (db : Database) (eventId : Text) : Decidable (db.HasAudit eventId) :=
  inferInstanceAs (Decidable (∃ event ∈ db.auditEvents, event.id = eventId))

/-- A statement whose condition ends in `AND EXISTS (SELECT 1 FROM audit_event WHERE id = ?)`. -/
def guarded (eventId : Text) (statement : Database → Database) (db : Database) : Database :=
  if db.HasAudit eventId then statement db else db

/-- The insert of the success event under a guard. -/
def insertAudit (event : AuditRow) (guard : Database → Prop) [DecidablePred guard] (db : Database) :
    Except accounts.StoreError Database := do
  if guard db then
    throwIf (db.HasAudit event.id) .unique
    return { db with auditEvents := db.auditEvents ++ [event] }
  else return db

section statements

/-- What the outbox of a logout joins. -/
def Database.visited (db : Database) : revocation.Tables where
  sessions := db.sessions.map fun row =>
    { id := row.id, userId := row.userId, token := row.token, expiresAt := row.expiresAt, createdAt := 0 }
  clients := db.clients.map ClientRow.toClientRow
  refreshTokens := []
  accessTokens := []
  visits := db.visits
  auditEvents := []
  deliveries := []

/-- The outbox of the sessions of a user. -/
def logoutOutbox (deliveryKeyPrefix eventId userId : Text) (now : Int) (db : Database) : Database :=
  { db with
    deliveries := insertOutbox deliveryKeyPrefix eventId .accountDelete now
      ((revocation.selectedVisits (.userAll userId) db.visited).mergeSort revocation.visitOrder) db.deliveries }

def revokeRefreshTokens (userId : Text) (now : Int) (db : Database) : Database :=
  { db with
    refreshTokens := table.update
      (fun row : revocation.RefreshTokenRow => row.userId = userId ∧ row.revoked = none)
      (fun row => { row with revoked := some now }) db.refreshTokens }

def deleteAccessTokens (userId : Text) (db : Database) : Database :=
  { db with
    accessTokens := table.delete (fun row : AccessTokenRow => row.userId = some userId) db.accessTokens }

/-- `SELECT clientId FROM oauthClient WHERE ownerUserId = ?`. -/
def Owned (ownerUserId : Text) (clients : List ClientRow) (clientId : Text) : Prop :=
  ∃ row ∈ clients, row.clientId = clientId ∧ row.ownerUserId = some ownerUserId

instance (ownerUserId : Text) (clients : List ClientRow) (clientId : Text) :
    Decidable (Owned ownerUserId clients clientId) :=
  inferInstanceAs (Decidable (∃ row ∈ clients, row.clientId = clientId ∧ row.ownerUserId = some ownerUserId))

def deleteOwnedAccessTokens (ownerUserId : Text) (db : Database) : Database :=
  { db with
    accessTokens := table.delete (fun row : AccessTokenRow => Owned ownerUserId db.clients row.clientId) db.accessTokens }

def revokeOwnedRefreshTokens (ownerUserId : Text) (now : Int) (db : Database) : Database :=
  { db with
    refreshTokens := table.update
      (fun row : revocation.RefreshTokenRow => row.revoked = none ∧ Owned ownerUserId db.clients row.clientId)
      (fun row => { row with revoked := some now }) db.refreshTokens }

def deleteOwnedCodes (ownerUserId : Text) (db : Database) : Database :=
  { db with
    verifications := table.delete
      (fun row : accounts.VerificationRow => ∃ clientId ∈ row.codeClientId, Owned ownerUserId db.clients clientId)
      db.verifications }

/-- An owned client is disabled and loses its owner. -/
def ClientRow.shutDown (now : Int) (row : ClientRow) : ClientRow :=
  { row with disabled := true, ownerUserId := none, updatedAt := some now }

def disownClients (ownerUserId : Text) (now : Int) (db : Database) : Database :=
  { db with
    clients := table.update (fun row : ClientRow => row.ownerUserId = some ownerUserId) (ClientRow.shutDown now)
      db.clients }

/-- `DELETE FROM verification` of the codes that were issued to a user. -/
def deleteUserCodes (userId : Text) (db : Database) : Database :=
  { db with
    verifications := table.delete (fun row : accounts.VerificationRow => row.codeUserId = some userId)
      db.verifications }

/-- `DELETE FROM session`: the visits of the sessions go with them, and their tokens lose them. -/
def deleteSessions (userId : Text) (db : Database) : Database :=
  let gone := fun sessionId : Text => ∃ row ∈ db.sessions, row.id = sessionId ∧ row.userId = userId
  { db with
    sessions := table.delete (fun row : SessionRow => row.userId = userId) db.sessions
    visits := table.delete (fun visit : revocation.VisitRow => gone visit.sessionId) db.visits
    refreshTokens := table.update (fun row : revocation.RefreshTokenRow => ∃ sessionId ∈ row.sessionId, gone sessionId)
      (fun row => { row with sessionId := none }) db.refreshTokens
    accessTokens := table.update (fun row : AccessTokenRow => ∃ sessionId ∈ row.sessionId, gone sessionId)
      (fun row => { row with sessionId := none }) db.accessTokens }

def deleteAccounts (userId : Text) (db : Database) : Database :=
  { db with accounts := table.delete (fun row : AccountRow => row.userId = userId) db.accounts }

/-- The rows that go with a user, and those that only forget it. -/
def cascade (gone : Text → Prop) [DecidablePred gone] (db : Database) : Database :=
  let goneSession := fun sessionId : Text => ∃ row ∈ db.sessions, row.id = sessionId ∧ gone row.userId
  let goneClient := fun clientId : Text => ∃ row ∈ db.clients, row.clientId = clientId ∧ ∃ user ∈ row.userId, gone user
  let goneRefresh := fun refreshId : Text => ∃ row ∈ db.refreshTokens, row.id = refreshId ∧
    (gone row.userId ∨ goneClient row.clientId)
  { db with
    sessions := table.delete (fun row : SessionRow => gone row.userId) db.sessions
    accounts := table.delete (fun row : AccountRow => gone row.userId) db.accounts
    clients := table.update (fun row : ClientRow => ∃ owner ∈ row.ownerUserId, gone owner)
      (fun row => { row with ownerUserId := none })
      (table.delete (fun row : ClientRow => ∃ user ∈ row.userId, gone user) db.clients)
    refreshTokens := table.update
      (fun row : revocation.RefreshTokenRow => ∃ sessionId ∈ row.sessionId, goneSession sessionId)
      (fun row => { row with sessionId := none })
      (table.delete (fun row : revocation.RefreshTokenRow => gone row.userId ∨ goneClient row.clientId)
        db.refreshTokens)
    accessTokens := table.update (fun row : AccessTokenRow => ∃ sessionId ∈ row.sessionId, goneSession sessionId)
      (fun row => { row with sessionId := none })
      (table.delete (fun row : AccessTokenRow => (∃ user ∈ row.userId, gone user) ∨ goneClient row.clientId ∨
        ∃ refreshId ∈ row.refreshId, goneRefresh refreshId) db.accessTokens)
    visits := table.delete
      (fun visit : revocation.VisitRow => goneSession visit.sessionId ∨ goneClient visit.clientId) db.visits
    auditEvents := table.update (fun event : AuditRow => ∃ actor ∈ event.actorUserId, gone actor)
      (fun event => { event with actorUserId := none }) db.auditEvents }

/-- `DELETE FROM user`, with its trigger; the number is that of the users. -/
def deleteUser (eventId : Text) (matching : UserRow → Prop) [DecidablePred matching] (db : Database) :
    Except accounts.StoreError (Nat × Database) := do
  if db.HasAudit eventId then
    throwIf (∃ row ∈ db.users, matching row ∧ row.role = some .bootadmin) .aborted
    let gone := fun userId : Text => ∃ row ∈ db.users, row.id = userId ∧ matching row
    return ((table.matched matching db.users).length,
      { cascade gone db with users := table.delete matching db.users })
  else return (0, db)

end statements

section batches

/-- The statements that both batches have after the insert of the event. -/
def endAccess (deliveryKeyPrefix eventId userId : Text) (now : Int) (db : Database) : Database :=
  let db := guarded eventId (logoutOutbox deliveryKeyPrefix eventId userId now) db
  let db := guarded eventId (revokeRefreshTokens userId now) db
  let db := guarded eventId (deleteAccessTokens userId) db
  let db := guarded eventId (deleteOwnedAccessTokens userId) db
  let db := guarded eventId (revokeOwnedRefreshTokens userId now) db
  let db := guarded eventId (deleteOwnedCodes userId) db
  guarded eventId (disownClients userId now) db

/-- The session and the user as they were read before the batch. -/
structure AccountDeleteSnapshot where
  session : SessionRow
  user : UserRow
  deriving DecidableEq

/-- The session of a verified token, joined with its user. -/
def loadAccountDeleteSnapshot (db : Database) (sessionToken userId : Text) (now : Int) :
    Option AccountDeleteSnapshot := do
  let session ← db.sessions.find? fun row => row.token = sessionToken ∧ row.userId = userId ∧ now < row.expiresAt
  let user ← db.users.find? fun row => row.id = session.userId
  return ⟨session, user⟩

/-- The user is as it was read. -/
def AccountDeleteSnapshot.SameUser (snapshot : AccountDeleteSnapshot) (row : UserRow) : Prop :=
  row.id = snapshot.user.id ∧ row.email = snapshot.user.email ∧ row.emailVerified = snapshot.user.emailVerified ∧
    row.role = snapshot.user.role ∧ row.status = snapshot.user.status ∧
    row.accessLevel = snapshot.user.accessLevel ∧ row.updatedAt = snapshot.user.updatedAt

instance (snapshot : AccountDeleteSnapshot) (row : UserRow) : Decidable (snapshot.SameUser row) := by
  unfold AccountDeleteSnapshot.SameUser
  infer_instance

/-- The condition of `successAuditStatement`. -/
def AccountDeleteSnapshot.Current (snapshot : AccountDeleteSnapshot) (now : Int) (db : Database) : Prop :=
  (∃ row ∈ db.sessions, row.id = snapshot.session.id ∧ row.token = snapshot.session.token ∧
      row.userId = snapshot.user.id ∧ row.createdAt = snapshot.session.createdAt ∧
      row.updatedAt = snapshot.session.updatedAt ∧ row.expiresAt = snapshot.session.expiresAt ∧
      now < row.expiresAt) ∧
    ∃ row ∈ db.users, snapshot.SameUser row

instance (snapshot : AccountDeleteSnapshot) (now : Int) (db : Database) : Decidable (snapshot.Current now db) := by
  unfold AccountDeleteSnapshot.Current
  infer_instance

def selfDeleteBatch (snapshot : AccountDeleteSnapshot) (event : AuditRow) (deliveryKeyPrefix : Text) (now : Int)
    (db : Database) : Except accounts.StoreError (Nat × Database) := do
  let db ← insertAudit event (snapshot.Current now) db
  let db := endAccess deliveryKeyPrefix event.id snapshot.user.id now db
  let db := guarded event.id (deleteSessions snapshot.user.id) db
  let db := guarded event.id (deleteAccounts snapshot.user.id) db
  deleteUser event.id snapshot.SameUser db

/-- The condition of `auditInsertForExistingUserStatement`. -/
def Permits (guard : accounts.ExistingUserAuditGuard) (now : Int) (db : Database) : Prop :=
  (∃ user ∈ db.users, guard.Selects user.toUserRow) ∧
    guard.actor.Commits (db.users.map UserRow.toUserRow) (db.sessions.map SessionRow.toSessionRow) now

instance (guard : accounts.ExistingUserAuditGuard) (now : Int) (db : Database) : Decidable (Permits guard now db) := by
  unfold Permits
  infer_instance

def adminDeleteBatch (guard : accounts.ExistingUserAuditGuard) (event : AuditRow) (deliveryKeyPrefix : Text)
    (now : Int) (db : Database) : Except accounts.StoreError (Nat × Database) := do
  let db ← insertAudit event (Permits guard now) db
  let db := endAccess deliveryKeyPrefix event.id guard.userId now db
  let db := guarded event.id (deleteUserCodes guard.userId) db
  deleteUser event.id (fun row => row.id = guard.userId) db

/-- A batch is one transaction: what it throws has changed nothing. -/
def transaction (batch : Database → Except accounts.StoreError (Nat × Database)) (db : Database) :
    Except accounts.StoreError Nat × Database :=
  match batch db with
  | .ok (deleted, next) => (.ok deleted, next)
  | .error error => (.error error, db)

/-- What a deletion answers. -/
structure AtomicAccountDeleteResult where
  committed : Bool
  logoutDeliveries : Nat
  deriving DecidableEq

/-- The deletion of the own account. The token of the session is what its signed cookie
verifies, and the rows are read before the batch; other requests may come in between. -/
def deleteOwnAccountAtomically (sessionToken : Option Text) (userId : Text) (event : AuditRow)
    (deliveryKeyPrefix : Text) (seenAt now : Int) (seen db : Database) :
    Except accounts.StoreError AtomicAccountDeleteResult × Database :=
  match sessionToken.bind fun token => loadAccountDeleteSnapshot seen token userId seenAt with
  | none => (.ok ⟨false, 0⟩, db)
  | some snapshot =>
    let outcome := transaction (selfDeleteBatch snapshot event deliveryKeyPrefix now) db
    (outcome.1.map fun deleted =>
      ⟨snapshot.Current now db ∧ deleted = 1, outcome.2.deliveries.length - db.deliveries.length⟩, outcome.2)

end batches

end pgid.deletion
