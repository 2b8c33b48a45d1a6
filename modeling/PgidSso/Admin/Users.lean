import PgidSso.Admin.Roles
import PgidSso.Library.Checked
import PgidSso.Library.Table

open checked pgid.administration

namespace pgid.accounts

/-- A deployment; the email of an account never changes. -/
structure Deployment extends RoleConfig where
  emailOf : Text → Text
  /-- `lower(trim(…))` of the database. -/
  lowerTrim : Text → Text

structure AccessTokenRow where
  id : Text
  clientId : Text
  userId : Option Text
  refreshId : Option Text
  deriving DecidableEq

structure RefreshTokenRow where
  id : Text
  clientId : Text
  userId : Text
  revoked : Option Int
  deriving DecidableEq

/-- A client, by its owner. -/
structure ClientRow where
  clientId : Text
  ownerUserId : Option Text
  disabled : Bool
  updatedAt : Option Int
  deriving DecidableEq

/-- A row of `verification`, with the user and the client of its value when that is an
authorization code. -/
structure VerificationRow where
  id : Text
  codeUserId : Option Text
  codeClientId : Option Text
  deriving DecidableEq

structure InvitationRow where
  id : Text
  emailNormalized : Text
  role : PlatformRole
  createdByUserId : Option Text
  consumedByUserId : Option Text
  expiresAt : Int
  consumedAt : Option Int
  revokedAt : Option Int
  createdAt : Int
  deriving DecidableEq

inductive UserEvent where
  | roleChanged
  | suspended
  | reactivated
  | accessRestricted
  | accessPromoted
  | sessionsRevoked
  | deleted
  | invitationCreated
  deriving DecidableEq

/-- A row of `audit_event` that the administration of accounts writes. -/
structure AuditRow where
  id : Text
  eventType : UserEvent
  actorUserId : Text
  subjectId : Text
  deriving DecidableEq

structure Tables where
  users : List UserRow
  sessions : List SessionRow
  clients : List ClientRow
  accessTokens : List AccessTokenRow
  refreshTokens : List RefreshTokenRow
  verifications : List VerificationRow
  invitations : List InvitationRow
  auditEvents : List AuditRow
  deriving DecidableEq

def Tables.HasAudit (tables : Tables) (eventId : Text) : Prop :=
  ∃ event ∈ tables.auditEvents, event.id = eventId

instance (tables : Tables) (eventId : Text) : Decidable (tables.HasAudit eventId) :=
  inferInstanceAs (Decidable (∃ event ∈ tables.auditEvents, event.id = eventId))

inductive StoreError where
  | unique
  | aborted
  deriving DecidableEq

structure ResolvedTarget where
  effectiveRole : PlatformRole
  isProtected : Bool
  row : UserRow
  deriving DecidableEq

def resolvedTarget (config : RoleConfig) (row : UserRow) : ResolvedTarget :=
  let effectiveRole := effectivePlatformRole config row.role row.email .standard
  { effectiveRole, isProtected := effectiveRole = .bootadmin ∨ row.role = some .bootadmin, row }

def fetchTarget (config : RoleConfig) (userId : Text) (users : List UserRow) : Option ResolvedTarget :=
  (users.find? fun row => row.id = userId).map (resolvedTarget config)

structure ExistingUserAuditGuard where
  actor : AdminActorCommitGuard
  expectedAccessLevel : AccountAccessLevel
  expectedRole : Option PlatformRole
  expectedStatus : UserStatus
  userId : Text
  deriving DecidableEq

def transitionGuard (target : ResolvedTarget) (actor : AdminActor) : ExistingUserAuditGuard where
  actor := actor.commitGuard
  expectedAccessLevel := target.row.accessLevel
  expectedRole := target.row.role
  expectedStatus := target.row.status
  userId := target.row.id

def ExistingUserAuditGuard.Selects (guard : ExistingUserAuditGuard) (user : UserRow) : Prop :=
  user.id = guard.userId ∧ user.accessLevel = guard.expectedAccessLevel ∧ user.role = guard.expectedRole ∧
    user.status = guard.expectedStatus

instance (guard : ExistingUserAuditGuard) (user : UserRow) : Decidable (guard.Selects user) := by
  unfold ExistingUserAuditGuard.Selects
  infer_instance

def ExistingUserAuditGuard.Permits (guard : ExistingUserAuditGuard) (tables : Tables) (now : Int) : Prop :=
  (∃ user ∈ tables.users, guard.Selects user) ∧ guard.actor.Commits tables.users tables.sessions now

instance (guard : ExistingUserAuditGuard) (tables : Tables) (now : Int) : Decidable (guard.Permits tables now) := by
  unfold ExistingUserAuditGuard.Permits
  infer_instance

/-- The insert of the success event of a mutation, with the changes that it counts: the
event and the row of its archive source. -/
def auditInsertForExistingUserStatement (event : AuditRow) (guard : ExistingUserAuditGuard) (now : Int)
    (tables : Tables) : Except StoreError (Nat × Tables) := do
  if guard.Permits tables now then
    throwIf (tables.HasAudit event.id) .unique
    return (2, { tables with auditEvents := tables.auditEvents ++ [event] })
  else return (0, tables)

/-- The triggers of an update of the role, the status and the access level of an account. -/
def Aborts (old new : UserRow) : Prop :=
  (old.role = some .bootadmin ∧
      (new.role ≠ some .bootadmin ∨ new.status ≠ .active ∨ new.accessLevel ≠ .standard)) ∨
    (new.accessLevel = .restricted ∧ new.role.getD .user ≠ .user)

instance (old new : UserRow) : Decidable (Aborts old new) := by
  unfold Aborts
  infer_instance

/-- The columns that a transition of an account writes. -/
structure NextState where
  accessLevel : AccountAccessLevel
  role : Option PlatformRole
  status : UserStatus
  deriving DecidableEq

def NextState.apply (next : NextState) (row : UserRow) : UserRow :=
  { row with accessLevel := next.accessLevel, role := next.role, status := next.status }

def guardedUserTransitionUpdate (eventId : Text) (target : ResolvedTarget) (next : NextState) (tables : Tables) :
    Except StoreError (Nat × Tables) := do
  let matching := fun row : UserRow =>
    row.id = target.row.id ∧ row.accessLevel = target.row.accessLevel ∧ row.role = target.row.role ∧
      row.status = target.row.status ∧ tables.HasAudit eventId
  throwIf (∃ row ∈ tables.users, matching row ∧ Aborts row (next.apply row)) .aborted
  return ((table.matched matching tables.users).length,
    { tables with users := table.update matching next.apply tables.users })

/-- The revocation of the tokens of an account. -/
def globalLogoutForUserStatements (eventId userId : Text) (now : Int) (tables : Tables) : Tables :=
  { tables with
    refreshTokens := table.update
      (fun row : RefreshTokenRow => row.userId = userId ∧ row.revoked = none ∧ tables.HasAudit eventId)
      (fun row => { row with revoked := some now }) tables.refreshTokens
    accessTokens := table.delete
      (fun row : AccessTokenRow => row.userId = some userId ∧ tables.HasAudit eventId) tables.accessTokens }

def deleteSessions (eventId userId : Text) (tables : Tables) : Tables :=
  { tables with
    sessions := table.delete (fun row : SessionRow => row.userId = userId ∧ tables.HasAudit eventId)
      tables.sessions }

/-- The clients that an account leaves behind: without tokens and codes, disabled and
without an owner. -/
def ownedClientShutdownStatements (eventId ownerUserId : Text) (now : Int) (tables : Tables) : Tables :=
  let owned := fun clientId : Text =>
    ∃ row ∈ tables.clients, row.clientId = clientId ∧ row.ownerUserId = some ownerUserId
  { tables with
    accessTokens := table.delete (fun row : AccessTokenRow => owned row.clientId ∧ tables.HasAudit eventId)
      tables.accessTokens
    refreshTokens := table.update
      (fun row : RefreshTokenRow => row.revoked = none ∧ owned row.clientId ∧ tables.HasAudit eventId)
      (fun row => { row with revoked := some now }) tables.refreshTokens
    verifications := table.delete
      (fun row : VerificationRow => (∃ clientId ∈ row.codeClientId, owned clientId) ∧ tables.HasAudit eventId)
      tables.verifications
    clients := table.update
      (fun row : ClientRow => row.ownerUserId = some ownerUserId ∧ tables.HasAudit eventId)
      (fun row => { row with disabled := true, ownerUserId := none, updatedAt := some now }) tables.clients }

def deletePendingCodes (eventId userId : Text) (tables : Tables) : Tables :=
  { tables with
    verifications := table.delete
      (fun row : VerificationRow => row.codeUserId = some userId ∧ tables.HasAudit eventId)
      tables.verifications }

/-- `DELETE FROM user`, with its trigger and the rows that go with an account. -/
def deleteUser (eventId userId : Text) (tables : Tables) : Except StoreError (Nat × Tables) := do
  let matching := fun row : UserRow => row.id = userId ∧ tables.HasAudit eventId
  throwIf (∃ row ∈ tables.users, matching row ∧ row.role = some .bootadmin) .aborted
  let gone := fun other : Text => ∃ row ∈ tables.users, row.id = other ∧ matching row
  return ((table.matched matching tables.users).length,
    { tables with
      users := table.delete matching tables.users
      sessions := table.delete (fun row : SessionRow => gone row.userId) tables.sessions
      clients := table.update (fun row : ClientRow => ∃ owner ∈ row.ownerUserId, gone owner)
        (fun row => { row with ownerUserId := none }) tables.clients
      accessTokens := table.delete
        (fun row : AccessTokenRow => (∃ owner ∈ row.userId, gone owner) ∨
          ∃ refreshId ∈ row.refreshId, ∃ token ∈ tables.refreshTokens, token.id = refreshId ∧ gone token.userId)
        tables.accessTokens
      refreshTokens := table.delete (fun row : RefreshTokenRow => gone row.userId) tables.refreshTokens
      invitations := table.update (fun row : InvitationRow => ∃ creator ∈ row.createdByUserId, gone creator)
        (fun row => { row with createdByUserId := none })
        (table.delete (fun row : InvitationRow => ∃ consumer ∈ row.consumedByUserId, gone consumer)
          tables.invitations) })

/-- A change of the state of an account, and the end of its sessions where it is cut off. -/
def transitionBatch (actor : AdminActor) (target : ResolvedTarget) (next : NextState) (cutOff : Bool)
    (event : AuditRow) (now : Int) (tables : Tables) : Except StoreError (Bool × Tables) := do
  let (audits, tables) ← auditInsertForExistingUserStatement event (transitionGuard target actor) now tables
  let (updated, tables) ← guardedUserTransitionUpdate event.id target next tables
  let tables :=
    if cutOff then
      deleteSessions event.id target.row.id (globalLogoutForUserStatements event.id target.row.id now tables)
    else tables
  return (audits = 2 ∧ updated = 1, tables)

def applyRoleChange (actor : AdminActor) (target : ResolvedTarget) (nextRole : PlatformRole) :
    AuditRow → Int → Tables → Except StoreError (Bool × Tables) :=
  transitionBatch actor target
    { accessLevel := target.row.accessLevel, role := some nextRole, status := target.row.status } false

def statusBatch (actor : AdminActor) (target : ResolvedTarget) (suspended : Bool) :
    AuditRow → Int → Tables → Except StoreError (Bool × Tables) :=
  transitionBatch actor target
    { accessLevel := target.row.accessLevel, role := target.row.role
      status := if suspended then .suspended else .active } suspended

def accessBatch (actor : AdminActor) (target : ResolvedTarget) (restricted : Bool) :
    AuditRow → Int → Tables → Except StoreError (Bool × Tables) :=
  transitionBatch actor target
    { accessLevel := if restricted then .restricted else .standard
      role := if restricted then some .user else target.row.role, status := target.row.status } restricted

def revokeSessionsBatch (actor : AdminActor) (target : ResolvedTarget) (event : AuditRow) (now : Int)
    (tables : Tables) : Except StoreError (Bool × Tables) := do
  let (audits, tables) ← auditInsertForExistingUserStatement event (transitionGuard target actor) now tables
  let tables :=
    deleteSessions event.id target.row.id (globalLogoutForUserStatements event.id target.row.id now tables)
  return (audits = 2, tables)

def deleteBatch (actor : AdminActor) (target : ResolvedTarget) (event : AuditRow) (now : Int)
    (tables : Tables) : Except StoreError (Bool × Tables) := do
  let (audits, tables) ← auditInsertForExistingUserStatement event (transitionGuard target actor) now tables
  let tables := globalLogoutForUserStatements event.id target.row.id now tables
  let tables := ownedClientShutdownStatements event.id target.row.id now tables
  let tables := deletePendingCodes event.id target.row.id tables
  let (deleted, tables) ← deleteUser event.id target.row.id tables
  return (audits = 2 ∧ deleted ≠ 0, tables)

/-- A mutation of an account. -/
inductive Mutation where
  | role (nextRole : PlatformRole)
  | status (suspended : Bool)
  | access (restricted : Bool)
  | revokeSessions
  | delete
  deriving DecidableEq

def Mutation.permission : Mutation → AdminPermission
  | .role _ => .usersAssignRoles
  | .status _ | .access _ | .revokeSessions | .delete => .usersManage

def Mutation.run (actor : AdminActor) (target : ResolvedTarget) (event : AuditRow) (now : Int) (tables : Tables) :
    Mutation → Except StoreError (Bool × Tables)
  | .role nextRole => applyRoleChange actor target nextRole event now tables
  | .status suspended => statusBatch actor target suspended event now tables
  | .access restricted => accessBatch actor target restricted event now tables
  | .revokeSessions => revokeSessionsBatch actor target event now tables
  | .delete => deleteBatch actor target event now tables

inductive Refusal where
  | denied (denial : AdminActionDenial)
  | invalidRole
  | userStateUnchanged
  deriving DecidableEq

def deniedRoleChange (actor : AdminActor) (target : ResolvedTarget) (nextRole : PlatformRole) :
    Option AdminActionDenial :=
  let denial := denyRoleChange
    { actorRole := actor.role, actorUserId := actor.userId, nextRole, targetProtected := target.isProtected
      targetRole := target.effectiveRole, targetUserId := target.row.id }
  denial.or (if target.row.accessLevel = .restricted ∧ nextRole ≠ .user then some .restrictedAccount else none)

def deniedManagement (actor : AdminActor) (target : ResolvedTarget) : Option AdminActionDenial :=
  denyUserManagement actor.userId target.row.id target.isProtected

/-- The denial of a restriction, which takes the role of its target away. -/
def deniedAccess (actor : AdminActor) (target : ResolvedTarget) (restricted : Bool) : Option AdminActionDenial :=
  (deniedManagement actor target).or
    (if restricted ∧ target.effectiveRole ≠ .user then
      denyRoleChange
        { actorRole := actor.role, actorUserId := actor.userId, nextRole := .user
          targetProtected := target.isProtected, targetRole := target.effectiveRole
          targetUserId := target.row.id }
    else none)

def allow : Option AdminActionDenial → Except Refusal Unit
  | some denial => .error (.denied denial)
  | none => .ok ()

/-- The checks of a request over the target that it has fetched. -/
def Mutation.check (actor : AdminActor) (target : ResolvedTarget) : Mutation → Except Refusal Unit
  | .role nextRole => do
    throwIf (nextRole = .bootadmin) .invalidRole
    throwIf (target.effectiveRole = nextRole) .userStateUnchanged
    allow (deniedRoleChange actor target nextRole)
  | .status suspended => do
    allow (deniedManagement actor target)
    throwIf (target.row.status = if suspended then .suspended else .active) .userStateUnchanged
  | .access restricted => do
    allow (deniedAccess actor target restricted)
    throwIf (target.row.accessLevel = if restricted then .restricted else .standard) .userStateUnchanged
  | .revokeSessions | .delete => allow (deniedManagement actor target)

/-- The insert of an invitation, or its renewal while it is not consumed. -/
def insertInvitation (deployment : Deployment) (actor : AdminActorCommitGuard) (invitation : InvitationRow)
    (now : Int) (tables : Tables) : Nat × Tables :=
  if actor.Commits tables.users tables.sessions now ∧
      ¬ ∃ user ∈ tables.users, deployment.lowerTrim user.email = invitation.emailNormalized then
    if ∃ row ∈ tables.invitations, row.emailNormalized = invitation.emailNormalized then
      let matching := fun row : InvitationRow =>
        row.emailNormalized = invitation.emailNormalized ∧ row.consumedAt = none
      ((table.matched matching tables.invitations).length,
        { tables with
          invitations := table.update matching
            (fun row => { invitation with consumedByUserId := row.consumedByUserId, consumedAt := row.consumedAt })
            tables.invitations })
    else (1, { tables with invitations := tables.invitations ++ [invitation] })
  else (0, tables)

def auditInsertForInvitationMutationStatement (event : AuditRow) (invitation : InvitationRow) (tables : Tables) :
    Except StoreError (Nat × Tables) := do
  if ∃ row ∈ tables.invitations, row.id = invitation.id ∧ row.emailNormalized = invitation.emailNormalized ∧
      row.role = invitation.role ∧ row.createdByUserId = invitation.createdByUserId then
    throwIf (tables.HasAudit event.id) .unique
    return (2, { tables with auditEvents := tables.auditEvents ++ [event] })
  else return (0, tables)

def inviteBatch (deployment : Deployment) (actor : AdminActor) (invitation : InvitationRow) (event : AuditRow)
    (now : Int) (tables : Tables) : Except StoreError (Bool × Tables) := do
  let (inserted, tables) := insertInvitation deployment actor.commitGuard invitation now tables
  let (audits, tables) ← auditInsertForInvitationMutationStatement event invitation tables
  return (inserted = 1 ∧ audits = 2, tables)

end pgid.accounts
