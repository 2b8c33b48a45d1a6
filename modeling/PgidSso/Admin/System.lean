import PgidSso.Admin.Users
import PgidSso.Library.Transition

open checked transition pgid.administration

namespace pgid.accounts

/-- What every account keeps: one row for an id, its email, and no elevated role while it is
restricted. -/
structure Tables.Consistent (deployment : Deployment) (tables : Tables) : Prop where
  keys : (tables.users.map (·.id)).Nodup
  emails : ∀ row ∈ tables.users, row.email = deployment.emailOf row.id
  restricted : ∀ row ∈ tables.users, row.accessLevel = .restricted → row.role.getD .user = .user

instance (deployment : Deployment) (tables : Tables) : Decidable (tables.Consistent deployment) :=
  decidable_of_iff
    ((tables.users.map (·.id)).Nodup ∧ (∀ row ∈ tables.users, row.email = deployment.emailOf row.id) ∧
      ∀ row ∈ tables.users, row.accessLevel = .restricted → row.role.getD .user = .user)
    ⟨fun ⟨keys, emails, restricted⟩ => ⟨keys, emails, restricted⟩, fun h => ⟨h.keys, h.emails, h.restricted⟩⟩

/-- The gate of a request, for the session and the user that its cookie names. -/
def requireAdminPermission (config : RoleConfig) (permission : AdminPermission) (sessionId userId : Text)
    (users : List UserRow) : Option AdminActor :=
  match users.find? fun row => row.id = userId with
  | none => none
  | some user =>
    if user.status ≠ .active then none
    else if user.accessLevel = .restricted then none
    else
      let role := effectivePlatformRole config user.role user.email user.accessLevel
      if hasPermission role permission then
        some
          { commitGuard := { expectedEmail := user.email, expectedRole := user.role, sessionId, userId }
            role, userId }
      else none

/-- A request between its reads and its batch. -/
inductive Call where
  | gated (actor : AdminActor) (userId : Text) (mutation : Mutation)
  | fetched (actor : AdminActor) (target : ResolvedTarget) (mutation : Mutation)
  | invited (actor : AdminActor) (email : Text) (role : PlatformRole)
  /-- An invitation of an email that no account has. -/
  | inviting (actor : AdminActor) (email : Text) (role : PlatformRole)
  deriving DecidableEq

structure System where
  tables : Tables
  calls : Text → Option Call

def System.setCall (system : System) (call : Text) (phase : Option Call) : System :=
  { system with calls := Function.update system.calls call phase }

inductive Action where
  /-- What else happens to the tables, under their triggers. -/
  | surround (tables : Tables)
  | gate (call sessionId userId targetUserId : Text) (mutation : Mutation)
  | gateInvitation (call sessionId userId email : Text) (role : PlatformRole)
  /-- The look for an account that an invitation is for. -/
  | lookup (call : Text)
  | fetch (call : Text)
  | commit (call : Text) (event : AuditRow) (now : Int)
  | commitInvitation (call : Text) (invitationId : Text) (event : AuditRow) (createdAt now : Int)
  deriving DecidableEq

inductive Event where
  | ran (actor : AdminActor) (target : ResolvedTarget) (mutation : Mutation) (now : Int) (before after : Tables)
  | invited (actor : AdminActor) (role : PlatformRole) (now : Int) (before after : Tables)
  | other
  deriving DecidableEq

/-- The tables after a batch, which is rolled back when it fails. -/
def afterBatch (before : Tables) : Except StoreError (Bool × Tables) → Tables
  | .ok (_, after) => after
  | .error _ => before

def newInvitation (actor : AdminActor) (email : Text) (role : PlatformRole) (id : Text) (createdAt : Int) :
    InvitationRow where
  id := id
  emailNormalized := email
  role := role
  createdByUserId := some actor.userId
  consumedByUserId := none
  expiresAt := createdAt + 7 * 24 * 60 * 60 * 1000
  consumedAt := none
  revokedAt := none
  createdAt := createdAt

/-- What a step records and where it leads; no result stands for one that cannot be taken,
and for a request that its checks refuse. -/
def perform (deployment : Deployment) (system : System) : Action → Option (Event × System)
  | .surround tables => if tables.Consistent deployment then some (.other, { system with tables }) else none
  | .gate call sessionId userId targetUserId mutation =>
    if (system.calls call).isSome then none
    else
      match requireAdminPermission deployment.toRoleConfig mutation.permission sessionId userId
        system.tables.users with
      | some actor => some (.other, system.setCall call (some (.gated actor targetUserId mutation)))
      | none => none
  | .gateInvitation call sessionId userId email role =>
    if (system.calls call).isSome then none
    else
      match requireAdminPermission deployment.toRoleConfig .usersInvite sessionId userId
        system.tables.users with
      | some actor =>
        if role = .bootadmin ∨ role ∉ assignableRoles actor.role then none
        else some (.other, system.setCall call (some (.invited actor (deployment.normalizeEmail email) role)))
      | none => none
  | .lookup call =>
    match system.calls call with
    | some (.invited actor email role) =>
      match system.tables.users.find? fun row => deployment.lowerTrim row.email = email with
      | some user => some (.other, system.setCall call (some (.gated actor user.id (.role role))))
      | none => some (.other, system.setCall call (some (.inviting actor email role)))
    | _ => none
  | .fetch call =>
    match system.calls call with
    | some (.gated actor userId mutation) =>
      match fetchTarget deployment.toRoleConfig userId system.tables.users with
      | some target =>
        match mutation.check actor target with
        | .ok _ => some (.other, system.setCall call (some (.fetched actor target mutation)))
        | .error _ => none
      | none => none
    | _ => none
  | .commit call event now =>
    match system.calls call with
    | some (.fetched actor target mutation) =>
      if system.tables.HasAudit event.id then none
      else
        let after := afterBatch system.tables (mutation.run actor target event now system.tables)
        some (.ran actor target mutation now system.tables after,
          { system with tables := after }.setCall call none)
    | _ => none
  | .commitInvitation call invitationId event createdAt now =>
    match system.calls call with
    | some (.inviting actor email role) =>
      if system.tables.HasAudit event.id ∨ ∃ row ∈ system.tables.invitations, row.id = invitationId then none
      else
        let after := afterBatch system.tables
          (inviteBatch deployment actor (newInvitation actor email role invitationId createdAt) event now
            system.tables)
        some (.invited actor role now system.tables after, { system with tables := after }.setCall call none)
    | _ => none

structure System.Start (deployment : Deployment) (system : System) : Prop where
  consistent : system.tables.Consistent deployment
  idle : ∀ call, system.calls call = none

def Step (deployment : Deployment) (system : System) (event : Event) (next : System) : Prop :=
  ∃ action, perform deployment system action = some (event, next)

abbrev History (deployment : Deployment) (past : List Event) (system : System) : Prop :=
  Trace (System.Start deployment) (Step deployment) past system

end pgid.accounts
