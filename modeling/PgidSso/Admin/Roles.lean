import PgidSso.Admin.Commit

namespace pgid.administration

inductive AdminPermission where
  | clientsManage
  | clientsManageAll
  | usersRead
  | usersInvite
  | usersManage
  | usersAssignRoles
  deriving DecidableEq

def rolePermissions : PlatformRole → List AdminPermission
  | .bootadmin | .admin =>
    [.clientsManage, .clientsManageAll, .usersRead, .usersInvite, .usersManage, .usersAssignRoles]
  | .developer => [.clientsManage]
  | .user => []

def assignableRoles : PlatformRole → List PlatformRole
  | .bootadmin => [.admin, .developer, .user]
  | .admin => [.developer, .user]
  | .developer | .user => []

def hasPermission (role : PlatformRole) (permission : AdminPermission) : Bool :=
  permission ∈ rolePermissions role

/-- What the roles of a deployment depend on. -/
structure RoleConfig where
  bootstrapAdminEmail : Text
  normalizeEmail : Text → Text

def effectivePlatformRole (config : RoleConfig) (storedRole : Option PlatformRole) (email : Text)
    (accessLevel : AccountAccessLevel) : PlatformRole :=
  if config.normalizeEmail email = config.bootstrapAdminEmail then .bootadmin
  else if accessLevel = .restricted then .user
  else
    match storedRole with
    | some .bootadmin => .admin
    | some role => role
    | none => .user

inductive AdminActionDenial where
  | bootadminProtected
  | cannotModifySelf
  | restrictedAccount
  | roleNotAssignable
  deriving DecidableEq

structure RoleChangeRequest where
  actorRole : PlatformRole
  actorUserId : Text
  nextRole : PlatformRole
  targetProtected : Bool
  targetRole : PlatformRole
  targetUserId : Text
  deriving DecidableEq

def denyRoleChange (request : RoleChangeRequest) : Option AdminActionDenial :=
  if request.targetProtected then some .bootadminProtected
  else if request.actorUserId = request.targetUserId then some .cannotModifySelf
  else if request.nextRole ∉ assignableRoles request.actorRole ∨
      request.targetRole ∉ assignableRoles request.actorRole then some .roleNotAssignable
  else none

def denyUserManagement (actorUserId targetUserId : Text) (targetProtected : Bool) : Option AdminActionDenial :=
  if targetProtected then some .bootadminProtected
  else if actorUserId = targetUserId then some .cannotModifySelf
  else none

theorem denyUserManagement_eq_none_iff {actorUserId targetUserId : Text} {targetProtected : Bool} :
    denyUserManagement actorUserId targetUserId targetProtected = none ↔
      targetProtected = false ∧ actorUserId ≠ targetUserId := by
  unfold denyUserManagement
  cases targetProtected with
  | true => exact iff_of_false (Option.some_ne_none _) fun h => Bool.false_ne_true h.1.symm
  | false =>
    by_cases hself : actorUserId = targetUserId
    · rw [if_neg Bool.false_ne_true, if_pos hself]
      exact iff_of_false (Option.some_ne_none _) fun h => h.2 hself
    · rw [if_neg Bool.false_ne_true, if_neg hself]
      exact iff_of_true rfl ⟨rfl, hself⟩

theorem denyRoleChange_eq_none_iff {request : RoleChangeRequest} :
    denyRoleChange request = none ↔
      denyUserManagement request.actorUserId request.targetUserId request.targetProtected = none ∧
        request.nextRole ∈ assignableRoles request.actorRole ∧
          request.targetRole ∈ assignableRoles request.actorRole := by
  rw [denyUserManagement_eq_none_iff]
  unfold denyRoleChange
  cases request.targetProtected with
  | true => exact iff_of_false (Option.some_ne_none _) fun h => Bool.false_ne_true h.1.1.symm
  | false =>
    rw [if_neg Bool.false_ne_true]
    by_cases hself : request.actorUserId = request.targetUserId
    · rw [if_pos hself]
      exact iff_of_false (Option.some_ne_none _) fun h => h.1.2 hself
    · rw [if_neg hself]
      by_cases hassignable : request.nextRole ∉ assignableRoles request.actorRole ∨
          request.targetRole ∉ assignableRoles request.actorRole
      · rw [if_pos hassignable]
        refine iff_of_false (Option.some_ne_none _) fun h => ?_
        exact hassignable.elim (fun hnext => hnext h.2.1) fun htarget => htarget h.2.2
      · rw [if_neg hassignable]
        obtain ⟨hnext, htarget⟩ := not_or.mp hassignable
        exact iff_of_true rfl ⟨⟨rfl, hself⟩, not_not.mp hnext, not_not.mp htarget⟩

/-- The actor of a request, as the gate has seen it. -/
structure AdminActor where
  commitGuard : AdminActorCommitGuard
  role : PlatformRole
  userId : Text
  deriving DecidableEq

end pgid.administration
