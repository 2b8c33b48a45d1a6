import PgidSso.Admin.System

open checked transition pgid.administration

namespace pgid.accounts

def effectiveRoleOf (config : RoleConfig) (row : UserRow) : PlatformRole :=
  effectivePlatformRole config row.role row.email row.accessLevel

/-- The account with the bootstrap email, and one that is stored as its administrator. -/
def Protected (config : RoleConfig) (row : UserRow) : Prop :=
  effectiveRoleOf config row = .bootadmin ∨ row.role = some .bootadmin

instance (config : RoleConfig) (row : UserRow) : Decidable (Protected config row) :=
  inferInstanceAs (Decidable (effectiveRoleOf config row = .bootadmin ∨ row.role = some .bootadmin))

/-- What the rules of roles allow an actor, by the rows of the actor and of the target. -/
def Mutation.Allowed (config : RoleConfig) (actor target : UserRow) (mutation : Mutation) : Prop :=
  denyUserManagement actor.id target.id (Protected config target) = none ∧
    ∀ nextRole, (mutation = .role nextRole ∨
        (mutation = .access true ∧ nextRole = .user ∧ effectiveRoleOf config target ≠ .user)) →
      denyRoleChange
        { actorRole := effectiveRoleOf config actor, actorUserId := actor.id, nextRole
          targetProtected := Protected config target, targetRole := effectiveRoleOf config target
          targetUserId := target.id } = none

/-- The mutations that end the sessions of their target. -/
def Mutation.CutsOff (mutation : Mutation) : Prop :=
  mutation = .status true ∨ mutation = .access true

/-- No session, no access token and no refresh token that is not revoked. -/
structure Tables.CutOff (tables : Tables) (userId : Text) : Prop where
  sessions : ∀ row ∈ tables.sessions, row.userId ≠ userId
  accessTokens : ∀ row ∈ tables.accessTokens, row.userId ≠ some userId
  refreshTokens : ∀ row ∈ tables.refreshTokens, row.userId = userId → row.revoked ≠ none

/-- What a role is stored as, for a grant of administration. -/
def IsAdmin (row : UserRow) : Prop :=
  row.role = some .admin

/-- An actor who is active, standard and has a live session. -/
def Acting (tables : Tables) (now : Int) (row : UserRow) : Prop :=
  row ∈ tables.users ∧ row.status = .active ∧ row.accessLevel = .standard ∧
    ∃ session ∈ tables.sessions, session.userId = row.id ∧ now < session.expiresAt

section roles

variable {config : RoleConfig} {row : UserRow}

theorem resolvedTarget_effectiveRole (hrestricted : row.accessLevel = .restricted → row.role.getD .user = .user) :
    (resolvedTarget config row).effectiveRole = effectiveRoleOf config row := by
  unfold resolvedTarget effectiveRoleOf effectivePlatformRole
  dsimp only
  by_cases hemail : config.normalizeEmail row.email = config.bootstrapAdminEmail
  · rw [if_pos hemail, if_pos hemail]
  · rw [if_neg hemail, if_neg hemail, if_neg (by decide)]
    by_cases haccess : row.accessLevel = .restricted
    · rw [if_pos haccess]
      have hrole := hrestricted haccess
      split
      · rename_i hstored
        rw [hstored] at hrole
        cases hrole
      · rename_i role hstored
        rw [hstored] at hrole
        exact hrole
      · rfl
    · rw [if_neg haccess]

theorem resolvedTarget_isProtected (hrestricted : row.accessLevel = .restricted → row.role.getD .user = .user) :
    (resolvedTarget config row).isProtected = decide (Protected config row) := by
  have heffective : (resolvedTarget config row).effectiveRole = effectiveRoleOf config row :=
    resolvedTarget_effectiveRole hrestricted
  have hiff : ((resolvedTarget config row).effectiveRole = .bootadmin ∨ row.role = some .bootadmin) ↔
      Protected config row := by
    rw [heffective]
    rfl
  exact decide_eq_decide.mpr hiff

/-- Only the bootstrap administrator may assign administration. -/
theorem eq_bootadmin_of_assignable {role : PlatformRole} (hassignable : .admin ∈ assignableRoles role) :
    role = .bootadmin := by
  cases role with
  | bootadmin => rfl
  | admin => exact absurd hassignable (by decide)
  | developer => exact absurd hassignable (by decide)
  | user => exact absurd hassignable (by decide)

/-- An account that is stored as an administrator is one, or protected. -/
theorem effectiveRoleOf_admin (hrestricted : row.accessLevel = .restricted → row.role.getD .user = .user)
    (hadmin : IsAdmin row) (hprotected : ¬ Protected config row) : effectiveRoleOf config row = .admin := by
  have hemail : config.normalizeEmail row.email ≠ config.bootstrapAdminEmail := by
    intro hemail
    refine hprotected (.inl ?_)
    unfold effectiveRoleOf effectivePlatformRole
    rw [if_pos hemail]
  have haccess : row.accessLevel ≠ .restricted := by
    intro haccess
    have hrole := hrestricted haccess
    rw [hadmin] at hrole
    cases hrole
  unfold effectiveRoleOf effectivePlatformRole
  rw [if_neg hemail, if_neg haccess, hadmin]

end roles

/-- The state that a mutation gives its target. -/
def Mutation.next (target : UserRow) : Mutation → Option NextState
  | .role nextRole =>
    some { accessLevel := target.accessLevel, role := some nextRole, status := target.status }
  | .status suspended =>
    some
      { accessLevel := target.accessLevel, role := target.role
        status := if suspended then .suspended else .active }
  | .access restricted =>
    some
      { accessLevel := if restricted then .restricted else .standard
        role := if restricted then some .user else target.role, status := target.status }
  | .revokeSessions | .delete => none

/-- What a batch with its event did. -/
structure Ran (mutation : Mutation) (target : UserRow) (before after : Tables) : Prop where
  changed : ∀ next, mutation.next target = some next →
    ¬ Aborts target (next.apply target) ∧
      after.users = table.update (fun row : UserRow => row.id = target.id) next.apply before.users
  unchanged : mutation = .revokeSessions → after.users = before.users
  deleted : mutation = .delete → after.users = table.delete (fun row : UserRow => row.id = target.id) before.users
  sessions : ∀ session ∈ before.sessions, session.userId ≠ target.id → session ∈ after.sessions
  cutOff : mutation.CutsOff → after.CutOff target.id

/-- A row that becomes suspended or restricted. -/
def LosesAccess (old new : UserRow) : Prop :=
  (old.status ≠ .suspended ∧ new.status = .suspended) ∨
    (old.accessLevel ≠ .restricted ∧ new.accessLevel = .restricted)

/-- A mutation of an account, done under the authority that its actor has when it commits. -/
structure Authorized (config : RoleConfig) (mutation : Mutation) (now : Int) (before after : Tables)
    (actor target : UserRow) : Prop where
  acting : Acting before now actor
  present : target ∈ before.users
  allowed : mutation.Allowed config actor target
  permission : hasPermission (effectiveRoleOf config actor) mutation.permission = true
  ran : Ran mutation target before after
  untouched : ∀ row ∈ before.users, Protected config row →
    row ∈ after.users ∧ ∀ session ∈ before.sessions, session.userId = row.id → session ∈ after.sessions
  administration : ∀ old ∈ before.users, ∀ new ∈ after.users, old.id = new.id → ¬ (IsAdmin old ↔ IsAdmin new) →
    effectiveRoleOf config actor = .bootadmin
  cutOff : ∀ old ∈ before.users, ∀ new ∈ after.users, old.id = new.id → LosesAccess old new → after.CutOff new.id

section batches

variable {tables : Tables} {event : AuditRow} {actor : AdminActor} {target : ResolvedTarget} {now : Int}

def Tables.audited (tables : Tables) (event : AuditRow) : Tables :=
  { tables with auditEvents := tables.auditEvents ++ [event] }

theorem hasAudit_audited : (tables.audited event).HasAudit event.id :=
  ⟨event, List.mem_append_right _ List.mem_cons_self, rfl⟩

theorem audit_of_permits {guard : ExistingUserAuditGuard} (hfresh : ¬ tables.HasAudit event.id)
    (hpermits : guard.Permits tables now) :
    auditInsertForExistingUserStatement event guard now tables = .ok (2, tables.audited event) := by
  rw [auditInsertForExistingUserStatement, if_pos hpermits, throwIf_bind_of_not hfresh]
  rfl

theorem audit_of_not_permits {guard : ExistingUserAuditGuard} (hpermits : ¬ guard.Permits tables now) :
    auditInsertForExistingUserStatement event guard now tables = .ok (0, tables) := by
  rw [auditInsertForExistingUserStatement, if_neg hpermits]
  rfl

theorem update_of_unaudited (next : NextState) (hfresh : ¬ tables.HasAudit event.id) :
    guardedUserTransitionUpdate event.id target next tables = .ok (0, tables) := by
  have hnone : ∀ row ∈ tables.users, ¬ (row.id = target.row.id ∧ row.accessLevel = target.row.accessLevel ∧
      row.role = target.row.role ∧ row.status = target.row.status ∧ tables.HasAudit event.id) :=
    fun _ _ h => hfresh h.2.2.2.2
  rw [guardedUserTransitionUpdate, table.matched_of_none hnone, table.update_of_none hnone]
  dsimp only
  rw [throwIf_bind_of_not fun ⟨row, hrow, hmatch, _⟩ => hnone row hrow hmatch]
  rfl

theorem logout_of_unaudited (userId : Text) (hfresh : ¬ tables.HasAudit event.id) :
    globalLogoutForUserStatements event.id userId now tables = tables := by
  rw [globalLogoutForUserStatements, table.update_of_none fun _ _ h => hfresh h.2.2,
    table.delete_of_none fun _ _ h => hfresh h.2]

theorem deleteSessions_of_unaudited (userId : Text) (hfresh : ¬ tables.HasAudit event.id) :
    deleteSessions event.id userId tables = tables := by
  rw [deleteSessions, table.delete_of_none fun _ _ h => hfresh h.2]

theorem shutdown_of_unaudited (ownerUserId : Text) (hfresh : ¬ tables.HasAudit event.id) :
    ownedClientShutdownStatements event.id ownerUserId now tables = tables := by
  rw [ownedClientShutdownStatements]
  dsimp only
  rw [table.update_of_none fun _ _ h => hfresh h.2, table.delete_of_none fun _ _ h => hfresh h.2,
    table.update_of_none fun _ _ h => hfresh h.2.2, table.delete_of_none fun _ _ h => hfresh h.2]

theorem deletePendingCodes_of_unaudited (userId : Text) (hfresh : ¬ tables.HasAudit event.id) :
    deletePendingCodes event.id userId tables = tables := by
  rw [deletePendingCodes, table.delete_of_none fun _ _ h => hfresh h.2]

theorem deleteUser_of_unaudited (userId : Text) (hfresh : ¬ tables.HasAudit event.id) :
    deleteUser event.id userId tables = .ok (0, tables) := by
  have hnone : ∀ row ∈ tables.users, ¬ (row.id = userId ∧ tables.HasAudit event.id) :=
    fun _ _ h => hfresh h.2
  have hgone : ∀ other, ¬ ∃ row ∈ tables.users, row.id = other ∧ row.id = userId ∧ tables.HasAudit event.id :=
    fun _ ⟨_, _, _, _, h⟩ => hfresh h
  rw [deleteUser]
  dsimp only
  rw [throwIf_bind_of_not fun ⟨row, hrow, hmatch, _⟩ => hnone row hrow hmatch, table.matched_of_none hnone,
    table.delete_of_none hnone, table.delete_of_none fun row _ => hgone row.userId,
    table.update_of_none fun row _ ⟨owner, _, h⟩ => hgone owner h, table.delete_of_none ?_,
    table.delete_of_none fun row _ => hgone row.userId,
    table.update_of_none fun row _ ⟨owner, _, h⟩ => hgone owner h,
    table.delete_of_none fun row _ ⟨owner, _, h⟩ => hgone owner h]
  · rfl
  · rintro row - (⟨owner, -, h⟩ | ⟨refreshId, -, token, -, -, h⟩)
    · exact hgone owner h
    · exact hgone token.userId h

/-- Without its event a batch changes nothing. -/
theorem run_of_not_permits (mutation : Mutation) (hfresh : ¬ tables.HasAudit event.id)
    (hpermits : ¬ (transitionGuard target actor).Permits tables now) :
    mutation.run actor target event now tables = .ok (false, tables) := by
  have htransition : ∀ next cutOff, transitionBatch actor target next cutOff event now tables =
      .ok (false, tables) := by
    intro next cutOff
    rw [transitionBatch, audit_of_not_permits hpermits, ok_bind]
    dsimp only
    rw [update_of_unaudited next hfresh, ok_bind]
    dsimp only
    rw [logout_of_unaudited target.row.id hfresh, deleteSessions_of_unaudited target.row.id hfresh, ite_self]
    rfl
  cases mutation with
  | role nextRole => exact htransition _ _
  | status suspended => exact htransition _ _
  | access restricted => exact htransition _ _
  | revokeSessions =>
    rw [Mutation.run, revokeSessionsBatch, audit_of_not_permits hpermits, ok_bind]
    dsimp only
    rw [logout_of_unaudited target.row.id hfresh, deleteSessions_of_unaudited target.row.id hfresh]
    rfl
  | delete =>
    rw [Mutation.run, deleteBatch, audit_of_not_permits hpermits, ok_bind]
    dsimp only
    rw [logout_of_unaudited target.row.id hfresh, shutdown_of_unaudited target.row.id hfresh,
      deletePendingCodes_of_unaudited target.row.id hfresh, deleteUser_of_unaudited target.row.id hfresh]
    rfl

theorem cutOff_logout (userId : Text) (haudit : tables.HasAudit event.id) :
    (deleteSessions event.id userId (globalLogoutForUserStatements event.id userId now tables)).CutOff userId where
  sessions := fun _ hrow huser => (table.mem_delete.mp hrow).2 ⟨huser, haudit⟩
  accessTokens := fun _ hrow huser => (table.mem_delete.mp hrow).2 ⟨huser, haudit⟩
  refreshTokens := by
    intro row hrow huser
    rcases table.mem_update.mp hrow with ⟨old, -, -, rfl⟩ | ⟨-, hnot⟩
    · exact Option.some_ne_none now
    · exact fun hrevoked => hnot ⟨huser, hrevoked, haudit⟩

theorem sessions_logout (userId : Text) {session : SessionRow} (hsession : session ∈ tables.sessions)
    (hother : session.userId ≠ userId) :
    session ∈ (deleteSessions event.id userId
      (globalLogoutForUserStatements event.id userId now tables)).sessions :=
  table.mem_delete.mpr ⟨hsession, fun h => hother h.1⟩

/-- The row that a transition finds is its target. -/
theorem transition_matches (hkeys : (tables.users.map (·.id)).Nodup) (haudit : tables.HasAudit event.id)
    (htarget : target.row ∈ tables.users) :
    ∀ row ∈ tables.users, (row.id = target.row.id ∧ row.accessLevel = target.row.accessLevel ∧
      row.role = target.row.role ∧ row.status = target.row.status ∧ tables.HasAudit event.id) ↔
        row.id = target.row.id := by
  intro row hrow
  refine ⟨fun h => h.1, fun hid => ?_⟩
  rw [table.eq_of_key hkeys hrow htarget hid]
  exact ⟨rfl, rfl, rfl, rfl, haudit⟩

theorem update_of_audited (tables : Tables) (next : NextState)
    (hkeys : (tables.users.map (·.id)).Nodup)
    (haudit : tables.HasAudit event.id) (htarget : target.row ∈ tables.users)
    (haborts : ¬ Aborts target.row (next.apply target.row)) :
    ∃ updated, guardedUserTransitionUpdate event.id target next tables =
      .ok (updated, { tables with
        users := table.update (fun row : UserRow => row.id = target.row.id) next.apply tables.users }) := by
  have hmatches := transition_matches hkeys haudit htarget
  rw [guardedUserTransitionUpdate, table.update_congr hmatches]
  dsimp only
  rw [throwIf_bind_of_not]
  · exact ⟨_, rfl⟩
  · rintro ⟨row, hrow, hmatch, habort⟩
    rw [table.eq_of_key hkeys hrow htarget hmatch.1] at habort
    exact haborts habort

theorem transitionBatch_after (next : NextState) (cutOff : Bool) (hkeys : (tables.users.map (·.id)).Nodup)
    (hfresh : ¬ tables.HasAudit event.id) (htarget : target.row ∈ tables.users)
    (hpermits : (transitionGuard target actor).Permits tables now) :
    transitionBatch actor target next cutOff event now tables = .error .aborted ∨
      ∃ committed after, transitionBatch actor target next cutOff event now tables = .ok (committed, after) ∧
        ¬ Aborts target.row (next.apply target.row) ∧
        after.users = table.update (fun row : UserRow => row.id = target.row.id) next.apply tables.users ∧
        (∀ session ∈ tables.sessions, session.userId ≠ target.row.id → session ∈ after.sessions) ∧
        (cutOff = true → after.CutOff target.row.id) := by
  rw [transitionBatch, audit_of_permits hfresh hpermits, ok_bind]
  dsimp only
  by_cases haborts : Aborts target.row (next.apply target.row)
  · left
    rw [guardedUserTransitionUpdate]
    dsimp only
    rw [throwIf_bind_of ⟨target.row, htarget, ⟨rfl, rfl, rfl, rfl, hasAudit_audited⟩, haborts⟩]
    rfl
  · right
    obtain ⟨updated, hupdate⟩ :=
      update_of_audited (tables.audited event) next hkeys hasAudit_audited htarget haborts
    rw [hupdate, ok_bind]
    refine ⟨_, _, rfl, haborts, ?_, ?_, ?_⟩
    · cases cutOff <;> rfl
    · intro session hsession hother
      cases cutOff with
      | false => exact hsession
      | true => exact sessions_logout target.row.id hsession hother
    · rintro rfl
      apply cutOff_logout target.row.id
      exact hasAudit_audited

theorem ran_of_transition {mutation : Mutation} {next : NextState} {cutOff : Bool}
    (hkeys : (tables.users.map (·.id)).Nodup) (hfresh : ¬ tables.HasAudit event.id)
    (htarget : target.row ∈ tables.users) (hpermits : (transitionGuard target actor).Permits tables now)
    (hnext : mutation.next target.row = some next) (hcutOff : mutation.CutsOff → cutOff = true)
    (hrun : mutation.run actor target event now tables =
      transitionBatch actor target next cutOff event now tables) :
    afterBatch tables (mutation.run actor target event now tables) = tables ∨
      Ran mutation target.row tables (afterBatch tables (mutation.run actor target event now tables)) := by
  rw [hrun]
  rcases transitionBatch_after next cutOff hkeys hfresh htarget hpermits with
    hbatch | ⟨committed, after, hbatch, haborts, husers, hsessions, hcut⟩
  · rw [hbatch]
    exact .inl rfl
  · rw [hbatch]
    refine .inr ⟨?_, ?_, ?_, hsessions, fun h => hcut (hcutOff h)⟩
    · intro found hfound
      cases hnext.symm.trans hfound
      exact ⟨haborts, husers⟩
    · rintro rfl
      cases hnext
    · rintro rfl
      cases hnext

theorem deleteUser_of_audited (userId : Text) (haudit : tables.HasAudit event.id) :
    deleteUser event.id userId tables = .error .aborted ∨
      ∃ deleted after, deleteUser event.id userId tables = .ok (deleted, after) ∧
        after.users = table.delete (fun row : UserRow => row.id = userId) tables.users ∧
        ∀ session ∈ tables.sessions, session.userId ≠ userId → session ∈ after.sessions := by
  have hmatches : ∀ row ∈ tables.users, (row.id = userId ∧ tables.HasAudit event.id) ↔ row.id = userId :=
    fun _ _ => and_iff_left haudit
  rw [deleteUser]
  dsimp only
  by_cases haborts : ∃ row ∈ tables.users, (row.id = userId ∧ tables.HasAudit event.id) ∧ row.role = some .bootadmin
  · exact .inl (throwIf_bind_of haborts)
  · rw [throwIf_bind_of_not haborts]
    refine .inr ⟨_, _, rfl, table.delete_congr hmatches, ?_⟩
    intro session hsession hother
    refine table.mem_delete.mpr ⟨hsession, ?_⟩
    rintro ⟨row, -, hid, hgone, -⟩
    exact hother (hid.symm.trans hgone)

/-- A batch with its event is rolled back, or does what its mutation is. -/
theorem run_of_permits (mutation : Mutation) (hkeys : (tables.users.map (·.id)).Nodup)
    (hfresh : ¬ tables.HasAudit event.id) (htarget : target.row ∈ tables.users)
    (hpermits : (transitionGuard target actor).Permits tables now) :
    afterBatch tables (mutation.run actor target event now tables) = tables ∨
      Ran mutation target.row tables (afterBatch tables (mutation.run actor target event now tables)) := by
  cases mutation with
  | role nextRole =>
    refine ran_of_transition hkeys hfresh htarget hpermits rfl ?_ rfl
    rintro (h | h) <;> cases h
  | status suspended =>
    refine ran_of_transition hkeys hfresh htarget hpermits rfl ?_ rfl
    rintro (h | h) <;> cases h
    rfl
  | access restricted =>
    refine ran_of_transition hkeys hfresh htarget hpermits rfl ?_ rfl
    rintro (h | h) <;> cases h
    rfl
  | revokeSessions =>
    rw [Mutation.run, revokeSessionsBatch, audit_of_permits hfresh hpermits, ok_bind]
    refine .inr ⟨fun next hnext => ?_, fun _ => rfl, fun h => ?_, ?_, fun h => ?_⟩
    · cases hnext
    · cases h
    · exact fun session hsession hother => sessions_logout target.row.id hsession hother
    · rcases h with h | h <;> cases h
  | delete =>
    rw [Mutation.run, deleteBatch, audit_of_permits hfresh hpermits, ok_bind]
    dsimp only
    let emptied := deletePendingCodes event.id target.row.id (ownedClientShutdownStatements event.id target.row.id
      now (globalLogoutForUserStatements event.id target.row.id now (tables.audited event)))
    have haudit : emptied.HasAudit event.id := hasAudit_audited
    rcases deleteUser_of_audited target.row.id haudit with
      hdelete | ⟨deleted, after, hdelete, husers, hsessions⟩
    · rw [hdelete]
      exact .inl rfl
    · rw [hdelete]
      refine .inr ⟨fun next hnext => ?_, fun h => ?_, fun _ => husers, hsessions, fun h => ?_⟩
      · cases hnext
      · cases h
      · rcases h with h | h <;> cases h

theorem invitationAudit_after {invitation : InvitationRow} {before : Tables} :
    auditInsertForInvitationMutationStatement event invitation before = .error .unique ∨
      ∃ audits after, auditInsertForInvitationMutationStatement event invitation before = .ok (audits, after) ∧
        after.users = before.users ∧ after.sessions = before.sessions := by
  unfold auditInsertForInvitationMutationStatement
  split
  · by_cases haudit : before.HasAudit event.id
    · exact .inl (throwIf_bind_of haudit)
    · rw [throwIf_bind_of_not haudit]
      exact .inr ⟨_, _, rfl, rfl, rfl⟩
  · exact .inr ⟨_, _, rfl, rfl, rfl⟩

/-- An invitation changes no account, and nothing at all without its actor. -/
theorem inviteBatch_after (deployment : Deployment) {invitation : InvitationRow}
    (hnew : ¬ ∃ row ∈ tables.invitations, row.id = invitation.id) :
    afterBatch tables (inviteBatch deployment actor invitation event now tables) = tables ∨
      (actor.commitGuard.Commits tables.users tables.sessions now ∧
        (afterBatch tables (inviteBatch deployment actor invitation event now tables)).users = tables.users ∧
        (afterBatch tables (inviteBatch deployment actor invitation event now tables)).sessions =
          tables.sessions) := by
  by_cases hcommits : actor.commitGuard.Commits tables.users tables.sessions now
  · refine .inr ⟨hcommits, ?_⟩
    have hkept : (insertInvitation deployment actor.commitGuard invitation now tables).2.users = tables.users ∧
        (insertInvitation deployment actor.commitGuard invitation now tables).2.sessions = tables.sessions := by
      unfold insertInvitation
      split
      · split <;> exact ⟨rfl, rfl⟩
      · exact ⟨rfl, rfl⟩
    rw [inviteBatch]
    dsimp only
    rcases invitationAudit_after with haudit | ⟨audits, after, haudit, husers, hsessions⟩
    · rw [haudit]
      exact ⟨rfl, rfl⟩
    · rw [haudit]
      exact ⟨husers.trans hkept.1, hsessions.trans hkept.2⟩
  · have hinsert : insertInvitation deployment actor.commitGuard invitation now tables = (0, tables) := by
      rw [insertInvitation, if_neg fun h => hcommits h.1]
    have hnone : ¬ ∃ row ∈ tables.invitations, row.id = invitation.id ∧
        row.emailNormalized = invitation.emailNormalized ∧ row.role = invitation.role ∧
          row.createdByUserId = invitation.createdByUserId :=
      fun ⟨row, hrow, hid, _⟩ => hnew ⟨row, hrow, hid⟩
    have haudit : auditInsertForInvitationMutationStatement event invitation tables = .ok (0, tables) := by
      unfold auditInsertForInvitationMutationStatement
      rw [if_neg hnone]
      rfl
    rw [inviteBatch, hinsert]
    dsimp only
    rw [haudit]
    exact .inl rfl

end batches

/-- An actor is who the gate has seen, with the role of that row and of the email. -/
structure Gated (deployment : Deployment) (actor : AdminActor) : Prop where
  user : actor.commitGuard.userId = actor.userId
  role : actor.role =
    effectivePlatformRole deployment.toRoleConfig actor.commitGuard.expectedRole
      (deployment.emailOf actor.userId) .standard

/-- A target is resolved from a row that is one of its account. -/
structure Resolved (deployment : Deployment) (target : ResolvedTarget) : Prop where
  resolved : target = resolvedTarget deployment.toRoleConfig target.row
  email : target.row.email = deployment.emailOf target.row.id
  restricted : target.row.accessLevel = .restricted → target.row.role.getD .user = .user

/-- What the checks of a call have found so far. -/
def CallOk (deployment : Deployment) : Call → Prop
  | .gated actor _ mutation =>
    Gated deployment actor ∧ hasPermission actor.role mutation.permission = true
  | .fetched actor target mutation =>
    Gated deployment actor ∧ hasPermission actor.role mutation.permission = true ∧ Resolved deployment target ∧
      mutation.check actor target = .ok ()
  | .invited actor _ role | .inviting actor _ role =>
    Gated deployment actor ∧ hasPermission actor.role .usersInvite = true ∧ role ∈ assignableRoles actor.role

/-- Who invites accounts assigns roles. -/
theorem hasPermission_of_invite {role : PlatformRole} (hinvite : hasPermission role .usersInvite = true) :
    hasPermission role .usersAssignRoles = true := by
  cases role with
  | bootadmin => rfl
  | admin => rfl
  | developer => exact absurd hinvite (by decide)
  | user => exact absurd hinvite (by decide)

theorem gated_of_requireAdminPermission {deployment : Deployment} {tables : Tables}
    {permission : AdminPermission} {sessionId userId : Text} {actor : AdminActor}
    (hconsistent : tables.Consistent deployment)
    (hgate : requireAdminPermission deployment.toRoleConfig permission sessionId userId tables.users =
      some actor) :
    Gated deployment actor ∧ hasPermission actor.role permission = true := by
  unfold requireAdminPermission at hgate
  split at hgate
  · cases hgate
  · rename_i user hfind
    have hmem := List.mem_of_find?_eq_some hfind
    have hfound := List.find?_some hfind
    have hid : user.id = userId := of_decide_eq_true hfound
    split at hgate
    · cases hgate
    · split at hgate
      · cases hgate
      · rename_i hstandard
        dsimp only at hgate
        split at hgate
        · rename_i hpermission
          cases hgate
          have haccess : user.accessLevel = .standard := by
            cases haccess : user.accessLevel with
            | standard => rfl
            | restricted => exact absurd haccess hstandard
          refine ⟨⟨rfl, ?_⟩, hpermission⟩
          rw [← hid, ← hconsistent.emails user hmem, haccess]
        · cases hgate

section allowed

variable {deployment : Deployment} {actor : AdminActor} {target : ResolvedTarget}

theorem eq_none_of_allow {denial : Option AdminActionDenial} (hallow : allow denial = .ok ()) : denial = none := by
  cases denial with
  | none => rfl
  | some denial => cases hallow

/-- What the checks let through is allowed for the roles of the rows. -/
theorem allowed_of_check {row : UserRow} {mutation : Mutation} (hresolved : Resolved deployment target)
    (hrow : row.id = actor.userId) (hrole : effectiveRoleOf deployment.toRoleConfig row = actor.role)
    (hcheck : mutation.check actor target = .ok ()) :
    mutation.Allowed deployment.toRoleConfig row target.row := by
  have heffective : target.effectiveRole = effectiveRoleOf deployment.toRoleConfig target.row := by
    rw [hresolved.resolved]
    exact resolvedTarget_effectiveRole hresolved.restricted
  have hprotected : target.isProtected = decide (Protected deployment.toRoleConfig target.row) := by
    rw [hresolved.resolved]
    exact resolvedTarget_isProtected hresolved.restricted
  have hrequest : ∀ nextRole,
      denyRoleChange
          { actorRole := effectiveRoleOf deployment.toRoleConfig row, actorUserId := row.id, nextRole
            targetProtected := Protected deployment.toRoleConfig target.row
            targetRole := effectiveRoleOf deployment.toRoleConfig target.row, targetUserId := target.row.id } =
        denyRoleChange
          { actorRole := actor.role, actorUserId := actor.userId, nextRole, targetProtected := target.isProtected
            targetRole := target.effectiveRole, targetUserId := target.row.id } := by
    intro nextRole
    rw [hrole, hrow, ← hprotected, heffective]
  have hmanagement : denyUserManagement row.id target.row.id (Protected deployment.toRoleConfig target.row) =
      deniedManagement actor target := by
    rw [deniedManagement, hrow, hprotected]
  unfold Mutation.Allowed
  rw [hmanagement]
  cases mutation with
  | role nextRole =>
    obtain ⟨-, hcheck⟩ := throwIf_bind_eq_ok_iff.mp hcheck
    obtain ⟨-, hcheck⟩ := throwIf_bind_eq_ok_iff.mp hcheck
    have hdenied := (Option.or_eq_none_iff.mp (eq_none_of_allow hcheck)).1
    refine ⟨(denyRoleChange_eq_none_iff.mp hdenied).1, ?_⟩
    rintro found (hfound | ⟨hfound, -⟩)
    · cases hfound
      rw [hrequest]
      exact hdenied
    · cases hfound
  | status suspended =>
    obtain ⟨_, hallow, -⟩ := bind_eq_ok_iff.mp hcheck
    refine ⟨eq_none_of_allow hallow, ?_⟩
    rintro found (hfound | ⟨hfound, -⟩) <;> cases hfound
  | access restricted =>
    obtain ⟨_, hallow, -⟩ := bind_eq_ok_iff.mp hcheck
    obtain ⟨hdenied, hrestrict⟩ := Option.or_eq_none_iff.mp (eq_none_of_allow hallow)
    refine ⟨hdenied, ?_⟩
    rintro found (hfound | ⟨hfound, rfl, helevated⟩)
    · cases hfound
    · cases hfound
      rw [← heffective] at helevated
      rw [if_pos ⟨rfl, helevated⟩] at hrestrict
      rw [hrequest]
      exact hrestrict
  | revokeSessions =>
    refine ⟨eq_none_of_allow hcheck, ?_⟩
    rintro found (hfound | ⟨hfound, -⟩) <;> cases hfound
  | delete =>
    refine ⟨eq_none_of_allow hcheck, ?_⟩
    rintro found (hfound | ⟨hfound, -⟩) <;> cases hfound

end allowed

end pgid.accounts
