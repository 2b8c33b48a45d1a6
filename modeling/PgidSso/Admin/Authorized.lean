import PgidSso.Admin.Authority

open checked transition pgid.administration

namespace pgid.accounts

section commits

variable {deployment : Deployment} {tables : Tables} {actor : AdminActor} {now : Int}

/-- The row of an actor who commits has the role that the gate has seen. -/
theorem acting_of_commits (hconsistent : tables.Consistent deployment) (hgated : Gated deployment actor)
    (hcommits : actor.commitGuard.Commits tables.users tables.sessions now) :
    ∃ row, row.id = actor.userId ∧ Acting tables now row ∧
      effectiveRoleOf deployment.toRoleConfig row = actor.role := by
  obtain ⟨row, hrow, hid, -, hrole, hstatus, haccess, session, hsession, -, howner, hlive⟩ := hcommits
  have hactor : row.id = actor.userId := hid.trans hgated.user
  refine ⟨row, hactor, ⟨hrow, hstatus, haccess, session, hsession, howner, hlive⟩, ?_⟩
  rw [effectiveRoleOf, hgated.role, hrole, hconsistent.emails row hrow, hactor, haccess]

/-- The row that a guard selects is the row that its request has fetched. -/
theorem target_mem_of_permits {target : ResolvedTarget} (hconsistent : tables.Consistent deployment)
    (hresolved : Resolved deployment target) (hpermits : (transitionGuard target actor).Permits tables now) :
    target.row ∈ tables.users := by
  obtain ⟨⟨user, huser, hid, haccess, hrole, hstatus⟩, -⟩ := hpermits
  have hemail : user.email = target.row.email := by
    rw [hconsistent.emails user huser, hresolved.email]
    exact congrArg deployment.emailOf hid
  have hsame : user = target.row :=
    calc user = ⟨user.id, user.email, user.role, user.status, user.accessLevel⟩ := rfl
      _ = ⟨target.row.id, target.row.email, target.row.role, target.row.status, target.row.accessLevel⟩ := by
        rw [hid, hemail, haccess, hrole, hstatus]
        rfl
      _ = target.row := rfl
  exact hsame ▸ huser

end commits

section ran

variable {config : RoleConfig} {mutation : Mutation} {actor target : UserRow} {before after : Tables}

theorem not_protected_of_allowed (hallowed : mutation.Allowed config actor target) : ¬ Protected config target := by
  have hnot := (denyUserManagement_eq_none_iff.mp hallowed.1).1
  exact of_decide_eq_false hnot

/-- Every row after a batch is a row before it, or its target with another state. -/
theorem Ran.mem_users (hran : Ran mutation target before after) (hkeys : (before.users.map (·.id)).Nodup)
    (htarget : target ∈ before.users) {row : UserRow} (hrow : row ∈ after.users) :
    row ∈ before.users ∨
      ∃ next, mutation.next target = some next ∧ ¬ Aborts target (next.apply target) ∧ row = next.apply target := by
  cases hnext : mutation.next target with
  | some next =>
    obtain ⟨haborts, husers⟩ := hran.changed next hnext
    rw [husers] at hrow
    rcases table.mem_update.mp hrow with ⟨old, hold, hid, rfl⟩ | ⟨hold, -⟩
    · rw [table.eq_of_key hkeys hold htarget hid]
      exact .inr ⟨next, rfl, haborts, rfl⟩
    · exact .inl hold
  | none =>
    left
    cases mutation with
    | revokeSessions => exact hran.unchanged rfl ▸ hrow
    | delete =>
      rw [hran.deleted rfl] at hrow
      exact (table.mem_delete.mp hrow).1
    | role => cases hnext
    | status => cases hnext
    | access => cases hnext

theorem Ran.mem_of_ne (hran : Ran mutation target before after) {row : UserRow} (hrow : row ∈ before.users)
    (hne : row.id ≠ target.id) : row ∈ after.users := by
  cases hnext : mutation.next target with
  | some next =>
    rw [(hran.changed next hnext).2]
    exact table.mem_update_of_not hrow hne
  | none =>
    cases mutation with
    | revokeSessions => exact (hran.unchanged rfl).symm ▸ hrow
    | delete =>
      rw [hran.deleted rfl]
      exact table.mem_delete.mpr ⟨hrow, hne⟩
    | role => cases hnext
    | status => cases hnext
    | access => cases hnext

theorem Ran.untouched (hran : Ran mutation target before after) (hkeys : (before.users.map (·.id)).Nodup)
    (htarget : target ∈ before.users) (hallowed : mutation.Allowed config actor target) {row : UserRow}
    (hrow : row ∈ before.users) (hprotected : Protected config row) :
    row ∈ after.users ∧ ∀ session ∈ before.sessions, session.userId = row.id → session ∈ after.sessions := by
  have hne : row.id ≠ target.id := by
    intro hid
    rw [table.eq_of_key hkeys hrow htarget hid] at hprotected
    exact not_protected_of_allowed hallowed hprotected
  refine ⟨hran.mem_of_ne hrow hne, ?_⟩
  exact fun session hsession howner => hran.sessions session hsession (howner ▸ hne)

/-- A change of who is stored as an administrator is a grant to the target, or takes it
away: the rules let only the bootstrap administrator do either. -/
theorem Ran.administration (hran : Ran mutation target before after) (hkeys : (before.users.map (·.id)).Nodup)
    (htarget : target ∈ before.users)
    (hrestricted : target.accessLevel = .restricted → target.role.getD .user = .user)
    (hallowed : mutation.Allowed config actor target) {old new : UserRow} (hold : old ∈ before.users)
    (hnew : new ∈ after.users) (hid : old.id = new.id) (hchanged : ¬ (IsAdmin old ↔ IsAdmin new)) :
    effectiveRoleOf config actor = .bootadmin := by
  have htaken : IsAdmin target → ∀ nextRole, (mutation = .role nextRole ∨
      (mutation = .access true ∧ nextRole = .user ∧ effectiveRoleOf config target ≠ .user)) →
        effectiveRoleOf config actor = .bootadmin := by
    intro hadmin nextRole hmutation
    have hdenied := (denyRoleChange_eq_none_iff.mp (hallowed.2 nextRole hmutation)).2.2
    rw [effectiveRoleOf_admin hrestricted hadmin (not_protected_of_allowed hallowed)] at hdenied
    exact eq_bootadmin_of_assignable hdenied
  rcases hran.mem_users hkeys htarget hnew with hmem | ⟨next, hnext, -, rfl⟩
  · rw [table.eq_of_key hkeys hold hmem hid] at hchanged
    exact absurd Iff.rfl hchanged
  · rw [table.eq_of_key hkeys hold htarget hid] at hchanged
    cases mutation with
    | role nextRole =>
      cases hnext
      by_cases hadmin : IsAdmin target
      · exact htaken hadmin nextRole (.inl rfl)
      · have hgranted : nextRole = .admin := by
          by_contra hne
          exact hchanged (iff_of_false hadmin fun h => hne (Option.some.inj h))
        have hdenied := (denyRoleChange_eq_none_iff.mp (hallowed.2 nextRole (.inl rfl))).2.1
        rw [hgranted] at hdenied
        exact eq_bootadmin_of_assignable hdenied
    | status suspended =>
      cases hnext
      exact absurd Iff.rfl hchanged
    | access restricted =>
      cases hnext
      cases restricted with
      | false => exact absurd Iff.rfl hchanged
      | true =>
        have hadmin : IsAdmin target := by
          by_contra hnot
          refine hchanged (iff_of_false hnot fun h => ?_)
          cases h
        refine htaken hadmin .user (.inr ⟨rfl, rfl, ?_⟩)
        rw [effectiveRoleOf_admin hrestricted hadmin (not_protected_of_allowed hallowed)]
        decide
    | revokeSessions => cases hnext
    | delete => cases hnext

/-- Only a mutation that ends the sessions of its target takes access away. -/
theorem Ran.cutOff_of_loses (hran : Ran mutation target before after) (hkeys : (before.users.map (·.id)).Nodup)
    (htarget : target ∈ before.users) {old new : UserRow} (hold : old ∈ before.users) (hnew : new ∈ after.users)
    (hid : old.id = new.id) (hloses : LosesAccess old new) : after.CutOff new.id := by
  rcases hran.mem_users hkeys htarget hnew with hmem | ⟨next, hnext, -, rfl⟩
  · rw [table.eq_of_key hkeys hold hmem hid] at hloses
    obtain ⟨hnot, hsuspended⟩ | ⟨hnot, hrestricted⟩ := hloses
    · exact absurd hsuspended hnot
    · exact absurd hrestricted hnot
  · rw [table.eq_of_key hkeys hold htarget hid] at hloses
    refine hran.cutOff ?_
    cases mutation with
    | role nextRole =>
      cases hnext
      obtain ⟨hnot, hsuspended⟩ | ⟨hnot, hrestricted⟩ := hloses
      · exact absurd hsuspended hnot
      · exact absurd hrestricted hnot
    | status suspended =>
      cases hnext
      cases suspended with
      | true => exact .inl rfl
      | false =>
        obtain ⟨-, hsuspended⟩ | ⟨hnot, hrestricted⟩ := hloses
        · cases hsuspended
        · exact absurd hrestricted hnot
    | access restricted =>
      cases hnext
      cases restricted with
      | true => exact .inr rfl
      | false =>
        obtain ⟨hnot, hsuspended⟩ | ⟨-, hrestricted⟩ := hloses
        · exact absurd hsuspended hnot
        · cases hrestricted
    | revokeSessions => cases hnext
    | delete => cases hnext

theorem Ran.consistent {deployment : Deployment} (hran : Ran mutation target before after)
    (hconsistent : before.Consistent deployment) (htarget : target ∈ before.users) :
    after.Consistent deployment where
  keys := by
    cases hnext : mutation.next target with
    | some next =>
      rw [(hran.changed next hnext).2]
      exact table.nodup_map_update hconsistent.keys fun _ => rfl
    | none =>
      cases mutation with
      | revokeSessions => exact (hran.unchanged rfl).symm ▸ hconsistent.keys
      | delete =>
        rw [hran.deleted rfl]
        exact table.nodup_map_delete hconsistent.keys
      | role => cases hnext
      | status => cases hnext
      | access => cases hnext
  emails := by
    intro row hrow
    rcases hran.mem_users hconsistent.keys htarget hrow with hmem | ⟨next, -, -, rfl⟩
    · exact hconsistent.emails row hmem
    · exact hconsistent.emails target htarget
  restricted := by
    intro row hrow haccess
    rcases hran.mem_users hconsistent.keys htarget hrow with hmem | ⟨next, -, haborts, rfl⟩
    · exact hconsistent.restricted row hmem haccess
    · by_contra helevated
      exact haborts (.inr ⟨haccess, helevated⟩)

end ran

/-- What a batch of a request does to accounts has its authority in the state that it
commits in; an invitation is of a role that its actor may assign. -/
def Event.Sound (config : RoleConfig) : Event → Prop
  | .ran actor target mutation now before after =>
    after = before ∨ ∃ row, row.id = actor.userId ∧ Authorized config mutation now before after row target.row
  | .invited actor role now before after =>
    after = before ∨
      after.users = before.users ∧ after.sessions = before.sessions ∧
        ∃ row, row.id = actor.userId ∧ Acting before now row ∧ role ∈ assignableRoles (effectiveRoleOf config row)
  | .other => True

structure Inv (deployment : Deployment) (system : System) : Prop where
  consistent : system.tables.Consistent deployment
  calls : ∀ call phase, system.calls call = some phase → CallOk deployment phase

theorem Inv.start {deployment : Deployment} {system : System} (hstart : system.Start deployment) :
    Inv deployment system where
  consistent := hstart.consistent
  calls := by
    intro call phase hphase
    rw [hstart.idle call] at hphase
    cases hphase

theorem Inv.setCall {deployment : Deployment} {system : System} {call : Text} {phase : Option Call}
    (hinv : Inv deployment system) (hphase : ∀ found, phase = some found → CallOk deployment found) :
    Inv deployment (system.setCall call phase) where
  consistent := hinv.consistent
  calls := by
    intro other found hfound
    change Function.update system.calls call phase other = some found at hfound
    rw [Function.update_apply] at hfound
    split at hfound
    · exact hphase found hfound
    · exact hinv.calls other found hfound

/-- The batch of a call that has fetched its target. -/
theorem commit_sound {deployment : Deployment} {tables : Tables} {actor : AdminActor} {target : ResolvedTarget}
    {mutation : Mutation} {event : AuditRow} {now : Int} (hconsistent : tables.Consistent deployment)
    (hcall : CallOk deployment (.fetched actor target mutation)) (hfresh : ¬ tables.HasAudit event.id) :
    (afterBatch tables (mutation.run actor target event now tables)).Consistent deployment ∧
      Event.Sound deployment.toRoleConfig
        (.ran actor target mutation now tables
          (afterBatch tables (mutation.run actor target event now tables))) := by
  obtain ⟨hgated, hpermission, hresolved, hcheck⟩ := hcall
  by_cases hpermits : (transitionGuard target actor).Permits tables now
  · have htarget := target_mem_of_permits hconsistent hresolved hpermits
    rcases run_of_permits mutation hconsistent.keys hfresh htarget hpermits with hsame | hran
    · rw [hsame]
      exact ⟨hconsistent, .inl rfl⟩
    · obtain ⟨row, hactor, hacting, hrole⟩ := acting_of_commits hconsistent hgated hpermits.2
      have hallowed := allowed_of_check hresolved hactor hrole hcheck
      refine ⟨hran.consistent hconsistent htarget, .inr ⟨row, hactor, hacting, htarget, hallowed, ?_, hran, ?_, ?_,
        ?_⟩⟩
      · rw [hrole]
        exact hpermission
      · exact fun other hother => hran.untouched hconsistent.keys htarget hallowed hother
      · intro old hold new hnew
        exact hran.administration hconsistent.keys htarget hresolved.restricted hallowed hold hnew
      · intro old hold new hnew
        exact hran.cutOff_of_loses hconsistent.keys htarget hold hnew
  · rw [run_of_not_permits mutation hfresh hpermits]
    exact ⟨hconsistent, .inl rfl⟩

theorem commitInvitation_sound {deployment : Deployment} {tables : Tables} {actor : AdminActor} {email : Text}
    {role : PlatformRole} {event : AuditRow} {now : Int} (invitation : InvitationRow)
    (hconsistent : tables.Consistent deployment) (hcall : CallOk deployment (.inviting actor email role))
    (hnew : ¬ ∃ row ∈ tables.invitations, row.id = invitation.id) :
    (afterBatch tables (inviteBatch deployment actor invitation event now tables)).Consistent deployment ∧
      Event.Sound deployment.toRoleConfig
        (.invited actor role now tables
          (afterBatch tables (inviteBatch deployment actor invitation event now tables))) := by
  obtain ⟨hgated, -, hassignable⟩ := hcall
  rcases inviteBatch_after deployment hnew with hsame | ⟨hcommits, husers, hsessions⟩
  · rw [hsame]
    exact ⟨hconsistent, .inl rfl⟩
  · obtain ⟨row, hactor, hacting, hrole⟩ := acting_of_commits hconsistent hgated hcommits
    refine ⟨⟨?_, ?_, ?_⟩, .inr ⟨husers, hsessions, row, hactor, hacting, hrole ▸ hassignable⟩⟩
    · exact husers.symm ▸ hconsistent.keys
    · exact husers.symm ▸ hconsistent.emails
    · exact husers.symm ▸ hconsistent.restricted

/-- What one step establishes of its event and keeps of the calls. -/
theorem Inv.step {deployment : Deployment} {system next : System} {event : Event} (hinv : Inv deployment system)
    (hstep : Step deployment system event next) :
    Inv deployment next ∧ event.Sound deployment.toRoleConfig := by
  obtain ⟨action, hperform⟩ := hstep
  cases action with
  | surround tables =>
    rw [perform] at hperform
    split at hperform
    · rename_i hconsistent
      cases hperform
      exact ⟨⟨hconsistent, hinv.calls⟩, trivial⟩
    · cases hperform
  | gate call sessionId userId targetUserId mutation =>
    rw [perform] at hperform
    split at hperform
    · cases hperform
    · split at hperform
      · rename_i actor hgate
        cases hperform
        refine ⟨hinv.setCall ?_, trivial⟩
        intro found hfound
        cases hfound
        exact gated_of_requireAdminPermission hinv.consistent hgate
      · cases hperform
  | gateInvitation call sessionId userId email role =>
    rw [perform] at hperform
    split at hperform
    · cases hperform
    · split at hperform
      · rename_i actor hgate
        split at hperform
        · cases hperform
        · rename_i hassignable
          cases hperform
          refine ⟨hinv.setCall ?_, trivial⟩
          intro found hfound
          cases hfound
          obtain ⟨hgated, hpermission⟩ := gated_of_requireAdminPermission hinv.consistent hgate
          exact ⟨hgated, hpermission, not_not.mp (not_or.mp hassignable).2⟩
      · cases hperform
  | lookup call =>
    rw [perform] at hperform
    split at hperform
    · rename_i actor email role hcall
      obtain ⟨hgated, hpermission, hassignable⟩ := hinv.calls call _ hcall
      split at hperform
      · cases hperform
        refine ⟨hinv.setCall ?_, trivial⟩
        intro found hfound
        cases hfound
        exact ⟨hgated, hasPermission_of_invite hpermission⟩
      · cases hperform
        refine ⟨hinv.setCall ?_, trivial⟩
        intro found hfound
        cases hfound
        exact ⟨hgated, hpermission, hassignable⟩
    · cases hperform
  | fetch call =>
    rw [perform] at hperform
    split at hperform
    · rename_i actor userId mutation hcall
      obtain ⟨hgated, hpermission⟩ := hinv.calls call _ hcall
      split at hperform
      · rename_i target hfetch
        split at hperform
        · rename_i hcheck
          cases hperform
          refine ⟨hinv.setCall ?_, trivial⟩
          intro found hfound
          cases hfound
          obtain ⟨row, hfind, rfl⟩ := Option.map_eq_some_iff.mp hfetch
          have hmem := List.mem_of_find?_eq_some hfind
          have hresolved : Resolved deployment (resolvedTarget deployment.toRoleConfig row) :=
            ⟨rfl, hinv.consistent.emails row hmem, hinv.consistent.restricted row hmem⟩
          exact ⟨hgated, hpermission, hresolved, hcheck⟩
        · cases hperform
      · cases hperform
    · cases hperform
  | commit call event now =>
    rw [perform] at hperform
    split at hperform
    · rename_i actor target mutation hcall
      split at hperform
      · cases hperform
      · rename_i hfresh
        cases hperform
        obtain ⟨hconsistent, hsound⟩ := commit_sound hinv.consistent (hinv.calls call _ hcall) hfresh
        refine ⟨Inv.setCall ⟨hconsistent, hinv.calls⟩ ?_, hsound⟩
        intro found hfound
        cases hfound
    · cases hperform
  | commitInvitation call invitationId event createdAt now =>
    rw [perform] at hperform
    split at hperform
    · rename_i actor email role hcall
      split at hperform
      · cases hperform
      · rename_i hnew
        cases hperform
        obtain ⟨hconsistent, hsound⟩ :=
          commitInvitation_sound (newInvitation actor email role invitationId createdAt) hinv.consistent
            (hinv.calls call _ hcall) (not_or.mp hnew).2
        refine ⟨Inv.setCall ⟨hconsistent, hinv.calls⟩ ?_, hsound⟩
        intro found hfound
        cases hfound
    · cases hperform

def roles : Deployment where
  bootstrapAdminEmail := Text.of "boot@mail.example"
  normalizeEmail := id
  emailOf := fun userId => userId ++ Text.of "@mail.example"
  lowerTrim := id

/-- The bootstrap administrator and a developer, both signed in. -/
def staffed : System where
  tables :=
    { users :=
        [{ id := Text.of "boot", email := Text.of "boot@mail.example", role := some .bootadmin, status := .active
           accessLevel := .standard },
          { id := Text.of "dev", email := Text.of "dev@mail.example", role := some .developer, status := .active
            accessLevel := .standard }]
      sessions :=
        [{ id := Text.of "one", userId := Text.of "boot", expiresAt := 1000 },
          { id := Text.of "two", userId := Text.of "dev", expiresAt := 1000 }]
      clients := [], accessTokens := [], refreshTokens := [], verifications := [], invitations := []
      auditEvents := [] }
  calls := fun _ => none

def suspension : List Action :=
  [ .gate (Text.of "call") (Text.of "one") (Text.of "boot") (Text.of "dev") (.status true),
    .fetch (Text.of "call"),
    .commit (Text.of "call")
      { id := Text.of "event", eventType := .suspended, actorUserId := Text.of "boot", subjectId := Text.of "dev" }
      10 ]

theorem staffed_start : staffed.Start roles where
  consistent := by decide
  idle := fun _ => rfl

end pgid.accounts
