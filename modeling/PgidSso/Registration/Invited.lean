import PgidSso.Registration.System

open checked transition

namespace pgid.registration

variable {platform : Platform}

/-- A registration between its grant and its hook. -/
structure Registration where
  email : Text
  config : RuntimeConfig
  invitation : Option InvitationRow

/-- The registration of a call that can still become an account: the insert of an email
that a user row has already fails. -/
def System.registering? (platform : Platform) (system : System) (call : Nat) : Option Registration :=
  match system.calls call with
  | some (.granted config input invitation _) =>
    if ∃ user ∈ system.users, user.email = input.email then none
    else some { email := platform.normalizeEmail input.email, config, invitation }
  | some (.inserted config user invitation) =>
    some { email := platform.normalizeEmail user.email, config, invitation }
  | _ => none

/-- The eligibility that an invitation statement decides. -/
def System.Invitable (platform : Platform) (system : System) (email : Text) : Prop :=
  (∀ user ∈ system.users, platform.lowerTrim user.email ≠ email) ∧
    ∀ row ∈ system.invitations, row.emailNormalized = email → row.consumedAt = none

/-- Nobody writes an invitation that a registration of its email is about to consume, and
the gate reads every invitation that its hook is going to consume. -/
def Undisturbed (platform : Platform) (system : System) : Action → Prop
  | .grant call now => ∀ config input legalAcceptance,
      system.calls call = some (.claimed config input legalAcceptance) →
        ∀ row ∈ consumedInvitations (platform.normalizeEmail input.email) system.invitations,
          platform.normalizeEmail input.email ≠ config.bootstrapAdminEmail ∧
            (config.registrationMode = .«public» → now < row.expiresAt)
  | .consume call _ => ∀ config user invitation,
      system.calls call = some (.inserted config user invitation) →
        consumedInvitations (platform.normalizeEmail user.email) system.invitations ≠ [] →
          ∀ other registration, other ≠ call →
            system.registering? platform other = some registration →
              registration.email ≠ platform.normalizeEmail user.email
  | .invite actorCommits _ email _ _ _ => actorCommits = true →
      system.Invitable platform (platform.normalizeEmail email) →
        ∀ call registration, system.registering? platform call = some registration →
          registration.email = platform.normalizeEmail email →
            ∃ row ∈ registration.invitation, row.role = .user
  | _ => True

def UndisturbedStep (platform : Platform) (system : System) (event : Event) (next : System) : Prop :=
  ∃ action, perform platform system action = some (event, next) ∧ Undisturbed platform system action

/-- A call that is not between its grant and its hook. -/
def Call.Early : Call → Prop
  | .granted _ _ _ _ | .inserted _ _ _ => False
  | _ => True

/-- An event without a part in invitations and accounts. -/
def Event.Unrelated : Event → Prop
  | .granted _ _ _ _ _ _ | .invited _ | .inserted _ _ | .created _ _ _ _ _ _ => False
  | _ => True

/-- What a step does to the invitations, the accounts and the calls. -/
inductive Turn (platform : Platform) (system : System) : Action → Event → System → Prop
  | granted {call : Nat} {config : RuntimeConfig} {input : RegistrationInput}
      {legalAcceptance : Option ClaimedRegistrationIntent} {grant : RegistrationGrant} {now : Int}
      (hcall : system.calls call = some (.claimed config input legalAcceptance))
      (hgrant : authorizeRegistrationGrant platform config input legalAcceptance
        (readInvitation (platform.normalizeEmail input.email) now system.invitations) = .ok grant) :
      Turn platform system (.grant call now)
        (.granted call config (platform.normalizeEmail input.email)
          (readInvitation (platform.normalizeEmail input.email) now system.invitations) grant now)
        (system.setCall call
          (.granted config input
            (readInvitation (platform.normalizeEmail input.email) now system.invitations) grant))
  | inserted {call : Nat} {config : RuntimeConfig} {input : RegistrationInput}
      {invitation : Option InvitationRow} {grant : RegistrationGrant} {user : UserRow} {userId : Text}
      (hcall : system.calls call = some (.granted config input invitation grant))
      (hnew : ∀ other ∈ system.users, other.email ≠ input.email) (hemail : user.email = input.email)
      (hrole : user.role = grant.role) :
      Turn platform system (.insertUser call userId) (.inserted call user)
        ({ system with users := system.users ++ [user] }.setCall call (.inserted config user invitation))
  | created {call : Nat} {config : RuntimeConfig} {user : UserRow} {invitation : Option InvitationRow}
      {now : Int} (hcall : system.calls call = some (.inserted config user invitation)) :
      Turn platform system (.consume call now)
        (.created call config user invitation
          (consumedInvitations (platform.normalizeEmail user.email) system.invitations)
          (roleSourceOf (consumedInvitations (platform.normalizeEmail user.email) system.invitations)))
        ({ system with
            invitations :=
              consumeInvitations (platform.normalizeEmail user.email) user.id now
                system.invitations }.setCall call .finished)
  | invited {actorUserId email id : Text} {role : PlatformRole} {now : Int} {invitation : InvitationRow}
      (hfresh : invitation.id ∉ system.generated)
      (hemail : invitation.emailNormalized = platform.normalizeEmail email)
      (hpending : invitation.Pending)
      (hinvitable : system.Invitable platform (platform.normalizeEmail email)) :
      Turn platform system (.invite true actorUserId email id role now)
        (.invited invitation)
        { system with
          invitations := upsertInvitation invitation system.invitations
          generated := invitation.id :: system.generated }
  | other {action : Action} {event : Event} {next : System}
      (hinvitations : next.invitations = system.invitations) (husers : next.users = system.users)
      (hgenerated : system.generated ⊆ next.generated)
      (hcalls : ∀ call phase, next.calls call = some phase → system.calls call = some phase ∨ phase.Early)
      (hevent : event.Unrelated) : Turn platform system action event next

theorem Turn.other_setCall {system changed : System} {action : Action} {call : Nat} {phase : Call}
    {event : Event} (hinvitations : changed.invitations = system.invitations)
    (husers : changed.users = system.users) (hgenerated : system.generated ⊆ changed.generated)
    (hcalls : changed.calls = system.calls) (hphase : phase.Early) (hevent : event.Unrelated) :
    Turn platform system action event (changed.setCall call phase) := by
  refine .other hinvitations husers hgenerated ?_ hevent
  intro other found hfound
  rcases setCall_calls hfound with ⟨-, rfl⟩ | ⟨-, hfound⟩
  · exact .inr hphase
  · exact .inl (hcalls ▸ hfound)

theorem Turn.refuse {system : System} {action : Action} (call : Nat) :
    Turn platform system action (system.refuse call).1 (system.refuse call).2 :=
  .other_setCall rfl rfl (List.Subset.refl _) rfl trivial trivial

theorem perform_turn {system next : System} {action : Action} {event : Event}
    (hperform : perform platform system action = some (event, next)) :
    Turn platform system action event next := by
  cases action with
  | issue config input rateLimit payload intentId now =>
    simp only [perform] at hperform
    split at hperform
    · cases hperform
    · split at hperform
      · cases hperform
        exact .other rfl rfl (List.Subset.refl _) (fun _ _ h => .inl h) trivial
      · cases hperform
        exact .other rfl rfl (List.subset_cons_self _ _) (fun _ _ h => .inl h) trivial
  | prepare call config intentId oauthReference now =>
    simp only [perform] at hperform
    split at hperform
    · cases hperform
    · split at hperform
      · cases hperform
        exact .refuse call
      · cases hperform
        exact .other_setCall rfl rfl (List.subset_cons_self _ _) rfl trivial trivial
  | bind call oauthState now =>
    simp only [perform] at hperform
    split at hperform
    · split at hperform
      · cases hperform
        exact .refuse call
      · cases hperform
        exact .other_setCall rfl rfl (List.Subset.refl _) rfl trivial trivial
    · cases hperform
  | authorize call config input rateLimit now =>
    simp only [perform] at hperform
    split at hperform
    · cases hperform
    · split at hperform
      · cases hperform
        exact .refuse call
      · split at hperform
        · cases hperform
          exact .other_setCall rfl rfl (List.Subset.refl _) rfl trivial trivial
        · cases hperform
          exact .other_setCall rfl rfl (List.Subset.refl _) rfl trivial trivial
  | grant call now =>
    simp only [perform] at hperform
    split at hperform
    · rename_i config input legalAcceptance hcall
      split at hperform
      · cases hperform
        exact .refuse call
      · rename_i grant hgrant
        cases hperform
        exact .granted hcall hgrant
    · cases hperform
  | insertUser call userId =>
    simp only [perform] at hperform
    split at hperform
    · rename_i config input invitation grant hcall
      split at hperform
      · cases hperform
        exact .refuse call
      · rename_i hnew
        cases hperform
        have hemails : ∀ other ∈ system.users, other.email ≠ input.email :=
          fun other hother hemail => hnew ⟨other, hother, .inr hemail⟩
        exact .inserted hcall hemails rfl rfl
    · cases hperform
  | consume call now =>
    simp only [perform] at hperform
    split at hperform
    · rename_i config user invitation hcall
      cases hperform
      exact .created hcall
    · cases hperform
  | invite actorCommits actorUserId email id role now =>
    simp only [perform] at hperform
    split at hperform
    · cases hperform
    · rename_i hfresh
      rw [not_or] at hfresh
      split at hperform
      · cases hperform
        exact .other rfl rfl (List.Subset.refl _) (fun _ _ h => .inl h) trivial
      · rename_i hcommits
        simp only [not_or, Bool.not_eq_false] at hcommits
        obtain ⟨rfl, husers, hrows⟩ := hcommits
        cases hperform
        have hinvitable : system.Invitable platform (platform.normalizeEmail email) := by
          refine ⟨fun user hmem heq => husers ⟨user, hmem, heq⟩, ?_⟩
          intro row hmem heq
          by_contra hconsumed
          exact hrows ⟨row, hmem, heq, hconsumed⟩
        refine .invited ?_ ?_ ?_ hinvitable
        · exact hfresh.1
        · rfl
        · exact ⟨rfl, rfl⟩

section invitations

variable {invitations : List InvitationRow} {generated : List Text} {invitation row : InvitationRow}
  {email userId : Text} {now : Int}

/-- The keys of the table, and the origin of its ids. -/
structure InvitationKeys (generated : List Text) (invitations : List InvitationRow) : Prop where
  emails : (invitations.map (·.emailNormalized)).Nodup
  ids : (invitations.map (·.id)).Nodup
  generated : ∀ row ∈ invitations, row.id ∈ generated

theorem InvitationKeys.consume (hkeys : InvitationKeys generated invitations) :
    InvitationKeys generated (consumeInvitations email userId now invitations) := by
  have hemails : (consumeInvitations email userId now invitations).map InvitationRow.emailNormalized =
      invitations.map InvitationRow.emailNormalized := table.map_update fun _ _ _ => rfl
  have hids : (consumeInvitations email userId now invitations).map InvitationRow.id =
      invitations.map InvitationRow.id := table.map_update fun _ _ _ => rfl
  refine ⟨hemails ▸ hkeys.emails, hids ▸ hkeys.ids, ?_⟩
  intro found hfound
  rcases table.mem_update.mp hfound with ⟨old, hold, -, rfl⟩ | ⟨hold, -⟩
  · exact hkeys.generated old hold
  · exact hkeys.generated found hold

theorem InvitationKeys.upsert (hkeys : InvitationKeys generated invitations)
    (hfresh : invitation.id ∉ generated) :
    InvitationKeys (invitation.id :: generated) (upsertInvitation invitation invitations) := by
  have hnew : ∀ row ∈ invitations, row.id ≠ invitation.id :=
    fun row hrow heq => hfresh (heq ▸ hkeys.generated row hrow)
  unfold upsertInvitation
  split
  · refine ⟨?_, ?_, ?_⟩
    · rw [table.map_update]
      · exact hkeys.emails
      · intro row _ _
        rfl
    · rw [table.update, List.map_map]
      apply (List.Nodup.of_map _ hkeys.ids).map_on
      intro left hleft right hright heq
      simp only [Function.comp_apply] at heq
      split at heq
      · rename_i hleftMatch
        split at heq
        · rename_i hrightMatch
          exact table.eq_of_key hkeys.emails hleft hright (hleftMatch.1.trans hrightMatch.1.symm)
        · exact absurd heq.symm (hnew right hright)
      · split at heq
        · exact absurd heq (hnew left hleft)
        · exact table.eq_of_key hkeys.ids hleft hright heq
    · intro found hfound
      rcases table.mem_update.mp hfound with ⟨old, hold, -, rfl⟩ | ⟨hold, -⟩
      · exact List.mem_cons_self
      · exact List.mem_cons_of_mem _ (hkeys.generated found hold)
  · rename_i hnone
    refine ⟨?_, ?_, ?_⟩
    · rw [List.map_append, List.map_singleton, List.nodup_append]
      refine ⟨hkeys.emails, List.nodup_singleton _, ?_⟩
      intro email hemail other hother heq
      obtain ⟨row, hrow, rfl⟩ := List.mem_map.mp hemail
      exact hnone ⟨row, hrow, heq.trans (List.mem_singleton.mp hother)⟩
    · rw [List.map_append, List.map_singleton, List.nodup_append]
      refine ⟨hkeys.ids, List.nodup_singleton _, ?_⟩
      intro id hid other hother heq
      obtain ⟨row, hrow, rfl⟩ := List.mem_map.mp hid
      exact hnew row hrow (heq.trans (List.mem_singleton.mp hother))
    · intro found hfound
      rcases List.mem_append.mp hfound with hfound | hfound
      · exact List.mem_cons_of_mem _ (hkeys.generated found hfound)
      · rw [List.mem_singleton.mp hfound]
        exact List.mem_cons_self

/-- A consumed invitation stays as it is. -/
theorem mem_consumeInvitations_of_consumed (hrow : row ∈ invitations) (hconsumed : row.consumedAt ≠ none) :
    row ∈ consumeInvitations email userId now invitations :=
  table.mem_update.mpr (.inr ⟨hrow, fun hmatch => hconsumed hmatch.2.1⟩)

theorem mem_upsertInvitation_of_consumed (hrow : row ∈ invitations) (hconsumed : row.consumedAt ≠ none) :
    row ∈ upsertInvitation invitation invitations := by
  unfold upsertInvitation
  split
  · exact table.mem_update.mpr (.inr ⟨hrow, fun hmatch => hconsumed hmatch.2⟩)
  · exact List.mem_append_left _ hrow

theorem mem_consumedInvitations :
    row ∈ consumedInvitations email invitations ↔
      row ∈ invitations ∧ row.emailNormalized = email ∧ row.Pending :=
  table.mem_matched

/-- The hook consumes the one pending invitation of its email. -/
theorem consumedInvitations_eq_singleton (hkeys : InvitationKeys generated invitations)
    (hrow : row ∈ consumedInvitations email invitations) : consumedInvitations email invitations = [row] := by
  obtain ⟨hmem, hemail, hpending⟩ := mem_consumedInvitations.mp hrow
  apply table.matched_eq_singleton hkeys.emails hmem ⟨hemail, hpending⟩
  intro other _ hother
  exact hother.1.trans hemail.symm

theorem consumedInvitations_consume_of_ne {other : Text} (hne : other ≠ email) :
    consumedInvitations other (consumeInvitations email userId now invitations) =
      consumedInvitations other invitations := by
  apply table.matched_update_of_disjoint
  rintro row - ⟨hemail, -⟩
  exact ⟨fun hselected => hne (hselected.1.symm.trans hemail),
    fun hselected => hne (hselected.1.symm.trans hemail)⟩

theorem consumedInvitations_upsert_of_ne (hne : email ≠ invitation.emailNormalized) :
    consumedInvitations email (upsertInvitation invitation invitations) =
      consumedInvitations email invitations := by
  unfold upsertInvitation
  split
  · apply table.matched_update_of_disjoint
    rintro row - ⟨hemail, -⟩
    exact ⟨fun hselected => hne (hselected.1.symm.trans hemail),
      fun hselected => hne (hselected.1.symm.trans hemail)⟩
  · have hnone : consumedInvitations email [invitation] = [] := by
      apply table.matched_eq_nil_iff.mpr
      intro row hrow hselected
      rw [List.mem_singleton.mp hrow] at hselected
      exact hne hselected.1.symm
    rw [consumedInvitations, table.matched_append]
    exact (congrArg _ hnone).trans (List.append_nil _)

/-- An email with a pending invitation still has one after an invitation is written. -/
theorem consumedInvitations_upsert_ne_nil (hpending : consumedInvitations email invitations ≠ []) :
    consumedInvitations email (upsertInvitation invitation invitations) ≠ [] := by
  by_cases heq : email = invitation.emailNormalized
  · obtain ⟨row, hrow⟩ := List.exists_mem_of_ne_nil _ hpending
    obtain ⟨hmem, hemail, hunconsumed, -⟩ := mem_consumedInvitations.mp hrow
    apply List.ne_nil_of_mem
    rw [mem_consumedInvitations, upsertInvitation,
      if_pos ⟨row, hmem, hemail.trans heq⟩]
    refine ⟨table.mem_update.mpr (.inl ⟨row, hmem, ⟨hemail.trans heq, hunconsumed⟩, rfl⟩), hemail, ?_⟩
    exact ⟨hunconsumed, rfl⟩
  · rw [consumedInvitations_upsert_of_ne heq]
    exact hpending

theorem readInvitation_some (hread : readInvitation email now invitations = some row) :
    row ∈ consumedInvitations email invitations ∧ now < row.expiresAt := by
  have hfound := List.find?_some hread
  rw [decide_eq_true_eq] at hfound
  exact ⟨mem_consumedInvitations.mpr ⟨List.mem_of_find?_eq_some hread, hfound.1, hfound.2.1⟩, hfound.2.2⟩

theorem readInvitation_none (hread : readInvitation email now invitations = none)
    (hrow : row ∈ consumedInvitations email invitations) : row.expiresAt ≤ now := by
  obtain ⟨hmem, hemail, hpending⟩ := mem_consumedInvitations.mp hrow
  have hnot := List.find?_eq_none.mp hread row hmem
  rw [decide_eq_true_eq] at hnot
  by_contra hexpiry
  exact hnot ⟨hemail, hpending, Int.not_le.mp hexpiry⟩

end invitations

/-- The grant of an account: what the gate read, and the role that it gave. -/
def GrantedBy (past : List Event) (call : Nat) (config : RuntimeConfig) (email : Text)
    (invitation : Option InvitationRow) (role : PlatformRole) : Prop :=
  ∃ grant now, .granted call config email invitation grant now ∈ past ∧ grant.role = role ∧
    (∀ row ∈ invitation, row.emailNormalized = email ∧ row.Pending ∧ now < row.expiresAt) ∧
    (role ≠ .user → email = config.bootstrapAdminEmail ∨ ∃ row ∈ invitation, row.role = role)

theorem GrantedBy.snoc {past : List Event} {call : Nat} {config : RuntimeConfig} {email : Text}
    {invitation : Option InvitationRow} {role : PlatformRole} {event : Event}
    (hgranted : GrantedBy past call config email invitation role) :
    GrantedBy (past ++ [event]) call config email invitation role := by
  obtain ⟨grant, now, hmem, hrest⟩ := hgranted
  exact ⟨grant, now, List.mem_append_left _ hmem, hrest⟩

theorem authorizeGrant_ok {config : RuntimeConfig} {input : RegistrationInput}
    {legalAcceptance : Option ClaimedRegistrationIntent} {invitation : Option InvitationRow}
    {grant : RegistrationGrant}
    (hgrant : authorizeRegistrationGrant platform config input legalAcceptance invitation = .ok grant) :
    (config.registrationMode = .invite → invitation = none →
        platform.normalizeEmail input.email = config.bootstrapAdminEmail) ∧
      (grant.role ≠ .user → platform.normalizeEmail input.email = config.bootstrapAdminEmail ∨
        ∃ row ∈ invitation, row.role = grant.role) := by
  rw [authorizeRegistrationGrant, throwIf_bind_eq_ok_iff, pure_eq_ok_iff] at hgrant
  obtain ⟨hgate, rfl⟩ := hgrant
  by_cases hemail : platform.normalizeEmail input.email = config.bootstrapAdminEmail
  · exact ⟨fun _ _ => hemail, fun _ => .inl hemail⟩
  · have hboot : decide (platform.normalizeEmail input.email = config.bootstrapAdminEmail) = false :=
      decide_eq_false hemail
    refine ⟨fun hmode hnone => absurd ⟨hmode, hnone, hboot⟩ hgate, ?_⟩
    simp only [hboot, Bool.false_eq_true, if_false]
    intro hrole
    cases invitation with
    | none => exact absurd rfl hrole
    | some row => exact .inr ⟨row, rfl, rfl⟩

/-- What the invitations and the calls know of the events before, in any history. -/
structure Registry (platform : Platform) (past : List Event) (system : System) : Prop where
  keys : InvitationKeys system.generated system.invitations
  marked : ∀ call config user invitation consumed roleSource,
    .created call config user invitation consumed roleSource ∈ past → ∀ row ∈ consumed,
      ∃ kept ∈ system.invitations, kept.id = row.id ∧ kept.role = row.role ∧
        kept.consumedByUserId = some user.id ∧ kept.consumedAt ≠ none
  granted : ∀ call config input invitation grant,
    system.calls call = some (.granted config input invitation grant) →
      GrantedBy past call config (platform.normalizeEmail input.email) invitation grant.role
  inserted : ∀ call config user invitation,
    system.calls call = some (.inserted config user invitation) → .inserted call user ∈ past ∧
      GrantedBy past call config (platform.normalizeEmail user.email) invitation user.role

theorem Registry.start {system : System} (hstart : system.Start) : Registry platform [] system := by
  obtain ⟨-, hinvitations, -, -, hcalls⟩ := hstart
  refine ⟨?_, ?_, ?_, ?_⟩
  · rw [hinvitations]
    exact ⟨List.nodup_nil, List.nodup_nil, fun _ hrow => absurd hrow List.not_mem_nil⟩
  · intro call config user invitation consumed roleSource hmem
    exact absurd hmem List.not_mem_nil
  · intro call config input invitation grant hcall
    rw [hcalls] at hcall
    cases hcall
  · intro call config user invitation hcall
    rw [hcalls] at hcall
    cases hcall

/-- The marks of the consumed invitations stay. -/
theorem Registry.marked_snoc {past : List Event} {system next : System} {event : Event}
    (hregistry : Registry platform past system)
    (hkept : ∀ row ∈ system.invitations, row.consumedAt ≠ none → row ∈ next.invitations)
    (hevent : ∀ call config user invitation consumed roleSource,
      .created call config user invitation consumed roleSource = event → ∀ row ∈ consumed,
        ∃ kept ∈ next.invitations, kept.id = row.id ∧ kept.role = row.role ∧
          kept.consumedByUserId = some user.id ∧ kept.consumedAt ≠ none) :
    ∀ call config user invitation consumed roleSource,
      .created call config user invitation consumed roleSource ∈ past ++ [event] → ∀ row ∈ consumed,
        ∃ kept ∈ next.invitations, kept.id = row.id ∧ kept.role = row.role ∧
          kept.consumedByUserId = some user.id ∧ kept.consumedAt ≠ none := by
  intro call config user invitation consumed roleSource hmem row hrow
  rcases List.mem_append.mp hmem with hmem | hmem
  · obtain ⟨kept, hin, hid, hrole, huser, hconsumed⟩ :=
      hregistry.marked call config user invitation consumed roleSource hmem row hrow
    exact ⟨kept, hkept kept hin hconsumed, hid, hrole, huser, hconsumed⟩
  · exact hevent call config user invitation consumed roleSource (List.mem_singleton.mp hmem) row hrow

/-- The knowledge about the calls, when every call past its grant is as before or new. -/
theorem Registry.granted_snoc {past : List Event} {system : System} {event : Event}
    (hregistry : Registry platform past system) {call : Nat} {config : RuntimeConfig}
    {input : RegistrationInput} {invitation : Option InvitationRow} {grant : RegistrationGrant}
    (hcall : system.calls call = some (.granted config input invitation grant)) :
    GrantedBy (past ++ [event]) call config (platform.normalizeEmail input.email) invitation grant.role :=
  (hregistry.granted call config input invitation grant hcall).snoc

theorem Registry.inserted_snoc {past : List Event} {system : System} {event : Event}
    (hregistry : Registry platform past system) {call : Nat} {config : RuntimeConfig} {user : UserRow}
    {invitation : Option InvitationRow} (hcall : system.calls call = some (.inserted config user invitation)) :
    .inserted call user ∈ past ++ [event] ∧
      GrantedBy (past ++ [event]) call config (platform.normalizeEmail user.email) invitation user.role := by
  obtain ⟨hmem, hgranted⟩ := hregistry.inserted call config user invitation hcall
  exact ⟨List.mem_append_left _ hmem, hgranted.snoc⟩

theorem Registry.step {past : List Event} {system next : System} {event : Event}
    (hregistry : Registry platform past system) (hstep : Step platform system event next) :
    Registry platform (past ++ [event]) next := by
  obtain ⟨action, hperform⟩ := hstep
  cases perform_turn hperform with
  | @granted call config input legalAcceptance grant now hcall hgrant =>
    refine ⟨hregistry.keys, hregistry.marked_snoc (fun _ h _ => h) (by rintro - - - - - - ⟨⟩), ?_, ?_⟩
    · intro other otherConfig otherInput otherInvitation otherGrant hfound
      rcases setCall_calls hfound with ⟨rfl, heq⟩ | ⟨-, hfound⟩
      · cases heq
        refine ⟨grant, now, List.mem_append_right _ List.mem_cons_self, rfl, ?_,
          (authorizeGrant_ok hgrant).2⟩
        intro row hrow
        obtain ⟨hmem, hexpiry⟩ := readInvitation_some hrow
        obtain ⟨-, hemail, hpending⟩ := mem_consumedInvitations.mp hmem
        exact ⟨hemail, hpending, hexpiry⟩
      · exact hregistry.granted_snoc hfound
    · intro other otherConfig user otherInvitation hfound
      rcases setCall_calls hfound with ⟨-, heq⟩ | ⟨-, hfound⟩
      · cases heq
      · exact hregistry.inserted_snoc hfound
  | @inserted call config input invitation grant user userId hcall hnew hemail hrole =>
    refine ⟨hregistry.keys, hregistry.marked_snoc (fun _ h _ => h) (by rintro - - - - - - ⟨⟩), ?_, ?_⟩
    · intro other otherConfig otherInput otherInvitation otherGrant hfound
      rcases setCall_calls hfound with ⟨-, heq⟩ | ⟨-, hfound⟩
      · cases heq
      · exact hregistry.granted_snoc hfound
    · intro other otherConfig otherUser otherInvitation hfound
      rcases setCall_calls hfound with ⟨rfl, heq⟩ | ⟨-, hfound⟩
      · cases heq
        rw [hemail, hrole]
        exact ⟨List.mem_append_right _ List.mem_cons_self, hregistry.granted_snoc hcall⟩
      · exact hregistry.inserted_snoc hfound
  | @created call config user invitation now hcall =>
    refine ⟨hregistry.keys.consume,
      hregistry.marked_snoc (fun _ h hconsumed => mem_consumeInvitations_of_consumed h hconsumed) ?_, ?_, ?_⟩
    · intro _ _ _ _ _ _ heq row hrow
      cases heq
      obtain ⟨hmem, hmatch⟩ := mem_consumedInvitations.mp hrow
      refine ⟨{ row with consumedAt := some now, consumedByUserId := some user.id }, ?_, rfl, rfl, rfl,
        nofun⟩
      exact table.mem_update.mpr (.inl ⟨row, hmem, hmatch, rfl⟩)
    · intro other otherConfig otherInput otherInvitation otherGrant hfound
      rcases setCall_calls hfound with ⟨-, heq⟩ | ⟨-, hfound⟩
      · cases heq
      · exact hregistry.granted_snoc hfound
    · intro other otherConfig otherUser otherInvitation hfound
      rcases setCall_calls hfound with ⟨-, heq⟩ | ⟨-, hfound⟩
      · cases heq
      · exact hregistry.inserted_snoc hfound
  | invited hfresh hemail hpending hinvitable =>
    exact ⟨hregistry.keys.upsert hfresh,
      hregistry.marked_snoc (fun _ h hconsumed => mem_upsertInvitation_of_consumed h hconsumed)
        (by rintro - - - - - - ⟨⟩),
      fun _ _ _ _ _ => hregistry.granted_snoc, fun _ _ _ _ => hregistry.inserted_snoc⟩
  | other hinvitations husers hgenerated hcalls hevent =>
    refine ⟨?_, hregistry.marked_snoc (fun _ h _ => hinvitations ▸ h) ?_, ?_, ?_⟩
    · rw [hinvitations]
      exact ⟨hregistry.keys.emails, hregistry.keys.ids,
        fun row hrow => hgenerated (hregistry.keys.generated row hrow)⟩
    · intro _ _ _ _ _ _ heq
      rw [← heq] at hevent
      exact absurd hevent id
    · intro call config input invitation grant hfound
      rcases hcalls call _ hfound with hfound | hearly
      · exact hregistry.granted_snoc hfound
      · exact absurd hearly id
    · intro call config user invitation hfound
      rcases hcalls call _ hfound with hfound | hearly
      · exact hregistry.inserted_snoc hfound
      · exact absurd hearly id

/-- A registration whose hook is going to find what its gate read: nothing, or an
invitation, and that very one unless its role is `user`. -/
structure Registration.Synced (registration : Registration) (invitations : List InvitationRow) : Prop where
  unread : registration.invitation = none → consumedInvitations registration.email invitations = []
  read : ∀ row ∈ registration.invitation,
    registration.email ≠ registration.config.bootstrapAdminEmail ∧
      consumedInvitations registration.email invitations ≠ [] ∧
      (row.role ≠ .user → consumedInvitations registration.email invitations = [row])

theorem Registration.Synced.congr {registration : Registration} {invitations next : List InvitationRow}
    (hsynced : registration.Synced invitations)
    (hsame : consumedInvitations registration.email next =
      consumedInvitations registration.email invitations) : registration.Synced next := by
  refine ⟨fun hnone => hsame.trans (hsynced.unread hnone), ?_⟩
  intro row hrow
  rw [hsame]
  exact hsynced.read row hrow

/-- The registrations under way. -/
def System.Synced (platform : Platform) (system : System) : Prop :=
  ∀ call registration, system.registering? platform call = some registration →
    registration.Synced system.invitations

theorem registering_granted {system : System} {call : Nat} {config : RuntimeConfig}
    {input : RegistrationInput} {invitation : Option InvitationRow} {grant : RegistrationGrant}
    (hcall : system.calls call = some (.granted config input invitation grant))
    (hnew : ∀ user ∈ system.users, user.email ≠ input.email) :
    system.registering? platform call =
      some { email := platform.normalizeEmail input.email, config, invitation } := by
  simp only [System.registering?, hcall]
  exact if_neg fun ⟨user, hmem, heq⟩ => hnew user hmem heq

theorem registering_inserted {system : System} {call : Nat} {config : RuntimeConfig} {user : UserRow}
    {invitation : Option InvitationRow} (hcall : system.calls call = some (.inserted config user invitation)) :
    system.registering? platform call =
      some { email := platform.normalizeEmail user.email, config, invitation } := by
  simp only [System.registering?, hcall]

/-- A registration that is under way after a step, in a phase that the step did not
touch, was under way before. -/
theorem registering_of_calls {system next : System} {call : Nat} {registration : Registration}
    (husers : system.users ⊆ next.users)
    (hcalls : ∀ phase, next.calls call = some phase → system.calls call = some phase ∨ phase.Early)
    (hfound : next.registering? platform call = some registration) :
    system.registering? platform call = some registration := by
  unfold System.registering? at hfound
  split at hfound
  · rename_i config input invitation grant hcall
    split at hfound
    · cases hfound
    · rename_i hnew
      cases hfound
      rcases hcalls _ hcall with hcall | hearly
      · exact registering_granted hcall fun user hmem heq => hnew ⟨user, husers hmem, heq⟩
      · exact absurd hearly id
  · rename_i config user invitation hcall
    cases hfound
    rcases hcalls _ hcall with hcall | hearly
    · exact registering_inserted hcall
    · exact absurd hearly id
  · cases hfound

theorem registering_setCall {system changed : System} {call other : Nat} {phase : Call}
    {registration : Registration} (husers : system.users ⊆ changed.users)
    (hcalls : changed.calls = system.calls)
    (hfound : (changed.setCall call phase).registering? platform other = some registration) :
    (other = call ∧ ¬ phase.Early) ∨ (other ≠ call ∧ system.registering? platform other = some registration) := by
  by_cases heq : other = call
  · subst heq
    refine .inl ⟨rfl, ?_⟩
    intro hearly
    have hself : (changed.setCall other phase).calls other = some phase := Function.update_self ..
    unfold System.registering? at hfound
    rw [hself] at hfound
    cases phase with
    | granted => exact hearly
    | inserted => exact hearly
    | _ => cases hfound
  · have hbefore : ∀ found, (changed.setCall call phase).calls other = some found →
        system.calls other = some found ∨ found.Early := by
      intro found hcall
      rcases setCall_calls hcall with ⟨hsame, -⟩ | ⟨-, hcall⟩
      · exact absurd hsame heq
      · exact .inl (hcalls ▸ hcall)
    have husers' : system.users ⊆ (changed.setCall call phase).users := husers
    exact .inr ⟨heq, registering_of_calls husers' hbefore hfound⟩

/-- What the gate reads is what its hook would find, when the gate reads undisturbed. -/
theorem Registration.Synced.of_grant {generated : List Text} {invitations : List InvitationRow}
    {config : RuntimeConfig} {input : RegistrationInput} {legalAcceptance : Option ClaimedRegistrationIntent}
    {grant : RegistrationGrant} {now : Int} (hkeys : InvitationKeys generated invitations)
    (hgrant : authorizeRegistrationGrant platform config input legalAcceptance
      (readInvitation (platform.normalizeEmail input.email) now invitations) = .ok grant)
    (hquiet : ∀ row ∈ consumedInvitations (platform.normalizeEmail input.email) invitations,
      platform.normalizeEmail input.email ≠ config.bootstrapAdminEmail ∧
        (config.registrationMode = .«public» → now < row.expiresAt)) :
    Registration.Synced
      { email := platform.normalizeEmail input.email, config
        invitation := readInvitation (platform.normalizeEmail input.email) now invitations } invitations := by
  constructor
  · intro hnone
    rw [List.eq_nil_iff_forall_not_mem]
    intro row hrow
    obtain ⟨hboot, hpublic⟩ := hquiet row hrow
    have hexpired := readInvitation_none hnone hrow
    have hmode : config.registrationMode = .invite := by
      cases hmode : config.registrationMode with
      | invite => rfl
      | «public» => exact absurd (hpublic hmode) (Int.not_lt.mpr hexpired)
    exact hboot ((authorizeGrant_ok hgrant).1 hmode hnone)
  · intro row hrow
    obtain ⟨hmem, -⟩ := readInvitation_some hrow
    exact ⟨(hquiet row hmem).1, List.ne_nil_of_mem hmem, fun _ => consumedInvitations_eq_singleton hkeys hmem⟩

theorem System.Synced.step {past : List Event} {system next : System} {event : Event}
    (hregistry : Registry platform past system) (hsynced : system.Synced platform)
    (hstep : UndisturbedStep platform system event next) : next.Synced platform := by
  obtain ⟨action, hperform, hquiet⟩ := hstep
  intro other registration hfound
  cases perform_turn hperform with
  | @granted call config input legalAcceptance grant now hcall hgrant =>
    rcases registering_setCall (List.Subset.refl _) rfl hfound with ⟨rfl, -⟩ | ⟨-, hbefore⟩
    · have hself : (system.setCall other (.granted config input
          (readInvitation (platform.normalizeEmail input.email) now system.invitations) grant)).calls other =
        some (.granted config input
          (readInvitation (platform.normalizeEmail input.email) now system.invitations) grant) :=
        Function.update_self ..
      unfold System.registering? at hfound
      rw [hself] at hfound
      simp only at hfound
      split at hfound
      · cases hfound
      · cases hfound
        exact .of_grant hregistry.keys hgrant (hquiet config input legalAcceptance hcall)
    · exact hsynced other registration hbefore
  | @inserted call config input invitation grant user userId hcall hnew hemail hrole =>
    let changed : System := { system with users := system.users ++ [user] }
    have husers : system.users ⊆ changed.users := List.subset_append_left _ _
    rcases @registering_setCall platform system changed _ _ _ _ husers rfl hfound with ⟨rfl, -⟩ | ⟨-, hbefore⟩
    · have hself : (System.setCall { system with users := system.users ++ [user] } other
          (.inserted config user invitation)).calls other = some (.inserted config user invitation) :=
        Function.update_self ..
      rw [registering_inserted hself, Option.some.injEq] at hfound
      rw [← hfound, hemail]
      exact hsynced other _ (registering_granted hcall hnew)
    · exact hsynced other registration hbefore
  | @created call config user invitation now hcall =>
    rcases registering_setCall (List.Subset.refl _) rfl hfound with ⟨-, hphase⟩ | ⟨hne, hbefore⟩
    · exact absurd trivial hphase
    · have hothers := hsynced other registration hbefore
      by_cases hnone : consumedInvitations (platform.normalizeEmail user.email) system.invitations = []
      · have hsame : consumeInvitations (platform.normalizeEmail user.email) user.id now
            system.invitations = system.invitations :=
          table.update_of_none (table.matched_eq_nil_iff.mp hnone)
        exact hothers.congr (congrArg _ hsame)
      · have hemail := hquiet config user invitation hcall hnone other registration hne hbefore
        exact hothers.congr (consumedInvitations_consume_of_ne hemail)
  | @invited actorUserId email id role now invitation hfresh hemail hpending hinvitable =>
    have hbefore : system.registering? platform other = some registration :=
      registering_of_calls (List.Subset.refl _) (fun _ h => .inl h) hfound
    have hothers := hsynced other registration hbefore
    by_cases heq : registration.email = platform.normalizeEmail email
    · obtain ⟨row, hrow, hrole⟩ := hquiet rfl hinvitable other registration hbefore heq
      refine ⟨fun hnone => absurd (hnone ▸ hrow) (by simp), ?_⟩
      intro found hread
      obtain ⟨hboot, hsome, -⟩ := hothers.read found hread
      refine ⟨hboot, consumedInvitations_upsert_ne_nil hsome, ?_⟩
      intro hnot
      exact absurd (Option.mem_unique hread hrow ▸ hrole) hnot
    · exact hothers.congr (consumedInvitations_upsert_of_ne (hemail ▸ heq))
  | other hinvitations husers hgenerated hcalls hevent =>
    rw [hinvitations]
    exact hsynced other registration
      (registering_of_calls (husers ▸ List.Subset.refl _) (hcalls other) hfound)

theorem System.Synced.start {system : System} (hstart : system.Start) : system.Synced platform := by
  intro call registration hfound
  obtain ⟨-, -, -, -, hcalls⟩ := hstart
  simp only [System.registering?, hcalls] at hfound
  cases hfound

/-- An account is made with the role that its gate granted. Its hook consumes the
invitation that granted a role above `user`, and the audit says `invitation` for the
accounts that were granted their role by one. -/
def Event.Honest (platform : Platform) (before : List Event) : Event → Prop
  | .inserted call user => ∃ config invitation,
      GrantedBy before call config (platform.normalizeEmail user.email) invitation user.role
  | .created call config user invitation consumed roleSource =>
    .inserted call user ∈ before ∧
      GrantedBy before call config (platform.normalizeEmail user.email) invitation user.role ∧
      consumed.length ≤ 1 ∧
      (user.role ≠ .user → platform.normalizeEmail user.email = config.bootstrapAdminEmail ∨
        ∃ row ∈ invitation, row.role = user.role ∧ consumed = [row]) ∧
      (roleSource = .invitation ↔
        platform.normalizeEmail user.email ≠ config.bootstrapAdminEmail ∧ invitation ≠ none)
  | _ => True

theorem roleSourceOf_eq_invitation_iff {consumed : List InvitationRow} :
    roleSourceOf consumed = .invitation ↔ consumed ≠ [] := by
  rw [roleSourceOf]
  split
  · rename_i hnone
    exact ⟨nofun, fun hsome => absurd hnone hsome⟩
  · rename_i hsome
    exact ⟨fun _ => hsome, fun _ => rfl⟩

theorem consumedInvitations_length_le {generated : List Text} {invitations : List InvitationRow}
    {email : Text} (hkeys : InvitationKeys generated invitations) :
    (consumedInvitations email invitations).length ≤ 1 := by
  by_cases hnone : consumedInvitations email invitations = []
  · rw [hnone]
    exact Nat.zero_le 1
  · obtain ⟨row, hrow⟩ := List.exists_mem_of_ne_nil _ hnone
    rw [consumedInvitations_eq_singleton hkeys hrow]
    exact Nat.le_refl 1

theorem honest_of_step {past : List Event} {system next : System} {event : Event}
    (hregistry : Registry platform past system) (hsynced : system.Synced platform)
    (hstep : UndisturbedStep platform system event next) : event.Honest platform past := by
  obtain ⟨action, hperform, -⟩ := hstep
  cases perform_turn hperform with
  | granted => trivial
  | invited => trivial
  | @inserted call config input invitation grant user userId hcall hnew hemail hrole =>
    refine ⟨config, invitation, ?_⟩
    rw [hemail, hrole]
    exact hregistry.granted _ _ _ _ _ hcall
  | @created call config user invitation now hcall =>
    obtain ⟨hmem, hgranted⟩ := hregistry.inserted call config user invitation hcall
    have hregistration := hsynced call _ (registering_inserted hcall)
    refine ⟨hmem, hgranted, consumedInvitations_length_le hregistry.keys, ?_, ?_⟩
    · intro hrole
      obtain ⟨-, -, -, -, -, hsource⟩ := hgranted
      rcases hsource hrole with hboot | ⟨row, hrow, hsame⟩
      · exact .inl hboot
      · obtain ⟨-, -, hone⟩ := hregistration.read row hrow
        exact .inr ⟨row, hrow, hsame, hone (hsame ▸ hrole)⟩
    · rw [roleSourceOf_eq_invitation_iff]
      constructor
      · intro hsome
        have hread : invitation ≠ none := fun hnone => hsome (hregistration.unread hnone)
        obtain ⟨row, hrow⟩ := Option.ne_none_iff_exists'.mp hread
        exact ⟨(hregistration.read row hrow).1, hread⟩
      · rintro ⟨-, hread⟩
        obtain ⟨row, hrow⟩ := Option.ne_none_iff_exists'.mp hread
        exact (hregistration.read row hrow).2.1
  | other hinvitations husers hgenerated hcalls hevent =>
    cases event with
    | inserted => exact absurd hevent id
    | created => exact absurd hevent id
    | _ => trivial

/-- The invitation that a hook consumes. -/
def Event.consumedInvitation? : Event → Option Text
  | .created _ _ _ _ consumed _ => consumed.head?.map (·.id)
  | _ => none

/-- In any history, an invitation is consumed by at most one account. -/
theorem consumed_fresh {past : List Event} {system next : System} {event : Event}
    (hregistry : Registry platform past system) (hstep : Step platform system event next) :
    ∀ key, event.consumedInvitation? = some key → key ∉ past.filterMap Event.consumedInvitation? := by
  obtain ⟨action, hperform⟩ := hstep
  intro key hid hbefore
  cases perform_turn hperform with
  | granted => cases hid
  | invited => cases hid
  | inserted => cases hid
  | @created call config user invitation now hcall =>
    obtain ⟨row, hhead, rfl⟩ := Option.map_eq_some_iff.mp hid
    obtain ⟨hmem, -, hpending⟩ := mem_consumedInvitations.mp (List.mem_of_mem_head? hhead)
    obtain ⟨earlier, hearlier, hfound⟩ := List.mem_filterMap.mp hbefore
    cases earlier with
    | created other otherConfig otherUser otherInvitation consumed roleSource =>
      obtain ⟨used, hused, hsame⟩ := Option.map_eq_some_iff.mp hfound
      obtain ⟨kept, hkept, hkeptId, -, -, hconsumed⟩ :=
        hregistry.marked _ _ _ _ _ _ hearlier used (List.mem_of_mem_head? hused)
      have hrow : kept = row := table.eq_of_key hregistry.keys.ids hkept hmem (hkeptId.trans hsame)
      exact hconsumed (hrow ▸ hpending.1)
    | _ => cases hfound
  | other hinvitations husers hgenerated hcalls hevent =>
    cases event with
    | created => exact absurd hevent id
    | _ => cases hid

/-- What holds of the histories whose steps are undisturbed. -/
structure Quiet (platform : Platform) (past : List Event) (system : System) : Prop where
  registry : Registry platform past system
  synced : system.Synced platform

theorem quiet_of_trace {past : List Event} {system : System}
    (htrace : Trace System.Start (UndisturbedStep platform) past system) : Quiet platform past system := by
  refine Trace.invariant (fun hstart => ⟨.start hstart, .start hstart⟩) ?_ htrace
  rintro past system event next hquiet ⟨action, hperform, hundisturbed⟩
  exact ⟨hquiet.registry.step ⟨action, hperform⟩,
    hquiet.synced.step hquiet.registry ⟨action, hperform, hundisturbed⟩⟩

/-- Invitations grant what they say, once, in every history whose steps are undisturbed. -/
theorem invitations_grant_once {past : List Event} {system : System}
    (htrace : Trace System.Start (UndisturbedStep platform) past system) :
    Each (fun before event => event.Honest platform before) past ∧
      (past.filterMap Event.consumedInvitation?).Nodup ∧
      ∀ call config user invitation consumed roleSource,
        .created call config user invitation consumed roleSource ∈ past → ∀ row ∈ consumed,
          ∃ kept ∈ system.invitations, kept.id = row.id ∧ kept.role = row.role ∧
            kept.consumedByUserId = some user.id := by
  refine ⟨?_, ?_, ?_⟩
  · exact Trace.each quiet_of_trace (fun h hstep => honest_of_step h.registry h.synced hstep) htrace
  · apply nodup_of_each
    exact Trace.each quiet_of_trace
      (fun h ⟨action, hperform, _⟩ => consumed_fresh h.registry ⟨action, hperform⟩) htrace
  · intro call config user invitation consumed roleSource hmem row hrow
    obtain ⟨kept, hkept, hid, hrole, huser, -⟩ :=
      (quiet_of_trace htrace).registry.marked call config user invitation consumed roleSource hmem row hrow
    exact ⟨kept, hkept, hid, hrole, huser⟩

def inviteConfig : RuntimeConfig :=
  { authHostname := Text.of "auth.example"
    bootstrapAdminEmail := Text.of "boot@auth.example"
    publicRegistration := none
    registrationMode := .invite }

def newcomer : RegistrationInput :=
  { email := Text.of "new@mail.example", emailVerified := true, providerId := some (Text.of "google")
    registrationBinding := none }

theorem invitations_grant_once_developer :
    ∃ past config user row, Event.created 0 config user (some row) [row] .invitation ∈ past ∧
      user.role = .developer ∧ Each (fun before event => event.Honest Platform.plain before) past ∧
      (past.filterMap Event.consumedInvitation?).Nodup := by
  have hinvited : Trace System.Start (UndisturbedStep Platform.plain) _ _ :=
    .step (.start System.empty_start)
      ⟨.invite true (Text.of "admin") newcomer.email (Text.of "first") .developer 0, rfl,
        fun _ _ _ _ hfound => nomatch hfound⟩
  have hclaimed : Trace System.Start (UndisturbedStep Platform.plain) _ _ :=
    .step hinvited ⟨.authorize 0 inviteConfig newcomer true 10, rfl, trivial⟩
  have hgranted : Trace System.Start (UndisturbedStep Platform.plain) _ _ :=
    .step hclaimed ⟨.grant 0 20, rfl, fun config input legalAcceptance hcall row hrow => by
      cases hcall
      exact ⟨by decide, nofun⟩⟩
  have hinserted : Trace System.Start (UndisturbedStep Platform.plain) _ _ :=
    .step hgranted ⟨.insertUser 0 (Text.of "account"), rfl, trivial⟩
  have hcreated : Trace System.Start (UndisturbedStep Platform.plain) _ _ :=
    .step hinserted ⟨.consume 0 30, rfl,
      fun config user invitation hcall hsome other registration hother hfound => by
        cases other with
        | zero => exact absurd rfl hother
        | succ other => cases hfound⟩
  have honce := invitations_grant_once hcreated
  exact ⟨_, _, _, _, List.mem_append_right _ List.mem_cons_self, rfl, honce.1, honce.2.1⟩

/-- A developer's invitation is replaced by one for a user between the gate and the hook. -/
def reinvitation : List Action :=
  [ .invite true (Text.of "admin") newcomer.email (Text.of "first") .developer 0,
    .authorize 0 inviteConfig newcomer true 10,
    .grant 0 20,
    .invite true (Text.of "admin") newcomer.email (Text.of "second") .user 30,
    .insertUser 0 (Text.of "account"),
    .consume 0 40 ]

theorem invitations_grant_once_fails :
    ¬ ∀ past system, History Platform.plain past system →
      Each (fun before event => event.Honest Platform.plain before) past := by
  intro hclaim
  have heach := hclaim _ _ (replay_trace System.empty_start reinvitation)
  obtain ⟨-, hlast⟩ := each_snoc.mp heach
  obtain ⟨-, -, -, hrole, -⟩ := hlast
  rcases hrole nofun with hboot | ⟨row, hrow, -, hconsumed⟩
  · exact absurd hboot (by decide)
  · cases hrow
    cases hconsumed

end pgid.registration
