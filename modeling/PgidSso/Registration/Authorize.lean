import PgidSso.Registration.Intent

open checked

namespace pgid.registration

inductive PlatformRole where
  | bootadmin
  | admin
  | developer
  | user
  deriving DecidableEq

inductive AccountAccessLevel where
  | restricted
  | standard
  deriving DecidableEq

/-- A row of `invitation`. -/
structure InvitationRow where
  id : Text
  emailNormalized : Text
  role : PlatformRole
  createdByUserId : Text
  consumedByUserId : Option Text
  expiresAt : Int
  consumedAt : Option Int
  revokedAt : Option Int
  createdAt : Int
  deriving DecidableEq

/-- Neither consumed nor revoked. -/
def InvitationRow.Pending (row : InvitationRow) : Prop :=
  row.consumedAt = none ∧ row.revokedAt = none

instance (row : InvitationRow) : Decidable row.Pending :=
  inferInstanceAs (Decidable (_ ∧ _))

structure RegistrationInput where
  email : Text
  emailVerified : Bool
  providerId : Option Text
  registrationBinding : Option PublicRegistrationOAuthBinding

structure RegistrationGrant where
  accessLevel : AccountAccessLevel
  legalAcceptance : Option ClaimedRegistrationIntent
  role : PlatformRole
  deriving DecidableEq

/-- The first half of the gate: the checks before any table is read, and in public mode
the claim of the prerequisite with its new table. -/
def authorizeRegistrationClaim (platform : Platform) (config : RuntimeConfig) (input : RegistrationInput)
    (rateLimit : Bool) (now : Int) (intents : List IntentRow) :
    Except RegistrationError (Option (IntentRow × ClaimedRegistrationIntent) × List IntentRow) := do
  throwIf (rateLimit = false) .registrationRateLimited
  throwIf (input.emailVerified = false) .emailNotVerified
  match config.registrationMode with
  | .«public» => do
    throwIf (input.providerId ≠ some (Text.of "google")) .registrationPrerequisiteRequired
    let (claimed, next) ← claimPublicRegistrationIntent platform config input.registrationBinding now intents
    return (some claimed, next)
  | .invite => return (none, intents)

/-- The invitation that the gate reads for an email. -/
def readInvitation (email : Text) (now : Int) (invitations : List InvitationRow) : Option InvitationRow :=
  invitations.find? fun row => row.emailNormalized = email ∧ row.Pending ∧ now < row.expiresAt

/-- The second half of the gate, from the invitation that was read. -/
def authorizeRegistrationGrant (platform : Platform) (config : RuntimeConfig) (input : RegistrationInput)
    (legalAcceptance : Option ClaimedRegistrationIntent) (invitation : Option InvitationRow) :
    Except RegistrationError RegistrationGrant := do
  let email := platform.normalizeEmail input.email
  let isBootstrapAdmin := decide (email = config.bootstrapAdminEmail)
  throwIf (config.registrationMode = .invite ∧ invitation = none ∧ isBootstrapAdmin = false)
    .invitationRequired
  return {
    accessLevel :=
      if config.registrationMode = .«public» ∧ invitation = none ∧ isBootstrapAdmin = false
      then .restricted else .standard
    legalAcceptance
    role := if isBootstrapAdmin then .bootadmin else (invitation.map (·.role)).getD .user }

/-- The user row of a new account. -/
structure UserRow where
  id : Text
  email : Text
  role : PlatformRole
  accessLevel : AccountAccessLevel
  deriving DecidableEq

inductive RoleSource where
  | invitation
  | default
  deriving DecidableEq

/-- The update of the `user.create.after` hook: the pending invitation of the email is
consumed, whatever its expiry. -/
def consumeInvitations (email userId : Text) (now : Int) (invitations : List InvitationRow) :
    List InvitationRow :=
  table.update (fun row : InvitationRow => row.emailNormalized = email ∧ row.Pending)
    (fun row => { row with consumedAt := some now, consumedByUserId := some userId }) invitations

/-- The invitations that the hook consumes. -/
def consumedInvitations (email : Text) (invitations : List InvitationRow) : List InvitationRow :=
  table.matched (fun row : InvitationRow => row.emailNormalized = email ∧ row.Pending) invitations

/-- The `roleSource` of the `user.created` audit. -/
def roleSourceOf (consumed : List InvitationRow) : RoleSource :=
  if consumed = [] then .default else .invitation

/-- An invitation for an email without an account: a new row, or a fresh start of the
row that the email already has, unless that is consumed. -/
def upsertInvitation (invitation : InvitationRow) (invitations : List InvitationRow) :
    List InvitationRow :=
  if ∃ row ∈ invitations, row.emailNormalized = invitation.emailNormalized then
    table.update
      (fun row : InvitationRow =>
        row.emailNormalized = invitation.emailNormalized ∧ row.consumedAt = none)
      (fun row =>
        { row with
          id := invitation.id
          role := invitation.role
          createdByUserId := invitation.createdByUserId
          expiresAt := invitation.expiresAt
          revokedAt := none
          createdAt := invitation.createdAt }) invitations
  else invitations ++ [invitation]

end pgid.registration
