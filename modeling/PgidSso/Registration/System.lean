import PgidSso.Registration.Authorize
import PgidSso.Library.Transition

open checked

namespace pgid.registration

/-- A call between two of its statements. -/
inductive Call where
  /-- A social start whose intent was found available. -/
  | prepared (config : RuntimeConfig) (prepared : PreparedPublicRegistrationOAuthStart)
  /-- A registration past the claim of its prerequisite. -/
  | claimed (config : RuntimeConfig) (input : RegistrationInput)
      (legalAcceptance : Option ClaimedRegistrationIntent)
  /-- A registration with a grant; its user row is not inserted yet. -/
  | granted (config : RuntimeConfig) (input : RegistrationInput) (invitation : Option InvitationRow)
      (grant : RegistrationGrant)
  /-- A registration with a user row; the hook after the insert has not run yet. -/
  | inserted (config : RuntimeConfig) (user : UserRow) (invitation : Option InvitationRow)
  | finished

/-- The tables, the texts generated so far, and the calls by their number. -/
structure System where
  intents : List IntentRow
  invitations : List InvitationRow
  users : List UserRow
  generated : List Text
  calls : Nat → Option Call

def System.setCall (system : System) (call : Nat) (phase : Call) : System :=
  { system with calls := Function.update system.calls call (some phase) }

theorem setCall_calls {system : System} {call other : Nat} {phase found : Call}
    (hfound : (system.setCall call phase).calls other = some found) :
    (other = call ∧ found = phase) ∨ (other ≠ call ∧ system.calls other = some found) :=
  transition.update_eq_some hfound

inductive Event where
  | issued (intent : IntentRow) (payload : Option TurnstileSiteverifyPayload) (config : RuntimeConfig)
  | bound (intentHash oauthReference oauthState : Text)
  | claimed (call : Nat) (config : RuntimeConfig) (binding : PublicRegistrationOAuthBinding)
      (intent : IntentRow) (now : Int)
  | authorized (call : Nat)
  | granted (call : Nat) (config : RuntimeConfig) (email : Text) (invitation : Option InvitationRow)
      (grant : RegistrationGrant) (now : Int)
  | invited (invitation : InvitationRow)
  | inserted (call : Nat) (user : UserRow)
  | created (call : Nat) (config : RuntimeConfig) (user : UserRow) (invitation : Option InvitationRow)
      (consumed : List InvitationRow) (roleSource : RoleSource)
  /-- A step that changes no table. -/
  | refused

/-- One atomic step of a call. -/
inductive Action where
  | issue (config : RuntimeConfig) (input : RegistrationIntentRequest) (rateLimit : RateLimit)
      (payload : Option TurnstileSiteverifyPayload) (intentId : Text) (now : Int)
  | prepare (call : Nat) (config : RuntimeConfig) (intentId oauthReference : Text) (now : Int)
  | bind (call : Nat) (oauthState : Text) (now : Int)
  | authorize (call : Nat) (config : RuntimeConfig) (input : RegistrationInput) (rateLimit : Bool)
      (now : Int)
  | grant (call : Nat) (now : Int)
  | insertUser (call : Nat) (userId : Text)
  | consume (call : Nat) (now : Int)
  | invite (actorCommits : Bool) (actorUserId email id : Text) (role : PlatformRole) (now : Int)

/-- The result of a step that fails: nothing changes, and the call ends. -/
def System.refuse (system : System) (call : Nat) : Event × System :=
  (.refused, system.setCall call .finished)

/-- What a step records and where it leads; no result stands for a step that cannot be
taken: a call that is not at this point, or a generated text that is not new. -/
def perform (platform : Platform) (system : System) : Action → Option (Event × System)
  | .issue config input rateLimit payload intentId now =>
    if intentId ∈ system.generated then none
    else
      match issuePublicRegistrationIntent platform config input rateLimit payload intentId now
        system.intents with
      | .error _ => some (.refused, system)
      | .ok (intent, intents) =>
        some (.issued intent payload config,
          { system with intents, generated := intentId :: system.generated })
  | .prepare call config intentId oauthReference now =>
    if oauthReference ∈ system.generated ∨ system.calls call ≠ none then none
    else
      match preparePublicRegistrationOAuthStart platform config intentId oauthReference now
        system.intents with
      | .error _ => some (system.refuse call)
      | .ok prepared =>
        some (.refused,
          { system with generated := oauthReference :: system.generated }.setCall call
            (.prepared config prepared))
  | .bind call oauthState now =>
    match system.calls call with
    | some (.prepared config prepared) =>
      match bindPublicRegistrationOAuthState platform config prepared oauthState now system.intents with
      | .error _ => some (system.refuse call)
      | .ok intents =>
        some (.bound prepared.intentHash prepared.oauthReference oauthState,
          { system with intents }.setCall call .finished)
    | _ => none
  | .authorize call config input rateLimit now =>
    if system.calls call ≠ none then none
    else
      match authorizeRegistrationClaim platform config input rateLimit now system.intents with
      | .error _ => some (system.refuse call)
      | .ok (claimed, intents) =>
        let next := { system with intents }.setCall call (.claimed config input (claimed.map Prod.snd))
        match claimed, input.registrationBinding with
        | some (intent, _), some binding => some (.claimed call config binding intent now, next)
        | _, _ => some (.authorized call, next)
  | .grant call now =>
    match system.calls call with
    | some (.claimed config input legalAcceptance) =>
      let email := platform.normalizeEmail input.email
      let invitation := readInvitation email now system.invitations
      match authorizeRegistrationGrant platform config input legalAcceptance invitation with
      | .error _ => some (system.refuse call)
      | .ok grant =>
        some (.granted call config email invitation grant now,
          system.setCall call (.granted config input invitation grant))
    | _ => none
  | .insertUser call userId =>
    match system.calls call with
    | some (.granted config input invitation grant) =>
      if ∃ user ∈ system.users, user.id = userId ∨ user.email = input.email then
        some (system.refuse call)
      else
        let user : UserRow :=
          { id := userId, email := input.email, role := grant.role, accessLevel := grant.accessLevel }
        some (.inserted call user,
          { system with users := system.users ++ [user] }.setCall call (.inserted config user invitation))
    | _ => none
  | .consume call now =>
    match system.calls call with
    | some (.inserted config user invitation) =>
      let email := platform.normalizeEmail user.email
      let consumed := consumedInvitations email system.invitations
      some (.created call config user invitation consumed (roleSourceOf consumed),
        { system with invitations := consumeInvitations email user.id now system.invitations }.setCall
          call .finished)
    | _ => none
  | .invite actorCommits actorUserId email id role now =>
    let email := platform.normalizeEmail email
    if id ∈ system.generated ∨ role = .bootadmin then none
    else if actorCommits = false ∨ (∃ user ∈ system.users, platform.lowerTrim user.email = email) ∨
        ∃ row ∈ system.invitations, row.emailNormalized = email ∧ row.consumedAt ≠ none then
      some (.refused, system)
    else
      let invitation : InvitationRow :=
        { id, emailNormalized := email, role, createdByUserId := actorUserId, consumedByUserId := none
          expiresAt := now + 7 * 24 * 60 * 60 * 1000, consumedAt := none, revokedAt := none
          createdAt := now }
      some (.invited invitation,
        { system with
          invitations := upsertInvitation invitation system.invitations
          generated := id :: system.generated })

/-- The system before anything happened. -/
def System.Start (system : System) : Prop :=
  system.intents = [] ∧ system.invitations = [] ∧ system.users = [] ∧ system.generated = [] ∧
    ∀ call, system.calls call = none

def Step (platform : Platform) (system : System) (event : Event) (next : System) : Prop :=
  ∃ action, perform platform system action = some (event, next)

/-- The histories of the system. -/
abbrev History (platform : Platform) (past : List Event) (system : System) : Prop :=
  transition.Trace System.Start (Step platform) past system

def System.empty : System :=
  { intents := [], invitations := [], users := [], generated := [], calls := fun _ => none }

theorem System.empty_start : System.empty.Start :=
  ⟨rfl, rfl, rfl, rfl, fun _ => rfl⟩

/-- A platform whose texts are their own digests and already normalized. -/
def Platform.plain : Platform :=
  { hashPublicRegistrationValue := id
    hash_injective := Function.injective_id
    normalizeEmail := id
    lowerTrim := id }

end pgid.registration
