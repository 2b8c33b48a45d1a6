import PgidSso.Library.Checked
import PgidSso.Library.Table
import PgidSso.Library.Text

open checked

namespace pgid.registration

/-- The platform's functions on texts. The digest is taken to be injective. -/
structure Platform where
  hashPublicRegistrationValue : Text → Text
  hash_injective : Function.Injective hashPublicRegistrationValue
  normalizeEmail : Text → Text
  /-- `lower(trim(…))` of the database. -/
  lowerTrim : Text → Text

def TURNSTILE_REGISTRATION_ACTION : Text := Text.of "pgid_public_registration"
def REGISTRATION_INTENT_TTL_MS : Int := 10 * 60 * 1000
def TURNSTILE_TOKEN_MAX_LENGTH : Nat := 2048

/-- `[A-Za-z0-9_-]`. -/
def isReferenceCharacter (code : UInt16) : Bool :=
  (Text.unit 'A' ≤ code ∧ code ≤ Text.unit 'Z') || (Text.unit 'a' ≤ code ∧ code ≤ Text.unit 'z') ||
    (Text.unit '0' ≤ code ∧ code ≤ Text.unit '9') || code = Text.unit '_' || code = Text.unit '-'

/-- `INTENT_ID_PATTERN`. -/
def isIntentId (text : Text) : Bool :=
  text.length = 43 && text.all isReferenceCharacter

/-- `OAUTH_STATE_PATTERN`. -/
def isOAuthState (text : Text) : Bool :=
  32 ≤ text.length && text.length ≤ 128 && text.all isReferenceCharacter

inductive RegistrationMode where
  | invite
  | «public»
  deriving DecidableEq

structure PublicRegistrationConfig where
  privacyVersion : Text
  termsVersion : Text
  deriving DecidableEq

/-- The part of the runtime configuration that registration reads. -/
structure RuntimeConfig where
  authHostname : Text
  bootstrapAdminEmail : Text
  publicRegistration : Option PublicRegistrationConfig
  registrationMode : RegistrationMode
  deriving DecidableEq

inductive RegistrationError where
  | invalidRegistrationIntent
  | registrationRateLimited
  | registrationChallengeFailed
  | registrationVerificationUnavailable
  | registrationPrerequisiteRequired
  | emailNotVerified
  | invitationRequired
  | database
  deriving DecidableEq

/-- A row of `public_registration_intent`; the instants are in milliseconds. -/
structure IntentRow where
  intentHash : Text
  termsVersion : Text
  privacyVersion : Text
  turnstileHostname : Text
  turnstileAction : Text
  oauthReferenceHash : Option Text
  oauthStateHash : Option Text
  createdAt : Int
  expiresAt : Int
  consumedAt : Option Int
  deriving DecidableEq

/-- The `CHECK`s of the table, but for the length of its digests. -/
def IntentRow.Checks (row : IntentRow) : Prop :=
  row.turnstileAction = TURNSTILE_REGISTRATION_ACTION ∧
    (1 ≤ row.termsVersion.length ∧ row.termsVersion.length ≤ 64) ∧
    (1 ≤ row.privacyVersion.length ∧ row.privacyVersion.length ≤ 64) ∧
    (1 ≤ row.turnstileHostname.length ∧ row.turnstileHostname.length ≤ 253) ∧
    row.oauthReferenceHash.isSome = row.oauthStateHash.isSome ∧ row.createdAt < row.expiresAt ∧
    ∀ consumedAt ∈ row.consumedAt, row.createdAt ≤ consumedAt

instance (row : IntentRow) : Decidable row.Checks := by
  unfold IntentRow.Checks
  infer_instance

/-- The primary key and the unique index on the bound references. -/
def UniqueIntents (rows : List IntentRow) : Prop :=
  (rows.map (·.intentHash)).Nodup ∧ (rows.filterMap (·.oauthReferenceHash)).Nodup

instance (rows : List IntentRow) : Decidable (UniqueIntents rows) :=
  inferInstanceAs (Decidable (_ ∧ _))

/-- A statement that leaves the table with these rows, or fails as a whole. -/
def commitIntents (rows : List IntentRow) : Except RegistrationError (List IntentRow) := do
  throwIf (¬ (UniqueIntents rows ∧ ∀ row ∈ rows, row.Checks)) .database
  return rows

structure RegistrationIntentRequest where
  acceptPrivacy : Bool
  acceptTerms : Bool
  privacyVersion : Text
  termsVersion : Text
  turnstileToken : Text

def validIntentRequest (input : RegistrationIntentRequest) (registration : PublicRegistrationConfig) :
    Bool :=
  input.acceptPrivacy && input.acceptTerms && input.privacyVersion = registration.privacyVersion &&
    input.termsVersion = registration.termsVersion && 0 < input.turnstileToken.length &&
    input.turnstileToken.length ≤ TURNSTILE_TOKEN_MAX_LENGTH

/-- The answer of the siteverify service. -/
structure TurnstileSiteverifyPayload where
  ok : Bool
  success : Bool
  hostname : Option Text
  action : Option Text

inductive TurnstileVerification where
  | verified (hostname : Text)
  | rejected
  | unavailable
  deriving DecidableEq

/-- No payload stands for a request that failed or timed out. -/
def verifyTurnstileRegistrationToken (config : RuntimeConfig)
    (payload : Option TurnstileSiteverifyPayload) : TurnstileVerification :=
  match config.publicRegistration, payload with
  | none, _ => .rejected
  | some _, none => .unavailable
  | some _, some payload =>
    if payload.ok = false then .unavailable
    else if payload.success = false ∨ payload.hostname ≠ some config.authHostname ∨
        payload.action ≠ some TURNSTILE_REGISTRATION_ACTION then .rejected
    else .verified config.authHostname

/-- Outcomes of a rate limiter: a decision, or none when it failed. -/
abbrev RateLimit := Option Bool

/-- The new intent, and the table after the cleanup and the insert of one batch. -/
def issuePublicRegistrationIntent (platform : Platform) (config : RuntimeConfig)
    (input : RegistrationIntentRequest) (rateLimit : RateLimit)
    (payload : Option TurnstileSiteverifyPayload) (intentId : Text) (now : Int)
    (intents : List IntentRow) : Except RegistrationError (IntentRow × List IntentRow) := do
  match config.publicRegistration with
  | none => throw .invalidRegistrationIntent
  | some registration => do
    throwIf (validIntentRequest input registration = false) .invalidRegistrationIntent
    throwIf (rateLimit = some false) .registrationRateLimited
    throwIf (rateLimit = none) .registrationVerificationUnavailable
    match verifyTurnstileRegistrationToken config payload with
    | .rejected => throw .registrationChallengeFailed
    | .unavailable => throw .registrationVerificationUnavailable
    | .verified hostname => do
      let intent : IntentRow :=
        { intentHash := platform.hashPublicRegistrationValue intentId
          termsVersion := registration.termsVersion
          privacyVersion := registration.privacyVersion
          turnstileHostname := hostname
          turnstileAction := TURNSTILE_REGISTRATION_ACTION
          oauthReferenceHash := none
          oauthStateHash := none
          createdAt := now
          expiresAt := now + REGISTRATION_INTENT_TTL_MS
          consumedAt := none }
      let kept := table.delete (fun row : IntentRow => row.expiresAt ≤ now ∨ row.consumedAt ≠ none) intents
      let next ← commitIntents (kept ++ [intent])
      return (intent, next)

/-- An unbound and unconsumed intent under the configured versions. -/
def IntentRow.Available (row : IntentRow) (intentHash : Text) (registration : PublicRegistrationConfig)
    (now : Int) : Prop :=
  row.intentHash = intentHash ∧ row.termsVersion = registration.termsVersion ∧
    row.privacyVersion = registration.privacyVersion ∧ row.oauthReferenceHash = none ∧
    row.oauthStateHash = none ∧ row.consumedAt = none ∧ now < row.expiresAt

instance (row : IntentRow) (intentHash : Text) (registration : PublicRegistrationConfig) (now : Int) :
    Decidable (row.Available intentHash registration now) := by
  unfold IntentRow.Available
  infer_instance

structure PreparedPublicRegistrationOAuthStart where
  intentHash : Text
  oauthReference : Text
  oauthReferenceHash : Text
  deriving DecidableEq

/-- The read before the sign-in starts; the reference is newly generated. -/
def preparePublicRegistrationOAuthStart (platform : Platform) (config : RuntimeConfig) (intentId : Text)
    (oauthReference : Text) (now : Int) (intents : List IntentRow) :
    Except RegistrationError PreparedPublicRegistrationOAuthStart := do
  match config.publicRegistration with
  | none => throw .registrationPrerequisiteRequired
  | some registration => do
    throwIf (isIntentId intentId = false) .registrationPrerequisiteRequired
    let intentHash := platform.hashPublicRegistrationValue intentId
    throwIf (∀ row ∈ intents, ¬ row.Available intentHash registration now)
      .registrationPrerequisiteRequired
    return { intentHash, oauthReference,
             oauthReferenceHash := platform.hashPublicRegistrationValue oauthReference }

/-- The guarded update that ties an intent to one sign-in. -/
def bindPublicRegistrationOAuthState (platform : Platform) (config : RuntimeConfig)
    (prepared : PreparedPublicRegistrationOAuthStart) (oauthState : Text) (now : Int)
    (intents : List IntentRow) : Except RegistrationError (List IntentRow) := do
  match config.publicRegistration with
  | none => throw .registrationVerificationUnavailable
  | some registration => do
    throwIf (isOAuthState oauthState = false) .registrationVerificationUnavailable
    let matching := fun row : IntentRow => row.Available prepared.intentHash registration now
    let change := fun row : IntentRow =>
      { row with
        oauthReferenceHash := some prepared.oauthReferenceHash
        oauthStateHash := some (platform.hashPublicRegistrationValue oauthState) }
    let next ← commitIntents (table.update matching change intents)
    throwIf (table.matched matching intents = []) .registrationPrerequisiteRequired
    return next

structure PublicRegistrationOAuthBinding where
  oauthReference : Text
  oauthState : Text
  deriving DecidableEq

structure ClaimedRegistrationIntent where
  legalAcceptedAt : Int
  privacyAcceptedVersion : Text
  termsAcceptedVersion : Text
  deriving DecidableEq

/-- A bound and unconsumed intent of the binding under the configured versions. -/
def IntentRow.Claimable (row : IntentRow) (platform : Platform)
    (binding : PublicRegistrationOAuthBinding) (registration : PublicRegistrationConfig) (now : Int) :
    Prop :=
  row.oauthReferenceHash = some (platform.hashPublicRegistrationValue binding.oauthReference) ∧
    row.oauthStateHash = some (platform.hashPublicRegistrationValue binding.oauthState) ∧
    row.termsVersion = registration.termsVersion ∧ row.privacyVersion = registration.privacyVersion ∧
    row.consumedAt = none ∧ now < row.expiresAt

instance (row : IntentRow) (platform : Platform) (binding : PublicRegistrationOAuthBinding)
    (registration : PublicRegistrationConfig) (now : Int) :
    Decidable (row.Claimable platform binding registration now) := by
  unfold IntentRow.Claimable
  infer_instance

/-- The guarded update that consumes an intent, the row it returns and the table after. -/
def claimPublicRegistrationIntent (platform : Platform) (config : RuntimeConfig)
    (binding : Option PublicRegistrationOAuthBinding) (now : Int) (intents : List IntentRow) :
    Except RegistrationError ((IntentRow × ClaimedRegistrationIntent) × List IntentRow) := do
  match config.publicRegistration, binding with
  | some registration, some binding => do
    let matching := fun row : IntentRow => row.Claimable platform binding registration now
    let next ← commitIntents
      (table.update matching (fun row => { row with consumedAt := some now }) intents)
    match table.matched matching intents with
    | [] => throw .registrationPrerequisiteRequired
    | row :: _ =>
      return ((row, { legalAcceptedAt := row.createdAt, privacyAcceptedVersion := row.privacyVersion,
                      termsAcceptedVersion := row.termsVersion }), next)
  | _, _ => throw .registrationPrerequisiteRequired

end pgid.registration
