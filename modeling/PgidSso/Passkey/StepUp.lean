import PgidSso.Library.Checked
import PgidSso.Library.Table
import PgidSso.Library.Text

open checked

namespace pgid.passkey

def FRESH_SESSION_MAX_AGE_MS : Int := 10 * 60 * 1000
def PASSKEY_STEP_UP_CHALLENGE_TTL_MS : Int := 2 * 60 * 1000

/-- What step-up reads of a row of `session`; the instants are in milliseconds. -/
structure SessionRow where
  id : Text
  userId : Text
  createdAt : Int
  passkeyStepUpAt : Option Int
  deriving DecidableEq

/-- What step-up reads of a row of `passkey`. -/
structure PasskeyRow where
  id : Text
  userId : Text
  credentialID : Text
  publicKey : Text
  counter : Nat
  deriving DecidableEq

/-- A row of `passkey_step_up_challenge`. -/
structure ChallengeRow where
  id : Text
  sessionId : Text
  userId : Text
  challenge : Text
  expiresAt : Int
  createdAt : Int
  deriving DecidableEq

inductive AuditEventType where
  | stepUpSucceeded
  | stepUpFailed
  deriving DecidableEq

inductive AuditOutcome where
  | success
  | denied
  deriving DecidableEq

inductive StepUpMetadata where
  | methodPasskey
  | passkeyNotEnrolled
  | challengeInvalid
  | credentialInvalid
  | assertionInvalid
  | userVerificationMissing
  | counterConflict
  | sessionInvalidated
  deriving DecidableEq

/-- The rows of `audit_event` that step-up writes. -/
structure AuditRow where
  id : Text
  eventType : AuditEventType
  actorUserId : Text
  subjectId : Text
  outcome : AuditOutcome
  metadata : StepUpMetadata
  occurredAt : Int
  deriving DecidableEq

structure Tables where
  sessions : List SessionRow
  passkeys : List PasskeyRow
  challenges : List ChallengeRow
  auditEvents : List AuditRow
  deriving DecidableEq

/-- What an authenticator answers to a challenge. -/
structure AuthenticationResponse where
  id : Text
  clientDataJSON : Text
  authenticatorData : Text
  signature : Text
  userHandle : Option Text
  deriving DecidableEq

structure AuthenticationInfo where
  verified : Bool
  userVerified : Bool
  newCounter : Nat
  deriving DecidableEq

/-- The WebAuthn library: no information stands for a verification that throws. -/
structure WebAuthn where
  /-- The challenge that a response is over. -/
  challengeOf : AuthenticationResponse → Text
  /-- Whether a stored public key can be decoded. -/
  decodable : Text → Bool
  verifyAuthenticationResponse : AuthenticationResponse → Text → PasskeyRow → Option AuthenticationInfo
  verified_challenge : ∀ {response expectedChallenge passkey info},
    verifyAuthenticationResponse response expectedChallenge passkey = some info → info.verified = true →
      challengeOf response = expectedChallenge
  verified_counter : ∀ {response expectedChallenge passkey info},
    verifyAuthenticationResponse response expectedChallenge passkey = some info → info.verified = true →
      passkey.counter < info.newCounter ∨ (passkey.counter = 0 ∧ info.newCounter = 0)

def sessionIsFresh (createdAt now : Int) : Bool :=
  0 ≤ now - createdAt ∧ now - createdAt < FRESH_SESSION_MAX_AGE_MS

structure PasskeyStepUpState where
  hasPasskey : Bool
  verified : Bool
  deriving DecidableEq

def readPasskeyStepUpState (sessionId userId : Text) (maxAgeMs now : Int) (tables : Tables) :
    Option PasskeyStepUpState := do
  let row ← tables.sessions.find? fun row => row.id = sessionId ∧ row.userId = userId
  return {
    hasPasskey := tables.passkeys.any fun passkey => passkey.userId = row.userId
    verified := row.passkeyStepUpAt.any fun verifiedAt => 0 ≤ now - verifiedAt ∧ now - verifiedAt < maxAgeMs }

inductive StoreError where
  | constraint
  deriving DecidableEq

/-- The batch that replaces the challenge of a session and sweeps the expired ones. -/
def issueChallenge (challenge : ChallengeRow) (tables : Tables) : Except StoreError Tables := do
  let kept := table.delete
    (fun row : ChallengeRow => row.sessionId = challenge.sessionId ∨ row.expiresAt ≤ challenge.createdAt)
    tables.challenges
  -- the session is a foreign key, and the new row is checked with those that are kept
  throwIf (¬ ∃ row ∈ tables.sessions, row.id = challenge.sessionId) .constraint
  throwIf (∃ row ∈ kept, row.id = challenge.id ∨ row.sessionId = challenge.sessionId) .constraint
  throwIf (¬ (32 ≤ challenge.challenge.length ∧ challenge.challenge.length ≤ 256)) .constraint
  throwIf (¬ challenge.createdAt < challenge.expiresAt) .constraint
  return { tables with challenges := kept ++ [challenge] }

/-- A live challenge of a session and its user. -/
def ChallengeRow.Consumable (row : ChallengeRow) (challengeId sessionId userId : Text) (now : Int) : Prop :=
  row.id = challengeId ∧ row.sessionId = sessionId ∧ row.userId = userId ∧ now < row.expiresAt

instance (row : ChallengeRow) (challengeId sessionId userId : Text) (now : Int) :
    Decidable (row.Consumable challengeId sessionId userId now) := by
  unfold ChallengeRow.Consumable
  infer_instance

/-- `DELETE … RETURNING challenge`. -/
def consumeChallenge (challengeId sessionId userId : Text) (now : Int) (tables : Tables) :
    Option Text × Tables :=
  let consumable := fun row : ChallengeRow => row.Consumable challengeId sessionId userId now
  ((table.matched consumable tables.challenges).head?.map (·.challenge),
    { tables with challenges := table.delete consumable tables.challenges })

def readPasskey (credentialID userId : Text) (tables : Tables) : Option PasskeyRow :=
  tables.passkeys.find? fun row => row.credentialID = credentialID ∧ row.userId = userId

/-- A passkey of a user at a counter. -/
def PasskeyRow.At (row : PasskeyRow) (passkeyId userId : Text) (counter : Nat) : Prop :=
  row.id = passkeyId ∧ row.userId = userId ∧ row.counter = counter

instance (row : PasskeyRow) (passkeyId userId : Text) (counter : Nat) :
    Decidable (row.At passkeyId userId counter) := by
  unfold PasskeyRow.At
  infer_instance

/-- The compare-and-set of the counter, and the number of rows that it changed. -/
def updateCounter (passkeyId userId : Text) (stored newCounter : Nat) (tables : Tables) : Nat × Tables :=
  let current := fun row : PasskeyRow => row.At passkeyId userId stored
  ((table.matched current tables.passkeys).length,
    { tables with
      passkeys := table.update current (fun row => { row with counter := newCounter }) tables.passkeys })

def SessionRow.Of (row : SessionRow) (sessionId userId : Text) : Prop :=
  row.id = sessionId ∧ row.userId = userId

instance (row : SessionRow) (sessionId userId : Text) : Decidable (row.Of sessionId userId) := by
  unfold SessionRow.Of
  infer_instance

/-- The success event of a verification. -/
def stepUpSucceeded (eventId userId : Text) (occurredAt : Int) : AuditRow :=
  { id := eventId, eventType := .stepUpSucceeded, actorUserId := userId, subjectId := userId
    outcome := .success, metadata := .methodPasskey, occurredAt }

/-- The guarded insert of the success event, and the number of rows that it inserted. -/
def auditInsertForCounterVerifiedSession (event : AuditRow) (sessionId userId passkeyId : Text)
    (counter : Nat) (tables : Tables) : Except StoreError (Nat × Tables) :=
  if (∃ row ∈ tables.sessions, row.Of sessionId userId) ∧
      ∃ row ∈ tables.passkeys, row.At passkeyId userId counter then do
    throwIf (∃ row ∈ tables.auditEvents, row.id = event.id) .constraint
    return (1, { tables with auditEvents := tables.auditEvents ++ [event] })
  else return (0, tables)

/-- The second statement of the final batch. -/
def updateStepUpAt (eventId sessionId userId passkeyId : Text) (counter : Nat) (verifiedAt : Int)
    (tables : Tables) : Nat × Tables :=
  let verified := fun row : SessionRow => row.Of sessionId userId ∧
    (∃ event ∈ tables.auditEvents, event.id = eventId ∧ event.eventType = .stepUpSucceeded ∧
      event.actorUserId = userId ∧ event.subjectId = userId ∧ event.outcome = .success) ∧
    ∃ passkey ∈ tables.passkeys, passkey.At passkeyId userId counter
  ((table.matched verified tables.sessions).length,
    { tables with
      sessions := table.update verified (fun row => { row with passkeyStepUpAt := some verifiedAt })
        tables.sessions })

/-- The compensating statement of the final batch. -/
def deleteUnmatchedAudit (eventId sessionId userId : Text) (verifiedAt : Int) (tables : Tables) :
    Nat × Tables :=
  let unmatched := fun event : AuditRow => event.id = eventId ∧ event.eventType = .stepUpSucceeded ∧
    ¬ ∃ row ∈ tables.sessions, row.Of sessionId userId ∧ row.passkeyStepUpAt = some verifiedAt
  ((table.matched unmatched tables.auditEvents).length,
    { tables with auditEvents := table.delete unmatched tables.auditEvents })

/-- The final batch: the rows that its statements changed, and the tables after. -/
def finalizeStepUp (eventId sessionId userId passkeyId : Text) (newCounter : Nat) (verifiedAt : Int)
    (tables : Tables) : Except StoreError ((Nat × Nat × Nat) × Tables) := do
  let inserted ← auditInsertForCounterVerifiedSession (stepUpSucceeded eventId userId verifiedAt)
    sessionId userId passkeyId newCounter tables
  let updated := updateStepUpAt eventId sessionId userId passkeyId newCounter verifiedAt inserted.2
  let deleted := deleteUnmatchedAudit eventId sessionId userId verifiedAt updated.2
  return ((inserted.1, updated.1, deleted.1), deleted.2)

/-- The audit of a denied step-up. -/
def recordDeniedStepUp (eventId userId : Text) (reason : StepUpMetadata) (now : Int) (tables : Tables) :
    Except StoreError Tables := do
  throwIf (∃ event ∈ tables.auditEvents, event.id = eventId) .constraint
  return { tables with
    auditEvents := tables.auditEvents ++
      [{ id := eventId, eventType := .stepUpFailed, actorUserId := userId, subjectId := userId
         outcome := .denied, metadata := reason, occurredAt := now }] }

end pgid.passkey
