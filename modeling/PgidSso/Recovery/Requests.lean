import PgidSso.Recovery.Codes

open checked

namespace pgid.recovery

/-- The row of a code that a start finds by its hash. -/
structure RecoveryCodeLookup where
  codeId : Text
  setId : Text
  userId : Text
  generation : Nat
  deriving DecidableEq

def lookupCode (codeHash : Text) (tables : Tables) : Option RecoveryCodeLookup := do
  let code ← tables.codes.find? fun code => code.codeHash = codeHash
  let set ← tables.codeSets.find? fun set => set.id = code.setId
  return { codeId := code.id, setId := set.id, userId := set.userId, generation := set.generation }

/-- A start between its lookup and its batch. The random ids stand in for a code that the
lookup did not find. -/
structure StartInput where
  codeHash : Text
  candidate : Option RecoveryCodeLookup
  randomCodeId : Text
  randomSetId : Text
  randomUserId : Text
  tokenHash : Text
  sessionId : Text
  eventId : Text
  now : Int
  deriving DecidableEq

namespace StartInput

def codeId (input : StartInput) : Text :=
  (input.candidate.map (·.codeId)).getD input.randomCodeId

def setId (input : StartInput) : Text :=
  (input.candidate.map (·.setId)).getD input.randomSetId

def userId (input : StartInput) : Text :=
  (input.candidate.map (·.userId)).getD input.randomUserId

def event (input : StartInput) : AuditRow :=
  { id := input.eventId, eventType := .started, actorUserId := none
    subjectId := input.candidate.map (·.userId)
    generation := (input.candidate.map (·.generation)).getD 0, occurredAt := input.now }

def session (input : StartInput) : RecoverySessionRow :=
  { id := input.sessionId, tokenHash := input.tokenHash, userId := input.userId, codeSetId := input.setId
    sourceCodeId := input.codeId, createdAt := input.now, expiresAt := input.now + recoverySessionTtlMs }

/-- The guard of the audit of a start. -/
def Startable (input : StartInput) (tables : Tables) : Prop :=
  (∃ code ∈ tables.codes, code.id = input.codeId ∧ code.codeHash = input.codeHash ∧ code.consumedAt = none ∧
    ∃ set ∈ tables.codeSets, set.id = code.setId ∧ set.id = input.setId ∧ set.userId = input.userId ∧
      set.Valid input.now) ∧
    tables.ActiveUser input.userId ∧
    ¬ ∃ session ∈ tables.recoverySessions, session.userId = input.userId ∧ input.now < session.expiresAt

instance (input : StartInput) (tables : Tables) : Decidable (input.Startable tables) := by
  unfold Startable
  infer_instance

end StartInput

/-- The batch of a start: whether it started, and the tables after. -/
def startRecovery (input : StartInput) (tables : Tables) : Except StoreError (Bool × Tables) := do
  let tables := deleteRecoverySessions
    (fun session => session.userId = input.userId ∧ session.expiresAt ≤ input.now) tables
  let (audits, tables) ← insertWhere (input.Startable tables) (insertAudit input.event) tables
  let audited := tables.HasAudit input.eventId
  let (consumed, tables) ← consumeCodes
    (fun code => code.id = input.codeId ∧ code.setId = input.setId ∧ code.codeHash = input.codeHash ∧ audited)
    input.now tables
  let (sessions, tables) ← insertWhere
    (audited ∧ ∃ code ∈ tables.codes, code.id = input.codeId ∧ code.setId = input.setId ∧
      code.consumedAt = some input.now)
    (insertRecoverySession input.session) tables
  return (audits = 1 ∧ 1 ≤ consumed ∧ sessions = 1, tables)

/-- A recovery session as a request reads it, with the generation of its set. -/
structure RecoverySession where
  id : Text
  userId : Text
  codeSetId : Text
  sourceCodeId : Text
  expiresAt : Int
  generation : Nat
  deriving DecidableEq

/-- The session lives, its user is active and its set is valid. -/
def Tables.Recovering (tables : Tables) (session : RecoverySessionRow) (now : Int) : Prop :=
  now < session.expiresAt ∧ tables.ActiveUser session.userId ∧
    ∃ set ∈ tables.codeSets, set.id = session.codeSetId ∧ set.Valid now

instance (tables : Tables) (session : RecoverySessionRow) (now : Int) :
    Decidable (tables.Recovering session now) := by
  unfold Tables.Recovering
  infer_instance

def recoverySession (tokenHash : Text) (now : Int) (tables : Tables) : Option RecoverySession := do
  let session ← tables.recoverySessions.find? fun session =>
    session.tokenHash = tokenHash ∧ tables.Recovering session now
  let set ← tables.codeSets.find? fun set => set.id = session.codeSetId
  return { id := session.id, userId := session.userId, codeSetId := session.codeSetId
           sourceCodeId := session.sourceCodeId, expiresAt := session.expiresAt
           generation := set.generation }

/-- The batch of an options request: whether its challenge was stored, and the tables
after. -/
def storeChallenge (session : RecoverySession) (challengeId challenge : Text) (now : Int) (tables : Tables) :
    Except StoreError (Bool × Tables) := do
  let tables := { tables with
    challenges := table.delete
      (fun row : ChallengeRow => row.recoverySessionId = session.id ∨ row.expiresAt ≤ now) tables.challenges }
  let (stored, tables) ← insertWhere
    (∃ row ∈ tables.recoverySessions, row.id = session.id ∧ row.userId = session.userId ∧
      tables.Recovering row now)
    (insertChallenge
      { id := challengeId, recoverySessionId := session.id, challenge, createdAt := now
        expiresAt := now + recoveryPasskeyChallengeTtlMs }) tables
  return (stored = 1, tables)

/-- The challenge of a verify request, taken from the table. -/
def takeChallenge (session : RecoverySession) (tokenHash challengeId : Text) (now : Int) (tables : Tables) :
    Option (Text × Tables) := do
  let taken := fun challenge : ChallengeRow => challenge.id = challengeId ∧
    (∃ row ∈ tables.recoverySessions, challenge.recoverySessionId = row.id ∧ row.id = session.id ∧
      row.tokenHash = tokenHash ∧ row.userId = session.userId ∧ tables.Recovering row now) ∧
    now < challenge.expiresAt
  let challenge ← tables.challenges.find? fun challenge => taken challenge
  return (challenge.challenge, { tables with challenges := table.delete taken tables.challenges })

/-- Ten new codes: their ids, and the hashes that `generateRecoveryCodeSet` gives. -/
structure GeneratedCodes where
  codes : List (Text × Text)
  count : codes.length = recoveryCodeCount
  deriving DecidableEq

/-- What a verified request is going to write. -/
structure Completion where
  passkeyId : Text
  credentialID : Text
  publicKey : Text
  counter : Nat
  eventId : Text
  nextSetId : Text
  generated : GeneratedCodes
  now : Int
  deriving DecidableEq

namespace Completion

def passkey (completion : Completion) (session : RecoverySession) : PasskeyRow :=
  { id := completion.passkeyId, userId := session.userId, credentialID := completion.credentialID
    publicKey := completion.publicKey, counter := completion.counter, createdAt := completion.now }

def event (completion : Completion) (session : RecoverySession) : AuditRow :=
  { id := completion.eventId, eventType := .completed, actorUserId := none, subjectId := some session.userId
    generation := session.generation + 1, occurredAt := completion.now }

def nextSet (completion : Completion) (session : RecoverySession) : CodeSetRow :=
  { id := completion.nextSetId, userId := session.userId, generation := session.generation + 1
    createdAt := completion.now, expiresAt := none, revokedAt := none }

/-- The guard of the passkey. -/
def Completable (completion : Completion) (session : RecoverySession) (tokenHash : Text) (tables : Tables) :
    Prop :=
  (∃ row ∈ tables.recoverySessions, row.id = session.id ∧ row.tokenHash = tokenHash ∧
    row.userId = session.userId ∧ row.codeSetId = session.codeSetId ∧
    row.sourceCodeId = session.sourceCodeId ∧ tables.Recovering row completion.now ∧
    ¬ ∃ challenge ∈ tables.challenges, challenge.recoverySessionId = row.id) ∧
    ¬ ∃ passkey ∈ tables.passkeys, passkey.credentialID = completion.credentialID

instance (completion : Completion) (session : RecoverySession) (tokenHash : Text) (tables : Tables) :
    Decidable (completion.Completable session tokenHash tables) := by
  unfold Completable
  infer_instance

/-- `EXISTS (SELECT 1 FROM passkey WHERE id = ? AND userId = ? AND credentialID = ?)`. -/
def HasPasskey (completion : Completion) (session : RecoverySession) (tables : Tables) : Prop :=
  ∃ passkey ∈ tables.passkeys, passkey.id = completion.passkeyId ∧ passkey.userId = session.userId ∧
    passkey.credentialID = completion.credentialID

instance (completion : Completion) (session : RecoverySession) (tables : Tables) :
    Decidable (completion.HasPasskey session tables) := by
  unfold HasPasskey
  infer_instance

end Completion

/-- The insert of one code after another, each of them guarded; how many rows each of
them inserts. -/
def insertCodes (setId userId eventId : Text) :
    List (Text × Text) → Nat → Tables → Except StoreError (List Nat × Tables)
  | [], _, tables => return ([], tables)
  | (codeId, codeHash) :: rest, ordinal, tables => do
    let (inserted, tables) ← insertWhere
      ((∃ set ∈ tables.codeSets, set.id = setId ∧ set.userId = userId ∧ set.revokedAt = none) ∧
        tables.HasAudit eventId)
      (insertCode { id := codeId, setId, ordinal, codeHash, consumedAt := none }) tables
    let (others, tables) ← insertCodes setId userId eventId rest (ordinal + 1) tables
    return (inserted :: others, tables)

/-- The end of every session and token of a user, once the event is recorded. -/
def logoutUser (userId eventId : Text) (now : Int) (tables : Tables) : Tables :=
  { tables with
    refreshTokens := table.update
      (fun token : RefreshTokenRow => token.userId = userId ∧ token.revoked = none ∧ tables.HasAudit eventId)
      (fun token => { token with revoked := some now }) tables.refreshTokens
    accessTokens := table.delete
      (fun token : AccessTokenRow => token.userId = some userId ∧ tables.HasAudit eventId) tables.accessTokens
    sessions := table.delete
      (fun session : SessionRow => session.userId = userId ∧ tables.HasAudit eventId) tables.sessions }

/-- The batch of a verify request: whether it completed, and the tables after. -/
def completeRecovery (session : RecoverySession) (tokenHash : Text) (completion : Completion) (tables : Tables) :
    Except StoreError (Bool × Tables) := do
  let (passkeys, tables) ← insertWhere (completion.Completable session tokenHash tables)
    (insertPasskey (completion.passkey session)) tables
  let (audits, tables) ← insertWhere
    (completion.HasPasskey session tables ∧
      ∃ row ∈ tables.recoverySessions, row.id = session.id ∧ row.tokenHash = tokenHash ∧
        row.userId = session.userId ∧ row.codeSetId = session.codeSetId ∧ completion.now < row.expiresAt)
    (insertAudit (completion.event session)) tables
  let audited := tables.HasAudit completion.eventId ∧ completion.HasPasskey session tables
  let (revoked, tables) ← revokeCodeSets
    (fun set => set.id = session.codeSetId ∧ set.userId = session.userId ∧
      set.generation = session.generation ∧ audited) completion.now tables
  let (sets, tables) ← insertWhere
    (tables.HasAudit completion.eventId ∧ completion.HasPasskey session tables)
    (insertCodeSet (completion.nextSet session)) tables
  let (codes, tables) ← insertCodes completion.nextSetId session.userId completion.eventId
    completion.generated.codes 1 tables
  return (passkeys = 1 ∧ audits = 1 ∧ 1 ≤ revoked ∧ sets = 1 ∧ ∀ inserted ∈ codes, inserted = 1,
    logoutUser session.userId completion.eventId completion.now tables)

/-- What the management of the codes reads first. -/
structure ManagementSnapshot where
  createdAt : Int
  expiresAt : Int
  passkeyStepUpAt : Option Int
  status : UserStatus
  passkeyCount : Nat
  activeSetId : Option Text
  activeSetGeneration : Option Nat
  maxGeneration : Nat
  deriving DecidableEq

/-- `COALESCE(MAX(generation), 0)`. -/
def maxGeneration (userId : Text) (tables : Tables) : Nat :=
  ((table.matched (fun set : CodeSetRow => set.userId = userId) tables.codeSets).map (·.generation)).foldl max 0

def loadManagementSnapshot (sessionId userId : Text) (tables : Tables) : Option ManagementSnapshot := do
  let session ← tables.sessions.find? fun session => session.id = sessionId ∧ session.userId = userId
  let user ← tables.users.find? fun user => user.id = userId
  let active := tables.codeSets.find? fun set => set.userId = userId ∧ set.revokedAt = none
  return { createdAt := session.createdAt, expiresAt := session.expiresAt
           passkeyStepUpAt := session.passkeyStepUpAt, status := user.status
           passkeyCount :=
             (table.matched (fun passkey : PasskeyRow => passkey.userId = userId) tables.passkeys).length
           activeSetId := active.map (·.id), activeSetGeneration := active.map (·.generation)
           maxGeneration := maxGeneration userId tables }

inductive ManagementDenial where
  | freshSessionRequired
  | passkeyEnrollmentRequired
  | passkeyStepUpRequired
  deriving DecidableEq

def mutationSnapshotEligible (snapshot : ManagementSnapshot) (nowMs stepUpMaxAgeMs : Int) :
    Option ManagementDenial :=
  let sessionAge := nowMs - snapshot.createdAt
  if sessionAge < 0 ∨ freshSessionMaxAgeMs ≤ sessionAge ∨ snapshot.expiresAt ≤ nowMs then
    some .freshSessionRequired
  else if snapshot.passkeyCount < 1 then some .passkeyEnrollmentRequired
  else
    match snapshot.passkeyStepUpAt with
    | none => some .passkeyStepUpRequired
    | some verifiedAt =>
      if nowMs - verifiedAt < 0 ∨ stepUpMaxAgeMs ≤ nowMs - verifiedAt then some .passkeyStepUpRequired
      else none

/-- A change of the codes of a user after its checks. -/
structure Management where
  sessionId : Text
  userId : Text
  snapshot : ManagementSnapshot
  eventId : Text
  now : Int
  freshAfter : Int
  stepUpAfter : Int
  deriving DecidableEq

namespace Management

/-- `managementCommitPredicate`. -/
def Permitted (management : Management) (tables : Tables) : Prop :=
  tables.ActiveUser management.userId ∧
    (∃ session ∈ tables.sessions, session.id = management.sessionId ∧ session.userId = management.userId ∧
      management.now < session.expiresAt ∧ session.createdAt ≤ management.now ∧
      management.freshAfter < session.createdAt ∧
      ∃ verifiedAt ∈ session.passkeyStepUpAt, verifiedAt ≤ management.now ∧
        management.stepUpAfter < verifiedAt) ∧
    ∃ passkey ∈ tables.passkeys, passkey.userId = management.userId

instance (management : Management) (tables : Tables) : Decidable (management.Permitted tables) := by
  unfold Permitted
  infer_instance

/-- The guard of the audit: the sets of the user are those of the snapshot. -/
def Unchanged (management : Management) (tables : Tables) : Prop :=
  management.Permitted tables ∧
    maxGeneration management.userId tables = management.snapshot.maxGeneration ∧
    ((management.snapshot.activeSetId = none ∧
        ¬ ∃ set ∈ tables.codeSets, set.userId = management.userId ∧ set.revokedAt = none) ∨
      ∃ set ∈ tables.codeSets, management.snapshot.activeSetId = some set.id ∧
        set.userId = management.userId ∧ set.revokedAt = none)

instance (management : Management) (tables : Tables) : Decidable (management.Unchanged tables) := by
  unfold Unchanged
  infer_instance

def event (management : Management) (eventType : EventType) (generation : Nat) : AuditRow :=
  { id := management.eventId, eventType, actorUserId := some management.userId
    subjectId := some management.userId, generation, occurredAt := management.now }

end Management

/-- The batch of a rotation: whether it is complete, and the tables after. -/
def rotateCodes (management : Management) (setId : Text) (generated : GeneratedCodes) (tables : Tables) :
    Except StoreError (Bool × Tables) := do
  let generation := management.snapshot.maxGeneration + 1
  let (audits, tables) ← insertWhere (management.Unchanged tables)
    (insertAudit (management.event .codesIssued generation)) tables
  let audited := tables.HasAudit management.eventId
  let (_, tables) ← revokeCodeSets (fun set => set.userId = management.userId ∧ audited) management.now tables
  let (sets, tables) ← insertWhere audited
    (insertCodeSet
      { id := setId, userId := management.userId, generation, createdAt := management.now, expiresAt := none
        revokedAt := none }) tables
  let (codes, tables) ← insertCodes setId management.userId management.eventId generated.codes 1 tables
  return (audits = 1 ∧ sets = 1 ∧ ∀ inserted ∈ codes, inserted = 1, tables)

/-- The batch that revokes the active set: whether it did, and the tables after. -/
def deleteCodeSet (management : Management) (tables : Tables) : Except StoreError (Bool × Tables) := do
  let (audits, tables) ← insertWhere (management.Unchanged tables)
    (insertAudit (management.event .codesRevoked (management.snapshot.activeSetGeneration.getD 0))) tables
  let audited := tables.HasAudit management.eventId
  let (revoked, tables) ← revokeCodeSets
    (fun set => management.snapshot.activeSetId = some set.id ∧ set.userId = management.userId ∧ audited)
    management.now tables
  return (audits = 1 ∧ revoked = 1, tables)

end pgid.recovery
