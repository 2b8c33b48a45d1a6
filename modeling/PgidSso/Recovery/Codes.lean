import PgidSso.Library.Checked
import PgidSso.Library.Table
import PgidSso.Library.Text

open checked

namespace pgid.recovery

def recoveryCodeCount : Nat := 10

def recoverySessionTtlMs : Int := 10 * 60 * 1000

def recoveryPasskeyChallengeTtlMs : Int := 2 * 60 * 1000

def freshSessionMaxAgeMs : Int := 10 * 60 * 1000

inductive UserStatus where
  | active
  | suspended
  deriving DecidableEq

structure UserRow where
  id : Text
  status : UserStatus
  deriving DecidableEq

/-- A row of `passkey`, without what no statement here reads or proves. -/
structure PasskeyRow where
  id : Text
  userId : Text
  credentialID : Text
  publicKey : Text
  counter : Nat
  createdAt : Int
  deriving DecidableEq

/-- A row of `session`, the central session; the instants are in milliseconds. -/
structure SessionRow where
  id : Text
  userId : Text
  createdAt : Int
  expiresAt : Int
  passkeyStepUpAt : Option Int
  deriving DecidableEq

structure AccessTokenRow where
  id : Text
  userId : Option Text
  deriving DecidableEq

structure RefreshTokenRow where
  id : Text
  userId : Text
  revoked : Option Int
  deriving DecidableEq

/-- A row of `recovery_code_set`. -/
structure CodeSetRow where
  id : Text
  userId : Text
  generation : Nat
  createdAt : Int
  expiresAt : Option Int
  revokedAt : Option Int
  deriving DecidableEq

/-- A row of `recovery_code`. -/
structure CodeRow where
  id : Text
  setId : Text
  ordinal : Nat
  codeHash : Text
  consumedAt : Option Int
  deriving DecidableEq

/-- A row of `recovery_session`. -/
structure RecoverySessionRow where
  id : Text
  tokenHash : Text
  userId : Text
  codeSetId : Text
  sourceCodeId : Text
  createdAt : Int
  expiresAt : Int
  deriving DecidableEq

/-- A row of `recovery_passkey_challenge`. -/
structure ChallengeRow where
  id : Text
  recoverySessionId : Text
  challenge : Text
  createdAt : Int
  expiresAt : Int
  deriving DecidableEq

inductive EventType where
  | started
  | completed
  | codesIssued
  | codesRevoked
  deriving DecidableEq

/-- What recovery writes to `audit_event`. -/
structure AuditRow where
  id : Text
  eventType : EventType
  actorUserId : Option Text
  subjectId : Option Text
  generation : Nat
  occurredAt : Int
  deriving DecidableEq

structure Tables where
  users : List UserRow
  passkeys : List PasskeyRow
  sessions : List SessionRow
  accessTokens : List AccessTokenRow
  refreshTokens : List RefreshTokenRow
  codeSets : List CodeSetRow
  codes : List CodeRow
  recoverySessions : List RecoverySessionRow
  challenges : List ChallengeRow
  auditEvents : List AuditRow
  deriving DecidableEq

/-- A constraint of a table, or what its trigger raises. -/
inductive StoreError where
  | constraint
  | ownerNotActive
  | setNotActive
  | consumptionPredatesSet
  | sourceNotEligible
  deriving DecidableEq

def Tables.ActiveUser (tables : Tables) (userId : Text) : Prop :=
  ∃ user ∈ tables.users, user.id = userId ∧ user.status = .active

instance (tables : Tables) (userId : Text) : Decidable (tables.ActiveUser userId) :=
  inferInstanceAs (Decidable (∃ user ∈ tables.users, user.id = userId ∧ user.status = .active))

def Tables.HasAudit (tables : Tables) (eventId : Text) : Prop :=
  ∃ event ∈ tables.auditEvents, event.id = eventId

instance (tables : Tables) (eventId : Text) : Decidable (tables.HasAudit eventId) :=
  inferInstanceAs (Decidable (∃ event ∈ tables.auditEvents, event.id = eventId))

/-- `revoked_at IS NULL AND (expires_at IS NULL OR expires_at > now)`. -/
def CodeSetRow.Valid (set : CodeSetRow) (now : Int) : Prop :=
  set.revokedAt = none ∧ ∀ expiresAt ∈ set.expiresAt, now < expiresAt

instance (set : CodeSetRow) (now : Int) : Decidable (set.Valid now) := by
  unfold CodeSetRow.Valid
  infer_instance

def insertAudit (event : AuditRow) (tables : Tables) : Except StoreError Tables := do
  throwIf (tables.HasAudit event.id) .constraint
  return { tables with auditEvents := tables.auditEvents ++ [event] }

def insertPasskey (passkey : PasskeyRow) (tables : Tables) : Except StoreError Tables := do
  throwIf (∃ row ∈ tables.passkeys, row.id = passkey.id ∨ row.credentialID = passkey.credentialID) .constraint
  return { tables with passkeys := tables.passkeys ++ [passkey] }

/-- The insert of a set: its trigger, its `CHECK`s but for the forms of ids and hashes,
and its unique indices. -/
def insertCodeSet (set : CodeSetRow) (tables : Tables) : Except StoreError Tables := do
  throwIf (¬ tables.ActiveUser set.userId) .ownerNotActive
  throwIf (set.generation = 0 ∨ (∃ expiresAt ∈ set.expiresAt, expiresAt ≤ set.createdAt) ∨
    ∃ revokedAt ∈ set.revokedAt, revokedAt < set.createdAt) .constraint
  throwIf (∃ row ∈ tables.codeSets, row.id = set.id ∨
    (row.userId = set.userId ∧ row.generation = set.generation) ∨
    (row.userId = set.userId ∧ row.revokedAt = none ∧ set.revokedAt = none)) .constraint
  return { tables with codeSets := tables.codeSets ++ [set] }

def insertCode (code : CodeRow) (tables : Tables) : Except StoreError Tables := do
  throwIf (code.consumedAt ≠ none ∨
    ¬ ∃ set ∈ tables.codeSets, set.id = code.setId ∧ set.revokedAt = none) .setNotActive
  throwIf (¬ (1 ≤ code.ordinal ∧ code.ordinal ≤ 10)) .constraint
  throwIf (∃ row ∈ tables.codes, row.id = code.id ∨ row.codeHash = code.codeHash ∨
    (row.setId = code.setId ∧ row.ordinal = code.ordinal)) .constraint
  return { tables with codes := tables.codes ++ [code] }

/-- Sessions that go take their challenges with them. -/
def deleteRecoverySessions (matching : RecoverySessionRow → Prop) [DecidablePred matching] (tables : Tables) :
    Tables :=
  let gone := fun sessionId : Text => ∃ row ∈ tables.recoverySessions, row.id = sessionId ∧ matching row
  { tables with
    recoverySessions := table.delete matching tables.recoverySessions
    challenges := table.delete (fun challenge : ChallengeRow => gone challenge.recoverySessionId)
      tables.challenges }

/-- Codes that go take the sessions that they started with them. -/
def deleteCodes (matching : CodeRow → Prop) [DecidablePred matching] (tables : Tables) : Tables :=
  deleteRecoverySessions
    (fun session => ∃ code ∈ tables.codes, code.id = session.sourceCodeId ∧ code.setId = session.codeSetId ∧
      matching code)
    { tables with codes := table.delete matching tables.codes }

/-- `UPDATE recovery_code_set SET revoked_at = now WHERE revoked_at IS NULL AND …`: the
trigger deletes the codes of the sets. -/
def revokeCodeSets (matching : CodeSetRow → Prop) [DecidablePred matching] (now : Int) (tables : Tables) :
    Except StoreError (Nat × Tables) := do
  let revoking := fun set : CodeSetRow => set.revokedAt = none ∧ matching set
  throwIf (∃ set ∈ tables.codeSets, revoking set ∧ now < set.createdAt) .constraint
  return ((table.matched revoking tables.codeSets).length,
    deleteCodes (fun code => ∃ set ∈ tables.codeSets, set.id = code.setId ∧ revoking set)
      { tables with
        codeSets := table.update revoking (fun set => { set with revokedAt := some now }) tables.codeSets })

/-- `UPDATE recovery_code SET consumed_at = now WHERE consumed_at IS NULL AND …`. -/
def consumeCodes (matching : CodeRow → Prop) [DecidablePred matching] (now : Int) (tables : Tables) :
    Except StoreError (Nat × Tables) := do
  let consuming := fun code : CodeRow => code.consumedAt = none ∧ matching code
  throwIf (∃ code ∈ tables.codes, consuming code ∧
    ∃ set ∈ tables.codeSets, set.id = code.setId ∧ now < set.createdAt) .consumptionPredatesSet
  return ((table.matched consuming tables.codes).length,
    { tables with
      codes := table.update consuming (fun code => { code with consumedAt := some now }) tables.codes })

/-- What the trigger of `recovery_session` asks of the source of a session. -/
def Tables.Source (tables : Tables) (session : RecoverySessionRow) : Prop :=
  tables.ActiveUser session.userId ∧
    ∃ set ∈ tables.codeSets, set.id = session.codeSetId ∧ set.userId = session.userId ∧
      set.Valid session.createdAt ∧
      ∃ code ∈ tables.codes, code.id = session.sourceCodeId ∧ code.setId = set.id ∧
        ∃ consumedAt ∈ code.consumedAt, consumedAt ≤ session.createdAt

instance (tables : Tables) (session : RecoverySessionRow) : Decidable (tables.Source session) := by
  unfold Tables.Source
  infer_instance

/-- `unixepoch(instant)`. -/
def unixepoch (instant : Int) : Int :=
  instant / 1000

def insertRecoverySession (session : RecoverySessionRow) (tables : Tables) : Except StoreError Tables := do
  throwIf (¬ tables.Source session) .sourceNotEligible
  throwIf (¬ (unixepoch session.createdAt < unixepoch session.expiresAt ∧
    unixepoch session.expiresAt ≤ unixepoch session.createdAt + 600)) .constraint
  throwIf (∃ row ∈ tables.recoverySessions, row.id = session.id ∨ row.tokenHash = session.tokenHash ∨
    row.userId = session.userId) .constraint
  return { tables with recoverySessions := tables.recoverySessions ++ [session] }

def insertChallenge (challenge : ChallengeRow) (tables : Tables) : Except StoreError Tables := do
  throwIf (¬ (unixepoch challenge.createdAt < unixepoch challenge.expiresAt ∧
    unixepoch challenge.expiresAt ≤ unixepoch challenge.createdAt + 120)) .constraint
  throwIf (∃ row ∈ tables.challenges, row.id = challenge.id ∨
    row.recoverySessionId = challenge.recoverySessionId) .constraint
  return { tables with challenges := tables.challenges ++ [challenge] }

/-- A statement `INSERT … SELECT … WHERE guard`, with the number of rows that it inserts. -/
def insertWhere (guard : Prop) [Decidable guard] (insert : Tables → Except StoreError Tables)
    (tables : Tables) : Except StoreError (Nat × Tables) := do
  if guard then return (1, ← insert tables)
  else return (0, tables)

end pgid.recovery
