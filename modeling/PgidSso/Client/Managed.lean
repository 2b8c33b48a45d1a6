import Mathlib
import PgidSso.Admin.Commit
import PgidSso.Library.Checked
import PgidSso.Library.SqlText
import PgidSso.Library.Table

open checked pgid.administration

namespace pgid.management

/-- A value of the metadata of a client: a text, or any other JSON value as its text. -/
inductive MetadataValue where
  | text (value : Text)
  | json (value : Text)
  deriving DecidableEq

/-- The columns of a client that its managers edit; the JSON columns are the values that
they encode. -/
structure ClientSettings where
  name : Option Text
  uri : Option Text
  redirectUris : List Text
  postLogoutRedirectUris : Option (List Text)
  scopes : Option (List Text)
  grantTypes : Option (List Text)
  enableEndSession : Option Bool
  metadata : List (Text × MetadataValue)
  tos : Option Text
  policy : Option Text
  backchannelLogoutUri : Option Text
  deriving DecidableEq

/-- A row of `oauthClient`, but for the columns that are the same in every client; the
instants are in milliseconds. -/
structure ClientRow extends ClientSettings where
  id : Text
  clientId : Text
  clientSecret : Option Text
  disabled : Bool
  isPublic : Bool
  tokenEndpointAuthMethod : Text
  ownerUserId : Option Text
  createdAt : Option Int
  updatedAt : Option Int
  deriving DecidableEq

def ClientRow.edited (settings : ClientSettings) (now : Int) (row : ClientRow) : ClientRow :=
  { row with toClientSettings := settings, updatedAt := some now }

def ClientRow.withSecret (storedClientSecret : Text) (now : Int) (row : ClientRow) : ClientRow :=
  { row with clientSecret := some storedClientSecret, updatedAt := some now }

def ClientRow.withDisabled (disabled : Bool) (now : Int) (row : ClientRow) : ClientRow :=
  { row with disabled, updatedAt := some now }

structure AccessTokenRow where
  id : Text
  clientId : Text
  deriving DecidableEq

structure RefreshTokenRow where
  id : Text
  clientId : Text
  revoked : Option Int
  deriving DecidableEq

structure ConsentRow where
  id : Text
  clientId : Text
  deriving DecidableEq

/-- A row of `verification`, with the client of its value when that is an authorization
code. -/
structure VerificationRow where
  id : Text
  codeClientId : Option Text
  deriving DecidableEq

inductive ClientEvent where
  | created
  | updated
  | trustUpdated
  | secretRotated
  | disabled
  | enabled
  | deleted
  deriving DecidableEq

/-- A row of `audit_event` that the management of a client writes. -/
structure AuditRow where
  id : Text
  eventType : ClientEvent
  clientId : Text
  actorUserId : Text
  deriving DecidableEq

structure Tables where
  users : List UserRow
  sessions : List SessionRow
  clients : List ClientRow
  accessTokens : List AccessTokenRow
  refreshTokens : List RefreshTokenRow
  consents : List ConsentRow
  verifications : List VerificationRow
  auditEvents : List AuditRow
  deriving DecidableEq

def Tables.HasAudit (tables : Tables) (eventId : Text) : Prop :=
  ∃ event ∈ tables.auditEvents, event.id = eventId

instance (tables : Tables) (eventId : Text) : Decidable (tables.HasAudit eventId) :=
  inferInstanceAs (Decidable (∃ event ∈ tables.auditEvents, event.id = eventId))

/-- What a request may change: the row that it has loaded, as long as its actor is still
who the gate has seen, and still the owner where the actor manages only clients of theirs. -/
structure MutationGuard where
  actor : AdminActorCommitGuard
  clientId : Text
  clientRowId : Text
  expectedOwnerUserId : Option Text
  deriving DecidableEq

structure ManagedClientGuard extends MutationGuard where
  authorizationEventId : Option Text
  expectedUpdatedAt : Option (Option Int)
  deriving DecidableEq

def MutationGuard.managed (guard : MutationGuard) : ManagedClientGuard :=
  { guard with authorizationEventId := none, expectedUpdatedAt := none }

/-- The conditions of a guard on the row. -/
def ManagedClientGuard.Selects (guard : ManagedClientGuard) (row : ClientRow) : Prop :=
  row.id = guard.clientRowId ∧ row.clientId = guard.clientId ∧
    (∀ owner ∈ guard.expectedOwnerUserId, row.ownerUserId = some owner) ∧
    ∀ expected ∈ guard.expectedUpdatedAt, row.updatedAt = expected

instance (guard : ManagedClientGuard) (row : ClientRow) : Decidable (guard.Selects row) := by
  unfold ManagedClientGuard.Selects
  infer_instance

/-- The conditions of a guard on the actor: the event of the batch, or else the actor. -/
def ManagedClientGuard.Authorizes (guard : ManagedClientGuard) (tables : Tables) (now : Int) : Prop :=
  (∀ eventId ∈ guard.authorizationEventId, tables.HasAudit eventId) ∧
    (guard.authorizationEventId ≠ none ∨ guard.actor.Commits tables.users tables.sessions now)

instance (guard : ManagedClientGuard) (tables : Tables) (now : Int) :
    Decidable (guard.Authorizes tables now) := by
  unfold ManagedClientGuard.Authorizes
  infer_instance

/-- `EXISTS (SELECT 1 FROM oauthClient WHERE MANAGED_CLIENT_PREDICATE)`. -/
def ManagedClientGuard.Permits (guard : ManagedClientGuard) (tables : Tables) (now : Int) : Prop :=
  ∃ row ∈ tables.clients, guard.Selects row ∧ guard.Authorizes tables now

instance (guard : ManagedClientGuard) (tables : Tables) (now : Int) : Decidable (guard.Permits tables now) := by
  unfold ManagedClientGuard.Permits
  infer_instance

inductive StoreError where
  | unique
  | ownerNotEligible
  | check
  deriving DecidableEq

/-- What the success event of a request asks of the row and of the actor. -/
def ManagedClientGuard.Auditable (guard : ManagedClientGuard) (tables : Tables) (now : Int) : Prop :=
  (∃ row ∈ tables.clients, guard.Selects row) ∧ guard.actor.Commits tables.users tables.sessions now

instance (guard : ManagedClientGuard) (tables : Tables) (now : Int) : Decidable (guard.Auditable tables now) := by
  unfold ManagedClientGuard.Auditable
  infer_instance

/-- The insert of the success event of a request, with the changes that it counts: the
event and the row of its archive source. -/
def auditInsertForExistingClientStatement (event : AuditRow) (guard : ManagedClientGuard) (now : Int)
    (tables : Tables) : Except StoreError (Nat × Tables) := do
  if guard.Auditable tables now then
    throwIf (tables.HasAudit event.id) .unique
    return (2, { tables with auditEvents := tables.auditEvents ++ [event] })
  else return (0, tables)

def pendingAuthorizationCodeCleanup (guard : ManagedClientGuard) (now : Int) (tables : Tables) : Tables :=
  { tables with
    verifications := table.delete
      (fun row : VerificationRow => row.codeClientId = some guard.clientId ∧ guard.Permits tables now)
      tables.verifications }

def clientConsentCleanup (guard : ManagedClientGuard) (now : Int) (tables : Tables) : Tables :=
  { tables with
    consents := table.delete (fun row : ConsentRow => row.clientId = guard.clientId ∧ guard.Permits tables now)
      tables.consents }

def clientAccessTokenCleanup (guard : ManagedClientGuard) (now : Int) (tables : Tables) : Tables :=
  { tables with
    accessTokens := table.delete
      (fun row : AccessTokenRow => row.clientId = guard.clientId ∧ guard.Permits tables now)
      tables.accessTokens }

def clientRefreshTokenRevocation (guard : ManagedClientGuard) (revokedAt now : Int) (tables : Tables) : Tables :=
  { tables with
    refreshTokens := table.update
      (fun row : RefreshTokenRow => row.clientId = guard.clientId ∧ row.revoked = none ∧
        guard.Permits tables now)
      (fun row => { row with revoked := some revokedAt }) tables.refreshTokens }

/-- `UPDATE oauthClient SET change WHERE MANAGED_CLIENT_PREDICATE`, with its changes. -/
def updateClient (guard : ManagedClientGuard) (change : ClientRow → ClientRow) (now : Int) (tables : Tables) :
    Nat × Tables :=
  let matching := fun row : ClientRow => guard.Selects row ∧ guard.Authorizes tables now
  ((table.matched matching tables.clients).length,
    { tables with clients := table.update matching change tables.clients })

/-- The CHECK of `oauthClient.backchannelLogoutUri` and of
`logout_delivery.backchannel_logout_uri`. -/
def backchannelLogoutUriCheck (value : Option Text) : Bool :=
  match value with
  | none => true
  | some value =>
    (9 ≤ sql.length value ∧ sql.length value ≤ 512) ∧
      sql.instr value (Text.of "*") = 0 ∧
      sql.instr value (Text.of "#") = 0 ∧
      sql.instr value (Text.of "@") = 0 ∧
      (sql.substr value 8 = Text.of "https://" ∨
        sql.glob value (Text.of "http://localhost:*/*") = true ∨
        sql.glob value (Text.of "http://127.0.0.1:*/*") = true ∨
        sql.glob value (Text.of "http://[[]::1[]]:*/*") = true)

/-- The update of an edit: it writes the logout URI, whose CHECK fails it when there is a row
to update. -/
def updateClientSettings (guard : ManagedClientGuard) (settings : ClientSettings) (updatedAt now : Int)
    (tables : Tables) : Except StoreError (Nat × Tables) := do
  throwIf (guard.Permits tables now ∧ ¬ backchannelLogoutUriCheck settings.backchannelLogoutUri) .check
  return updateClient guard (ClientRow.edited settings updatedAt) now tables

/-- `DELETE FROM oauthClient`: the tokens and the consents of the client go with it. -/
def deleteClients (guard : ManagedClientGuard) (now : Int) (tables : Tables) : Nat × Tables :=
  let matching := fun row : ClientRow => guard.Selects row ∧ guard.Authorizes tables now
  let gone := fun clientId : Text => ∃ row ∈ tables.clients, row.clientId = clientId ∧ matching row
  ((table.matched matching tables.clients).length,
    { tables with
      clients := table.delete matching tables.clients
      accessTokens := table.delete (fun row : AccessTokenRow => gone row.clientId) tables.accessTokens
      refreshTokens := table.delete (fun row : RefreshTokenRow => gone row.clientId) tables.refreshTokens
      consents := table.delete (fun row : ConsentRow => gone row.clientId) tables.consents })

/-- `client owner is not eligible`. -/
def OwnerNotEligible (client : ClientRow) (tables : Tables) : Prop :=
  ∃ owner ∈ client.ownerUserId, ¬ ∃ user ∈ tables.users,
    user.id = owner ∧ user.status = .active ∧ user.accessLevel = .standard

instance (client : ClientRow) (tables : Tables) : Decidable (OwnerNotEligible client tables) := by
  unfold OwnerNotEligible
  infer_instance

/-- The columns `id` and `clientId` are unique. -/
def Taken (client : ClientRow) (tables : Tables) : Prop :=
  ∃ row ∈ tables.clients, row.id = client.id ∨ row.clientId = client.clientId

instance (client : ClientRow) (tables : Tables) : Decidable (Taken client tables) := by
  unfold Taken
  infer_instance

/-- The insert of a client: the trigger of its owner, the CHECK of its logout URI and its
unique columns. -/
def insertClient (client : ClientRow) (actor : AdminActorCommitGuard) (now : Int) (tables : Tables) :
    Except StoreError (Nat × Tables) := do
  if actor.Commits tables.users tables.sessions now then
    throwIf (OwnerNotEligible client tables) .ownerNotEligible
    throwIf (¬ backchannelLogoutUriCheck client.backchannelLogoutUri) .check
    throwIf (Taken client tables) .unique
    return (1, { tables with clients := tables.clients ++ [client] })
  else return (0, tables)

/-- The client that the introspection of mail tokens is provisioned with. -/
def mailIntrospector (clientRowId storedClientSecret : Text) (now : Int) : ClientRow :=
  { id := clientRowId
    clientId := Text.of "pgid-mail-introspect"
    clientSecret := some storedClientSecret
    disabled := false
    isPublic := false
    tokenEndpointAuthMethod := Text.of "client_secret_post"
    ownerUserId := none
    createdAt := some now
    updatedAt := some now
    name := some (Text.of "PGID Mail Token Introspection")
    uri := none
    redirectUris := []
    postLogoutRedirectUris := none
    scopes := some []
    grantTypes := some [Text.of "urn:pg72:grant-type:introspection-only"]
    enableEndSession := some false
    metadata :=
      [(Text.of "developer_name", .text (Text.of "PG72 Mail Infrastructure")),
        (Text.of "introspectionTargetClientId", .text (Text.of "pg72-webmail")),
        (Text.of "purpose", .text (Text.of "mail-token-introspection"))]
    tos := none
    policy := none
    backchannelLogoutUri := none }

/-- What a committed edit changes besides its row. -/
structure EditChanges where
  redirectUris : Bool
  permissions : Bool
  deriving DecidableEq

/-- A request after its checks, with the values that it is going to write. -/
inductive Request where
  | create (actor : AdminActorCommitGuard) (client : ClientRow)
  | provision (actor : AdminActorCommitGuard) (clientRowId storedClientSecret : Text) (now : Int)
  | patch (guard : MutationGuard) (expectedUpdatedAt : Option Int) (settings : ClientSettings)
      (changes : EditChanges) (now : Int)
  | rotateSecret (guard : MutationGuard) (storedClientSecret : Text) (now : Int)
  | status (guard : MutationGuard) (disabled : Bool) (now : Int)
  | delete (guard : MutationGuard)
  deriving DecidableEq

inductive Response where
  | ok
  | managementStateChanged
  | clientExists
  | failed
  deriving DecidableEq

/-- The answers with the status 409. -/
def Response.Conflict (response : Response) : Prop :=
  response = .managementStateChanged ∨ response = .clientExists

/-- What a batch did: whether its mutation changed rows, whether its event was inserted,
the answer, and the tables after. -/
structure BatchResult where
  mutated : Bool
  audited : Bool
  response : Response
  tables : Tables
  deriving DecidableEq

/-- A batch that fails is rolled back; only a unique column of a new client has an answer
of its own. -/
def rolledBack (onUnique : Response) (tables : Tables) : StoreError → BatchResult
  | .unique => { mutated := false, audited := false, response := onUnique, tables }
  | .ownerNotEligible => { mutated := false, audited := false, response := .failed, tables }
  | .check => { mutated := false, audited := false, response := .failed, tables }

/-- The result of a batch by the changes of its mutation and of its event. -/
def settled (mutations audits : Nat) (succeeded : Prop) [Decidable succeeded] (tables : Tables) : BatchResult :=
  { mutated := mutations ≠ 0, audited := audits ≠ 0
    response := if succeeded then .ok else .managementStateChanged, tables }

/-- The batch of a new client; its statements are evaluated at the given instants. -/
def createBatch (actor : AdminActorCommitGuard) (client : ClientRow) (event : AuditRow) (times : Nat → Int)
    (tables : Tables) : Except StoreError BatchResult := do
  let (inserted, tables) ← insertClient client actor (times 0) tables
  let (audits, tables) ← auditInsertForExistingClientStatement event
    { actor, clientId := client.clientId, clientRowId := client.id, expectedOwnerUserId := client.ownerUserId
      authorizationEventId := none, expectedUpdatedAt := none } (times 1) tables
  return settled inserted audits (inserted = 1 ∧ audits = 2) tables

/-- The guard of the version that an edit has loaded. -/
def MutationGuard.versioned (guard : MutationGuard) (expectedUpdatedAt : Option Int) : ManagedClientGuard :=
  { guard with authorizationEventId := none, expectedUpdatedAt := some expectedUpdatedAt }

/-- The statements of an edit between its event and its update. -/
def patchCleanups (commitGuard : ManagedClientGuard) (changes : EditChanges) (now : Int) (times : Nat → Int)
    (tables : Tables) : Tables :=
  let tables :=
    if changes.redirectUris ∨ changes.permissions then
      clientConsentCleanup commitGuard (times 2) (pendingAuthorizationCodeCleanup commitGuard (times 1) tables)
    else tables
  if changes.permissions then
    clientRefreshTokenRevocation commitGuard now (times 4) (clientAccessTokenCleanup commitGuard (times 3) tables)
  else tables

def patchBatch (guard : MutationGuard) (expectedUpdatedAt : Option Int) (settings : ClientSettings)
    (changes : EditChanges) (now : Int) (event : AuditRow) (times : Nat → Int) (tables : Tables) :
    Except StoreError BatchResult := do
  let versionGuard := guard.versioned expectedUpdatedAt
  let commitGuard := { versionGuard with authorizationEventId := some event.id }
  let (audits, tables) ← auditInsertForExistingClientStatement event versionGuard (times 0) tables
  let tables := patchCleanups commitGuard changes now times tables
  let (updated, tables) ← updateClientSettings commitGuard settings now (times 5) tables
  return settled updated audits (¬ (audits < 2 ∨ updated ≠ 1)) tables

/-- A batch that updates a client, then cleans up and last inserts its event; its first and
its last statement are evaluated at the given instants. -/
def updateBatch (guard : MutationGuard) (change : ClientRow → ClientRow) (cleanup : Tables → Tables)
    (event : AuditRow) (first last : Int) (tables : Tables) : Except StoreError BatchResult := do
  let (updated, tables) := updateClient guard.managed change first tables
  let (audits, tables) ← auditInsertForExistingClientStatement event guard.managed last (cleanup tables)
  return settled updated audits (updated = 1 ∧ audits = 2) tables

def rotateSecretBatch (guard : MutationGuard) (storedClientSecret : Text) (now : Int) (event : AuditRow)
    (times : Nat → Int) (tables : Tables) : Except StoreError BatchResult :=
  updateBatch guard (ClientRow.withSecret storedClientSecret now) id event (times 0) (times 1) tables

/-- The statements that cut off the credentials of a client that is disabled. -/
def statusCleanups (guard : ManagedClientGuard) (now : Int) (times : Nat → Int) (tables : Tables) : Tables :=
  pendingAuthorizationCodeCleanup guard (times 3)
    (clientRefreshTokenRevocation guard now (times 2) (clientAccessTokenCleanup guard (times 1) tables))

def statusBatch (guard : MutationGuard) (disabled : Bool) (now : Int) (event : AuditRow) (times : Nat → Int)
    (tables : Tables) : Except StoreError BatchResult :=
  updateBatch guard (ClientRow.withDisabled disabled now)
    (if disabled then statusCleanups guard.managed now times else id) event (times 0)
    (if disabled then times 4 else times 1) tables

def deleteBatch (guard : MutationGuard) (event : AuditRow) (times : Nat → Int) (tables : Tables) :
    Except StoreError BatchResult := do
  let tables := pendingAuthorizationCodeCleanup guard.managed (times 0) tables
  let (audits, tables) ← auditInsertForExistingClientStatement event guard.managed (times 1) tables
  let (deleted, tables) := deleteClients guard.managed (times 2) tables
  return settled deleted audits (audits = 2 ∧ deleted ≠ 0) tables

/-- The batch of a request. -/
def Request.run (event : AuditRow) (times : Nat → Int) (tables : Tables) (request : Request) : BatchResult :=
  match request with
  | .create actor client =>
    match createBatch actor client event times tables with
    | .ok result => result
    | .error error => rolledBack .clientExists tables error
  | .provision actor clientRowId storedClientSecret now =>
    match createBatch actor (mailIntrospector clientRowId storedClientSecret now) event times tables with
    | .ok result => result
    | .error error => rolledBack .clientExists tables error
  | .patch guard expectedUpdatedAt settings changes now =>
    match patchBatch guard expectedUpdatedAt settings changes now event times tables with
    | .ok result => result
    | .error error => rolledBack .failed tables error
  | .rotateSecret guard storedClientSecret now =>
    match rotateSecretBatch guard storedClientSecret now event times tables with
    | .ok result => result
    | .error error => rolledBack .failed tables error
  | .status guard disabled now =>
    match statusBatch guard disabled now event times tables with
    | .ok result => result
    | .error error => rolledBack .failed tables error
  | .delete guard =>
    match deleteBatch guard event times tables with
    | .ok result => result
    | .error error => rolledBack .failed tables error

end pgid.management
