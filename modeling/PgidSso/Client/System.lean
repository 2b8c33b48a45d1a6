import PgidSso.Client.Audited
import PgidSso.Client.Edit
import PgidSso.Library.Transition

open checked transition pgid.administration

namespace pgid.management

def managesAllClients (actor : AdminActor) : Bool :=
  hasPermission actor.role .clientsManageAll

def loadManagedClient (actor : AdminActor) (clientId : Text) (tables : Tables) : Except EditError ClientRow :=
  match tables.clients.find? fun row => row.clientId = clientId with
  | none => .error .clientNotFound
  | some row => do
    throwIf (clientId ∈ SYSTEM_RESERVED_CLIENT_IDS ∧ ¬ managesAllClients actor) .clientNotFound
    throwIf (¬ managesAllClients actor ∧ row.ownerUserId ≠ some actor.userId) .clientNotFound
    return row

def mutationGuard (actor : AdminActor) (clientId : Text) (client : ClientRow) : MutationGuard where
  actor := actor.commitGuard
  clientId := clientId
  clientRowId := client.id
  expectedOwnerUserId := if managesAllClients actor then none else some (client.ownerUserId.getD actor.userId)

/-- An edit between its load and its commit. The last field is not part of the request: it
tells whether another request has changed the settings of the row since. -/
structure Edit where
  guard : MutationGuard
  client : ClientRow
  settings : ClientSettings
  changes : EditChanges
  overtaken : Bool
  deriving DecidableEq

inductive Task where
  | edit (edit : Edit)
  | rotateSecret (guard : MutationGuard) (storedClientSecret : Text)
  | status (guard : MutationGuard) (disabled : Bool)
  deriving DecidableEq

def Task.request (now : Int) : Task → Request
  | .edit editing => .patch editing.guard editing.client.updatedAt editing.settings editing.changes now
  | .rotateSecret guard storedClientSecret => .rotateSecret guard storedClientSecret now
  | .status guard disabled => .status guard disabled now

def loadEdit (runtime : Runtime) (actor : AdminActor) (clientId : Text) (input : UpdateClientInput)
    (tables : Tables) : Except EditError Edit := do
  throwIf (clientId ∈ TRUSTED_CLIENT_IDS) .trustedClientLocked
  let client ← loadManagedClient actor clientId tables
  let (settings, changes) ← editClient runtime client input
  return { guard := mutationGuard actor clientId client, client, settings, changes, overtaken := false }

def loadRotation (actor : AdminActor) (clientId storedClientSecret : Text) (tables : Tables) :
    Except EditError Task := do
  throwIf (clientId ∈ TRUSTED_CLIENT_IDS) .trustedClientLocked
  let client ← loadManagedClient actor clientId tables
  throwIf (client.isPublic ∨ client.clientSecret.getD [] = []) .publicClientHasNoSecret
  return .rotateSecret (mutationGuard actor clientId client) storedClientSecret

def loadStatus (actor : AdminActor) (clientId : Text) (disabled : Bool) (tables : Tables) :
    Except EditError Task := do
  throwIf (clientId ∈ TRUSTED_CLIENT_IDS) .trustedClientLocked
  let client ← loadManagedClient actor clientId tables
  return .status (mutationGuard actor clientId client) disabled

/-- A request in flight: its task, whether its first reading of the clock was the version
that it expects, and the instant that it is going to write. -/
structure Call where
  task : Task
  collided : Bool
  now : Option Int
  deriving DecidableEq

structure System where
  tables : Tables
  clock : Int
  calls : Text → Option Call

/-- The rows that no request of the management of a client writes. -/
structure Surroundings where
  users : List UserRow
  sessions : List SessionRow
  accessTokens : List AccessTokenRow
  refreshTokens : List RefreshTokenRow
  consents : List ConsentRow
  verifications : List VerificationRow
  /-- The events that are added. -/
  auditEvents : List AuditRow
  deriving DecidableEq

def Tables.surrounded (tables : Tables) (surroundings : Surroundings) : Tables :=
  { users := surroundings.users, sessions := surroundings.sessions, clients := tables.clients
    accessTokens := surroundings.accessTokens, refreshTokens := surroundings.refreshTokens
    consents := surroundings.consents, verifications := surroundings.verifications
    auditEvents := tables.auditEvents ++ surroundings.auditEvents }

inductive Action where
  | tick (elapsed : Nat)
  | surround (surroundings : Surroundings)
  | loadEdit (call : Text) (actor : AdminActor) (clientId : Text) (input : UpdateClientInput)
  | loadRotation (call : Text) (actor : AdminActor) (clientId storedClientSecret : Text)
  | loadStatus (call : Text) (actor : AdminActor) (clientId : Text) (disabled : Bool)
  | readClock (call : Text)
  /-- A batch whose statements are evaluated at some start and after some delays. -/
  | commit (call : Text) (event : AuditRow) (start : Int) (delays : List Nat)
  deriving DecidableEq

inductive Event where
  /-- A batch that changed its client. -/
  | committed (task : Task) (now : Int) (before after : Tables)
  | other
  deriving DecidableEq

/-- The instants of the statements of a batch. -/
def instants (start : Int) (delays : List Nat) (number : Nat) : Int :=
  start + ((delays.take number).sum : Nat)

theorem instants_monotone (start : Int) (delays : List Nat) : Monotone (instants start delays) := by
  apply monotone_nat_of_le_succ
  intro number
  have hsum : (delays.take (number + 1)).sum = (delays.take number).sum + delays[number]?.toList.sum := by
    rw [List.take_add_one, List.sum_append]
  rw [instants, instants, hsum]
  omega

/-- Whether a request changes the settings of its row. -/
def Request.ChangesSettings (tables : Tables) : Request → Prop
  | .patch guard _ settings _ _ =>
    ∃ row ∈ tables.clients, row.id = guard.clientRowId ∧ row.toClientSettings ≠ settings
  | _ => False

instance (tables : Tables) (request : Request) : Decidable (request.ChangesSettings tables) := by
  unfold Request.ChangesSettings
  cases request <;> infer_instance

/-- The row that a request is about. -/
def Task.clientRowId : Task → Text
  | .edit editing => editing.guard.clientRowId
  | .rotateSecret guard _ => guard.clientRowId
  | .status guard _ => guard.clientRowId

/-- An edit of a row whose settings another request has changed. -/
def Call.overtake (clientRowId : Text) (call : Call) : Call :=
  match call.task with
  | .edit edit =>
    if edit.client.id = clientRowId then { call with task := .edit { edit with overtaken := true } } else call
  | _ => call

def System.start (system : System) (call : Text) (task : Task) : Option (Event × System) :=
  match system.calls call with
  | some _ => none
  | none =>
    some (.other,
      { system with
        calls := Function.update system.calls call (some { task, collided := false, now := none }) })

/-- The reading of the clock for the instant that a call writes; an edit reads it again when
it reads the version that it expects, and adds a millisecond. -/
def Call.read (clock : Int) (call : Call) : Call :=
  match call.now, call.task with
  | some _, _ => call
  | none, .edit edit =>
    if call.collided then { call with now := some (clock + 1) }
    else if edit.client.updatedAt = some clock then { call with collided := true }
    else { call with now := some clock }
  | none, _ => { call with now := some clock }

def System.readClock (system : System) (call : Text) : Option (Event × System) :=
  match system.calls call with
  | none => none
  | some pending =>
    some (.other, { system with calls := Function.update system.calls call (some (pending.read system.clock)) })

/-- The batch of a call; the edits of its row whose settings it changes are overtaken. -/
def System.commit (system : System) (call : Text) (event : AuditRow) (start : Int) (delays : List Nat) :
    Option (Event × System) :=
  match system.calls call with
  | some { task, collided := _, now := some now } =>
    if system.tables.HasAudit event.id then none
    else
      let result := Request.run event (instants start delays) system.tables (task.request now)
      let others := Function.update system.calls call none
      let calls := fun other =>
        if result.mutated ∧ (task.request now).ChangesSettings system.tables then
          (others other).map (Call.overtake task.clientRowId)
        else others other
      some (if result.mutated then .committed task now system.tables result.tables else .other,
        { system with tables := result.tables, calls })
  | _ => none

/-- What a step records and where it leads; no result stands for one that cannot be taken,
and for a request that its checks refuse. -/
def perform (runtime : Runtime) (system : System) : Action → Option (Event × System)
  | .tick elapsed => some (.other, { system with clock := system.clock + elapsed })
  | .surround surroundings => some (.other, { system with tables := system.tables.surrounded surroundings })
  | .loadEdit call actor clientId input =>
    match loadEdit runtime actor clientId input system.tables with
    | .ok edit => system.start call (.edit edit)
    | .error _ => none
  | .loadRotation call actor clientId storedClientSecret =>
    match loadRotation actor clientId storedClientSecret system.tables with
    | .ok task => system.start call task
    | .error _ => none
  | .loadStatus call actor clientId disabled =>
    match loadStatus actor clientId disabled system.tables with
    | .ok task => system.start call task
    | .error _ => none
  | .readClock call => system.readClock call
  | .commit call event start delays => system.commit call event start delays

/-- The rows of the clients are as the registration of a client writes them. -/
structure System.Start (system : System) : Prop where
  keys : (system.tables.clients.map (·.id)).Nodup
  distinct : ∀ row ∈ system.tables.clients, row.Distinct
  idle : ∀ call, system.calls call = none

end pgid.management
