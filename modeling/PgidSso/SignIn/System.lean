import PgidSso.Recovery.System

open checked transition

namespace pgid.signin

def TELEGRAM_PROVIDER_ID : Text := Text.of "telegram"

/-- A row of `account`, an identity of a provider that is linked to a user. -/
structure AccountRow where
  id : Text
  accountId : Text
  providerId : Text
  userId : Text
  deriving DecidableEq

structure Tables where
  recovery : recovery.Tables
  accounts : List AccountRow
  /-- The users whose `accessLevel` is `restricted`. -/
  restricted : List Text
  deriving DecidableEq

structure LoginMethodCountRow where
  accounts : Nat
  passkeys : Nat
  deriving DecidableEq

def loginMethodCounts (userId : Text) (tables : Tables) : LoginMethodCountRow where
  accounts := (table.matched (fun account : AccountRow => account.userId = userId) tables.accounts).length
  passkeys :=
    (table.matched (fun passkey : recovery.PasskeyRow => passkey.userId = userId) tables.recovery.passkeys).length

/-- An unused code of a set that is neither revoked nor expired. -/
def Tables.HasRecoveryCode (tables : Tables) (userId : Text) (now : Int) : Prop :=
  ∃ set ∈ tables.recovery.codeSets, set.userId = userId ∧ set.Valid now ∧
    ∃ code ∈ tables.recovery.codes, code.setId = set.id ∧ code.consumedAt = none

instance (tables : Tables) (userId : Text) (now : Int) : Decidable (tables.HasRecoveryCode userId now) := by
  unfold Tables.HasRecoveryCode
  infer_instance

/-- The check of `POST /passkey/delete-passkey` on its two counts. -/
def lastLoginMethod (counts : LoginMethodCountRow) : Prop :=
  counts.passkeys ≤ 1 ∧ counts.accounts = 0

instance (counts : LoginMethodCountRow) : Decidable (lastLoginMethod counts) :=
  inferInstanceAs (Decidable (counts.passkeys ≤ 1 ∧ counts.accounts = 0))

/-- `DELETE FROM passkey WHERE id = ? AND userId = ?`. -/
def Tables.deletePasskey (tables : Tables) (userId id : Text) : Nat × Tables :=
  let deleting := fun passkey : recovery.PasskeyRow => passkey.id = id ∧ passkey.userId = userId
  ((table.matched deleting tables.recovery.passkeys).length,
    { tables with
      recovery := { tables.recovery with passkeys := table.delete deleting tables.recovery.passkeys } })

/-- The `DELETE` of `DELETE /api/account/login-methods/:accountId`, which repeats its guards. -/
def Tables.deleteAccount (tables : Tables) (recoveryEnabled : Bool) (userId accountId : Text) (now : Int) :
    Nat × Tables :=
  let counts := loginMethodCounts userId tables
  let deleting := fun account : AccountRow => account.id = accountId ∧ account.userId = userId ∧
    (1 < counts.accounts ∨ (recoveryEnabled = true ∧ tables.HasRecoveryCode userId now)) ∧
    1 < counts.accounts + counts.passkeys
  ((table.matched deleting tables.accounts).length,
    { tables with accounts := table.delete deleting tables.accounts })

/-- What the trigger of `account` raises, or the reference to its user. -/
inductive LinkError where
  | restrictedAccount
  | foreignKey
  deriving DecidableEq

/-- `INSERT OR IGNORE INTO account`: an account that is taken already is no error. -/
def Tables.insertAccount (tables : Tables) (account : AccountRow) : Except LinkError (Nat × Tables) := do
  throwIf (account.userId ∈ tables.restricted) .restrictedAccount
  if ∃ row ∈ tables.accounts, row.id = account.id ∨
      (row.providerId = account.providerId ∧ row.accountId = account.accountId) then
    return (0, tables)
  else
    throwIf (¬ ∃ user ∈ tables.recovery.users, user.id = account.userId) .foreignKey
    return (1, { tables with accounts := tables.accounts ++ [account] })

/-- The answer of a request. -/
inductive Response where
  | unauthorized
  | forbidden
  | passkeyNotFound
  | lastLoginMethod
  | freshSessionRequired
  | passkeyDeleted
  | accountNotFound
  | recoveryCodeRequired
  | accountUnlinked
  | alreadyLinked
  | telegramAlreadyLinked
  | accountLinked
  | internalError
  deriving DecidableEq

/-- A request for the deletion of a passkey, with the session that it came with. -/
structure PasskeyDeletion where
  userId : Text
  sessionCreatedAt : Int
  id : Text
  deriving DecidableEq

structure Unlinking where
  userId : Text
  accountId : Text
  deriving DecidableEq

structure TelegramLinking where
  userId : Text
  telegramId : Text
  deriving DecidableEq

/-- A request, by the statement that it is about to run. -/
inductive Call where
  | findPasskey (request : PasskeyDeletion)
  | countPasskeys (request : PasskeyDeletion)
  | countAccounts (request : PasskeyDeletion)
  | deletePasskey (request : PasskeyDeletion)
  | requireActiveUser (request : Unlinking)
  | findAccount (request : Unlinking)
  | countLoginMethods (request : Unlinking)
  | findRecoveryCodes (request : Unlinking) (now : Int)
  | deleteAccount (request : Unlinking) (now : Int)
  | stillOwned (request : Unlinking)
  | refreshCounts (request : Unlinking)
  | readAccess (request : TelegramLinking)
  | insertAccount (request : TelegramLinking)
  | findOwner (request : TelegramLinking)
  | closed (response : Response)
  deriving DecidableEq

structure System where
  recovery : recovery.System
  accounts : List AccountRow
  restricted : List Text
  calls : Nat → Option Call

def System.tables (system : System) : Tables where
  recovery := system.recovery.toTables
  accounts := system.accounts
  restricted := system.restricted

def System.setCall (system : System) (call : Nat) (phase : Call) : System :=
  { system with calls := Function.update system.calls call (some phase) }

/-- The state after a statement that leaves these tables. -/
def System.write (system : System) (tables : Tables) : System :=
  { system with
    recovery := { system.recovery with toTables := tables.recovery }
    accounts := tables.accounts, restricted := tables.restricted }

/-- What a step deletes, if it is one of the two deletions. -/
inductive Kind where
  | deletePasskey (userId id : Text)
  | deleteAccount (userId accountId : Text) (now : Int)
  | other
  deriving DecidableEq

/-- A step, with the tables before and after it. -/
structure Event where
  kind : Kind
  before : Tables
  after : Tables
  deriving DecidableEq

inductive Action where
  /-- A step of recovery, of its codes, or of the registration of a passkey. -/
  | recover (action : recovery.Action)
  | restrict (userIds : List Text)
  /-- A request whose session `getSession` has found, of an active user. -/
  | requestPasskeyDeletion (call : Nat) (session : recovery.SessionRow) (id : Text)
  | requestUnlink (call : Nat) (session : recovery.SessionRow) (accountId : Text)
  /-- A request whose Telegram identity `verifyTelegramAuth` has verified. -/
  | requestTelegramLink (call : Nat) (session : recovery.SessionRow) (telegramId : Text)
  /-- The next statement of a request, with the clock and the random id that it may need. -/
  | advance (call : Nat) (now : Int) (id : Text)

/-- The next statement of a request: the kind of the step, the tables after it, and where
the request goes from there. -/
def Call.run (recoveryEnabled : Bool) (now : Int) (id : Text) (tables : Tables) :
    Call → Option (Kind × Tables × Call)
  | .findPasskey request =>
    if ∃ passkey ∈ tables.recovery.passkeys, passkey.id = request.id ∧ passkey.userId = request.userId then
      some (.other, tables, .countPasskeys request)
    else some (.other, tables, .closed .passkeyNotFound)
  | .countPasskeys request =>
    if (loginMethodCounts request.userId tables).passkeys ≤ 1 then
      some (.other, tables, .countAccounts request)
    else some (.other, tables, .deletePasskey request)
  | .countAccounts request =>
    if (loginMethodCounts request.userId tables).accounts = 0 then
      some (.other, tables, .closed .lastLoginMethod)
    else if now - request.sessionCreatedAt < recovery.freshSessionMaxAgeMs then
      some (.other, tables, .deletePasskey request)
    else some (.other, tables, .closed .freshSessionRequired)
  | .deletePasskey request =>
    let (changes, after) := tables.deletePasskey request.userId request.id
    some (.deletePasskey request.userId request.id, after,
      .closed (if changes = 1 then .passkeyDeleted else .passkeyNotFound))
  | .requireActiveUser request =>
    if tables.recovery.ActiveUser request.userId then some (.other, tables, .findAccount request)
    else some (.other, tables, .closed .unauthorized)
  | .findAccount request =>
    if ∃ account ∈ tables.accounts, account.id = request.accountId ∧ account.userId = request.userId then
      some (.other, tables, .countLoginMethods request)
    else some (.other, tables, .closed .accountNotFound)
  | .countLoginMethods request =>
    let counts := loginMethodCounts request.userId tables
    if counts.accounts + counts.passkeys ≤ 1 then some (.other, tables, .closed .lastLoginMethod)
    else if counts.accounts = 1 then
      if recoveryEnabled then some (.other, tables, .findRecoveryCodes request now)
      else some (.other, tables, .closed .recoveryCodeRequired)
    else some (.other, tables, .deleteAccount request now)
  | .findRecoveryCodes request now =>
    if tables.HasRecoveryCode request.userId now then some (.other, tables, .deleteAccount request now)
    else some (.other, tables, .closed .recoveryCodeRequired)
  | .deleteAccount request now =>
    let (changes, after) := tables.deleteAccount recoveryEnabled request.userId request.accountId now
    some (.deleteAccount request.userId request.accountId now, after,
      if changes = 1 then .closed .accountUnlinked else .stillOwned request)
  | .stillOwned request =>
    if ∃ account ∈ tables.accounts, account.id = request.accountId ∧ account.userId = request.userId then
      some (.other, tables, .refreshCounts request)
    else some (.other, tables, .closed .accountNotFound)
  | .refreshCounts request =>
    let counts := loginMethodCounts request.userId tables
    some (.other, tables,
      .closed (if counts.accounts + counts.passkeys ≤ 1 then .lastLoginMethod else .recoveryCodeRequired))
  | .readAccess request =>
    if ¬ tables.recovery.ActiveUser request.userId then some (.other, tables, .closed .unauthorized)
    else if request.userId ∈ tables.restricted then some (.other, tables, .closed .forbidden)
    else some (.other, tables, .insertAccount request)
  | .insertAccount request =>
    match tables.insertAccount
        { id, accountId := request.telegramId, providerId := TELEGRAM_PROVIDER_ID, userId := request.userId } with
    | .ok (1, after) => some (.other, after, .closed .accountLinked)
    | .ok (_, after) => some (.other, after, .findOwner request)
    | .error _ => some (.other, tables, .closed .internalError)
  | .findOwner request =>
    let owner := tables.accounts.find? fun account =>
      account.providerId = TELEGRAM_PROVIDER_ID ∧ account.accountId = request.telegramId
    if owner.map (·.userId) = some request.userId then
      some (.other, tables, .closed .alreadyLinked)
    else some (.other, tables, .closed .telegramAlreadyLinked)
  | .closed _ => none

def System.start (system : System) (call : Nat) (phase : Call) : Option (Event × System) :=
  match system.calls call with
  | some _ => none
  | none => some ({ kind := .other, before := system.tables, after := system.tables }, system.setCall call phase)

/-- What a step records and where it leads; no result stands for a step that cannot be
taken. The deletion of a whole account is no step here. -/
def perform (recoveryEnabled : Bool) (stepUpMaxAgeMs : Int) (system : System) : Action → Option (Event × System)
  | .recover (.deletePasskeys _) => none
  | .recover action =>
    (recovery.perform stepUpMaxAgeMs system.recovery action).map fun performed =>
      let next := { system with recovery := performed.2 }
      ({ kind := .other, before := system.tables, after := next.tables }, next)
  | .restrict restricted =>
    let next := { system with restricted }
    some ({ kind := .other, before := system.tables, after := next.tables }, next)
  | .requestPasskeyDeletion call session id => system.start call
    (.findPasskey { userId := session.userId, sessionCreatedAt := session.createdAt, id })
  | .requestUnlink call session accountId => system.start call
    (.requireActiveUser { userId := session.userId, accountId })
  | .requestTelegramLink call session telegramId => system.start call
    (.readAccess { userId := session.userId, telegramId })
  | .advance call now id => do
    let phase ← system.calls call
    let (kind, after, next) ← phase.run recoveryEnabled now id system.tables
    return ({ kind, before := system.tables, after }, (system.write after).setCall call next)

/-- The ids of the passkeys and of the accounts are keys. -/
structure Tables.Keyed (tables : Tables) : Prop where
  passkeys : (tables.recovery.passkeys.map (·.id)).Nodup
  accounts : (tables.accounts.map (·.id)).Nodup

def Step (recoveryEnabled : Bool) (stepUpMaxAgeMs : Int) (system : System) (event : Event) (next : System) :
    Prop :=
  ∃ action, perform recoveryEnabled stepUpMaxAgeMs system action = some (event, next)

/-- A run from a given state. -/
abbrev Run (recoveryEnabled : Bool) (stepUpMaxAgeMs : Int) (initial : System) (past : List Event)
    (system : System) : Prop :=
  Trace (fun start => start = initial ∧ start.tables.Keyed) (Step recoveryEnabled stepUpMaxAgeMs) past system

end pgid.signin
