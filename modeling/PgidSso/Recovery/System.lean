import PgidSso.Library.Transition
import PgidSso.Recovery.Requests

open transition

namespace pgid.recovery

/-- A request between two of its statements. -/
inductive Call where
  | starting (codeHash : Text) (candidate : Option RecoveryCodeLookup)
  | offering (session : RecoverySession) (now : Int)
  | verifying (session : RecoverySession) (tokenHash : Text) (now : Int)
  /-- A verify request that has taken its challenge. -/
  | challenged (session : RecoverySession) (tokenHash : Text)
  | managing (sessionId userId : Text) (snapshot : ManagementSnapshot)
  | closed

/-- The tables, the ids generated so far, and the requests. -/
structure System extends Tables where
  generated : List Text
  calls : Nat → Option Call

inductive Outcome where
  | started (codeId setId : Text)
  | completed (session : RecoverySession) (tokenHash : Text) (completion : Completion)
  | notCompleted
  | other

/-- What a step is, and which sets it revokes. -/
structure Event where
  outcome : Outcome
  revokedSetIds : List Text

/-- One atomic step of a request, or of the account around it. -/
inductive Action where
  | registerUser (userId : Text)
  | setStatus (userId : Text) (status : UserStatus)
  | registerPasskey (passkey : PasskeyRow)
  | deletePasskeys (ids : List Text)
  | writeSessions (sessions : List SessionRow)
  | writeTokens (accessTokens : List AccessTokenRow) (refreshTokens : List RefreshTokenRow)
  | cancel (tokenHash : Text)
  | requestStart (call : Nat) (codeHash : Text)
  | start (call : Nat) (input : StartInput)
  | requestOptions (call : Nat) (tokenHash : Text) (now : Int)
  | storeChallenge (call : Nat) (challengeId challenge : Text)
  | requestVerify (call : Nat) (tokenHash : Text) (now : Int)
  | takeChallenge (call : Nat) (challengeId : Text)
  /-- The batch of a request whose passkey `verifyRegistrationResponse` has verified. -/
  | complete (call : Nat) (completion : Completion)
  | requestManagement (call : Nat) (sessionId userId : Text)
  | rotate (call : Nat) (eventId setId : Text) (generated : GeneratedCodes) (now : Int)
  | deleteSet (call : Nat) (eventId : Text) (now : Int)

def System.setCall (system : System) (call : Nat) (phase : Call) : System :=
  { system with calls := Function.update system.calls call (some phase) }

theorem setCall_calls {system : System} {call other : Nat} {phase found : Call}
    (hfound : (system.setCall call phase).calls other = some found) :
    (other = call ∧ found = phase) ∨ (other ≠ call ∧ system.calls other = some found) :=
  update_eq_some hfound

/-- The sets that are active in some tables and revoked in later ones. -/
def revokedBetween (before after : Tables) : List Text :=
  (table.matched
    (fun set : CodeSetRow => set.revokedAt = none ∧
      ∃ later ∈ after.codeSets, later.id = set.id ∧ later.revokedAt ≠ none) before.codeSets).map (·.id)

/-- A step of the account, or a statement that closes its request, with these tables after. -/
def System.write (system : System) (outcome : Outcome) (tables : Tables) : Event × System :=
  ({ outcome, revokedSetIds := revokedBetween system.toTables tables }, { system with toTables := tables })

/-- A batch that closes its request, with the ids that it used. -/
def System.close (system : System) (call : Nat) (ids : List Text) (outcome : Outcome) (tables : Tables) :
    Event × System :=
  ({ outcome, revokedSetIds := revokedBetween system.toTables tables },
    { toTables := tables, generated := ids ++ system.generated
      calls := Function.update system.calls call (some .closed) })

/-- Ids that differ from each other and from those generated so far. -/
def System.Unused (system : System) (ids : List Text) : Prop :=
  ids.Nodup ∧ ∀ id ∈ ids, id ∉ system.generated

instance (system : System) (ids : List Text) : Decidable (system.Unused ids) := by
  unfold System.Unused
  infer_instance

def Completion.ids (completion : Completion) : List Text :=
  completion.passkeyId :: completion.eventId :: completion.nextSetId ::
    completion.generated.codes.map Prod.fst

/-- A rotation or a deletion after its checks, or none when they deny it. -/
def manage (stepUpMaxAgeMs : Int) (system : System) (call : Nat) (eventId : Text) (now : Int) :
    Option Management :=
  match system.calls call with
  | some (.managing sessionId userId snapshot) =>
    if snapshot.status = .active ∧ mutationSnapshotEligible snapshot now stepUpMaxAgeMs = none then
      some { sessionId, userId, snapshot, eventId, now, freshAfter := now - freshSessionMaxAgeMs
             stepUpAfter := now - stepUpMaxAgeMs }
    else none
  | _ => none

/-- What a step records and where it leads; no result stands for a step that cannot be
taken: a request that is not at this point, or an id that is not new. -/
def perform (stepUpMaxAgeMs : Int) (system : System) : Action → Option (Event × System)
  | .registerUser userId =>
    if ∃ user ∈ system.users, user.id = userId then none
    else
      some (system.write .other
        { system.toTables with users := system.users ++ [{ id := userId, status := .active }] })
  | .setStatus userId status =>
    let users := table.update (fun user : UserRow => user.id = userId) (fun user => { user with status }) system.users
    -- The trigger of a user who is suspended.
    some (system.write .other
      (deleteRecoverySessions (fun session => session.userId = userId ∧ status ≠ .active)
        { system.toTables with users }))
  | .registerPasskey passkey =>
    if passkey.id ∈ system.generated then none
    else
      match insertPasskey passkey system.toTables with
      | .error _ => none
      | .ok tables =>
        let (event, next) := system.write .other tables
        some (event, { next with generated := passkey.id :: system.generated })
  | .deletePasskeys ids =>
    some (system.write .other
      { system.toTables with
        passkeys := table.delete (fun passkey : PasskeyRow => passkey.id ∈ ids) system.passkeys })
  | .writeSessions sessions => some (system.write .other { system.toTables with sessions })
  | .writeTokens accessTokens refreshTokens =>
    some (system.write .other { system.toTables with accessTokens, refreshTokens })
  | .cancel tokenHash =>
    some (system.write .other (deleteRecoverySessions (fun session => session.tokenHash = tokenHash) system.toTables))
  | .requestStart call codeHash =>
    match system.calls call with
    | some _ => none
    | none =>
      some ({ outcome := .other, revokedSetIds := [] },
        system.setCall call (.starting codeHash (lookupCode codeHash system.toTables)))
  | .start call input =>
    match system.calls call with
    | some (.starting codeHash candidate) =>
      if input.codeHash = codeHash ∧ input.candidate = candidate ∧ system.Unused [input.eventId] then
        match startRecovery input system.toTables with
        | .ok (true, tables) =>
          some (system.close call [input.eventId] (.started input.codeId input.setId) tables)
        | .ok (false, tables) => some (system.close call [input.eventId] .other tables)
        | .error _ => some (system.close call [input.eventId] .other system.toTables)
      else none
    | _ => none
  | .requestOptions call tokenHash now =>
    match system.calls call, recoverySession tokenHash now system.toTables with
    | none, some session =>
      some ({ outcome := .other, revokedSetIds := [] }, system.setCall call (.offering session now))
    | _, _ => none
  | .storeChallenge call challengeId challenge =>
    match system.calls call with
    | some (.offering session now) =>
      match storeChallenge session challengeId challenge now system.toTables with
      | .ok (_, tables) => some (system.close call [] .other tables)
      | .error _ => some (system.close call [] .other system.toTables)
    | _ => none
  | .requestVerify call tokenHash now =>
    match system.calls call, recoverySession tokenHash now system.toTables with
    | none, some session =>
      some ({ outcome := .other, revokedSetIds := [] }, system.setCall call (.verifying session tokenHash now))
    | _, _ => none
  | .takeChallenge call challengeId =>
    match system.calls call with
    | some (.verifying session tokenHash now) =>
      match takeChallenge session tokenHash challengeId now system.toTables with
      | none => some (system.close call [] .other system.toTables)
      | some (_, tables) =>
        let (event, next) := system.write .other tables
        some (event, next.setCall call (.challenged session tokenHash))
    | _ => none
  | .complete call completion =>
    match system.calls call with
    | some (.challenged session tokenHash) =>
      if system.Unused completion.ids then
        match completeRecovery session tokenHash completion system.toTables with
        | .ok (true, tables) =>
          some (system.close call completion.ids (.completed session tokenHash completion) tables)
        | .ok (false, tables) => some (system.close call completion.ids .notCompleted tables)
        | .error _ => some (system.close call completion.ids .notCompleted system.toTables)
      else none
    | _ => none
  | .requestManagement call sessionId userId =>
    match system.calls call, loadManagementSnapshot sessionId userId system.toTables with
    | none, some snapshot =>
      some ({ outcome := .other, revokedSetIds := [] },
        system.setCall call (.managing sessionId userId snapshot))
    | _, _ => none
  | .rotate call eventId setId generated now =>
    match manage stepUpMaxAgeMs system call eventId now with
    | none => none
    | some management =>
      let ids := eventId :: setId :: generated.codes.map Prod.fst
      if system.Unused ids then
        match rotateCodes management setId generated system.toTables with
        | .ok (_, tables) => some (system.close call ids .other tables)
        | .error _ => some (system.close call ids .other system.toTables)
      else none
  | .deleteSet call eventId now =>
    match manage stepUpMaxAgeMs system call eventId now with
    | none => none
    | some management =>
      if management.snapshot.activeSetId ≠ none ∧ system.Unused [eventId] then
        match deleteCodeSet management system.toTables with
        | .ok (_, tables) => some (system.close call [eventId] .other tables)
        | .error _ => some (system.close call [eventId] .other system.toTables)
      else none

def System.Start (system : System) : Prop :=
  system.passkeys = [] ∧ system.codeSets = [] ∧ system.codes = [] ∧ system.recoverySessions = [] ∧
    system.challenges = [] ∧ system.auditEvents = [] ∧ ∀ call, system.calls call = none

def System.empty : System :=
  { users := [], passkeys := [], sessions := [], accessTokens := [], refreshTokens := [], codeSets := []
    codes := [], recoverySessions := [], challenges := [], auditEvents := [], generated := []
    calls := fun _ => none }

theorem System.empty_start : System.empty.Start :=
  ⟨rfl, rfl, rfl, rfl, rfl, rfl, fun _ => rfl⟩

def Step (stepUpMaxAgeMs : Int) (system : System) (event : Event) (next : System) : Prop :=
  ∃ action, perform stepUpMaxAgeMs system action = some (event, next)

abbrev History (stepUpMaxAgeMs : Int) (past : List Event) (system : System) : Prop :=
  Trace System.Start (Step stepUpMaxAgeMs) past system

end pgid.recovery
