import PgidSso.Library.Transition
import PgidSso.Passkey.StepUp

open checked

namespace pgid.passkey

/-- A request between two of its statements. -/
inductive Call where
  /-- A challenge request with a fresh session. -/
  | gated (session : SessionRow)
  | listing (session : SessionRow)
  | issuing (session : SessionRow)
  /-- A verify request with its session. -/
  | verifying (session : SessionRow) (challengeId : Text) (response : AuthenticationResponse)
  | consumed (session : SessionRow) (challengeId challenge : Text) (response : AuthenticationResponse)
  | asserting (session : SessionRow) (challengeId challenge : Text) (response : AuthenticationResponse)
      (passkey : PasskeyRow)
  /-- A verify request with a verified assertion. -/
  | verified (session : SessionRow) (challengeId challenge : Text) (response : AuthenticationResponse)
      (passkey : PasskeyRow) (newCounter : Nat)
  | counted (session : SessionRow) (challengeId challenge : Text) (response : AuthenticationResponse)
      (passkey : PasskeyRow) (newCounter : Nat)
  /-- A verify request whose final batch changed nothing. -/
  | unfinished (session : SessionRow)
  | denied (userId : Text) (reason : StepUpMetadata)
  | finished

structure System extends Tables where
  generated : List Text
  calls : Nat → Option Call

def System.setCall (system : System) (call : Nat) (phase : Call) : System :=
  { system with calls := Function.update system.calls call (some phase) }

theorem setCall_calls {system : System} {call other : Nat} {phase found : Call}
    (hfound : (system.setCall call phase).calls other = some found) :
    (other = call ∧ found = phase) ∨ (other ≠ call ∧ system.calls other = some found) :=
  transition.update_eq_some hfound

inductive Event where
  | issued (challenge : ChallengeRow)
  | consumed (call : Nat) (challengeId challenge sessionId userId : Text) (now : Int)
  | counted (call : Nat) (passkeyId : Text) (stored newCounter : Nat)
  | succeeded (call : Nat) (session : SessionRow) (challengeId challenge : Text)
      (response : AuthenticationResponse) (passkey : PasskeyRow) (newCounter : Nat) (eventId : Text)
      (verifiedAt : Int)
  | other

/-- One atomic step of a request, or of the account around it. -/
inductive Action where
  | signIn (sessionId userId : Text) (now : Int)
  | revokeSession (sessionId : Text)
  | registerPasskey (passkey : PasskeyRow)
  | deletePasskey (passkeyId userId : Text)
  | requestChallenge (call : Nat) (sessionId : Text) (userActive rateLimit : Bool) (now : Int)
  | readState (call : Nat) (maxAgeMs now : Int)
  | listPasskeys (call : Nat)
  | issue (call : Nat) (challengeId challenge : Text) (now : Int)
  | requestVerify (call : Nat) (sessionId : Text) (userActive rateLimit : Bool) (challengeId : Text)
      (response : AuthenticationResponse)
  | consume (call : Nat) (now : Int)
  | readPasskey (call : Nat)
  | assert (call : Nat)
  | updateCounter (call : Nat)
  | finalize (call : Nat) (eventId : Text) (verifiedAt : Int)
  | checkSession (call : Nat)
  | recordDenied (call : Nat) (eventId : Text) (now : Int)

/-- What a step records and where it leads; no result stands for a step that cannot be
taken: a request that is not at this point, or a generated text that is not new. -/
def perform (webAuthn : WebAuthn) (system : System) : Action → Option (Event × System)
  | .signIn sessionId userId now =>
    if sessionId ∈ system.generated then none
    else
      some (.other,
        { system with
          sessions := system.sessions ++ [{ id := sessionId, userId, createdAt := now, passkeyStepUpAt := none }]
          generated := sessionId :: system.generated })
  | .revokeSession sessionId =>
    -- the challenges of the session go with it
    some (.other,
      { system with
        sessions := table.delete (fun row : SessionRow => row.id = sessionId) system.sessions
        challenges := table.delete (fun row : ChallengeRow => row.sessionId = sessionId) system.challenges })
  | .registerPasskey passkey =>
    if passkey.id ∈ system.generated then none
    else
      some (.other,
        { system with
          passkeys := system.passkeys ++ [passkey], generated := passkey.id :: system.generated })
  | .deletePasskey passkeyId userId =>
    some (.other,
      { system with
        passkeys := table.delete (fun row : PasskeyRow => row.id = passkeyId ∧ row.userId = userId)
          system.passkeys })
  | .requestChallenge call sessionId userActive rateLimit now =>
    if system.calls call ≠ none then none
    else
      match system.sessions.find? fun row => row.id = sessionId with
      | none => some (.other, system.setCall call .finished)
      | some session =>
        if userActive = false ∨ sessionIsFresh session.createdAt now = false ∨ rateLimit = false then
          some (.other, system.setCall call .finished)
        else some (.other, system.setCall call (.gated session))
  | .readState call maxAgeMs now =>
    match system.calls call with
    | some (.gated session) =>
      match readPasskeyStepUpState session.id session.userId maxAgeMs now system.toTables with
      | none => some (.other, system.setCall call .finished)
      | some state =>
        if state.hasPasskey = false then
          some (.other, system.setCall call (.denied session.userId .passkeyNotEnrolled))
        else if state.verified then some (.other, system.setCall call .finished)
        else some (.other, system.setCall call (.listing session))
    | _ => none
  | .listPasskeys call =>
    match system.calls call with
    | some (.listing session) =>
      if ∃ row ∈ system.passkeys, row.userId = session.userId then
        some (.other, system.setCall call (.issuing session))
      else some (.other, system.setCall call .finished)
    | _ => none
  | .issue call challengeId challenge now =>
    match system.calls call with
    | some (.issuing session) =>
      if challengeId ∈ system.generated then none
      else
        let row : ChallengeRow :=
          { id := challengeId, sessionId := session.id, userId := session.userId, challenge
            expiresAt := now + PASSKEY_STEP_UP_CHALLENGE_TTL_MS, createdAt := now }
        match issueChallenge row system.toTables with
        | .error _ => some (.other, system.setCall call .finished)
        | .ok tables =>
          some (.issued row,
            { system with toTables := tables, generated := challengeId :: system.generated }.setCall call
              .finished)
    | _ => none
  | .requestVerify call sessionId userActive rateLimit challengeId response =>
    if system.calls call ≠ none then none
    else
      match system.sessions.find? fun row => row.id = sessionId with
      | none => some (.other, system.setCall call .finished)
      | some session =>
        if userActive = false ∨ rateLimit = false then some (.other, system.setCall call .finished)
        else some (.other, system.setCall call (.verifying session challengeId response))
  | .consume call now =>
    match system.calls call with
    | some (.verifying session challengeId response) =>
      match consumeChallenge challengeId session.id session.userId now system.toTables with
      | (none, tables) =>
        some (.other,
          { system with toTables := tables }.setCall call (.denied session.userId .challengeInvalid))
      | (some challenge, tables) =>
        some (.consumed call challengeId challenge session.id session.userId now,
          { system with toTables := tables }.setCall call (.consumed session challengeId challenge response))
    | _ => none
  | .readPasskey call =>
    match system.calls call with
    | some (.consumed session challengeId challenge response) =>
      match readPasskey response.id session.userId system.toTables with
      | none => some (.other, system.setCall call (.denied session.userId .credentialInvalid))
      | some passkey =>
        if webAuthn.decodable passkey.publicKey = false then
          some (.other, system.setCall call (.denied session.userId .credentialInvalid))
        else
          some (.other, system.setCall call (.asserting session challengeId challenge response passkey))
    | _ => none
  | .assert call =>
    match system.calls call with
    | some (.asserting session challengeId challenge response passkey) =>
      match webAuthn.verifyAuthenticationResponse response challenge passkey with
      | none => some (.other, system.setCall call (.denied session.userId .assertionInvalid))
      | some info =>
        if info.verified = false ∨ info.userVerified = false then
          some (.other, system.setCall call (.denied session.userId .userVerificationMissing))
        else
          some (.other,
            system.setCall call (.verified session challengeId challenge response passkey info.newCounter))
    | _ => none
  | .updateCounter call =>
    match system.calls call with
    | some (.verified session challengeId challenge response passkey newCounter) =>
      let (changes, tables) :=
        updateCounter passkey.id session.userId passkey.counter newCounter system.toTables
      if changes = 1 then
        some (.counted call passkey.id passkey.counter newCounter,
          { system with toTables := tables }.setCall call
            (.counted session challengeId challenge response passkey newCounter))
      else
        some (.other,
          { system with toTables := tables }.setCall call (.denied session.userId .counterConflict))
    | _ => none
  | .finalize call eventId verifiedAt =>
    match system.calls call with
    | some (.counted session challengeId challenge response passkey newCounter) =>
      if eventId ∈ system.generated then none
      else
        match finalizeStepUp eventId session.id session.userId passkey.id newCounter verifiedAt
          system.toTables with
        | .error _ => some (.other, system.setCall call .finished)
        | .ok (changes, tables) =>
          let next := { system with toTables := tables, generated := eventId :: system.generated }
          if changes = (1, 1, 0) then
            some (.succeeded call session challengeId challenge response passkey newCounter eventId
              verifiedAt, next.setCall call .finished)
          else if changes = (0, 0, 0) then some (.other, next.setCall call (.unfinished session))
          else if changes.1 = 0 then some (.other, next.setCall call .finished)
          else if changes.2 = (0, 1) then
            some (.other, next.setCall call (.denied session.userId .sessionInvalidated))
          else some (.other, next.setCall call .finished)
    | _ => none
  | .checkSession call =>
    match system.calls call with
    | some (.unfinished session) =>
      if ∃ row ∈ system.sessions, row.Of session.id session.userId then
        some (.other, system.setCall call .finished)
      else some (.other, system.setCall call (.denied session.userId .sessionInvalidated))
    | _ => none
  | .recordDenied call eventId now =>
    match system.calls call with
    | some (.denied userId reason) =>
      if eventId ∈ system.generated then none
      else
        match recordDeniedStepUp eventId userId reason now system.toTables with
        | .error _ => some (.other, system.setCall call .finished)
        | .ok tables =>
          some (.other,
            { system with toTables := tables, generated := eventId :: system.generated }.setCall call
              .finished)
    | _ => none

def System.Start (system : System) : Prop :=
  system.sessions = [] ∧ system.passkeys = [] ∧ system.challenges = [] ∧ system.auditEvents = [] ∧
    system.generated = [] ∧ ∀ call, system.calls call = none

def Step (webAuthn : WebAuthn) (system : System) (event : Event) (next : System) : Prop :=
  ∃ action, perform webAuthn system action = some (event, next)

abbrev History (webAuthn : WebAuthn) (past : List Event) (system : System) : Prop :=
  transition.Trace System.Start (Step webAuthn) past system

def System.empty : System :=
  { sessions := [], passkeys := [], challenges := [], auditEvents := [], generated := []
    calls := fun _ => none }

theorem System.empty_start : System.empty.Start :=
  ⟨rfl, rfl, rfl, rfl, rfl, fun _ => rfl⟩

end pgid.passkey
