import PgidSso.Library.Transition
import PgidSso.Logout.Delivery

open checked

namespace pgid.logout

/-- A call between two of its statements. -/
inductive Call where
  /-- A worker that read an expired lease. -/
  | recovering (deliveryKey : Text) (expired : ExpiredLease) (now : Int)
  /-- A recovery that did not change both rows. -/
  | rechecking (deliveryKey : Text) (expired : ExpiredLease) (now : Int)
  /-- A worker about to claim. -/
  | claiming (deliveryKey : Text)
  | claimed (deliveryKey leaseId : Text)
  /-- A worker that posts a logout token. -/
  | delivering (delivery : ClaimedLogoutDelivery)
  /-- An administrator past the checks of a replay. -/
  | replaying (row : ReplayRow) (endpoint : Text)
  | finished

structure System extends Tables where
  calls : Nat → Option Call

def System.setCall (system : System) (call : Nat) (phase : Call) : System :=
  { system with calls := Function.update system.calls call (some phase) }

theorem setCall_calls {system : System} {call other : Nat} {phase found : Call}
    (hfound : (system.setCall call phase).calls other = some found) :
    (other = call ∧ found = phase) ∨ (other ≠ call ∧ system.calls other = some found) :=
  transition.update_eq_some hfound

/-- One atomic step of a call. -/
inductive Action where
  | enqueue (deliveryKeyPrefix eventId : Text) (reason : LogoutReason) (visits : List OutboxVisit) (now : Int)
  | readExpired (call : Nat) (deliveryKey : Text) (now : Int)
  | recover (call : Nat)
  | recheck (call : Nat)
  | claim (call : Nat) (leaseId jti attemptId : Text) (now : Int)
  | readClaimed (call : Nat)
  | persist (call : Nat) (response : LogoutResponse) (now : Int)
  | readReplay (call : Nat) (deliveryKey : Text) (currentBackchannelLogoutUri : Option Text)
  | replay (call : Nat) (now : Int)

/-- Where a step leads; none stands for a call that is not at this point. -/
def perform (system : System) : Action → Option System
  | .enqueue deliveryKeyPrefix eventId reason visits now =>
    match commit { system.toTables with
      deliveries := insertOutbox deliveryKeyPrefix eventId reason now visits system.deliveries } with
    | .error _ => some system
    | .ok tables => some { system with toTables := tables }
  | .readExpired call deliveryKey now =>
    if system.calls call ≠ none then none
    else
      match readExpired deliveryKey now system.toTables with
      | none => some (system.setCall call (.claiming deliveryKey))
      | some expired => some (system.setCall call (.recovering deliveryKey expired now))
  | .recover call =>
    match system.calls call with
    | some (.recovering deliveryKey expired now) =>
      match recoverExpiredLogoutDelivery deliveryKey expired now system.toTables with
      | .error _ => some (system.setCall call .finished)
      | .ok (changes, tables) =>
        let phase : Call :=
          if allChangedExactlyOnce changes then .claiming deliveryKey
          else .rechecking deliveryKey expired now
        some ({ system with toTables := tables }.setCall call phase)
    | _ => none
  | .recheck call =>
    match system.calls call with
    | some (.rechecking deliveryKey expired now) =>
      if ∃ row ∈ system.deliveries, row.id = expired.id ∧ row.status = .processing ∧
          row.leaseId = some expired.leaseId ∧ dueBy row.leaseExpiresAt now = true then
        some (system.setCall call .finished)
      else some (system.setCall call (.claiming deliveryKey))
    | _ => none
  | .claim call leaseId jti attemptId now =>
    match system.calls call with
    | some (.claiming deliveryKey) =>
      match claimLogoutDelivery deliveryKey leaseId jti attemptId now system.toTables with
      | .error _ => some (system.setCall call .finished)
      | .ok (changes, tables) =>
        let phase : Call :=
          if allChangedExactlyOnce changes then .claimed deliveryKey leaseId else .finished
        some ({ system with toTables := tables }.setCall call phase)
    | _ => none
  | .readClaimed call =>
    match system.calls call with
    | some (.claimed deliveryKey leaseId) =>
      match readClaimed deliveryKey leaseId system.toTables with
      | none => some (system.setCall call .finished)
      | some delivery => some (system.setCall call (.delivering delivery))
    | _ => none
  | .persist call response now =>
    match system.calls call with
    | some (.delivering delivery) =>
      match persistAttemptResult delivery (postLogoutToken response) now system.toTables with
      | .error _ => some (system.setCall call .finished)
      | .ok (_, tables) => some ({ system with toTables := tables }.setCall call .finished)
    | _ => none
  | .readReplay call deliveryKey currentBackchannelLogoutUri =>
    if system.calls call ≠ none then none
    else
      match readReplay deliveryKey currentBackchannelLogoutUri system.toTables with
      | none => some (system.setCall call .finished)
      | some row =>
        match checkReplay row with
        | .error _ => some (system.setCall call .finished)
        | .ok endpoint => some (system.setCall call (.replaying row endpoint))
  | .replay call now =>
    match system.calls call with
    | some (.replaying row endpoint) =>
      match replayLogoutDelivery row endpoint now system.toTables with
      | .error _ => some (system.setCall call .finished)
      | .ok (_, tables) => some ({ system with toTables := tables }.setCall call .finished)
    | _ => none

def System.Start (system : System) : Prop :=
  system.deliveries = [] ∧ system.attempts = [] ∧ ∀ call, system.calls call = none

def System.empty : System :=
  { deliveries := [], attempts := [], calls := fun _ => none }

theorem System.empty_start : System.empty.Start :=
  ⟨rfl, rfl, fun _ => rfl⟩

def Step (system : System) (action : Action) (next : System) : Prop :=
  perform system action = some next

/-- The histories of the deliveries, by the steps that were taken. -/
abbrev History (past : List Action) (system : System) : Prop :=
  transition.Trace System.Start Step past system

end pgid.logout
