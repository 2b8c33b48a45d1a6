import PgidSso.Library.Checked
import PgidSso.Library.Table
import PgidSso.Logout.Durable

open checked

namespace pgid.logout

inductive LogoutReason where
  | accountDelete
  | adminRevoke
  | restrict
  | rpInitiatedLogout
  | selfRevoke
  | signOut
  | suspend
  deriving DecidableEq

inductive DeliveryStatus where
  | pending
  | processing
  | retry
  | delivered
  | dead
  deriving DecidableEq

/-- A row of `logout_delivery`; the instants are in milliseconds. -/
structure LogoutDelivery where
  id : Nat
  deliveryKey : Text
  eventId : Text
  sessionId : Text
  userId : Text
  clientId : Text
  backchannelLogoutUri : Option Text
  reason : LogoutReason
  status : DeliveryStatus
  attempts : Nat
  replayCount : Nat
  jti : Option Text
  nextAttemptAt : Option Int
  leaseId : Option Text
  leaseExpiresAt : Option Int
  deliveredAt : Option Int
  lastErrorCode : Option Text
  createdAt : Int
  updatedAt : Int
  deriving DecidableEq

/-- The `CHECK`s of the table, but for the form of the URI. -/
def LogoutDelivery.Checks (row : LogoutDelivery) : Prop :=
  row.deliveryKey.length = 45 ∧ row.attempts ≤ 5 ∧
    (row.status = .processing → row.leaseId ≠ none ∧ row.leaseExpiresAt ≠ none) ∧
    ((row.status = .pending ∨ row.status = .retry) ↔ row.nextAttemptAt ≠ none) ∧
    (row.status = .delivered ↔ row.deliveredAt ≠ none)

instance (row : LogoutDelivery) : Decidable row.Checks := by
  unfold LogoutDelivery.Checks
  infer_instance

inductive AttemptOutcome where
  | inFlight
  | delivered
  | retry
  | dead
  | leaseExpired
  deriving DecidableEq

/-- A row of `logout_delivery_attempt`. -/
structure LogoutDeliveryAttempt where
  id : Text
  deliveryId : Nat
  replayCount : Nat
  attemptNumber : Nat
  leaseId : Text
  outcome : AttemptOutcome
  resultingStatus : DeliveryStatus
  httpStatus : Option Nat
  errorCode : Option Text
  startedAt : Int
  completedAt : Option Int
  deriving DecidableEq

def LogoutDeliveryAttempt.Checks (row : LogoutDeliveryAttempt) : Prop :=
  (1 ≤ row.attemptNumber ∧ row.attemptNumber ≤ 5) ∧ row.resultingStatus ≠ .pending ∧
    (∀ code ∈ row.httpStatus, 100 ≤ code ∧ code ≤ 599) ∧
    ((row.outcome = .inFlight ∧ row.resultingStatus = .processing ∧ row.httpStatus = none ∧
        row.errorCode = none ∧ row.completedAt = none) ∨
      (row.outcome ≠ .inFlight ∧ row.resultingStatus ≠ .processing ∧ row.completedAt ≠ none)) ∧
    (row.outcome = .delivered → row.resultingStatus = .delivered ∧
      (row.httpStatus = some 200 ∨ row.httpStatus = some 204) ∧ row.errorCode = none) ∧
    (row.outcome = .retry → row.resultingStatus = .retry) ∧
    (row.outcome = .dead → row.resultingStatus = .dead) ∧
    (row.outcome = .leaseExpired → (row.resultingStatus = .retry ∨ row.resultingStatus = .dead) ∧
      row.httpStatus = none ∧ row.errorCode = some (Text.of "lease_expired"))

instance (row : LogoutDeliveryAttempt) : Decidable row.Checks := by
  unfold LogoutDeliveryAttempt.Checks
  infer_instance

structure Tables where
  deliveries : List LogoutDelivery
  attempts : List LogoutDeliveryAttempt
  deriving DecidableEq

/-- The keys, the unique indices and the `CHECK`s of both tables. -/
structure Tables.Constraints (tables : Tables) : Prop where
  ids : (tables.deliveries.map (·.id)).Nodup
  deliveryKeys : (tables.deliveries.map (·.deliveryKey)).Nodup
  events : (tables.deliveries.map fun row => (row.eventId, row.sessionId, row.clientId)).Nodup
  jtis : (tables.deliveries.filterMap (·.jti)).Nodup
  attemptIds : (tables.attempts.map (·.id)).Nodup
  leases : (tables.attempts.map (·.leaseId)).Nodup
  numbers : (tables.attempts.map fun row => (row.deliveryId, row.replayCount, row.attemptNumber)).Nodup
  deliveryChecks : ∀ row ∈ tables.deliveries, row.Checks
  attemptChecks : ∀ row ∈ tables.attempts, row.Checks

theorem Tables.constraints_iff {tables : Tables} : tables.Constraints ↔
    (tables.deliveries.map (·.id)).Nodup ∧ (tables.deliveries.map (·.deliveryKey)).Nodup ∧
      (tables.deliveries.map fun row => (row.eventId, row.sessionId, row.clientId)).Nodup ∧
      (tables.deliveries.filterMap (·.jti)).Nodup ∧ (tables.attempts.map (·.id)).Nodup ∧
      (tables.attempts.map (·.leaseId)).Nodup ∧
      (tables.attempts.map fun row => (row.deliveryId, row.replayCount, row.attemptNumber)).Nodup ∧
      (∀ row ∈ tables.deliveries, row.Checks) ∧ ∀ row ∈ tables.attempts, row.Checks := by
  constructor
  · intro h
    exact ⟨h.ids, h.deliveryKeys, h.events, h.jtis, h.attemptIds, h.leases, h.numbers, h.deliveryChecks,
      h.attemptChecks⟩
  · rintro ⟨hids, hkeys, hevents, hjtis, hattempts, hleases, hnumbers, hdeliveries, hchecks⟩
    exact ⟨hids, hkeys, hevents, hjtis, hattempts, hleases, hnumbers, hdeliveries, hchecks⟩

instance (tables : Tables) : Decidable tables.Constraints :=
  decidable_of_iff _ Tables.constraints_iff.symm

inductive StoreError where
  | constraint
  deriving DecidableEq

/-- A batch that leaves these tables, or fails as a whole. -/
def commit (tables : Tables) : Except StoreError Tables := do
  throwIf (¬ tables.Constraints) .constraint
  return tables

def allChangedExactlyOnce (changes : Nat × Nat) : Bool :=
  changes.1 = 1 && changes.2 = 1

/-- `instant <= now`, false for NULL. -/
def dueBy (instant : Option Int) (now : Int) : Bool :=
  instant.any fun due => due ≤ now

/-- The lease that the recovery of a delivery found expired. -/
structure ExpiredLease where
  id : Nat
  attempts : Nat
  replayCount : Nat
  leaseId : Text
  deriving DecidableEq

def readExpired (deliveryKey : Text) (now : Int) (tables : Tables) : Option ExpiredLease := do
  let row ← tables.deliveries.find? fun row =>
    row.deliveryKey = deliveryKey ∧ row.status = .processing ∧ dueBy row.leaseExpiresAt now
  let leaseId ← row.leaseId
  return { id := row.id, attempts := row.attempts, replayCount := row.replayCount, leaseId }

/-- The running attempt of a delivery under a replay, a number and a lease. -/
def LogoutDeliveryAttempt.Runs (attempt : LogoutDeliveryAttempt) (deliveryId replayCount attemptNumber : Nat)
    (leaseId : Text) : Prop :=
  attempt.deliveryId = deliveryId ∧ attempt.replayCount = replayCount ∧
    attempt.attemptNumber = attemptNumber ∧ attempt.leaseId = leaseId ∧ attempt.outcome = .inFlight

instance (attempt : LogoutDeliveryAttempt) (deliveryId replayCount attemptNumber : Nat) (leaseId : Text) :
    Decidable (attempt.Runs deliveryId replayCount attemptNumber leaseId) := by
  unfold LogoutDeliveryAttempt.Runs
  infer_instance

/-- The same attempt once it has ended. -/
def LogoutDeliveryAttempt.Ended (attempt : LogoutDeliveryAttempt) (deliveryId replayCount attemptNumber : Nat)
    (leaseId : Text) (outcome : AttemptOutcome) (status : DeliveryStatus) (now : Int) : Prop :=
  attempt.deliveryId = deliveryId ∧ attempt.replayCount = replayCount ∧
    attempt.attemptNumber = attemptNumber ∧ attempt.leaseId = leaseId ∧ attempt.outcome = outcome ∧
    attempt.resultingStatus = status ∧ attempt.completedAt = some now

instance (attempt : LogoutDeliveryAttempt) (deliveryId replayCount attemptNumber : Nat) (leaseId : Text)
    (outcome : AttemptOutcome) (status : DeliveryStatus) (now : Int) :
    Decidable (attempt.Ended deliveryId replayCount attemptNumber leaseId outcome status now) := by
  unfold LogoutDeliveryAttempt.Ended
  infer_instance

/-- A delivery that is processed under a replay, a number and a lease. -/
def LogoutDelivery.HeldBy (row : LogoutDelivery) (id replayCount attempts : Nat) (leaseId : Text) : Prop :=
  row.id = id ∧ row.status = .processing ∧ row.leaseId = some leaseId ∧ row.attempts = attempts ∧
    row.replayCount = replayCount

instance (row : LogoutDelivery) (id replayCount attempts : Nat) (leaseId : Text) :
    Decidable (row.HeldBy id replayCount attempts leaseId) := by
  unfold LogoutDelivery.HeldBy
  infer_instance

def ExpiredLeaseDisposition.status : ExpiredLeaseDisposition → DeliveryStatus
  | .dead => .dead
  | .retry => .retry

/-- The batch of a recovery, from the lease that was read. -/
def recoverExpiredLogoutDelivery (deliveryKey : Text) (expired : ExpiredLease) (now : Int) (tables : Tables) :
    Except StoreError ((Nat × Nat) × Tables) := do
  let disposition := selectExpiredLeaseDisposition expired.attempts LOGOUT_DELIVERY_POLICY
  let running := fun attempt : LogoutDeliveryAttempt =>
    attempt.Runs expired.id expired.replayCount expired.attempts expired.leaseId
  let attempts := table.update running
    (fun attempt =>
      { attempt with
        outcome := .leaseExpired
        resultingStatus := disposition.status
        errorCode := some (Text.of "lease_expired")
        completedAt := some now }) tables.attempts
  let recoverable := fun row : LogoutDelivery =>
    row.HeldBy expired.id expired.replayCount expired.attempts expired.leaseId ∧
      row.deliveryKey = deliveryKey ∧ dueBy row.leaseExpiresAt now = true ∧
      ∃ attempt ∈ attempts,
        attempt.Ended expired.id expired.replayCount expired.attempts expired.leaseId .leaseExpired
          disposition.status now
  let deliveries := table.update recoverable
    (fun row =>
      { row with
        status := disposition.status
        nextAttemptAt := if disposition = .retry then some now else none
        leaseId := none
        leaseExpiresAt := none
        lastErrorCode := some
          (if disposition = .retry then Text.of "lease_expired"
           else Text.of "lease_expired_after_max_attempts")
        updatedAt := now }) tables.deliveries
  let next ← commit { deliveries, attempts }
  return (((table.matched running tables.attempts).length,
    (table.matched recoverable tables.deliveries).length), next)

/-- The batch of a claim: a due delivery is leased, and its attempt recorded. -/
def claimLogoutDelivery (deliveryKey leaseId jti attemptId : Text) (now : Int) (tables : Tables) :
    Except StoreError ((Nat × Nat) × Tables) := do
  let claimable := fun row : LogoutDelivery =>
    row.deliveryKey = deliveryKey ∧ row.attempts < LOGOUT_DELIVERY_MAX_ATTEMPTS ∧
      row.backchannelLogoutUri ≠ none ∧ (row.status = .pending ∨ row.status = .retry) ∧
      dueBy row.nextAttemptAt now = true
  let deliveries := table.update claimable
    (fun row =>
      { row with
        status := .processing
        attempts := row.attempts + 1
        jti := some (row.jti.getD jti)
        nextAttemptAt := none
        leaseId := some leaseId
        leaseExpiresAt := some (addIsoSeconds now LOGOUT_DELIVERY_LEASE_SECONDS)
        updatedAt := now }) tables.deliveries
  let leased := table.matched
    (fun row : LogoutDelivery => row.deliveryKey = deliveryKey ∧ row.status = .processing ∧
      row.leaseId = some leaseId ∧ row.updatedAt = now) deliveries
  let started := leased.map fun row : LogoutDelivery =>
    ({ id := attemptId, deliveryId := row.id, replayCount := row.replayCount, attemptNumber := row.attempts
       leaseId, outcome := .inFlight, resultingStatus := .processing, httpStatus := none, errorCode := none
       startedAt := now, completedAt := none } : LogoutDeliveryAttempt)
  let next ← commit { deliveries, attempts := tables.attempts ++ started }
  return (((table.matched claimable tables.deliveries).length, started.length), next)

structure ClaimedLogoutDelivery where
  attempts : Nat
  backchannelLogoutUri : Option Text
  clientId : Text
  deliveryKey : Text
  id : Nat
  jti : Option Text
  leaseId : Text
  replayCount : Nat
  sessionId : Text
  deriving DecidableEq

/-- The read of a claimed delivery, after the claim. -/
def readClaimed (deliveryKey leaseId : Text) (tables : Tables) : Option ClaimedLogoutDelivery := do
  let row ← tables.deliveries.find? fun row =>
    row.deliveryKey = deliveryKey ∧ row.status = .processing ∧ row.leaseId = some leaseId
  return { attempts := row.attempts, backchannelLogoutUri := row.backchannelLogoutUri
           clientId := row.clientId, deliveryKey := row.deliveryKey, id := row.id, jti := row.jti, leaseId
           replayCount := row.replayCount, sessionId := row.sessionId }

/-- The status of a delivery after an attempt. -/
def DeliveryDisposition.status : DeliveryDisposition → DeliveryStatus
  | .dead => .dead
  | .delivered => .delivered
  | .retry _ => .retry

def DeliveryDisposition.outcome : DeliveryDisposition → AttemptOutcome
  | .dead => .dead
  | .delivered => .delivered
  | .retry _ => .retry

def DeliveryDisposition.nextAttemptAt (now : Int) : DeliveryDisposition → Option Int
  | .retry delaySeconds => some (addIsoSeconds now delaySeconds)
  | _ => none

/-- The batch that persists the result of an attempt. -/
def persistAttemptResult (delivery : ClaimedLogoutDelivery) (result : DeliveryAttemptResult) (now : Int)
    (tables : Tables) : Except StoreError ((Nat × Nat) × Tables) := do
  let disposition :=
    selectDeliveryDisposition delivery.attempts result.delivered result.transient LOGOUT_DELIVERY_POLICY
  let running := fun attempt : LogoutDeliveryAttempt =>
    attempt.Runs delivery.id delivery.replayCount delivery.attempts delivery.leaseId ∧
      ∃ row ∈ tables.deliveries,
        row.HeldBy delivery.id delivery.replayCount delivery.attempts delivery.leaseId
  let attempts := table.update running
    (fun attempt =>
      { attempt with
        outcome := disposition.outcome
        resultingStatus := disposition.status
        httpStatus := result.httpStatus
        errorCode := result.errorCode
        completedAt := some now }) tables.attempts
  let held := fun row : LogoutDelivery =>
    row.HeldBy delivery.id delivery.replayCount delivery.attempts delivery.leaseId ∧
      ∃ attempt ∈ attempts,
        attempt.Ended delivery.id delivery.replayCount delivery.attempts delivery.leaseId
          disposition.outcome disposition.status now
  let deliveries := table.update held
    (fun row =>
      { row with
        status := disposition.status
        nextAttemptAt := disposition.nextAttemptAt now
        leaseId := none
        leaseExpiresAt := none
        deliveredAt := if disposition.status = .delivered then some now else none
        lastErrorCode := result.errorCode
        updatedAt := now }) tables.deliveries
  let next ← commit { deliveries, attempts }
  return (((table.matched running tables.attempts).length,
    (table.matched held tables.deliveries).length), next)

/-- What the replay of an administrator reads: the delivery, and the endpoint that its
client has now. -/
structure ReplayRow where
  deliveryKey : Text
  backchannelLogoutUri : Option Text
  status : DeliveryStatus
  replayCount : Nat
  currentBackchannelLogoutUri : Option Text
  deriving DecidableEq

def readReplay (deliveryKey : Text) (currentBackchannelLogoutUri : Option Text) (tables : Tables) :
    Option ReplayRow := do
  let row ← tables.deliveries.find? fun row => row.deliveryKey = deliveryKey
  return { deliveryKey := row.deliveryKey, backchannelLogoutUri := row.backchannelLogoutUri
           status := row.status, replayCount := row.replayCount, currentBackchannelLogoutUri }

inductive ReplayError where
  | deliveryNotReplayable
  | backchannelLogoutUriRequired
  deriving DecidableEq

/-- The checks before the batch of a replay, and the endpoint that it is going to write. -/
def checkReplay (row : ReplayRow) : Except ReplayError Text := do
  throwIf (row.status ≠ .dead ∧ row.status ≠ .retry) .deliveryNotReplayable
  match row.backchannelLogoutUri.or row.currentBackchannelLogoutUri with
  | none => throw .backchannelLogoutUriRequired
  | some endpoint => return endpoint

def replayLogoutDelivery (row : ReplayRow) (endpoint : Text) (now : Int) (tables : Tables) :
    Except StoreError (Nat × Tables) := do
  let replayable := fun delivery : LogoutDelivery =>
    delivery.deliveryKey = row.deliveryKey ∧ (delivery.status = .dead ∨ delivery.status = .retry) ∧
      delivery.replayCount = row.replayCount
  let deliveries := table.update replayable
    (fun delivery =>
      { delivery with
        backchannelLogoutUri := some endpoint
        status := .pending
        attempts := 0
        replayCount := row.replayCount + 1
        nextAttemptAt := some now
        leaseId := none
        leaseExpiresAt := none
        deliveredAt := none
        lastErrorCode := none
        updatedAt := now }) tables.deliveries
  let next ← commit { tables with deliveries }
  return ((table.matched replayable tables.deliveries).length, next)

/-- A visited relying party of a session that is revoked, with its endpoint. -/
structure OutboxVisit where
  sessionId : Text
  userId : Text
  clientId : Text
  backchannelLogoutUri : Option Text
  deriving DecidableEq

/-- The delivery of a visit, by its number among the visits of a revocation. -/
def outboxDelivery (deliveryKeyPrefix eventId : Text) (reason : LogoutReason) (now : Int) (id number : Nat)
    (visit : OutboxVisit) : LogoutDelivery :=
  { id
    deliveryKey := deliveryKeyPrefix ++ Text.of "-" ++ Text.padStart 8 (Text.hexadecimal number)
    eventId
    sessionId := visit.sessionId
    userId := visit.userId
    clientId := visit.clientId
    backchannelLogoutUri := visit.backchannelLogoutUri
    reason
    status := if visit.backchannelLogoutUri = none then .dead else .pending
    attempts := 0
    replayCount := 0
    jti := none
    nextAttemptAt := if visit.backchannelLogoutUri = none then none else some now
    leaseId := none
    leaseExpiresAt := none
    deliveredAt := none
    lastErrorCode :=
      if visit.backchannelLogoutUri = none then some (Text.of "missing_backchannel_uri") else none
    createdAt := now
    updatedAt := now }

/-- `INSERT … ON CONFLICT (event_id, session_id, client_id) DO NOTHING`. -/
def insertDelivery (delivery : LogoutDelivery) (deliveries : List LogoutDelivery) : List LogoutDelivery :=
  if ∃ row ∈ deliveries, row.eventId = delivery.eventId ∧ row.sessionId = delivery.sessionId ∧
      row.clientId = delivery.clientId then deliveries
  else deliveries ++ [delivery]

/-- The outbox of a revocation, for visits in the order of session and client. The ids
follow those that the table has given. -/
def insertOutbox (deliveryKeyPrefix eventId : Text) (reason : LogoutReason) (now : Int)
    (visits : List OutboxVisit) (deliveries : List LogoutDelivery) : List LogoutDelivery :=
  visits.zipIdx.foldl
    (fun rows visit =>
      insertDelivery
        (outboxDelivery deliveryKeyPrefix eventId reason now (rows.length + 1) (visit.2 + 1) visit.1) rows)
    deliveries

end pgid.logout
