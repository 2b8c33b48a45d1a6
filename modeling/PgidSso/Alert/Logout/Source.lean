import Mathlib.Data.List.MinMax
import PgidSso.Alert.Runtime.Source
import PgidSso.Library.Dictionary
import PgidSso.Library.Group
import PgidSso.Library.Text
import PgidSso.Logout.Delivery

open checked
open pgid.logout (DeliveryStatus AttemptOutcome)

namespace pgid.alert.logout

inductive AlertLogoutSourceEnvironment where
  | local
  | preview
  | production
  deriving DecidableEq

inductive AlertLogoutSourceRepositoryErrorCode where
  | invalidInput
  | sourceInvalid
  | sourceUnavailable
  deriving DecidableEq

/-- A computation that may `fail` with a code. -/
abbrev Fallible (T : Type) := Except AlertLogoutSourceRepositoryErrorCode T

structure LogoutDeliveryAlertObservation where
  asOf : Timestamp
  dimension : AlertDimension
  current : LogoutDeliveryCurrentSnapshot
  windows : Windowed LogoutDeliveryWindowMetrics
  deriving DecidableEq

structure ReadLogoutDeliveryAlertSourceInput where
  asOf : Timestamp
  environment : AlertLogoutSourceEnvironment
  hmacKeyBase64Url : Option String

structure LogoutDeliveryAlertSourceResult where
  incomplete : List IncompleteAlertSource
  observations : List LogoutDeliveryAlertObservation
  deriving DecidableEq

def MAX_EVIDENCE_COUNT : Int := 1000000000

def MAX_RATIO_COUNT : Int := 1000000

def MAX_DIMENSION_GROUPS : Nat := 1000

def DIMENSION_QUERY_LIMIT : Nat := MAX_DIMENSION_GROUPS + 1

def WINDOW_KEYS : List AlertWindowKey := [.w5m, .w15m, .w60m]

def ELIGIBLE_STATUSES : List DeliveryStatus := [.pending, .processing, .retry, .delivered, .dead]

def UNRESOLVED_STATUSES : List DeliveryStatus := [.pending, .processing, .retry, .dead]

section rows

/-- A timestamp column: the canonical text of an instant of a four-digit year, or any other
value. -/
inductive StoredTimestamp where
  | canonical (instant : Timestamp) (fourDigit : instant.FourDigitYear)
  | malformed
  deriving DecidableEq

def StoredTimestamp.instant : StoredTimestamp → Option Timestamp
  | .canonical instant _ => some instant
  | .malformed => none

/-- `stored < bound`, as texts: the sign of an extended year sorts before the digits of a stored
one. -/
def TextBefore (stored bound : Timestamp) : Prop :=
  bound.FourDigitYear ∧ stored < bound

instance (stored bound : Timestamp) : Decidable (TextBefore stored bound) :=
  inferInstanceAs (Decidable (_ ∧ _))

/-- The columns of `logout_delivery` that the source reads. -/
structure LogoutDelivery where
  id : Nat
  clientId : Text
  status : DeliveryStatus
  createdAt : StoredTimestamp
  deriving DecidableEq

/-- The columns of `logout_delivery_attempt` that the source reads. -/
structure LogoutDeliveryAttempt where
  deliveryId : Nat
  outcome : AttemptOutcome
  completedAt : Option StoredTimestamp
  deriving DecidableEq

/-- The columns of `alert_state` that the source reads. -/
structure AlertStateRow where
  environment : AlertLogoutSourceEnvironment
  ruleId : AlertRuleId
  sourceKind : AlertSourceKind
  subjectRef : Option String
  hashVersion : Int
  currentSeverity : AlertSeverity
  breachSeverity : Option ActiveAlertSeverity
  consecutiveBreaches : Nat
  consecutiveClears : Nat
  cooldownUntil : Option Timestamp

/-- The row of `alert_hash_key_sentinel`. -/
structure AlertHashKeySentinel where
  domain : String
  fingerprintRef : String
  hashVersion : Int

/-- What one batch reads. The key of `logout_delivery` and the reference to it are those of the
schema. -/
structure LogoutSource where
  sentinel : Option AlertHashKeySentinel
  states : List AlertStateRow
  deliveries : List LogoutDelivery
  attempts : List LogoutDeliveryAttempt
  deliveryIds : (deliveries.map (·.id)).Nodup
  attemptDeliveries : ∀ attempt ∈ attempts, ∃ delivery ∈ deliveries, delivery.id = attempt.deliveryId

end rows

section queries

/-- The columns of the timestamp queries name canonical texts only: the source answers nothing from
them while any stored timestamp is malformed. -/
def instants (stored : List StoredTimestamp) : List Timestamp :=
  stored.filterMap StoredTimestamp.instant

/-- `min(column)`. -/
def oldest (stored : List StoredTimestamp) : Option Timestamp :=
  letI : Preorder Int := Int.instLinearOrder.toPreorder
  (instants stored).argmin (·.ms)

/-- `max(column)`. -/
def newest (stored : List StoredTimestamp) : Option Timestamp :=
  letI : Preorder Int := Int.instLinearOrder.toPreorder
  (instants stored).argmax (·.ms)

/-- `column < bound`. -/
def StoredBefore (stored : StoredTimestamp) (bound : Timestamp) : Prop :=
  ∃ instant ∈ stored.instant, TextBefore instant bound

/-- `column >= bound`. -/
def StoredFrom (stored : StoredTimestamp) (bound : Timestamp) : Prop :=
  ∃ instant ∈ stored.instant, ¬ TextBefore instant bound

instance (stored : StoredTimestamp) (bound : Timestamp) : Decidable (StoredBefore stored bound) :=
  Option.decidableExistsMem _

instance (stored : StoredTimestamp) (bound : Timestamp) : Decidable (StoredFrom stored bound) :=
  Option.decidableExistsMem _

def TRACKED_LIFECYCLE_PREDICATE (row : AlertStateRow) : Prop :=
  row.sourceKind = .d1Exact ∧ row.subjectRef ≠ none ∧
    (row.currentSeverity ≠ .none ∨ row.breachSeverity ≠ none ∨ row.consecutiveBreaches > 0 ∨
      row.consecutiveClears > 0 ∨ row.cooldownUntil ≠ none)

instance (row : AlertStateRow) : Decidable (TRACKED_LIFECYCLE_PREDICATE row) := by
  unfold TRACKED_LIFECYCLE_PREDICATE
  infer_instance

def ALERT_LOGOUT_TRACKED_DIMENSIONS_QUERY (source : LogoutSource) (environment : AlertLogoutSourceEnvironment) :
    List HashedAlertReference :=
  let rows := source.states.filter fun row =>
    row.environment = environment ∧ row.ruleId = .logoutDeliveryHealth ∧ TRACKED_LIFECYCLE_PREDICATE row
  let references := rows.filterMap fun row =>
    row.subjectRef.map fun value => { keyVersion := row.hashVersion, value }
  (references.mergeSort fun left right => decide (left.value ≤ right.value)).take DIMENSION_QUERY_LIMIT

structure TimestampIntegrity where
  invalidDeliveryTimestampPresent : Bool
  invalidAttemptTimestampPresent : Bool

def ALERT_LOGOUT_TIMESTAMP_INTEGRITY_QUERY (source : LogoutSource) : TimestampIntegrity where
  invalidDeliveryTimestampPresent := source.deliveries.any fun row => row.createdAt = .malformed
  invalidAttemptTimestampPresent := source.attempts.any fun row => row.completedAt = some .malformed

structure CurrentProjection where
  currentUnresolved : Nat
  currentDead : Nat
  oldestUnresolvedCreatedAt : Option Timestamp
  newestUnresolvedCreatedAt : Option Timestamp
  invalidCreatedAtCount : Nat
  deriving DecidableEq

def CURRENT_PROJECTION (rows : List LogoutDelivery) : CurrentProjection where
  currentUnresolved := rows.length
  currentDead := rows.countP fun row => row.status = .dead
  oldestUnresolvedCreatedAt := oldest (rows.map (·.createdAt))
  newestUnresolvedCreatedAt := newest (rows.map (·.createdAt))
  invalidCreatedAtCount := rows.countP fun row => row.createdAt = .malformed

/-- The order of texts by their bytes. -/
def bytesPrecede (left right : Text) : Bool :=
  decide (Text.encode left ≤ Text.encode right)

/-- `GROUP BY client_id ORDER BY client_id LIMIT …`. -/
def clientGroups {T : Type} (clientId : T → Text) (rows : List T) : List (Text × List T) :=
  (sql.groups bytesPrecede clientId rows).take DIMENSION_QUERY_LIMIT

def currentRows (source : LogoutSource) (asOf : Timestamp) : List LogoutDelivery :=
  source.deliveries.filter fun row => row.status ∈ UNRESOLVED_STATUSES ∧ StoredBefore row.createdAt asOf

def ALERT_LOGOUT_CURRENT_GLOBAL_QUERY (source : LogoutSource) (asOf : Timestamp) : CurrentProjection :=
  CURRENT_PROJECTION (currentRows source asOf)

def ALERT_LOGOUT_CURRENT_CLIENT_QUERY (source : LogoutSource) (asOf : Timestamp) :
    List (Text × CurrentProjection) :=
  (clientGroups (·.clientId) (currentRows source asOf)).map (Prod.map id CURRENT_PROJECTION)

structure DeliveryWindowProjection where
  eligible : Windowed Nat
  unresolved : Windowed Nat
  oldestCreatedAt : Option Timestamp
  newestCreatedAt : Option Timestamp
  invalidCreatedAtCount : Nat
  deriving DecidableEq

def DELIVERY_WINDOW_PROJECTION (starts : Windowed Timestamp) (rows : List LogoutDelivery) :
    DeliveryWindowProjection where
  eligible :=
    { w5m := rows.countP fun row => StoredFrom row.createdAt starts.w5m
      w15m := rows.countP fun row => StoredFrom row.createdAt starts.w15m
      w60m := rows.length }
  unresolved :=
    { w5m := rows.countP fun row => StoredFrom row.createdAt starts.w5m ∧ row.status ∈ UNRESOLVED_STATUSES
      w15m := rows.countP fun row => StoredFrom row.createdAt starts.w15m ∧ row.status ∈ UNRESOLVED_STATUSES
      w60m := rows.countP fun row => row.status ∈ UNRESOLVED_STATUSES }
  oldestCreatedAt := oldest (rows.map (·.createdAt))
  newestCreatedAt := newest (rows.map (·.createdAt))
  invalidCreatedAtCount := rows.countP fun row => row.createdAt = .malformed

def deliveryRows (source : LogoutSource) (starts : Windowed Timestamp) (asOf : Timestamp) : List LogoutDelivery :=
  source.deliveries.filter fun row =>
    StoredFrom row.createdAt starts.w60m ∧ StoredBefore row.createdAt asOf ∧ row.status ∈ ELIGIBLE_STATUSES

def ALERT_LOGOUT_DELIVERY_GLOBAL_QUERY (source : LogoutSource) (starts : Windowed Timestamp) (asOf : Timestamp) :
    DeliveryWindowProjection :=
  DELIVERY_WINDOW_PROJECTION starts (deliveryRows source starts asOf)

def ALERT_LOGOUT_DELIVERY_CLIENT_QUERY (source : LogoutSource) (starts : Windowed Timestamp) (asOf : Timestamp) :
    List (Text × DeliveryWindowProjection) :=
  (clientGroups (·.clientId) (deliveryRows source starts asOf)).map
    (Prod.map id (DELIVERY_WINDOW_PROJECTION starts))

structure LeaseWindowProjection where
  leaseExpired : Windowed Nat
  oldestCompletedAt : Option Timestamp
  newestCompletedAt : Option Timestamp
  invalidCompletedAtCount : Nat
  deriving DecidableEq

def CompletedFrom (row : LogoutDeliveryAttempt) (bound : Timestamp) : Prop :=
  ∃ completedAt ∈ row.completedAt, StoredFrom completedAt bound

def CompletedBefore (row : LogoutDeliveryAttempt) (bound : Timestamp) : Prop :=
  ∃ completedAt ∈ row.completedAt, StoredBefore completedAt bound

instance (row : LogoutDeliveryAttempt) (bound : Timestamp) : Decidable (CompletedFrom row bound) :=
  Option.decidableExistsMem _

instance (row : LogoutDeliveryAttempt) (bound : Timestamp) : Decidable (CompletedBefore row bound) :=
  Option.decidableExistsMem _

def LEASE_WINDOW_PROJECTION (starts : Windowed Timestamp) (rows : List LogoutDeliveryAttempt) :
    LeaseWindowProjection where
  leaseExpired :=
    { w5m := rows.countP fun row => CompletedFrom row starts.w5m
      w15m := rows.countP fun row => CompletedFrom row starts.w15m
      w60m := rows.length }
  oldestCompletedAt := oldest (rows.filterMap (·.completedAt))
  newestCompletedAt := newest (rows.filterMap (·.completedAt))
  invalidCompletedAtCount := rows.countP fun row => row.completedAt = some .malformed

def LeaseExpiredWithin (starts : Windowed Timestamp) (asOf : Timestamp) (row : LogoutDeliveryAttempt) : Prop :=
  CompletedFrom row starts.w60m ∧ CompletedBefore row asOf ∧ row.outcome = .leaseExpired

instance (starts : Windowed Timestamp) (asOf : Timestamp) (row : LogoutDeliveryAttempt) :
    Decidable (LeaseExpiredWithin starts asOf row) :=
  inferInstanceAs (Decidable (_ ∧ _))

def ALERT_LOGOUT_LEASE_GLOBAL_QUERY (source : LogoutSource) (starts : Windowed Timestamp) (asOf : Timestamp) :
    LeaseWindowProjection :=
  LEASE_WINDOW_PROJECTION starts (source.attempts.filter fun row => LeaseExpiredWithin starts asOf row)

/-- `logout_delivery_attempt JOIN logout_delivery ON delivery.id = attempt.delivery_id`. -/
def joinedAttempts (source : LogoutSource) : List (LogoutDelivery × LogoutDeliveryAttempt) :=
  source.attempts.flatMap fun attempt =>
    (source.deliveries.filter fun delivery => delivery.id = attempt.deliveryId).map fun delivery =>
      (delivery, attempt)

def ALERT_LOGOUT_LEASE_CLIENT_QUERY (source : LogoutSource) (starts : Windowed Timestamp) (asOf : Timestamp) :
    List (Text × LeaseWindowProjection) :=
  (clientGroups (fun joined => joined.1.clientId)
    ((joinedAttempts source).filter fun joined => LeaseExpiredWithin starts asOf joined.2)).map
      (Prod.map id fun rows => LEASE_WINDOW_PROJECTION starts (rows.map Prod.snd))

end queries

section parsers

structure ParsedDeliveryWindows where
  eligible : Windowed Int
  unresolved : Windowed Int
  deriving DecidableEq

/-- `null` when the count is over its maximum. -/
def sourceCount (value : Nat) (maximum : Int) : Fallible (Option Int) := do
  throwIf (MAX_SAFE_INTEGER < value) .sourceInvalid
  return if maximum < value then none else some value

def sourceCounts (values : Windowed Nat) (maximum : Int) : Fallible (Windowed (Option Int)) := do
  return { w5m := ← sourceCount values.w5m maximum
           w15m := ← sourceCount values.w15m maximum
           w60m := ← sourceCount values.w60m maximum }

/-- The counts, unless one of them is `null`. -/
def knownCounts (values : Windowed (Option Int)) : Option (Windowed Int) := do
  return { w5m := ← values.w5m, w15m := ← values.w15m, w60m := ← values.w60m }

def nondecreasing (values : Windowed Int) : Prop :=
  values.w5m ≤ values.w15m ∧ values.w15m ≤ values.w60m

instance (values : Windowed Int) : Decidable (nondecreasing values) :=
  inferInstanceAs (Decidable (_ ∧ _))

/-- `"0000-01-01T00:00:00.000Z"`. -/
def FIRST_TIMESTAMP : Timestamp :=
  ⟨-62167219200000, by decide⟩

structure TimestampRange where
  newest : Option Timestamp
  oldest : Option Timestamp

/-- No caller includes the end of the range. -/
def timestampRange (oldest newest : Option Timestamp) (count : Int) (startInclusive endExclusive : Timestamp) :
    Fallible TimestampRange :=
  if count = 0 then do
    throwIf (oldest ≠ none ∨ newest ≠ none) .sourceInvalid
    return { newest := none, oldest := none }
  else
    match oldest, newest with
    | some oldest, some newest => do
      throwIf (TextBefore oldest startInclusive ∨ newest < oldest ∨ ¬ TextBefore newest endExclusive) .sourceInvalid
      return { newest := some newest, oldest := some oldest }
    | _, _ => .error .sourceInvalid

def parseCurrentSnapshot (row : CurrentProjection) (asOf : Timestamp) :
    Fallible (Option LogoutDeliveryCurrentSnapshot) := do
  let currentUnresolved ← sourceCount row.currentUnresolved MAX_EVIDENCE_COUNT
  let currentDead ← sourceCount row.currentDead MAX_EVIDENCE_COUNT
  let invalidTimestampCount ← sourceCount row.invalidCreatedAtCount MAX_EVIDENCE_COUNT
  match currentUnresolved, currentDead, invalidTimestampCount with
  | some currentUnresolved, some currentDead, some invalidTimestampCount => do
    throwIf (invalidTimestampCount ≠ 0 ∨ currentDead > currentUnresolved) .sourceInvalid
    let range ← timestampRange row.oldestUnresolvedCreatedAt row.newestUnresolvedCreatedAt currentUnresolved
      FIRST_TIMESTAMP asOf
    match range.oldest with
    | none => return some { currentDead, currentUnresolved, oldestUnresolvedAgeSeconds := none }
    | some oldest =>
      let age := (asOf.ms - oldest.ms) / 1000
      if age < 0 ∨ MAX_EVIDENCE_COUNT < age then return none
      else return some { currentDead, currentUnresolved, oldestUnresolvedAgeSeconds := some age }
  | _, _, _ => return none

/-- A window has rows exactly when the newest one stands in it. -/
def windowsAgree (counts : Windowed Int) (newest : Option Timestamp) (starts : Windowed Timestamp) : Prop :=
  ∀ window ∈ WINDOW_KEYS, counts.at window > 0 ↔ ∃ last ∈ newest, ¬ TextBefore last (starts.at window)

instance (counts : Windowed Int) (newest : Option Timestamp) (starts : Windowed Timestamp) :
    Decidable (windowsAgree counts newest starts) := by
  unfold windowsAgree
  infer_instance

def parseDeliveryWindows (row : DeliveryWindowProjection) (starts : Windowed Timestamp) (asOf : Timestamp) :
    Fallible (Option ParsedDeliveryWindows) := do
  let eligibleValues ← sourceCounts row.eligible MAX_RATIO_COUNT
  let unresolvedValues ← sourceCounts row.unresolved MAX_RATIO_COUNT
  let invalidTimestampCount ← sourceCount row.invalidCreatedAtCount MAX_EVIDENCE_COUNT
  match knownCounts eligibleValues, knownCounts unresolvedValues, invalidTimestampCount with
  | some eligible, some unresolved, some invalidTimestampCount => do
    throwIf
      (invalidTimestampCount ≠ 0 ∨ ¬ nondecreasing eligible ∨ ¬ nondecreasing unresolved ∨
        ∃ window ∈ WINDOW_KEYS, unresolved.at window > eligible.at window)
      .sourceInvalid
    let range ← timestampRange row.oldestCreatedAt row.newestCreatedAt eligible.w60m starts.w60m asOf
    throwIf (¬ windowsAgree eligible range.newest starts) .sourceInvalid
    return some { eligible, unresolved }
  | _, _, _ => return none

def parseLeaseWindows (row : LeaseWindowProjection) (starts : Windowed Timestamp) (asOf : Timestamp) :
    Fallible (Option (Windowed Int)) := do
  let values ← sourceCounts row.leaseExpired MAX_EVIDENCE_COUNT
  let invalidTimestampCount ← sourceCount row.invalidCompletedAtCount MAX_EVIDENCE_COUNT
  match knownCounts values, invalidTimestampCount with
  | some counts, some invalidTimestampCount => do
    throwIf (invalidTimestampCount ≠ 0 ∨ ¬ nondecreasing counts) .sourceInvalid
    let range ← timestampRange row.oldestCompletedAt row.newestCompletedAt counts.w60m starts.w60m asOf
    throwIf (¬ windowsAgree counts range.newest starts) .sourceInvalid
    return some counts
  | _, _ => return none

def isHashedAlertReference (reference : HashedAlertReference) : Bool :=
  (parseHashedReference reference).toOption.isSome

def parseTrackedReferences (rows : List HashedAlertReference) : Fallible (Option (List String)) :=
  if rows.length > MAX_DIMENSION_GROUPS then .ok none
  else do
    throwIf (∃ row ∈ rows, isHashedAlertReference row = false) .sourceInvalid
    return some (rows.map (·.value)).eraseDups

def requiredRawIdentity (value : Text) : Fallible Text := do
  throwIf (value.length < 1 ∨ 512 < value.length) .sourceInvalid
  return value

variable {R T : Type}

def parseClientEntries (parser : R → Fallible (Option T)) :
    List (Text × R) → Dictionary Text T → Fallible (Option (Dictionary Text T))
  | [], parsed => .ok (some parsed)
  | (value, row) :: rows, parsed => do
    let clientId ← requiredRawIdentity value
    throwIf (clientId ∈ parsed.keys) .sourceInvalid
    match ← parser row with
    | none => return none
    | some metrics => parseClientEntries parser rows (parsed.set clientId metrics)

def parseClientRows (rows : List (Text × R)) (parser : R → Fallible (Option T)) :
    Fallible (Option (Dictionary Text T)) :=
  if rows.length > MAX_DIMENSION_GROUPS then .ok none else parseClientEntries parser rows .empty

/-- A parser of a client's row, which has something to count. -/
def nonempty (parser : R → Fallible (Option T)) (count : T → Int) (row : R) : Fallible (Option T) := do
  let parsed ← parser row
  throwIf (∃ metrics ∈ parsed, count metrics = 0) .sourceInvalid
  return parsed

end parsers

section observations

def emptyCurrent : LogoutDeliveryCurrentSnapshot where
  currentDead := 0
  currentUnresolved := 0
  oldestUnresolvedAgeSeconds := none

def emptyDeliveryWindows : ParsedDeliveryWindows where
  eligible := ⟨0, 0, 0⟩
  unresolved := ⟨0, 0, 0⟩

def emptyLeaseWindows : Windowed Int :=
  ⟨0, 0, 0⟩

def asLogoutObservation (value : AlertObservationInput) : Fallible LogoutDeliveryAlertObservation :=
  match parseAlertObservation value with
  | .ok ⟨asOf, dimension, .logoutDeliveryHealth, .logout current windows⟩ =>
    .ok { asOf, dimension, current, windows }
  | _ => .error .sourceInvalid

def windowMetrics (delivery : ParsedDeliveryWindows) (leaseExpired : Windowed Int) (window : AlertWindowKey) :
    LogoutDeliveryWindowMetrics where
  eligible := delivery.eligible.at window
  leaseExpired := leaseExpired.at window
  unresolved := delivery.unresolved.at window

def buildObservation (asOf : Timestamp) (dimension : AlertDimension) (current : LogoutDeliveryCurrentSnapshot)
    (delivery : ParsedDeliveryWindows) (leaseExpired : Windowed Int) : Fallible LogoutDeliveryAlertObservation :=
  let metrics := windowMetrics delivery leaseExpired
  asLogoutObservation
    { asOf, dimension, ruleId := .logoutDeliveryHealth
      measures := .logout current ⟨metrics .w5m, metrics .w15m, metrics .w60m⟩ }

/-- The loop of `sumClientValues`, from a total. -/
def sumFrom {T : Type} (select : T → Int) : List T → Int → Option Int
  | [], total => some total
  | value :: values, total =>
    let next := total + select value
    if MAX_EVIDENCE_COUNT < next then none else sumFrom select values next

def sumClientValues {T : Type} (values : List T) (select : T → Int) : Option Int :=
  sumFrom select values 0

/-- `oldestAge === null ? age : Math.max(oldestAge, age)`, unless the client has no age. -/
def olderAge (oldestAge : Option Int) (current : LogoutDeliveryCurrentSnapshot) : Option Int :=
  match current.oldestUnresolvedAgeSeconds, oldestAge with
  | none, oldestAge => oldestAge
  | some age, none => some age
  | some age, some oldestAge => some (max oldestAge age)

def clientProjectionsMatchGlobal (global : LogoutDeliveryAlertObservation)
    (currentByClient : Dictionary Text LogoutDeliveryCurrentSnapshot)
    (deliveryByClient : Dictionary Text ParsedDeliveryWindows) (leaseByClient : Dictionary Text (Windowed Int)) :
    Bool :=
  let currentUnresolved := sumClientValues currentByClient.values (·.currentUnresolved)
  let currentDead := sumClientValues currentByClient.values (·.currentDead)
  let oldestAge := currentByClient.values.foldl olderAge none
  if currentUnresolved ≠ some global.current.currentUnresolved ∨ currentDead ≠ some global.current.currentDead ∨
      oldestAge ≠ global.current.oldestUnresolvedAgeSeconds then false
  else WINDOW_KEYS.all fun window =>
    let eligible := sumClientValues deliveryByClient.values fun delivery => delivery.eligible.at window
    let unresolved := sumClientValues deliveryByClient.values fun delivery => delivery.unresolved.at window
    let leaseExpired := sumClientValues leaseByClient.values fun lease => lease.at window
    let expected := global.windows.at window
    eligible = some expected.eligible ∧ unresolved = some expected.unresolved ∧
      leaseExpired = some expected.leaseExpired

end observations

section references

/-- The base64url text of the HMAC-SHA-256 of bytes, under the key that a base64url text encodes. -/
abbrev Sign := String → List UInt8 → String

def ALERT_HASH_KEY_SENTINEL_DOMAIN : String := "pgid.alert_subject_hash_key.v1"

/-- What `decodeHmacKey` accepts. -/
def decodeHmacKey (key : String) : Except String Unit :=
  throwIf (¬ isCanonicalBase64Url32 key) "alert HMAC key must be 32-byte unpadded base64url"

def deriveAlertHashKeyFingerprintV1 (sign : Sign) (key : String) : Except String HashedAlertReference := do
  decodeHmacKey key
  return { keyVersion := 1
           value := sign key
             (Text.encode (Text.of s!"pgid-alert-v1\x00key_sentinel\x00{ALERT_HASH_KEY_SENTINEL_DOMAIN}")) }

/-- The references of the source are all of the kind `client_hmac`. -/
def deriveAlertReferenceV1 (sign : Sign) (key : String) (raw : Text) : Except String HashedAlertReference := do
  throwIf (raw.length < 1 ∨ 512 < raw.length) "alert HMAC input must contain 1 to 512 characters"
  decodeHmacKey key
  return { keyVersion := 1
           value := sign key (Text.encode (Text.of "pgid-alert-v1\x00client_hmac\x00" ++ raw)) }

def sentinelKeyAvailable (sign : Sign) (sentinel : Option AlertHashKeySentinel) (key : Option String) :
    Fallible Bool :=
  match sentinel with
  | none => .ok false
  | some row => do
    throwIf
      (row.domain ≠ ALERT_HASH_KEY_SENTINEL_DOMAIN ∨
        isHashedAlertReference { keyVersion := row.hashVersion, value := row.fingerprintRef } = false)
      .sourceInvalid
    match key with
    | none => return false
    | some key =>
      match deriveAlertHashKeyFingerprintV1 sign key with
      | .ok expected => return expected.value = row.fingerprintRef
      | .error _ => return false

end references

section reader

/-- `windows[0]`, `windows[1]` and `windows[2]`, by their keys. -/
def windowStarts : List AlertWindowDescriptor → Option (Windowed Timestamp)
  | [first, second, third] => some ⟨first.startInclusive, second.startInclusive, third.startInclusive⟩
  | _ => none

def timestampIntegrityValid (row : TimestampIntegrity) : Bool :=
  !row.invalidDeliveryTimestampPresent && !row.invalidAttemptTimestampPresent

/-- The global observation, or `null` when a count is over its limit. -/
def globalObservation (source : LogoutSource) (starts : Windowed Timestamp) (asOf : Timestamp) :
    Fallible (Option LogoutDeliveryAlertObservation) := do
  let current ← parseCurrentSnapshot (ALERT_LOGOUT_CURRENT_GLOBAL_QUERY source asOf) asOf
  let delivery ← parseDeliveryWindows (ALERT_LOGOUT_DELIVERY_GLOBAL_QUERY source starts asOf) starts asOf
  let leaseExpired ← parseLeaseWindows (ALERT_LOGOUT_LEASE_GLOBAL_QUERY source starts asOf) starts asOf
  match current, delivery, leaseExpired with
  | some current, some delivery, some leaseExpired =>
    return some (← buildObservation asOf .global current delivery leaseExpired)
  | _, _, _ => return none

structure ClientProjections where
  currentByClient : Dictionary Text LogoutDeliveryCurrentSnapshot
  deliveryByClient : Dictionary Text ParsedDeliveryWindows
  leaseByClient : Dictionary Text (Windowed Int)

/-- The three maps, or `null` when one of them has too many rows or too high a count. -/
def clientProjections (source : LogoutSource) (starts : Windowed Timestamp) (asOf : Timestamp) :
    Fallible (Option ClientProjections) := do
  let currentByClient ← parseClientRows (ALERT_LOGOUT_CURRENT_CLIENT_QUERY source asOf)
    (nonempty (fun row => parseCurrentSnapshot row asOf) (·.currentUnresolved))
  let deliveryByClient ← parseClientRows (ALERT_LOGOUT_DELIVERY_CLIENT_QUERY source starts asOf)
    (nonempty (fun row => parseDeliveryWindows row starts asOf) (·.eligible.w60m))
  let leaseByClient ← parseClientRows (ALERT_LOGOUT_LEASE_CLIENT_QUERY source starts asOf)
    (nonempty (fun row => parseLeaseWindows row starts asOf) (·.w60m))
  match currentByClient, deliveryByClient, leaseByClient with
  | some currentByClient, some deliveryByClient, some leaseByClient =>
    return some { currentByClient, deliveryByClient, leaseByClient }
  | _, _, _ => return none

def ClientProjections.matchGlobal (projections : ClientProjections) (global : LogoutDeliveryAlertObservation) :
    Bool :=
  clientProjectionsMatchGlobal global projections.currentByClient projections.deliveryByClient
    projections.leaseByClient

def ClientProjections.rawClients (projections : ClientProjections) : List Text :=
  (projections.currentByClient.keys ++ projections.deliveryByClient.keys ++
    projections.leaseByClient.keys).eraseDups

/-- The observation of a client under its reference. -/
def clientObservation (asOf : Timestamp) (projections : ClientProjections) (rawClient : Text)
    (reference : HashedAlertReference) : Fallible LogoutDeliveryAlertObservation :=
  buildObservation asOf (.hashed .clientHmac reference)
    ((projections.currentByClient.get rawClient).getD emptyCurrent)
    ((projections.deliveryByClient.get rawClient).getD emptyDeliveryWindows)
    ((projections.leaseByClient.get rawClient).getD emptyLeaseWindows)

/-- The loop over the clients. Any error in it makes the clients incomplete. -/
def observeClients (sign : Sign) (key : String) (asOf : Timestamp) (projections : ClientProjections) :
    List Text → Dictionary String Text → Dictionary String LogoutDeliveryAlertObservation →
      Fallible (Dictionary String LogoutDeliveryAlertObservation)
  | [], _, observed => .ok observed
  | rawClient :: rawClients, rawByReference, observed => do
    let reference ← (deriveAlertReferenceV1 sign key rawClient).mapError fun _ => .sourceInvalid
    throwIf (∃ existingRaw ∈ rawByReference.get reference.value, existingRaw ≠ rawClient) .sourceInvalid
    let observation ← clientObservation asOf projections rawClient reference
    observeClients sign key asOf projections rawClients (rawByReference.set reference.value rawClient)
      (observed.set reference.value observation)

/-- The loop over the tracked references. -/
def observeTracked (asOf : Timestamp) :
    List String → Dictionary String LogoutDeliveryAlertObservation →
      Fallible (Dictionary String LogoutDeliveryAlertObservation)
  | [], observed => .ok observed
  | reference :: references, observed =>
    if reference ∈ observed.keys then observeTracked asOf references observed
    else do
      let observation ← buildObservation asOf (.hashed .clientHmac { keyVersion := 1, value := reference })
        emptyCurrent emptyDeliveryWindows emptyLeaseWindows
      observeTracked asOf references (observed.set reference observation)

/-- What becomes of the clients: their observations, or the kinds that are incomplete. -/
inductive ClientOutcome where
  | incomplete
  | inconsistent
  | observed (observations : List LogoutDeliveryAlertObservation)

def clientOutcome (sign : Sign) (key : String) (source : LogoutSource)
    (environment : AlertLogoutSourceEnvironment) (starts : Windowed Timestamp) (asOf : Timestamp)
    (global : Option LogoutDeliveryAlertObservation) : Fallible ClientOutcome := do
  let tracked ← parseTrackedReferences (ALERT_LOGOUT_TRACKED_DIMENSIONS_QUERY source environment)
  let projections ← clientProjections source starts asOf
  match tracked, projections with
  | some tracked, some projections =>
    if ∃ observation ∈ global, projections.matchGlobal observation = false then return .inconsistent
    else if projections.rawClients.length > MAX_DIMENSION_GROUPS then return .incomplete
    else do
      let observed ← observeClients sign key asOf projections projections.rawClients .empty .empty
      let observed ← observeTracked asOf tracked observed
      if observed.entries.length > MAX_DIMENSION_GROUPS then return .incomplete
      else
        let sorted := observed.entries.mergeSort fun left right => decide (left.1 ≤ right.1)
        return .observed (sorted.map Prod.snd)
  | _, _ => return .incomplete

def ClientOutcome.observations : ClientOutcome → List LogoutDeliveryAlertObservation
  | .observed observations => observations
  | _ => []

def ClientOutcome.incompleteKinds : ClientOutcome → List AlertDimensionKind
  | .incomplete => [.hashed .clientHmac]
  | .inconsistent => [.global, .hashed .clientHmac]
  | .observed _ => []

/-- The result from the incomplete kinds and the observations that were pushed. -/
def sourceResult (incomplete : List AlertDimensionKind) (observations : List LogoutDeliveryAlertObservation) :
    LogoutDeliveryAlertSourceResult where
  incomplete :=
    ([.global, .hashed .clientHmac] : List AlertDimensionKind).filterMap fun kind =>
      if kind ∈ incomplete then some ⟨kind, .logoutDeliveryHealth⟩ else none
  observations := observations.filter fun observation => observation.dimension.kind ∉ incomplete

/-- The body of the reader, on what its batch reads. -/
def logoutSourceResult (sign : Sign) (source : LogoutSource) (starts : Windowed Timestamp)
    (input : ReadLogoutDeliveryAlertSourceInput) : Fallible LogoutDeliveryAlertSourceResult := do
  let sourceTimestampsValid := timestampIntegrityValid (ALERT_LOGOUT_TIMESTAMP_INTEGRITY_QUERY source)
  let global :=
    if sourceTimestampsValid then ((globalObservation source starts input.asOf).toOption).join else none
  let globalIncomplete := if global = none then [.global] else []
  let keyAvailable ← sentinelKeyAvailable sign source.sentinel input.hmacKeyBase64Url
  let clients :=
    match input.hmacKeyBase64Url with
    | some key =>
      if sourceTimestampsValid ∧ keyAvailable then
        ((clientOutcome sign key source input.environment starts input.asOf global).toOption).getD .incomplete
      else .incomplete
    | none => .incomplete
  return sourceResult (globalIncomplete ++ clients.incompleteKinds) (global.toList ++ clients.observations)

/-- `readLogoutDeliveryAlertSource`; the batch reads the tables, unless it throws. -/
def readLogoutDeliveryAlertSource (sign : Sign) (batch : Option LogoutSource)
    (input : ReadLogoutDeliveryAlertSourceInput) : Fallible LogoutDeliveryAlertSourceResult :=
  match alertWindowsAt input.asOf with
  | .error _ => .error .invalidInput
  | .ok windows =>
    match batch, windowStarts windows with
    | some source, some starts => logoutSourceResult sign source starts input
    | _, _ => .error .sourceUnavailable

end reader

end pgid.alert.logout
