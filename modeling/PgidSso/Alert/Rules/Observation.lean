import PgidSso.Alert.Rules.Evidence

open checked

namespace pgid.alert

structure CountWindowMetrics where
  count : Int
  deriving DecidableEq

structure RatioWindowMetrics where
  denominator : Int
  numerator : Int
  deriving DecidableEq

structure RestrictedDenialWindowMetrics where
  count : Int
  knownSurfaces : Int
  deriving DecidableEq

structure RecoveryEntryWindowMetrics where
  denied : Int
  rateLimited : Int
  started : Int
  deriving DecidableEq

structure OAuthClientReportWindowMetrics where
  count : Int
  distinctReporters : Option Int
  highRiskCount : Int
  deriving DecidableEq

structure AdminSensitiveWindowMetrics where
  protectedDenials : Int
  successes : Int
  deriving DecidableEq

structure FanoutGapSnapshot where
  missingOlderThan15mCount : Int
  missingOlderThan5mCount : Int
  deriving DecidableEq

structure LogoutDeliveryCurrentSnapshot where
  currentDead : Int
  currentUnresolved : Int
  oldestUnresolvedAgeSeconds : Option Int
  deriving DecidableEq

structure LogoutDeliveryWindowMetrics where
  eligible : Int
  leaseExpired : Int
  unresolved : Int
  deriving DecidableEq

structure AlertRuntimeSnapshot where
  deadOutbox : Int
  evaluatorAgeSeconds : Option Int
  outboxDueAgeSeconds : Option Int
  deriving DecidableEq

structure QueueDepthSnapshot where
  backlogBytes : Option Int
  backlogCount : Option Int
  consecutiveNonzeroSamples : Option Int
  nonzeroSinceAt : Option Timestamp
  oldestMessageTimestamp : Option Timestamp
  sampledAt : Option Timestamp
  deriving DecidableEq

/-- A binding field that should hold a timestamp: missing or `null`, a valid one,
or anything else. -/
inductive QueueBindingTimestampInput
  | absent
  | at (timestamp : Timestamp)
  | invalid
  deriving DecidableEq

/-- The snapshot before its binding metrics are checked; a backlog that is not a safe
integer is `none`. -/
structure QueueBindingSnapshot where
  backlogBytes : Option Int
  backlogCount : Option Int
  consecutiveNonzeroSamples : Option Int
  nonzeroSinceAt : Option Timestamp
  oldestMessageTimestamp : QueueBindingTimestampInput
  sampledAt : Option Timestamp
  deriving DecidableEq

/-- The measured part of an observation, by the shape its rule requires. -/
inductive AlertMeasures (Queue : Type)
  | count (windows : Windowed CountWindowMetrics)
  | ratio (windows : Windowed RatioWindowMetrics)
  | restricted (windows : Windowed RestrictedDenialWindowMetrics)
  | recoveryEntry (windows : Windowed RecoveryEntryWindowMetrics)
  | oauth (windows : Windowed OAuthClientReportWindowMetrics)
  | adminSensitive (windows : Windowed AdminSensitiveWindowMetrics)
  | fanout (snapshot : FanoutGapSnapshot)
  | logout (current : LogoutDeliveryCurrentSnapshot) (windows : Windowed LogoutDeliveryWindowMetrics)
  | runtime (snapshot : AlertRuntimeSnapshot)
  | queue (snapshot : Queue)
  deriving DecidableEq

structure AlertObservation (Queue : Type) where
  asOf : Timestamp
  dimension : AlertDimension
  ruleId : AlertRuleId
  measures : AlertMeasures Queue
  deriving DecidableEq

/-- What a reader hands over. -/
abbrev AlertObservationInput := AlertObservation QueueBindingSnapshot

/-- What `parseAlertObservation` returns. -/
abbrev AlertRuleObservation := AlertObservation QueueDepthSnapshot

def queueBindingInteger (value : Option Int) (maximum : Int) : Bool × Option Int :=
  match value with
  | none => (false, none)
  | some value => if value < 0 ∨ maximum < value then (false, none) else (true, some value)

def queueBindingTimestamp : QueueBindingTimestampInput → Bool × Option Timestamp
  | .absent => (true, none)
  | .at timestamp => (true, some timestamp)
  | .invalid => (false, none)

def parseCountMetrics (record : CountWindowMetrics) : Except String CountWindowMetrics := do
  return { count := ← integer (some record.count) "count" MAX_EVIDENCE_VALUE }

def parseRatioMetrics (record : RatioWindowMetrics) : Except String RatioWindowMetrics := do
  let denominator ← integer (some record.denominator) "denominator" MAX_RATIO_FIELD
  let numerator ← integer (some record.numerator) "numerator" MAX_RATIO_FIELD
  throwIf (numerator > denominator) "numerator cannot exceed denominator"
  return { denominator, numerator }

/-- `RESTRICTED_ALERT_SURFACES.length`. -/
def RESTRICTED_ALERT_SURFACE_COUNT : Int := 7

def parseRestrictedMetrics (record : RestrictedDenialWindowMetrics) :
    Except String RestrictedDenialWindowMetrics := do
  let count ← integer (some record.count) "count" MAX_EVIDENCE_VALUE
  let knownSurfaces ← integer (some record.knownSurfaces) "known surfaces" MAX_EVIDENCE_VALUE
  throwIf (knownSurfaces > count ∨ knownSurfaces > RESTRICTED_ALERT_SURFACE_COUNT)
    "known surfaces exceed the canonical denied-event domain"
  return { count, knownSurfaces }

def parseRecoveryEntryMetrics (record : RecoveryEntryWindowMetrics) :
    Except String RecoveryEntryWindowMetrics := do
  let denied ← integer (some record.denied) "denied" MAX_RATIO_FIELD
  let rateLimited ← integer (some record.rateLimited) "rate limited" MAX_EVIDENCE_VALUE
  let started ← integer (some record.started) "started" MAX_RATIO_FIELD
  throwIf (denied + started > MAX_RATIO_FIELD) "recovery denominator exceeds the persistence domain"
  return { denied, rateLimited, started }

def parseOAuthMetrics (record : OAuthClientReportWindowMetrics) :
    Except String OAuthClientReportWindowMetrics := do
  let count ← integer (some record.count) "report count" MAX_EVIDENCE_VALUE
  let distinctReporters ←
    nullableInteger record.distinctReporters "distinct reporters" MAX_EVIDENCE_VALUE
  let highRiskCount ← integer (some record.highRiskCount) "high-risk count" MAX_EVIDENCE_VALUE
  throwIf ((∃ reporters ∈ distinctReporters, reporters > count) ∨ highRiskCount > count)
    "OAuth report subsets cannot exceed total reports"
  return { count, distinctReporters, highRiskCount }

def parseAdminSensitiveMetrics (record : AdminSensitiveWindowMetrics) :
    Except String AdminSensitiveWindowMetrics := do
  let protectedDenials ←
    integer (some record.protectedDenials) "protected denials" MAX_EVIDENCE_VALUE
  let successes ← integer (some record.successes) "sensitive successes" MAX_EVIDENCE_VALUE
  throwIf (protectedDenials + successes > MAX_EVIDENCE_VALUE)
    "admin-sensitive total exceeds the persistence domain"
  return { protectedDenials, successes }

def parseLogoutCurrentSnapshot (record : LogoutDeliveryCurrentSnapshot) :
    Except String LogoutDeliveryCurrentSnapshot := do
  let currentDead ← integer (some record.currentDead) "current dead deliveries" MAX_EVIDENCE_VALUE
  let currentUnresolved ←
    integer (some record.currentUnresolved) "current unresolved deliveries" MAX_EVIDENCE_VALUE
  let oldestUnresolvedAgeSeconds ←
    nullableInteger record.oldestUnresolvedAgeSeconds "oldest unresolved age" MAX_EVIDENCE_VALUE
  throwIf (currentDead > currentUnresolved)
    "current dead deliveries cannot exceed current unresolved deliveries"
  throwIf (¬ (currentUnresolved = 0 ↔ oldestUnresolvedAgeSeconds = none))
    "current unresolved count and oldest age must agree"
  return { currentDead, currentUnresolved, oldestUnresolvedAgeSeconds }

def parseLogoutMetrics (record : LogoutDeliveryWindowMetrics) :
    Except String LogoutDeliveryWindowMetrics := do
  let eligible ← integer (some record.eligible) "eligible deliveries" MAX_RATIO_FIELD
  let leaseExpired ← integer (some record.leaseExpired) "expired leases" MAX_EVIDENCE_VALUE
  let unresolved ← integer (some record.unresolved) "unresolved deliveries" MAX_RATIO_FIELD
  throwIf (unresolved > eligible)
    "logout unresolved deliveries cannot exceed their window cohort"
  return { eligible, leaseExpired, unresolved }

def parseFanoutSnapshot (record : FanoutGapSnapshot) : Except String FanoutGapSnapshot := do
  let missingOlderThan15mCount ←
    integer (some record.missingOlderThan15mCount) "missing older than 15 minutes" MAX_EVIDENCE_VALUE
  let missingOlderThan5mCount ←
    integer (some record.missingOlderThan5mCount) "missing older than 5 minutes" MAX_EVIDENCE_VALUE
  throwIf (missingOlderThan15mCount > missingOlderThan5mCount)
    "fan-out age cohorts are inconsistent"
  return { missingOlderThan15mCount, missingOlderThan5mCount }

def parseRuntimeSnapshot (record : AlertRuntimeSnapshot) : Except String AlertRuntimeSnapshot := do
  let deadOutbox ← integer (some record.deadOutbox) "dead alert outbox" MAX_EVIDENCE_VALUE
  let evaluatorAgeSeconds ←
    nullableInteger record.evaluatorAgeSeconds "evaluator age" MAX_EVIDENCE_VALUE
  let outboxDueAgeSeconds ←
    nullableInteger record.outboxDueAgeSeconds "outbox due age" MAX_EVIDENCE_VALUE
  return { deadOutbox, evaluatorAgeSeconds, outboxDueAgeSeconds }

def parseQueueSnapshot (record : QueueBindingSnapshot) : Except String QueueDepthSnapshot := do
  let backlogBytes := queueBindingInteger record.backlogBytes MAX_QUEUE_BACKLOG_BYTES
  let backlogCount := queueBindingInteger record.backlogCount MAX_EVIDENCE_VALUE
  let oldestMessageTimestamp := queueBindingTimestamp record.oldestMessageTimestamp
  let bindingMetricsValid := backlogBytes.1 && backlogCount.1 && oldestMessageTimestamp.1
  let consecutiveNonzeroSamples ←
    nullableInteger record.consecutiveNonzeroSamples "consecutive Queue samples" MAX_RATIO_FIELD
  return {
    backlogBytes := if bindingMetricsValid then backlogBytes.2 else none
    backlogCount := if bindingMetricsValid then backlogCount.2 else none
    consecutiveNonzeroSamples
    nonzeroSinceAt := record.nonzeroSinceAt
    oldestMessageTimestamp := if bindingMetricsValid then oldestMessageTimestamp.2 else none
    sampledAt := record.sampledAt }

def parseWindows {T : Type} (parser : T → Except String T) (record : Windowed T) :
    Except String (Windowed T) := do
  return { w5m := ← parser record.w5m, w15m := ← parser record.w15m, w60m := ← parser record.w60m }

def nondecreasing : List Int → String → Except String Unit
  | previous :: value :: rest, name => do
    throwIf (value < previous) s!"{name} must be nondecreasing across nested windows"
    nondecreasing (value :: rest) name
  | _, _ => .ok ()

/-- The loop keeps the last known value and whether an unknown one was seen. -/
def nullableCountNondecreasing : List (Option Int) → Option Int → Bool → String → Except String Unit
  | [], _, _, _ => .ok ()
  | none :: rest, previous, _, name => nullableCountNondecreasing rest previous true name
  | some value :: rest, previous, unknownSeen, name => do
    throwIf (unknownSeen = true ∨ ∃ last ∈ previous, value < last)
      s!"{name} must be nondecreasing or remain unknown across windows"
    nullableCountNondecreasing rest (some value) unknownSeen name

/-- One field of every window, in the order of `ALERT_WINDOW_KEYS`. -/
def fieldEntries {T U : Type} (windows : Windowed T) (field : T → U) : List U :=
  windows.entries.map field

def validateNestedWindows {Queue : Type} : AlertMeasures Queue → Except String Unit
  | .count windows => nondecreasing (fieldEntries windows (·.count)) "count"
  | .ratio windows => do
    nondecreasing (fieldEntries windows (·.numerator)) "numerator"
    nondecreasing (fieldEntries windows (·.denominator)) "denominator"
  | .restricted windows => do
    nondecreasing (fieldEntries windows (·.count)) "count"
    nondecreasing (fieldEntries windows (·.knownSurfaces)) "known surfaces"
  | .recoveryEntry windows => do
    nondecreasing (fieldEntries windows (·.denied)) "denied"
    nondecreasing (fieldEntries windows (·.rateLimited)) "rateLimited"
    nondecreasing (fieldEntries windows (·.started)) "started"
  | .oauth windows => do
    nondecreasing (fieldEntries windows (·.count)) "count"
    nondecreasing (fieldEntries windows (·.highRiskCount)) "highRiskCount"
    nullableCountNondecreasing (fieldEntries windows (·.distinctReporters)) none false
      "distinct reporters"
  | .adminSensitive windows => do
    nondecreasing (fieldEntries windows (·.protectedDenials)) "protectedDenials"
    nondecreasing (fieldEntries windows (·.successes)) "successes"
  | .logout _ windows => do
    nondecreasing (fieldEntries windows (·.eligible)) "eligible"
    nondecreasing (fieldEntries windows (·.leaseExpired)) "leaseExpired"
    nondecreasing (fieldEntries windows (·.unresolved)) "unresolved"
  | _ => .ok ()

/-- Measures that stand under the keys `asOf`, `dimension`, `ruleId`, `windows`. -/
def AlertMeasures.isWindowed {Queue : Type} : AlertMeasures Queue → Bool
  | .fanout _ => false
  | .logout _ _ => false
  | .runtime _ => false
  | .queue _ => false
  | _ => true

/-- The record whose keys are wrong when the measures of another rule stand in the
observation: the observation itself, or the metrics of a window. -/
def mismatchedRecord (ruleId : AlertRuleId) (isWindowed : Bool) : String :=
  match ruleId, isWindowed with
  | .securityFanoutGap, _ => "fan-out observation"
  | .alertRuntimeHealth, _ => "runtime observation"
  | .queueDlqApproximate, _ => "Queue observation"
  | .logoutDeliveryHealth, _ => "logout-delivery observation"
  | _, false => "windowed alert observation"
  | .registrationRateLimited, true => "count metrics"
  | .registrationDenied, true => "count metrics"
  | .registrationRestrictedCreated, true => "count metrics"
  | .adminDirectoryVolume, true => "count metrics"
  | .registrationChallengeUnavailable, true => "ratio metrics"
  | .recoveryPasskeyFailure, true => "ratio metrics"
  | .passkeyStepUpFailure, true => "ratio metrics"
  | .restrictedSensitiveDenied, true => "restricted metrics"
  | .recoveryEntryAbuse, true => "recovery entry metrics"
  | .oauthClientReport, true => "OAuth report metrics"
  | .adminSensitiveActivity, true => "admin-sensitive metrics"

/-- The measured part, read as the rule requires. A part of another shape does
not have the keys of the rule's record. -/
def parseRuleMeasures (ruleId : AlertRuleId) (measures : AlertMeasures QueueBindingSnapshot) :
    Except String (AlertMeasures QueueDepthSnapshot) :=
  match ruleId, measures with
  | .securityFanoutGap, .fanout snapshot => do
    return .fanout (← parseFanoutSnapshot snapshot)
  | .alertRuntimeHealth, .runtime snapshot => do
    return .runtime (← parseRuntimeSnapshot snapshot)
  | .queueDlqApproximate, .queue snapshot => do
    return .queue (← parseQueueSnapshot snapshot)
  | .logoutDeliveryHealth, .logout current windows => do
    return .logout (← parseLogoutCurrentSnapshot current) (← parseWindows parseLogoutMetrics windows)
  | .registrationRateLimited, .count windows
  | .registrationDenied, .count windows
  | .registrationRestrictedCreated, .count windows
  | .adminDirectoryVolume, .count windows => do
    return .count (← parseWindows parseCountMetrics windows)
  | .registrationChallengeUnavailable, .ratio windows
  | .recoveryPasskeyFailure, .ratio windows
  | .passkeyStepUpFailure, .ratio windows => do
    return .ratio (← parseWindows parseRatioMetrics windows)
  | .restrictedSensitiveDenied, .restricted windows => do
    return .restricted (← parseWindows parseRestrictedMetrics windows)
  | .recoveryEntryAbuse, .recoveryEntry windows => do
    return .recoveryEntry (← parseWindows parseRecoveryEntryMetrics windows)
  | .oauthClientReport, .oauth windows => do
    return .oauth (← parseWindows parseOAuthMetrics windows)
  | .adminSensitiveActivity, .adminSensitive windows => do
    return .adminSensitive (← parseWindows parseAdminSensitiveMetrics windows)
  | _, _ =>
    .error s!"{mismatchedRecord ruleId measures.isWindowed} must contain only the canonical keys"

def parseMeasures (ruleId : AlertRuleId) (measures : AlertMeasures QueueBindingSnapshot) :
    Except String (AlertMeasures QueueDepthSnapshot) := do
  let parsed ← parseRuleMeasures ruleId measures
  validateNestedWindows parsed
  return parsed

def parseAlertObservation (value : AlertObservationInput) : Except String AlertRuleObservation := do
  let dimension ←
    parseAlertDimension value.dimension (ALERT_RULE_DEFINITIONS value.ruleId).dimensions
  let measures ← parseMeasures value.ruleId value.measures
  return { asOf := value.asOf, dimension, ruleId := value.ruleId, measures }

end pgid.alert
