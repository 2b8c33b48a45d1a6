import PgidSso.Alert.Rules.Observation

open checked

namespace pgid.alert

structure AlertRuleEvaluation where
  asOf : Timestamp
  breachedWindows : List AlertWindowKey
  dimension : AlertDimension
  evidence : AlertEvidenceStatus
  immediateCritical : Bool
  ruleId : AlertRuleId
  selectedEvidence : Option AlertSelectedEvidence
  severity : AlertSeverity
  deriving DecidableEq

structure KnownQueueSnapshot where
  backlogBytes : Int
  consecutiveNonzeroSamples : Int
  depth : Int
  oldestMessageAgeSeconds : Int
  deriving DecidableEq

/-- The sample of a nonempty backlog. One persisted metric proves both a contiguous
sample streak and elapsed duration, so the streak is cut to the elapsed minutes. -/
def knownBacklog (backlogBytes depth samples : Int)
    (sampledAt nonzeroSinceAt oldestMessageTimestamp : Timestamp) : Option KnownQueueSnapshot :=
  let oldestMessageAgeMilliseconds := sampledAt.ms - oldestMessageTimestamp.ms
  let oldestMessageAgeSeconds := oldestMessageAgeMilliseconds / 1000
  let elapsed := sampledAt.ms - nonzeroSinceAt.ms
  if oldestMessageAgeMilliseconds < 0 then none
  else if oldestMessageAgeSeconds > MAX_EVIDENCE_VALUE then none
  else if elapsed < 0 then none
  else if elapsed < (samples - 1) * 60000 ∨ elapsed > samples * 60000 then none
  else
    some { backlogBytes, consecutiveNonzeroSamples := min samples (elapsed / 60000), depth,
           oldestMessageAgeSeconds }

def knownQueueSnapshot (snapshot : QueueDepthSnapshot) (asOf : Timestamp) :
    Option KnownQueueSnapshot :=
  match snapshot.backlogBytes, snapshot.backlogCount, snapshot.sampledAt,
    snapshot.consecutiveNonzeroSamples with
  | some backlogBytes, some backlogCount, some sampledAt, some samples =>
    if sampledAt ≠ asOf then none
    else if backlogCount = 0 then
      if snapshot.nonzeroSinceAt = none ∧ samples = 0 ∧ backlogBytes = 0 ∧
          snapshot.oldestMessageTimestamp = none then
        some { backlogBytes := 0, consecutiveNonzeroSamples := 0, depth := 0,
               oldestMessageAgeSeconds := 0 }
      else none
    else
      match snapshot.nonzeroSinceAt, snapshot.oldestMessageTimestamp with
      | some nonzeroSinceAt, some oldestMessageTimestamp =>
        if samples < 1 then none
        else
          knownBacklog backlogBytes backlogCount samples sampledAt nonzeroSinceAt
            oldestMessageTimestamp
      | _, _ => none
  | _, _, _, _ => none

/-- An optional field of an object literal: left out when the value is unknown. -/
def optionalField (metric : InternalMetricName) : Option Int → List (InternalMetricName × Int)
  | none => []
  | some value => [(metric, value)]

def countBag (metrics : CountWindowMetrics) : MetricBag :=
  metricBag [(.count, metrics.count)]

def ratioBag (metrics : RatioWindowMetrics) : MetricBag :=
  metricBag [(.denominator, metrics.denominator), (.numerator, metrics.numerator)]

def restrictedBag (metrics : RestrictedDenialWindowMetrics) : MetricBag :=
  metricBag [(.count, metrics.count), (.knownSurfaces, metrics.knownSurfaces)]

def oauthBag (metrics : OAuthClientReportWindowMetrics) : MetricBag :=
  metricBag ([(.count, metrics.count)] ++
    optionalField .distinctReporters metrics.distinctReporters ++
    [(.highRiskCount, metrics.highRiskCount)])

def recoveryEntryBag (metrics : RecoveryEntryWindowMetrics) : MetricBag :=
  metricBag [(.denominator, metrics.denied + metrics.started), (.numerator, metrics.denied),
    (.rateLimited, metrics.rateLimited)]

def adminSensitiveBag (metrics : AdminSensitiveWindowMetrics) : MetricBag :=
  metricBag [(.count, metrics.successes + metrics.protectedDenials),
    (.protectedDenials, metrics.protectedDenials), (.successes, metrics.successes)]

def logoutBag (current : LogoutDeliveryCurrentSnapshot) (metrics : LogoutDeliveryWindowMetrics) :
    MetricBag :=
  metricBag [(.dead, current.currentDead), (.denominator, metrics.eligible),
    (.leaseExpired, metrics.leaseExpired), (.numerator, metrics.unresolved),
    (.oldestUnresolvedAgeSeconds, current.oldestUnresolvedAgeSeconds.getD 0)]

def runtimeBag (snapshot : AlertRuntimeSnapshot) : MetricBag :=
  metricBag [(.deadOutbox, snapshot.deadOutbox),
    (.evaluatorAgeSeconds, snapshot.evaluatorAgeSeconds.getD 0),
    (.evaluatorMissing, if snapshot.evaluatorAgeSeconds = none then 1 else 0),
    (.outboxDueAgeSeconds, snapshot.outboxDueAgeSeconds.getD 0)]

def queueBag (snapshot : KnownQueueSnapshot) : MetricBag :=
  metricBag [(.consecutiveNonzeroSamples, snapshot.consecutiveNonzeroSamples),
    (.depth, snapshot.depth)]

def metricsForObservation (observation : AlertRuleObservation)
    (knownQueue : Option KnownQueueSnapshot) : Windowed MetricBag :=
  match observation.measures with
  | .count windows => windows.map countBag
  | .ratio windows => windows.map ratioBag
  | .restricted windows => windows.map restrictedBag
  | .oauth windows => windows.map oauthBag
  | .recoveryEntry windows => windows.map recoveryEntryBag
  | .adminSensitive windows => windows.map adminSensitiveBag
  | .fanout snapshot =>
    { w5m := metricBag [(.missingOlderThan5mCount, snapshot.missingOlderThan5mCount)]
      w15m := metricBag [(.missingOlderThan15mCount, snapshot.missingOlderThan15mCount)]
      w60m := metricBag [(.missingOlderThan5mCount, snapshot.missingOlderThan5mCount)] }
  | .logout current windows => windows.map (logoutBag current)
  | .runtime snapshot =>
    { w5m := runtimeBag snapshot, w15m := runtimeBag snapshot, w60m := runtimeBag snapshot }
  | .queue _ =>
    match knownQueue with
    | none => { w5m := metricBag [], w15m := metricBag [], w60m := metricBag [] }
    | some known => { w5m := queueBag known, w15m := queueBag known, w60m := queueBag known }

structure WindowMatch where
  components : List AlertMetricEvidence
  window : AlertWindowKey
  deriving DecidableEq

structure WindowThresholdEvaluation where
  found : List WindowMatch
  unknown : Bool
  deriving DecidableEq

/-- The loop of `evaluateWindowThresholds` over the windows still to be compared. -/
def evaluateWindows (thresholds : AlertWindowKey → Option ThresholdExpression)
    (metrics : Windowed MetricBag) : List AlertWindowKey → Except String WindowThresholdEvaluation
  | [] => .ok { found := [], unknown := false }
  | window :: windows =>
    match thresholds window with
    | none => evaluateWindows thresholds metrics windows
    | some threshold => do
      let result ← evaluateExpression threshold (metrics.at window)
      let rest ← evaluateWindows thresholds metrics windows
      match result with
      | .breached components => return { rest with found := { components, window } :: rest.found }
      | .unknown => return { rest with unknown := true }
      | .clear => return rest

def evaluateWindowThresholds (ruleId : AlertRuleId) (metrics : Windowed MetricBag)
    (severity : ActiveAlertSeverity) : Except String WindowThresholdEvaluation :=
  evaluateWindows (fun window => thresholdFor ruleId window severity) metrics
    ALERT_EVIDENCE_WINDOW_ORDER

def selectedEvidence (components : List AlertMetricEvidence) (severity : ActiveAlertSeverity)
    (window : AlertWindowKey) : Except String AlertSelectedEvidence :=
  match components with
  | [primary] =>
    .ok { toAlertMetricEvidence := primary, secondary := none, severity,
          windowSeconds := ALERT_WINDOW_SECONDS window }
  | [primary, secondary] =>
    .ok { toAlertMetricEvidence := primary, secondary := some secondary, severity,
          windowSeconds := ALERT_WINDOW_SECONDS window }
  | _ => .error "alert evidence must contain one or two components"

def isImmediateCriticalEvidence (ruleId : AlertRuleId) (evidence : List AlertMetricEvidence) : Bool :=
  let metricName := evidence.head?.map (·.metricName)
  if ruleId = .logoutDeliveryHealth then metricName = some .dead
  else ruleId = .alertRuntimeHealth ∧
    (metricName = some .evaluatorMissing ∨ metricName = some .deadOutbox)

/-- The evaluation of an observation whose queue sample, if any, is not known. -/
def unknownEvaluation (observation : AlertRuleObservation) : AlertRuleEvaluation :=
  { asOf := observation.asOf, breachedWindows := [], dimension := observation.dimension,
    evidence := .unknown, immediateCritical := false, ruleId := observation.ruleId,
    selectedEvidence := none, severity := .none }

/-- The thresholds of the rule, compared with the metrics of an observation. -/
def evaluateThresholds (observation : AlertRuleObservation) (metrics : Windowed MetricBag) :
    Except String AlertRuleEvaluation := do
  let critical ← evaluateWindowThresholds observation.ruleId metrics .critical
  match critical.found with
  | first :: _ =>
    let immediate := critical.found.find? fun found =>
      isImmediateCriticalEvidence observation.ruleId found.components
    let selected := immediate.getD first
    let evidence ← selectedEvidence selected.components .critical selected.window
    return {
      asOf := observation.asOf, breachedWindows := critical.found.map (·.window),
      dimension := observation.dimension, evidence := .known,
      immediateCritical := immediate.isSome, ruleId := observation.ruleId,
      selectedEvidence := some evidence, severity := .critical }
  | [] =>
    let warning ← evaluateWindowThresholds observation.ruleId metrics .warning
    match warning.found with
    | selected :: _ =>
      let evidence ← selectedEvidence selected.components .warning selected.window
      return {
        asOf := observation.asOf, breachedWindows := warning.found.map (·.window),
        dimension := observation.dimension, evidence := .known, immediateCritical := false,
        ruleId := observation.ruleId, selectedEvidence := some evidence, severity := .warning }
    | [] =>
      return {
        asOf := observation.asOf, breachedWindows := [], dimension := observation.dimension,
        evidence := if critical.unknown ∨ warning.unknown then .unknown else .known,
        immediateCritical := false, ruleId := observation.ruleId, selectedEvidence := none,
        severity := .none }

def evaluateAlertRule (value : AlertObservationInput) : Except String AlertRuleEvaluation := do
  let observation ← parseAlertObservation value
  let _ ← alertWindowsAt observation.asOf
  match observation.measures with
  | .queue snapshot =>
    match knownQueueSnapshot snapshot observation.asOf with
    | none => return unknownEvaluation observation
    | some queueSnapshot =>
      evaluateThresholds observation (metricsForObservation observation (some queueSnapshot))
  | _ => evaluateThresholds observation (metricsForObservation observation none)

end pgid.alert
