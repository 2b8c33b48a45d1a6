import PgidSso.Alert.Lifecycle.State
import PgidSso.Alert.Queue.Source
import PgidSso.Alert.Runtime.Ledger
import PgidSso.Alert.Runtime.Source
import PgidSso.Library.Base64
import PgidSso.Library.Iso
import PgidSso.Library.JsonText

/-! The canonical texts of what the evaluator proves: the members of an object stand in the
order of their sorted keys. -/

namespace pgid.alert

inductive AlertEnvironment
  | local
  | preview
  | production
  deriving DecidableEq, Repr

section names

def AlertEnvironment.text : AlertEnvironment → String
  | .local => "local"
  | .preview => "preview"
  | .production => "production"

def AlertSeverity.text : AlertSeverity → String
  | .none => "none"
  | .warning => "warning"
  | .critical => "critical"

def AlertEvidenceStatus.text : AlertEvidenceStatus → String
  | .known => "known"
  | .unknown => "unknown"

def AlertWindowKey.text : AlertWindowKey → String
  | .w5m => "5m"
  | .w15m => "15m"
  | .w60m => "60m"

def AlertQueueName.text : AlertQueueName → String
  | .securityEventsDlq => "security_events_dlq"
  | .logoutDeliveriesDlq => "logout_deliveries_dlq"
  | .alertDeliveriesDlq => "alert_deliveries_dlq"
  | .auditArchiveDlq => "audit_archive_dlq"

def AlertHashedDimensionKind.text : AlertHashedDimensionKind → String
  | .subjectHmac => "subject_hmac"
  | .actorHmac => "actor_hmac"
  | .clientHmac => "client_hmac"

def AlertDimensionKind.text : AlertDimensionKind → String
  | .global => "global"
  | .hashed kind => kind.text
  | .queue => "queue"

def AlertMetricName.text : AlertMetricName → String
  | .consecutiveNonzeroSamples => "consecutive_nonzero_samples"
  | .count => "count"
  | .dead => "dead"
  | .deadOutbox => "dead_outbox"
  | .depth => "depth"
  | .distinctReporters => "distinct_reporters"
  | .evaluatorAgeSeconds => "evaluator_age_seconds"
  | .evaluatorMissing => "evaluator_missing"
  | .highRiskCount => "high_risk_count"
  | .knownSurfaces => "known_surfaces"
  | .leaseExpired => "lease_expired"
  | .missing => "missing"
  | .oldestUnresolvedAgeSeconds => "oldest_unresolved_age_seconds"
  | .outboxDueAgeSeconds => "outbox_due_age_seconds"
  | .protectedDenials => "protected_denials"
  | .rateLimited => "rate_limited"
  | .ratio => "ratio"
  | .successes => "successes"

def AlertEvidenceMetricKind.text : AlertEvidenceMetricKind → String
  | .ageSeconds => "age_seconds"
  | .boolean => "boolean"
  | .consecutive => "consecutive"
  | .count => "count"
  | .ratio => "ratio"

def AlertEvidenceUnit.text : AlertEvidenceUnit → String
  | .basisPoints => "basis_points"
  | .events => "events"
  | .samples => "samples"
  | .seconds => "seconds"
  | .state => "state"

def AlertLifecyclePhase.text : AlertLifecyclePhase → String
  | .active => "active"
  | .inactive => "inactive"
  | .pending => "pending"

def AlertIntentMode.text : AlertIntentMode → String
  | .observeOnly => "observe_only"

def AlertEvaluatorSourceId.text : AlertEvaluatorSourceId → String
  | .queueSecurityEventsDlq => "queue.security_events_dlq"
  | .queueLogoutDeliveriesDlq => "queue.logout_deliveries_dlq"
  | .queueAlertDeliveriesDlq => "queue.alert_deliveries_dlq"
  | .queueAuditArchiveDlq => "queue.audit_archive_dlq"
  | .d1Audit => "d1.audit"
  | .d1OauthClientReport => "d1.oauth_client_report"
  | .d1SecurityFanoutGap => "d1.security_fanout_gap"
  | .d1LogoutDelivery => "d1.logout_delivery"
  | .d1AlertRuntime => "d1.alert_runtime"

def EvaluatorSourceStatus.text : EvaluatorSourceStatus → String
  | .complete => "complete"
  | .partly => "partial"
  | .unavailable => "unavailable"
  | .invalid => "invalid"

def EvaluatorDisposition.text : EvaluatorDisposition → String
  | .applied => "applied"
  | .noStateChange => "no_state_change"
  | .suppressedPartial => "suppressed_partial"

end names

namespace orchestration

section values

/-- A name in quotes. -/
def quoted (name : String) : Text :=
  json.string (Text.of name)

def instant (value : Timestamp) : Text :=
  json.string value.iso

def boolean (value : Bool) : Text :=
  Text.of (if value then "true" else "false")

def dimensionText : AlertDimension → Text
  | .global => json.object [("kind", quoted "global")]
  | .hashed kind reference =>
    json.object
      [("kind", quoted kind.text),
        ("reference", json.object
          [("keyVersion", json.integer reference.keyVersion), ("value", quoted reference.value)])]
  | .queue queue => json.object [("kind", quoted "queue"), ("queue", quoted queue.text)]

def windowsText {T : Type} (metrics : T → Text) (windows : Windowed T) : Text :=
  json.object
    [("15m", metrics windows.w15m), ("5m", metrics windows.w5m), ("60m", metrics windows.w60m)]

def countText (metrics : CountWindowMetrics) : Text :=
  json.object [("count", json.integer metrics.count)]

def ratioText (metrics : RatioWindowMetrics) : Text :=
  json.object
    [("denominator", json.integer metrics.denominator), ("numerator", json.integer metrics.numerator)]

def restrictedText (metrics : RestrictedDenialWindowMetrics) : Text :=
  json.object
    [("count", json.integer metrics.count), ("knownSurfaces", json.integer metrics.knownSurfaces)]

def recoveryEntryText (metrics : RecoveryEntryWindowMetrics) : Text :=
  json.object
    [("denied", json.integer metrics.denied), ("rateLimited", json.integer metrics.rateLimited),
      ("started", json.integer metrics.started)]

def oauthText (metrics : OAuthClientReportWindowMetrics) : Text :=
  json.object
    [("count", json.integer metrics.count),
      ("distinctReporters", json.nullable json.integer metrics.distinctReporters),
      ("highRiskCount", json.integer metrics.highRiskCount)]

def adminSensitiveText (metrics : AdminSensitiveWindowMetrics) : Text :=
  json.object
    [("protectedDenials", json.integer metrics.protectedDenials),
      ("successes", json.integer metrics.successes)]

def fanoutText (snapshot : FanoutGapSnapshot) : Text :=
  json.object
    [("missingOlderThan15mCount", json.integer snapshot.missingOlderThan15mCount),
      ("missingOlderThan5mCount", json.integer snapshot.missingOlderThan5mCount)]

def logoutCurrentText (current : LogoutDeliveryCurrentSnapshot) : Text :=
  json.object
    [("currentDead", json.integer current.currentDead),
      ("currentUnresolved", json.integer current.currentUnresolved),
      ("oldestUnresolvedAgeSeconds", json.nullable json.integer current.oldestUnresolvedAgeSeconds)]

def logoutText (metrics : LogoutDeliveryWindowMetrics) : Text :=
  json.object
    [("eligible", json.integer metrics.eligible), ("leaseExpired", json.integer metrics.leaseExpired),
      ("unresolved", json.integer metrics.unresolved)]

def runtimeText (snapshot : AlertRuntimeSnapshot) : Text :=
  json.object
    [("deadOutbox", json.integer snapshot.deadOutbox),
      ("evaluatorAgeSeconds", json.nullable json.integer snapshot.evaluatorAgeSeconds),
      ("outboxDueAgeSeconds", json.nullable json.integer snapshot.outboxDueAgeSeconds)]

def queueText (snapshot : QueueDepthSnapshot) : Text :=
  json.object
    [("backlogBytes", json.nullable json.integer snapshot.backlogBytes),
      ("backlogCount", json.nullable json.integer snapshot.backlogCount),
      ("consecutiveNonzeroSamples", json.nullable json.integer snapshot.consecutiveNonzeroSamples),
      ("nonzeroSinceAt", json.nullable instant snapshot.nonzeroSinceAt),
      ("oldestMessageTimestamp", json.nullable instant snapshot.oldestMessageTimestamp),
      ("sampledAt", json.nullable instant snapshot.sampledAt)]

/-- The measured members of an observation that come before its dimension. -/
def measuresBefore : AlertMeasures QueueDepthSnapshot → List (String × Text)
  | .logout current _ => [("current", logoutCurrentText current)]
  | _ => []

/-- The measured member that comes after its rule. -/
def measuresAfter : AlertMeasures QueueDepthSnapshot → String × Text
  | .count windows => ("windows", windowsText countText windows)
  | .ratio windows => ("windows", windowsText ratioText windows)
  | .restricted windows => ("windows", windowsText restrictedText windows)
  | .recoveryEntry windows => ("windows", windowsText recoveryEntryText windows)
  | .oauth windows => ("windows", windowsText oauthText windows)
  | .adminSensitive windows => ("windows", windowsText adminSensitiveText windows)
  | .fanout snapshot => ("snapshot", fanoutText snapshot)
  | .logout _ windows => ("windows", windowsText logoutText windows)
  | .runtime snapshot => ("snapshot", runtimeText snapshot)
  | .queue snapshot => ("snapshot", queueText snapshot)

def observationText (observation : AlertRuleObservation) : Text :=
  json.object
    ([("asOf", instant observation.asOf)] ++ measuresBefore observation.measures ++
      [("dimension", dimensionText observation.dimension), ("ruleId", quoted observation.ruleId.text),
        measuresAfter observation.measures])

def metricEvidenceText (evidence : AlertMetricEvidence) : Text :=
  json.object
    [("kind", quoted evidence.kind.text), ("metricName", quoted evidence.metricName.text),
      ("minimumNumeratorCount", json.nullable json.integer evidence.minimumNumeratorCount),
      ("minimumSampleCount", json.integer evidence.minimumSampleCount),
      ("observedDenominator", json.nullable json.integer evidence.observedDenominator),
      ("observedNumerator", json.nullable json.integer evidence.observedNumerator),
      ("observedValue", json.integer evidence.observedValue), ("threshold", json.integer evidence.threshold),
      ("unit", quoted evidence.unit.text)]

def selectedEvidenceText (evidence : AlertSelectedEvidence) : Text :=
  json.object
    [("kind", quoted evidence.kind.text), ("metricName", quoted evidence.metricName.text),
      ("minimumNumeratorCount", json.nullable json.integer evidence.minimumNumeratorCount),
      ("minimumSampleCount", json.integer evidence.minimumSampleCount),
      ("observedDenominator", json.nullable json.integer evidence.observedDenominator),
      ("observedNumerator", json.nullable json.integer evidence.observedNumerator),
      ("observedValue", json.integer evidence.observedValue),
      ("secondary", json.nullable metricEvidenceText evidence.secondary),
      ("severity", quoted evidence.severity.severity.text), ("threshold", json.integer evidence.threshold),
      ("unit", quoted evidence.unit.text), ("windowSeconds", json.integer evidence.windowSeconds)]

def evaluationText (evaluation : AlertRuleEvaluation) : Text :=
  json.object
    [("asOf", instant evaluation.asOf),
      ("breachedWindows", json.array (evaluation.breachedWindows.map fun window => quoted window.text)),
      ("dimension", dimensionText evaluation.dimension), ("evidence", quoted evaluation.evidence.text),
      ("immediateCritical", boolean evaluation.immediateCritical), ("ruleId", quoted evaluation.ruleId.text),
      ("selectedEvidence", json.nullable selectedEvidenceText evaluation.selectedEvidence),
      ("severity", quoted evaluation.severity.text)]

def intentText : AlertActionIntent → Text
  | .open base evidence severity =>
    json.object
      [("at", instant base.«at»), ("dimension", dimensionText base.dimension),
        ("evidence", selectedEvidenceText evidence), ("kind", quoted "open"), ("mode", quoted base.mode.text),
        ("ruleId", quoted base.ruleId.text), ("severity", quoted severity.severity.text)]
  | .escalate base evidence fromSeverity severity =>
    json.object
      [("at", instant base.«at»), ("dimension", dimensionText base.dimension),
        ("evidence", selectedEvidenceText evidence), ("from", quoted fromSeverity.severity.text),
        ("kind", quoted "escalate"), ("mode", quoted base.mode.text), ("ruleId", quoted base.ruleId.text),
        ("severity", quoted severity.severity.text)]
  | .remind base evidence severity =>
    json.object
      [("at", instant base.«at»), ("dimension", dimensionText base.dimension),
        ("evidence", selectedEvidenceText evidence), ("kind", quoted "remind"), ("mode", quoted base.mode.text),
        ("ruleId", quoted base.ruleId.text), ("severity", quoted severity.severity.text)]
  | .resolve base fromSeverity severity =>
    json.object
      [("at", instant base.«at»), ("dimension", dimensionText base.dimension),
        ("from", quoted fromSeverity.severity.text), ("kind", quoted "resolve"), ("mode", quoted base.mode.text),
        ("ruleId", quoted base.ruleId.text), ("severity", quoted severity.text)]

def lifecycleIdentityText (identity : AlertLifecycleIdentity) : Text :=
  json.object [("dimension", dimensionText identity.dimension), ("ruleId", quoted identity.ruleId.text)]

def stateText (state : AlertLifecycleState) : Text :=
  json.object
    [("activeEvidence", json.nullable selectedEvidenceText state.activeEvidence),
      ("breachEvidence", json.nullable selectedEvidenceText state.breachEvidence),
      ("breachSeverity", json.nullable (fun severity => quoted severity.severity.text) state.breachSeverity),
      ("consecutiveBreaches", json.integer state.consecutiveBreaches),
      ("consecutiveClears", json.integer state.consecutiveClears),
      ("cooldownUntil", json.nullable instant state.cooldownUntil),
      ("identity", json.nullable lifecycleIdentityText state.identity),
      ("lastEvaluatedAt", json.nullable instant state.lastEvaluatedAt),
      ("lastNotificationAt", json.nullable instant state.lastNotificationAt),
      ("openedAt", json.nullable instant state.openedAt), ("phase", quoted state.phase.text),
      ("status", quoted state.status.text)]

def decisionText (decision : AlertLifecycleResult) : Text :=
  json.object [("intent", json.nullable intentText decision.intent), ("state", stateText decision.state)]

/-- The identity of a decision: the dimension, the environment and the rule. -/
def identityText (environment : AlertEnvironment) (observation : AlertRuleObservation) : Text :=
  json.object
    [("dimension", dimensionText observation.dimension), ("environment", quoted environment.text),
      ("ruleId", quoted observation.ruleId.text)]

def semanticIdentity (observation : AlertRuleObservation) : Text :=
  json.object
    [("dimension", dimensionText observation.dimension), ("ruleId", quoted observation.ruleId.text)]

end values

/-- What `crypto.subtle.digest("SHA-256", bytes)` resolves to. -/
abbrev Sha256 := List UInt8 → Vector UInt8 32

inductive AlertEvaluatorProofDigestDomain
  | decision
  | evaluation
  | identity
  | source
  deriving DecidableEq, Repr

def AlertEvaluatorProofDigestDomain.text : AlertEvaluatorProofDigestDomain → String
  | .decision => "pgid.alert.evaluator.decision.v1"
  | .evaluation => "pgid.alert.evaluator.evaluation.v1"
  | .identity => "pgid.alert.evaluator.identity.v1"
  | .source => "pgid.alert.evaluator.source.v1"

/-- The bytes of `JSON.stringify([domain, value])`, for a value by its canonical text. -/
def proofBytes (domain : AlertEvaluatorProofDigestDomain) (value : Text) : List UInt8 :=
  (json.array [quoted domain.text, value]).encode

def bytesToBase64url (bytes : List UInt8) : Text :=
  base64.encode bytes

def canonicalAlertEvaluatorProofDigest (sha256 : Sha256) (domain : AlertEvaluatorProofDigestDomain)
    (value : Text) : Text :=
  bytesToBase64url (sha256 (proofBytes domain value)).toList

end orchestration

end pgid.alert
