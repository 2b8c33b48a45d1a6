import PgidSso.Alert.Rules.Threshold.Breach

namespace pgid.alert

structure WindowThresholdDefinition where
  critical : Option ThresholdExpression
  warning : Option ThresholdExpression

def WindowThresholdDefinition.at (definition : WindowThresholdDefinition) :
    ActiveAlertSeverity → Option ThresholdExpression
  | .critical => definition.critical
  | .warning => definition.warning

/-- The part of a rule definition that evaluation and the lifecycle read; the
source descriptors belong to the readers of the observations. -/
structure AlertRuleDefinition where
  dimensions : List AlertDimensionKind
  id : AlertRuleId
  resolutionMode : AlertResolutionMode
  sourceKind : AlertSourceKind
  thresholds : Windowed WindowThresholdDefinition

def countAtLeast (metric : InternalMetricName) (value : Int) : ThresholdExpression :=
  .gte metric value

def ratioAtLeast (minDenominator minNumerator basisPoints : Int) : ThresholdExpression :=
  .ratioGte minDenominator minNumerator basisPoints

def anyOf (clauses : List ThresholdExpression) : ThresholdExpression :=
  .any clauses

def allOf (clauses : List ThresholdExpression) : ThresholdExpression :=
  .all clauses

def ALERT_RULE_DEFINITIONS : AlertRuleId → AlertRuleDefinition
  | .registrationRateLimited =>
    { dimensions := [.global]
      id := .registrationRateLimited
      resolutionMode := .automatic
      sourceKind := .d1Exact
      thresholds :=
        { w5m := { critical := none, warning := countAtLeast .count 5 }
          w15m := { critical := none, warning := countAtLeast .count 10 }
          w60m := { critical := countAtLeast .count 40, warning := none } } }
  | .registrationDenied =>
    { dimensions := [.global]
      id := .registrationDenied
      resolutionMode := .automatic
      sourceKind := .d1Exact
      thresholds :=
        { w5m := { critical := none, warning := countAtLeast .count 10 }
          w15m := { critical := none, warning := countAtLeast .count 25 }
          w60m := { critical := countAtLeast .count 100, warning := none } } }
  | .registrationChallengeUnavailable =>
    { dimensions := [.global]
      id := .registrationChallengeUnavailable
      resolutionMode := .automatic
      sourceKind := .d1Exact
      thresholds :=
        { w5m := { critical := none, warning := ratioAtLeast 5 2 2000 }
          w15m := { critical := none, warning := ratioAtLeast 15 2 2000 }
          w60m := { critical := ratioAtLeast 30 5 5000, warning := none } } }
  | .registrationRestrictedCreated =>
    { dimensions := [.global]
      id := .registrationRestrictedCreated
      resolutionMode := .automatic
      sourceKind := .d1Exact
      thresholds :=
        { w5m := { critical := none, warning := countAtLeast .count 7 }
          w15m := { critical := none, warning := countAtLeast .count 20 }
          w60m := { critical := countAtLeast .count 80, warning := none } } }
  | .restrictedSensitiveDenied =>
    { dimensions := [.hashed .subjectHmac]
      id := .restrictedSensitiveDenied
      resolutionMode := .automatic
      sourceKind := .d1Exact
      thresholds :=
        { w5m := { critical := none, warning := countAtLeast .count 3 }
          w15m := { critical := none, warning := countAtLeast .count 5 }
          w60m :=
            { critical := anyOf [
                countAtLeast .count 20,
                allOf [countAtLeast .count 5, countAtLeast .knownSurfaces 2]]
              warning := none } } }
  | .recoveryEntryAbuse =>
    { dimensions := [.global]
      id := .recoveryEntryAbuse
      resolutionMode := .automatic
      sourceKind := .d1Exact
      thresholds :=
        { w5m :=
            { critical := none
              warning := anyOf [countAtLeast .rateLimited 5, ratioAtLeast 5 5 8000] }
          w15m :=
            { critical := none
              warning := anyOf [countAtLeast .rateLimited 10, ratioAtLeast 15 10 8000] }
          w60m :=
            { critical := anyOf [countAtLeast .rateLimited 40, ratioAtLeast 30 40 9000]
              warning := none } } }
  | .recoveryPasskeyFailure =>
    { dimensions := [.global, .hashed .subjectHmac]
      id := .recoveryPasskeyFailure
      resolutionMode := .automatic
      sourceKind := .d1Exact
      thresholds :=
        { w5m := { critical := none, warning := ratioAtLeast 3 3 6000 }
          w15m := { critical := none, warning := ratioAtLeast 5 5 6000 }
          w60m := { critical := ratioAtLeast 10 10 8000, warning := none } } }
  | .passkeyStepUpFailure =>
    { dimensions := [.global, .hashed .subjectHmac]
      id := .passkeyStepUpFailure
      resolutionMode := .automatic
      sourceKind := .d1Exact
      thresholds :=
        { w5m := { critical := none, warning := ratioAtLeast 5 3 3000 }
          w15m := { critical := none, warning := ratioAtLeast 15 5 3000 }
          w60m := { critical := ratioAtLeast 30 10 6000, warning := none } } }
  | .oauthClientReport =>
    { dimensions := [.hashed .clientHmac]
      id := .oauthClientReport
      resolutionMode := .automatic
      sourceKind := .d1Exact
      thresholds :=
        { w5m := { critical := none, warning := countAtLeast .highRiskCount 1 }
          w15m := { critical := none, warning := countAtLeast .count 3 }
          w60m :=
            { critical := anyOf [
                allOf [countAtLeast .highRiskCount 3, countAtLeast .distinctReporters 2],
                countAtLeast .count 10]
              warning := none } } }
  | .adminSensitiveActivity =>
    { dimensions := [.hashed .actorHmac]
      id := .adminSensitiveActivity
      resolutionMode := .automatic
      sourceKind := .d1Exact
      thresholds :=
        { w5m :=
            { critical := none
              warning := anyOf [countAtLeast .successes 1, countAtLeast .protectedDenials 1] }
          w15m := { critical := countAtLeast .count 3, warning := none }
          w60m := { critical := countAtLeast .count 10, warning := none } } }
  | .adminDirectoryVolume =>
    { dimensions := [.hashed .actorHmac]
      id := .adminDirectoryVolume
      resolutionMode := .automatic
      sourceKind := .d1Exact
      thresholds :=
        { w5m := { critical := none, warning := countAtLeast .count 20 }
          w15m := { critical := none, warning := countAtLeast .count 50 }
          w60m := { critical := countAtLeast .count 200, warning := none } } }
  | .securityFanoutGap =>
    { dimensions := [.global]
      id := .securityFanoutGap
      resolutionMode := .manual
      sourceKind := .d1Exact
      thresholds :=
        { w5m := { critical := none, warning := countAtLeast .missingOlderThan5mCount 1 }
          w15m := { critical := countAtLeast .missingOlderThan15mCount 1, warning := none }
          w60m := { critical := countAtLeast .missingOlderThan5mCount 10, warning := none } } }
  | .logoutDeliveryHealth =>
    { dimensions := [.global, .hashed .clientHmac]
      id := .logoutDeliveryHealth
      resolutionMode := .automatic
      sourceKind := .d1Exact
      thresholds :=
        { w5m :=
            { critical := anyOf [countAtLeast .dead 1, ratioAtLeast 5 1 5000]
              warning := anyOf [
                countAtLeast .oldestUnresolvedAgeSeconds (2 * 60),
                countAtLeast .leaseExpired 1,
                ratioAtLeast 5 1 2000] }
          w15m :=
            { critical := anyOf [
                countAtLeast .dead 1,
                countAtLeast .oldestUnresolvedAgeSeconds (5 * 60),
                countAtLeast .leaseExpired 3,
                ratioAtLeast 10 1 5000]
              warning := ratioAtLeast 10 1 2000 }
          w60m :=
            { critical := anyOf [
                countAtLeast .dead 1,
                countAtLeast .leaseExpired 5,
                ratioAtLeast 20 1 5000]
              warning := ratioAtLeast 20 1 2000 } } }
  | .alertRuntimeHealth =>
    { dimensions := [.global]
      id := .alertRuntimeHealth
      resolutionMode := .automatic
      sourceKind := .d1Exact
      thresholds :=
        { w5m :=
            { critical := none
              warning := anyOf [
                countAtLeast .evaluatorAgeSeconds 181,
                countAtLeast .outboxDueAgeSeconds 121] }
          w15m :=
            { critical := anyOf [
                countAtLeast .evaluatorMissing 1,
                countAtLeast .evaluatorAgeSeconds 301,
                countAtLeast .outboxDueAgeSeconds 301]
              warning := none }
          w60m := { critical := countAtLeast .deadOutbox 1, warning := none } } }
  | .queueDlqApproximate =>
    { dimensions := [.queue]
      id := .queueDlqApproximate
      resolutionMode := .automatic
      sourceKind := .queueApproximate
      thresholds :=
        { w5m := { critical := none, warning := countAtLeast .depth 1 }
          w15m :=
            { critical := anyOf [
                countAtLeast .depth 10,
                countAtLeast .consecutiveNonzeroSamples 15]
              warning := none }
          w60m := { critical := none, warning := none } } }

/-- The expression a rule compares in a window for a severity. -/
def thresholdFor (ruleId : AlertRuleId) (window : AlertWindowKey) (severity : ActiveAlertSeverity) :
    Option ThresholdExpression :=
  ((ALERT_RULE_DEFINITIONS ruleId).thresholds.at window).at severity

structure AlertRulePolicy where
  clearConsecutive : Int
  cooldownMs : Int
  criticalConsecutive : Int
  criticalReminderMs : Int
  warningConsecutive : Int
  warningReminderMs : Int

def ALERT_RULE_POLICY : AlertRulePolicy :=
  { clearConsecutive := 5
    cooldownMs := 30 * 60000
    criticalConsecutive := 2
    criticalReminderMs := 15 * 60000
    warningConsecutive := 2
    warningReminderMs := 60 * 60000 }

theorem resolutionMode_eq_manual_iff {ruleId : AlertRuleId} :
    (ALERT_RULE_DEFINITIONS ruleId).resolutionMode = .manual ↔ ruleId = .securityFanoutGap := by
  cases ruleId <;> decide

/-- No threshold of the table can throw the two-component error. -/
theorem thresholdFor_componentBound (ruleId : AlertRuleId) (window : AlertWindowKey)
    (severity : ActiveAlertSeverity) :
    ∀ expression ∈ thresholdFor ruleId window severity, componentBound expression ≤ 2 := by
  cases ruleId <;> cases window <;> cases severity <;> decide

end pgid.alert
