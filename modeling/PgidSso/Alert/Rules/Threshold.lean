import PgidSso.Alert.Rules.Identity

open checked

namespace pgid.alert

inductive AlertMetricName
  | consecutiveNonzeroSamples
  | count
  | dead
  | deadOutbox
  | depth
  | distinctReporters
  | evaluatorAgeSeconds
  | evaluatorMissing
  | highRiskCount
  | knownSurfaces
  | leaseExpired
  | missing
  | oldestUnresolvedAgeSeconds
  | outboxDueAgeSeconds
  | protectedDenials
  | rateLimited
  | ratio
  | successes
  deriving DecidableEq, Repr

inductive InternalMetricName
  | consecutiveNonzeroSamples
  | count
  | dead
  | deadOutbox
  | denominator
  | depth
  | distinctReporters
  | evaluatorAgeSeconds
  | evaluatorMissing
  | highRiskCount
  | knownSurfaces
  | leaseExpired
  | missingOlderThan15mCount
  | missingOlderThan5mCount
  | numerator
  | oldestUnresolvedAgeSeconds
  | outboxDueAgeSeconds
  | protectedDenials
  | rateLimited
  | successes
  deriving DecidableEq, Repr

def METRIC_NAMES : InternalMetricName → AlertMetricName
  | .consecutiveNonzeroSamples => .consecutiveNonzeroSamples
  | .count => .count
  | .dead => .dead
  | .deadOutbox => .deadOutbox
  | .denominator => .count
  | .depth => .depth
  | .distinctReporters => .distinctReporters
  | .evaluatorAgeSeconds => .evaluatorAgeSeconds
  | .evaluatorMissing => .evaluatorMissing
  | .highRiskCount => .highRiskCount
  | .knownSurfaces => .knownSurfaces
  | .leaseExpired => .leaseExpired
  | .missingOlderThan15mCount => .missing
  | .missingOlderThan5mCount => .missing
  | .numerator => .count
  | .oldestUnresolvedAgeSeconds => .oldestUnresolvedAgeSeconds
  | .outboxDueAgeSeconds => .outboxDueAgeSeconds
  | .protectedDenials => .protectedDenials
  | .rateLimited => .rateLimited
  | .successes => .successes

inductive AlertEvidenceMetricKind
  | ageSeconds
  | boolean
  | consecutive
  | count
  | ratio
  deriving DecidableEq, Repr

inductive AlertEvidenceUnit
  | basisPoints
  | events
  | samples
  | seconds
  | state
  deriving DecidableEq, Repr

structure AlertMetricEvidence where
  kind : AlertEvidenceMetricKind
  metricName : AlertMetricName
  minimumNumeratorCount : Option Int
  minimumSampleCount : Int
  observedDenominator : Option Int
  observedNumerator : Option Int
  observedValue : Int
  threshold : Int
  unit : AlertEvidenceUnit
  deriving DecidableEq, Repr

structure AlertSelectedEvidence extends AlertMetricEvidence where
  secondary : Option AlertMetricEvidence
  severity : ActiveAlertSeverity
  windowSeconds : Int
  deriving DecidableEq, Repr

/-- The metrics of one window; a metric the observation does not carry is `none`. -/
abbrev MetricBag := InternalMetricName → Option Int

/-- The object literal with these fields. -/
def metricBag (fields : List (InternalMetricName × Int)) : MetricBag :=
  fun metric => fields.lookup metric

inductive ThresholdExpression
  | gte (metric : InternalMetricName) (value : Int)
  | ratioGte (minDenominator minNumerator basisPoints : Int)
  | all (clauses : List ThresholdExpression)
  | any (clauses : List ThresholdExpression)

def evidenceDomain : InternalMetricName → AlertEvidenceMetricKind × AlertEvidenceUnit
  | .evaluatorAgeSeconds => (.ageSeconds, .seconds)
  | .oldestUnresolvedAgeSeconds => (.ageSeconds, .seconds)
  | .outboxDueAgeSeconds => (.ageSeconds, .seconds)
  | .consecutiveNonzeroSamples => (.consecutive, .samples)
  | .evaluatorMissing => (.boolean, .state)
  | _ => (.count, .events)

def scalarEvidence (metric : InternalMetricName) (observedValue threshold : Int) :
    AlertMetricEvidence :=
  { kind := (evidenceDomain metric).1
    metricName := METRIC_NAMES metric
    minimumNumeratorCount := none
    minimumSampleCount := 0
    observedDenominator := none
    observedNumerator := none
    observedValue
    threshold
    unit := (evidenceDomain metric).2 }

/-- The evidence literal of a breached ratio. Both counts are nonnegative, so
the rounding of the integer division is the source's. -/
def ratioEvidence (minDenominator minNumerator basisPoints numerator denominator : Int) :
    AlertMetricEvidence :=
  { kind := .ratio
    metricName := .ratio
    minimumNumeratorCount := some minNumerator
    minimumSampleCount := minDenominator
    observedDenominator := some denominator
    observedNumerator := some numerator
    observedValue := numerator * 10000 / denominator
    threshold := basisPoints
    unit := .basisPoints }

inductive ExpressionEvaluation
  | breached (components : List AlertMetricEvidence)
  | clear
  | unknown
  deriving DecidableEq, Repr

mutual

def evaluateExpression : ThresholdExpression → MetricBag → Except String ExpressionEvaluation
  | .gte metric value, metrics =>
    match metrics metric with
    | none => .ok .unknown
    | some observed =>
      if observed < value then .ok .clear
      else .ok (.breached [scalarEvidence metric observed value])
  | .ratioGte minDenominator minNumerator basisPoints, metrics =>
    match metrics .numerator, metrics .denominator with
    | some numerator, some denominator =>
      if numerator < minNumerator ∨ denominator < minDenominator ∨ denominator = 0 ∨
          numerator * 10000 < denominator * basisPoints then
        .ok .clear
      else
        .ok (.breached [ratioEvidence minDenominator minNumerator basisPoints numerator denominator])
    | _, _ => .ok .unknown
  | .all clauses, metrics => evaluateAll clauses metrics [] false
  | .any clauses, metrics => evaluateAny clauses metrics false

/-- The loop of an `all` expression, with the components pushed so far. -/
def evaluateAll : List ThresholdExpression → MetricBag → List AlertMetricEvidence → Bool →
    Except String ExpressionEvaluation
  | [], _, components, unknown =>
    if unknown then .ok .unknown
    else if components.length > 2 then
      .error "alert v1 evidence exceeds its two-component schema"
    else .ok (.breached components)
  | clause :: clauses, metrics, components, unknown =>
    match evaluateExpression clause metrics with
    | .error message => .error message
    | .ok .clear => .ok .clear
    | .ok .unknown => evaluateAll clauses metrics components true
    | .ok (.breached found) => evaluateAll clauses metrics (components ++ found) unknown

/-- The loop of an `any` expression. -/
def evaluateAny : List ThresholdExpression → MetricBag → Bool → Except String ExpressionEvaluation
  | [], _, unknown => .ok (if unknown then .unknown else .clear)
  | clause :: clauses, metrics, unknown =>
    match evaluateExpression clause metrics with
    | .error message => .error message
    | .ok (.breached components) => .ok (.breached components)
    | .ok .unknown => evaluateAny clauses metrics true
    | .ok .clear => evaluateAny clauses metrics unknown

end

structure AlertEvidenceContractComponent where
  metricName : AlertMetricName
  minimumNumeratorCount : Option Int
  minimumSampleCount : Int
  threshold : Int
  deriving DecidableEq, Repr

mutual

def evidenceContractsFor : ThresholdExpression → List (List AlertEvidenceContractComponent)
  | .gte metric value =>
    [[{ metricName := METRIC_NAMES metric, minimumNumeratorCount := none, minimumSampleCount := 0,
        threshold := value }]]
  | .ratioGte minDenominator minNumerator basisPoints =>
    [[{ metricName := .ratio, minimumNumeratorCount := some minNumerator,
        minimumSampleCount := minDenominator, threshold := basisPoints }]]
  | .any clauses => evidenceContractsForAny clauses
  | .all clauses => evidenceContractsForAll clauses [[]]

/-- `clauses.flatMap(evidenceContractsFor)`. -/
def evidenceContractsForAny : List ThresholdExpression → List (List AlertEvidenceContractComponent)
  | [] => []
  | clause :: clauses => evidenceContractsFor clause ++ evidenceContractsForAny clauses

/-- The loop that combines the contracts of every clause of an `all` expression. -/
def evidenceContractsForAll : List ThresholdExpression →
    List (List AlertEvidenceContractComponent) → List (List AlertEvidenceContractComponent)
  | [], combined => combined
  | clause :: clauses, combined =>
    let clauseContracts := evidenceContractsFor clause
    evidenceContractsForAll clauses
      (combined.flatMap fun previous => clauseContracts.map fun suffix => previous ++ suffix)

end

end pgid.alert
