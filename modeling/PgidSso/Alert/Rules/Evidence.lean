import PgidSso.Alert.Rules.Definitions

open checked

namespace pgid.alert

def MAX_EVIDENCE_VALUE : Int := 1000000000

def MAX_RATIO_FIELD : Int := 1000000

def MAX_QUEUE_BACKLOG_BYTES : Int := 1000000000000

/-- A number of the persistence domain; `none` stands for every value that is not a
safe integer, `null` included. -/
def integer (value : Option Int) (name : String) (maximum : Int) : Except String Int :=
  match value with
  | none => .error s!"{name} must be an integer in the persistence domain"
  | some value =>
    if value < 0 ∨ maximum < value then
      .error s!"{name} must be an integer in the persistence domain"
    else .ok value

@[simp] theorem integer_eq_ok_iff {value : Option Int} {name : String} {maximum result : Int} :
    integer value name maximum = .ok result ↔ value = some result ∧ 0 ≤ result ∧ result ≤ maximum := by
  cases value with
  | none => simp [integer]
  | some value =>
    unfold integer
    simp only [Option.some.injEq]
    split <;> constructor <;> intro hresult
    · simp at hresult
    · omega
    · simp only [Except.ok.injEq] at hresult
      omega
    · rw [hresult.1]

def nullableInteger (value : Option Int) (name : String) (maximum : Int) :
    Except String (Option Int) :=
  nullable (fun value => integer (some value) name maximum) value

def metricDomain : AlertMetricName → AlertEvidenceMetricKind × AlertEvidenceUnit
  | .ratio => (.ratio, .basisPoints)
  | .evaluatorAgeSeconds => (.ageSeconds, .seconds)
  | .oldestUnresolvedAgeSeconds => (.ageSeconds, .seconds)
  | .outboxDueAgeSeconds => (.ageSeconds, .seconds)
  | .consecutiveNonzeroSamples => (.consecutive, .samples)
  | .evaluatorMissing => (.boolean, .state)
  | _ => (.count, .events)

/-- Numerators stay below 10^10, where the quotient of doubles rounds down to the
exact integer quotient. -/
def parseMetricEvidence (value : AlertMetricEvidence) (name : String) :
    Except String AlertMetricEvidence := do
  let metricName := value.metricName
  let domain := metricDomain metricName
  throwIf (value.kind ≠ domain.1 ∨ value.unit ≠ domain.2) s!"{name} metric domain is inconsistent"
  let observedValue ← integer (some value.observedValue) s!"{name} observed value" MAX_EVIDENCE_VALUE
  let threshold ← integer (some value.threshold) s!"{name} threshold" MAX_EVIDENCE_VALUE
  throwIf (threshold < 1) s!"{name} threshold must be positive"
  if metricName = .ratio then
    let observedNumerator ←
      integer value.observedNumerator s!"{name} observed numerator" MAX_RATIO_FIELD
    let observedDenominator ←
      integer value.observedDenominator s!"{name} observed denominator" MAX_RATIO_FIELD
    let minimumSampleCount ←
      integer (some value.minimumSampleCount) s!"{name} minimum sample count" MAX_RATIO_FIELD
    let minimumNumeratorCount ←
      integer value.minimumNumeratorCount s!"{name} minimum numerator count" MAX_RATIO_FIELD
    throwIf
      (observedDenominator < 1 ∨ minimumNumeratorCount < 1 ∨
        observedNumerator > observedDenominator ∨ observedDenominator < minimumSampleCount ∨
        observedNumerator < minimumNumeratorCount ∨
        observedValue ≠ observedNumerator * 10000 / observedDenominator ∨ threshold > 10000)
      s!"{name} ratio evidence is inconsistent"
    return {
      kind := domain.1, metricName, minimumNumeratorCount := some minimumNumeratorCount,
      minimumSampleCount, observedDenominator := some observedDenominator,
      observedNumerator := some observedNumerator, observedValue, threshold, unit := domain.2 }
  else
    throwIf
      (value.observedNumerator ≠ none ∨ value.observedDenominator ≠ none ∨
        value.minimumNumeratorCount ≠ none ∨ value.minimumSampleCount ≠ 0)
      s!"{name} non-ratio evidence has ratio fields"
    throwIf (metricName = .evaluatorMissing ∧ observedValue > 1)
      s!"{name} boolean evidence is inconsistent"
    return {
      kind := domain.1, metricName, minimumNumeratorCount := none, minimumSampleCount := 0,
      observedDenominator := none, observedNumerator := none, observedValue, threshold,
      unit := domain.2 }

/-- The component pairs that a selected evidence may consist of. -/
def supportedPair (primary secondary : AlertMetricName) : Bool :=
  (primary = .count ∧ secondary = .knownSurfaces) ∨
    (primary = .highRiskCount ∧ secondary = .distinctReporters)

def parseAlertSelectedEvidence (value : AlertSelectedEvidence) :
    Except String AlertSelectedEvidence := do
  let primary ← parseMetricEvidence value.toAlertMetricEvidence "primary alert evidence"
  throwIf (value.windowSeconds ≠ 300 ∧ value.windowSeconds ≠ 900 ∧ value.windowSeconds ≠ 3600)
    "selected alert evidence window is not supported"
  let secondary ←
    nullable (fun evidence => parseMetricEvidence evidence "secondary alert evidence") value.secondary
  throwIf
    (primary.metricName = .knownSurfaces ∨ primary.metricName = .distinctReporters ∨
      primary.observedValue < primary.threshold)
    "primary alert evidence does not prove a canonical breach"
  match secondary with
  | none => pure ()
  | some secondary =>
    throwIf (¬ supportedPair primary.metricName secondary.metricName)
      "selected alert evidence component pair is not supported"
    throwIf (secondary.observedValue < secondary.threshold)
      "secondary alert evidence does not prove a canonical breach"
  return { toAlertMetricEvidence := primary, secondary, severity := value.severity,
           windowSeconds := value.windowSeconds }

/-- The components of a selected evidence, primary first. -/
def AlertSelectedEvidence.components (evidence : AlertSelectedEvidence) : List AlertMetricEvidence :=
  match evidence.secondary with
  | none => [evidence.toAlertMetricEvidence]
  | some secondary => [evidence.toAlertMetricEvidence, secondary]

def componentMatches (component : AlertMetricEvidence) (expected : AlertEvidenceContractComponent) :
    Bool :=
  component.metricName = expected.metricName ∧
    component.minimumNumeratorCount = expected.minimumNumeratorCount ∧
    component.minimumSampleCount = expected.minimumSampleCount ∧
    component.threshold = expected.threshold

def evidenceMatchesContract (evidence : AlertSelectedEvidence)
    (contract : List AlertEvidenceContractComponent) : Bool :=
  evidence.components.length = contract.length ∧
    (evidence.components.zip contract).all fun pair => componentMatches pair.1 pair.2

def windowOfSeconds (windowSeconds : Int) : AlertWindowKey :=
  if windowSeconds = 300 then .w5m else if windowSeconds = 900 then .w15m else .w60m

def parseAlertSelectedEvidenceForRule (value : AlertSelectedEvidence) (ruleId : AlertRuleId) :
    Except String AlertSelectedEvidence := do
  let evidence ← parseAlertSelectedEvidence value
  match thresholdFor ruleId (windowOfSeconds evidence.windowSeconds) evidence.severity with
  | none => .error "selected alert evidence does not match the canonical rule contract"
  | some expression =>
    throwIf (¬ (evidenceContractsFor expression).any (evidenceMatchesContract evidence))
      "selected alert evidence does not match the canonical rule contract"
    return evidence

/-- The parser returns the evidence it accepts unchanged. -/
theorem parseMetricEvidence_eq_self {value result : AlertMetricEvidence} {name : String}
    (hparse : parseMetricEvidence value name = .ok result) : result = value := by
  unfold parseMetricEvidence at hparse
  simp only [bind_eq_ok_iff, throwIf_eq_ok_iff, exists_const, integer_eq_ok_iff,
    Option.some.injEq] at hparse
  obtain ⟨hdomain, observedValue, ⟨rfl, -⟩, threshold, ⟨rfl, -⟩, -, hparse⟩ := hparse
  simp only [not_or, Decidable.not_not] at hdomain
  obtain ⟨hkind, hunit⟩ := hdomain
  split at hparse
  · simp only [bind_eq_ok_iff, throwIf_eq_ok_iff, exists_const, integer_eq_ok_iff,
      Option.some.injEq, pure_eq_ok_iff] at hparse
    obtain ⟨numerator, ⟨hnumerator, -⟩, denominator, ⟨hdenominator, -⟩, samples, ⟨rfl, -⟩,
      minimum, ⟨hminimum, -⟩, -, rfl⟩ := hparse
    rw [← hnumerator, ← hdenominator, ← hminimum, ← hkind, ← hunit]
  · simp only [bind_eq_ok_iff, throwIf_eq_ok_iff, exists_const, pure_eq_ok_iff, not_or,
      Decidable.not_not] at hparse
    obtain ⟨⟨hnumerator, hdenominator, hminimum, hsamples⟩, -, rfl⟩ := hparse
    cases value
    simp_all only

theorem parseAlertSelectedEvidence_eq_self {value result : AlertSelectedEvidence}
    (hparse : parseAlertSelectedEvidence value = .ok result) : result = value := by
  simp only [parseAlertSelectedEvidence, bind_eq_ok_iff, throwIf_eq_ok_iff, exists_const] at hparse
  obtain ⟨primary, hprimary, -, secondary, hsecondary, -, hparse⟩ := hparse
  have hprimary := parseMetricEvidence_eq_self hprimary
  have hsecondary : secondary = value.secondary := by
    cases hvalue : value.secondary with
    | none =>
      rw [hvalue, nullable_none, Except.ok.injEq] at hsecondary
      exact hsecondary.symm
    | some evidence =>
      rw [hvalue, nullable_some_eq_ok_iff] at hsecondary
      obtain ⟨parsed, hparsed, rfl⟩ := hsecondary
      rw [parseMetricEvidence_eq_self hparsed]
  subst hprimary hsecondary
  split at hparse <;> simp only [bind_eq_ok_iff, pure_eq_ok_iff] at hparse
  · obtain ⟨-, rfl⟩ := hparse
    rfl
  · obtain ⟨-, -, -, -, rfl⟩ := hparse
    rfl

theorem parseAlertSelectedEvidenceForRule_eq_self {value result : AlertSelectedEvidence}
    {ruleId : AlertRuleId} (hparse : parseAlertSelectedEvidenceForRule value ruleId = .ok result) :
    result = value := by
  simp only [parseAlertSelectedEvidenceForRule, bind_eq_ok_iff] at hparse
  obtain ⟨evidence, hevidence, hparse⟩ := hparse
  split at hparse
  · simp at hparse
  · simp only [bind_eq_ok_iff, throwIf_eq_ok_iff, exists_const, pure_eq_ok_iff] at hparse
    rw [← hparse.2]
    exact parseAlertSelectedEvidence_eq_self hevidence

end pgid.alert
