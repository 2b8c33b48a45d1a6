import PgidSso.Alert.Rules.Evaluate.Domain

open checked

namespace pgid.alert

/-- A contract component whose numbers lie inside the evidence domain. -/
def AlertEvidenceContractComponent.Supported (contract : AlertEvidenceContractComponent) : Bool :=
  decide (1 ≤ contract.threshold ∧ contract.threshold ≤ MAX_EVIDENCE_VALUE) &&
    match contract.minimumNumeratorCount with
    | none => true
    | some minimumNumeratorCount =>
      decide (1 ≤ minimumNumeratorCount ∧ minimumNumeratorCount ≤ MAX_RATIO_FIELD ∧
        0 ≤ contract.minimumSampleCount ∧ contract.minimumSampleCount ≤ MAX_RATIO_FIELD ∧
        contract.threshold ≤ 10000)

/-- A contract that a selected evidence of one or two components can meet. -/
def supportedContract : List AlertEvidenceContractComponent → Bool
  | [primary] =>
    primary.Supported ∧ primary.metricName ≠ .knownSurfaces ∧ primary.metricName ≠ .distinctReporters
  | [primary, secondary] =>
    primary.Supported ∧ secondary.Supported ∧ supportedPair primary.metricName secondary.metricName
  | _ => false

/-- Every contract of the rule table is supported. -/
theorem thresholdFor_supported (ruleId : AlertRuleId) (window : AlertWindowKey)
    (severity : ActiveAlertSeverity) :
    ∀ expression ∈ thresholdFor ruleId window severity,
      ∀ contract ∈ evidenceContractsFor expression, supportedContract contract = true := by
  cases ruleId <;> cases window <;> cases severity <;> decide

@[simp] theorem metricDomain_METRIC_NAMES (metric : InternalMetricName) :
    metricDomain (METRIC_NAMES metric) = evidenceDomain metric := by
  cases metric <;> rfl

@[simp] theorem METRIC_NAMES_ne_ratio (metric : InternalMetricName) : METRIC_NAMES metric ≠ .ratio := by
  cases metric <;> decide

theorem METRIC_NAMES_eq_evaluatorMissing {metric : InternalMetricName}
    (hname : METRIC_NAMES metric = .evaluatorMissing) : metric = .evaluatorMissing := by
  cases metric <;> simp_all [METRIC_NAMES]

theorem ComponentProves.metricName_eq {metrics : MetricBag} {component : AlertMetricEvidence}
    {contract : AlertEvidenceContractComponent} (hproves : ComponentProves metrics component contract) :
    component.metricName = contract.metricName := by
  cases hproves <;> rfl

theorem ComponentProves.componentMatches {metrics : MetricBag} {component : AlertMetricEvidence}
    {contract : AlertEvidenceContractComponent} (hproves : ComponentProves metrics component contract) :
    componentMatches component contract = true := by
  cases hproves <;> simp [pgid.alert.componentMatches, scalarEvidence, ratioEvidence]

/-- The observed value of a component reaches its threshold. For a ratio this is the
integer quotient, which the strict comparison of the products implies. -/
theorem ComponentProves.threshold_le {metrics : MetricBag} {component : AlertMetricEvidence}
    {contract : AlertEvidenceContractComponent} (hproves : ComponentProves metrics component contract)
    (hdomain : metrics.InDomain) : component.threshold ≤ component.observedValue := by
  cases hproves with
  | gte hobserved hvalue => exact hvalue
  | @ratio minDenominator minNumerator basisPoints numerator denominator hnumerator hdenominator _ _
      hnonzero hratio =>
    have hpositive : 0 < denominator := by
      have := (hdomain.value _ _ hdenominator).1
      omega
    simp only [ratioEvidence]
    exact Int.le_ediv_of_mul_le hpositive (by rw [Int.mul_comm]; exact hratio)

/-- The evidence of a count, an age, a streak or a state passes the parser. -/
theorem parseMetricEvidence_scalar {metric : InternalMetricName} {observedValue threshold : Int}
    {name : String} (hvalue : 0 ≤ observedValue ∧ observedValue ≤ MAX_EVIDENCE_VALUE)
    (hthreshold : 1 ≤ threshold ∧ threshold ≤ MAX_EVIDENCE_VALUE)
    (hmissing : METRIC_NAMES metric = .evaluatorMissing → observedValue ≤ 1) :
    parseMetricEvidence (scalarEvidence metric observedValue threshold) name =
      .ok (scalarEvidence metric observedValue threshold) := by
  have hpositive : 0 ≤ threshold := by omega
  have hbelow : ¬ threshold < 1 := by omega
  have hboolean : ¬ (METRIC_NAMES metric = .evaluatorMissing ∧ observedValue > 1) := by
    rintro ⟨hname, habove⟩
    have := hmissing hname
    omega
  have hscalar : (scalarEvidence metric observedValue threshold).metricName ≠ .ratio :=
    METRIC_NAMES_ne_ratio metric
  -- The guards go first: they no longer typecheck once the evidence is unfolded.
  simp only [parseMetricEvidence, if_neg hscalar, bind_eq_ok_iff, throwIf_eq_ok_iff,
    exists_const, integer_eq_ok_iff, Option.some.injEq, pure_eq_ok_iff]
  simp only [scalarEvidence, metricDomain_METRIC_NAMES]
  exact ⟨by simp, observedValue, ⟨rfl, hvalue⟩, threshold, ⟨rfl, hpositive, hthreshold.2⟩, hbelow,
    by simp, hboolean, rfl⟩

theorem parseMetricEvidence_ratio
    {minDenominator minNumerator basisPoints numerator denominator : Int} {name : String}
    (hnumerator : minNumerator ≤ numerator ∧ numerator ≤ denominator)
    (hdenominator : minDenominator ≤ denominator ∧ denominator ≤ MAX_RATIO_FIELD)
    (hminNumerator : 1 ≤ minNumerator ∧ minNumerator ≤ MAX_RATIO_FIELD)
    (hminDenominator : 0 ≤ minDenominator ∧ minDenominator ≤ MAX_RATIO_FIELD)
    (hbasis : 1 ≤ basisPoints ∧ basisPoints ≤ 10000) :
    parseMetricEvidence
        (ratioEvidence minDenominator minNumerator basisPoints numerator denominator) name =
      .ok (ratioEvidence minDenominator minNumerator basisPoints numerator denominator) := by
  have hpositive : 0 < denominator := by omega
  have hquotient : numerator * 10000 / denominator ≤ 10000 :=
    Int.ediv_le_of_le_mul hpositive (by omega)
  have hquotientMax : numerator * 10000 / denominator ≤ MAX_EVIDENCE_VALUE :=
    Int.le_trans hquotient (by decide)
  have hbasisMax : basisPoints ≤ MAX_EVIDENCE_VALUE := Int.le_trans hbasis.2 (by decide)
  have hnonneg : 0 ≤ numerator * 10000 / denominator :=
    Int.ediv_nonneg (by omega) (by omega)
  have hname : (ratioEvidence minDenominator minNumerator basisPoints numerator
      denominator).metricName = .ratio := rfl
  simp only [parseMetricEvidence, if_pos hname, bind_eq_ok_iff, throwIf_eq_ok_iff, exists_const,
    integer_eq_ok_iff, Option.some.injEq, pure_eq_ok_iff]
  simp only [ratioEvidence, metricDomain, Option.some.injEq]
  exact ⟨by simp, _, ⟨rfl, hnonneg, hquotientMax⟩, basisPoints, ⟨rfl, by omega, hbasisMax⟩,
    by omega, numerator, ⟨rfl, by omega, by omega⟩, denominator, ⟨rfl, by omega, hdenominator.2⟩,
    minDenominator, ⟨rfl, hminDenominator⟩, minNumerator, ⟨rfl, by omega, hminNumerator.2⟩,
    by omega, rfl⟩

/-- A component that proves a supported contract passes the evidence parser. -/
theorem parseMetricEvidence_proved {metrics : MetricBag} {component : AlertMetricEvidence}
    {contract : AlertEvidenceContractComponent} {name : String} (hdomain : metrics.InDomain)
    (hproves : ComponentProves metrics component contract) (hsupported : contract.Supported = true) :
    parseMetricEvidence component name = .ok component := by
  simp only [AlertEvidenceContractComponent.Supported, Bool.and_eq_true, decide_eq_true_eq]
    at hsupported
  obtain ⟨hthreshold, hsupported⟩ := hsupported
  cases hproves with
  | gte hobserved hvalue =>
    refine parseMetricEvidence_scalar (hdomain.value _ _ hobserved) hthreshold ?_
    intro hname
    obtain rfl := METRIC_NAMES_eq_evaluatorMissing hname
    exact hdomain.missing _ hobserved
  | ratio hnumerator hdenominator hminNumerator hminDenominator hnonzero hratio =>
    simp only [decide_eq_true_eq] at hsupported
    obtain ⟨hminOne, hminMax, hsampleMin, hsampleMax, hbasis⟩ := hsupported
    obtain ⟨hle, hdenominatorMax⟩ := hdomain.ratio _ _ hnumerator hdenominator
    exact parseMetricEvidence_ratio ⟨hminNumerator, hle⟩ ⟨hminDenominator, hdenominatorMax⟩
      ⟨hminOne, hminMax⟩ ⟨hsampleMin, hsampleMax⟩ ⟨hthreshold.1, hbasis⟩

@[simp] theorem windowOfSeconds_ALERT_WINDOW_SECONDS (window : AlertWindowKey) :
    windowOfSeconds (ALERT_WINDOW_SECONDS window) = window := by
  cases window <;> rfl

private theorem windowSeconds_supported (window : AlertWindowKey) :
    ¬ (ALERT_WINDOW_SECONDS window ≠ 300 ∧ ALERT_WINDOW_SECONDS window ≠ 900 ∧
      ALERT_WINDOW_SECONDS window ≠ 3600) := by
  cases window <;> decide

/-- The last check of the validator, for evidence whose fields it has accepted. -/
theorem parseAlertSelectedEvidenceForRule_of_contract {evidence : AlertSelectedEvidence}
    {ruleId : AlertRuleId} {window : AlertWindowKey} {expression : ThresholdExpression}
    {contract : List AlertEvidenceContractComponent}
    (hfields : parseAlertSelectedEvidence evidence = .ok evidence)
    (hwindow : evidence.windowSeconds = ALERT_WINDOW_SECONDS window)
    (hthreshold : thresholdFor ruleId window evidence.severity = some expression)
    (hcontract : contract ∈ evidenceContractsFor expression)
    (hmatches : evidenceMatchesContract evidence contract = true) :
    parseAlertSelectedEvidenceForRule evidence ruleId = .ok evidence := by
  simp only [parseAlertSelectedEvidenceForRule, bind_eq_ok_iff]
  refine ⟨evidence, hfields, ?_⟩
  rw [hwindow, windowOfSeconds_ALERT_WINDOW_SECONDS, hthreshold]
  simp only [bind_eq_ok_iff, throwIf_eq_ok_iff, exists_const, pure_eq_ok_iff, Decidable.not_not,
    and_true]
  exact List.any_eq_true.mpr ⟨contract, hcontract, hmatches⟩

section selected

variable {metrics : MetricBag} {window : AlertWindowKey} {severity : ActiveAlertSeverity}
  {primary : AlertMetricEvidence} {primaryContract : AlertEvidenceContractComponent}

theorem parseAlertSelectedEvidence_single (hdomain : metrics.InDomain)
    (hprimary : ComponentProves metrics primary primaryContract)
    (hsupported : supportedContract [primaryContract] = true) :
    parseAlertSelectedEvidence
        { toAlertMetricEvidence := primary, secondary := none, severity,
          windowSeconds := ALERT_WINDOW_SECONDS window } =
      .ok { toAlertMetricEvidence := primary, secondary := none, severity,
            windowSeconds := ALERT_WINDOW_SECONDS window } := by
  simp only [supportedContract, decide_eq_true_eq] at hsupported
  obtain ⟨hfields, hknown, hreporters⟩ := hsupported
  rw [← hprimary.metricName_eq] at hknown hreporters
  have hreached := hprimary.threshold_le hdomain
  simp only [parseAlertSelectedEvidence, bind_eq_ok_iff, throwIf_eq_ok_iff, exists_const,
    nullable_none, Except.ok.injEq]
  exact ⟨primary, parseMetricEvidence_proved hdomain hprimary hfields,
    windowSeconds_supported window, none, rfl, by simp [hknown, hreporters, hreached], rfl⟩

theorem parseAlertSelectedEvidence_pair {secondary : AlertMetricEvidence}
    {secondaryContract : AlertEvidenceContractComponent} (hdomain : metrics.InDomain)
    (hprimary : ComponentProves metrics primary primaryContract)
    (hsecondary : ComponentProves metrics secondary secondaryContract)
    (hsupported : supportedContract [primaryContract, secondaryContract] = true) :
    parseAlertSelectedEvidence
        { toAlertMetricEvidence := primary, secondary := some secondary, severity,
          windowSeconds := ALERT_WINDOW_SECONDS window } =
      .ok { toAlertMetricEvidence := primary, secondary := some secondary, severity,
            windowSeconds := ALERT_WINDOW_SECONDS window } := by
  simp only [supportedContract, decide_eq_true_eq] at hsupported
  obtain ⟨hprimaryFields, hsecondaryFields, hpair⟩ := hsupported
  rw [← hprimary.metricName_eq, ← hsecondary.metricName_eq] at hpair
  have hreached := hprimary.threshold_le hdomain
  have hreachedSecondary := hsecondary.threshold_le hdomain
  have hname : primary.metricName ≠ .knownSurfaces ∧ primary.metricName ≠ .distinctReporters := by
    constructor <;> intro hname <;> simp [hname, supportedPair] at hpair
  simp only [parseAlertSelectedEvidence, bind_eq_ok_iff, throwIf_eq_ok_iff, exists_const,
    nullable_some_eq_ok_iff]
  refine ⟨primary, parseMetricEvidence_proved hdomain hprimary hprimaryFields,
    windowSeconds_supported window, some secondary,
    ⟨secondary, parseMetricEvidence_proved hdomain hsecondary hsecondaryFields, rfl⟩,
    by simp [hname, hreached], ?_⟩
  simp only [bind_eq_ok_iff, throwIf_eq_ok_iff, exists_const, pure_eq_ok_iff, hpair,
    Int.not_lt, hreachedSecondary, and_true, not_true_eq_false, not_false_eq_true]

end selected

/-- The evidence selected from a breached threshold of the table is accepted by the
validator of the rule, unchanged. -/
theorem selectedEvidence_accepted {metrics : MetricBag} {ruleId : AlertRuleId}
    {window : AlertWindowKey} {severity : ActiveAlertSeverity} {expression : ThresholdExpression}
    {components : List AlertMetricEvidence} (hdomain : metrics.InDomain)
    (hthreshold : thresholdFor ruleId window severity = some expression)
    (hbreached : evaluateExpression expression metrics = .ok (.breached components)) :
    ∃ evidence, selectedEvidence components severity window = .ok evidence ∧
      evidence.severity = severity ∧
      parseAlertSelectedEvidenceForRule evidence ruleId = .ok evidence := by
  obtain ⟨contract, hcontract, hproves⟩ := evaluateExpression_breached expression hbreached
  have hsupported := thresholdFor_supported ruleId window severity expression hthreshold contract
    hcontract
  cases hproves with
  | nil => simp [supportedContract] at hsupported
  | cons hprimary hrest =>
    cases hrest with
    | nil =>
      refine ⟨_, rfl, rfl, parseAlertSelectedEvidenceForRule_of_contract
        (parseAlertSelectedEvidence_single hdomain hprimary hsupported) rfl hthreshold hcontract ?_⟩
      simp [evidenceMatchesContract, AlertSelectedEvidence.components, hprimary.componentMatches]
    | cons hsecondary hrest =>
      cases hrest with
      | nil =>
        refine ⟨_, rfl, rfl, parseAlertSelectedEvidenceForRule_of_contract
          (parseAlertSelectedEvidence_pair hdomain hprimary hsecondary hsupported) rfl hthreshold
          hcontract ?_⟩
        simp [evidenceMatchesContract, AlertSelectedEvidence.components, hprimary.componentMatches,
          hsecondary.componentMatches]
      | cons hthird hrest => simp [supportedContract] at hsupported

/-- A pair with known surfaces proves at most as many of them as denials, and at most all
the surfaces there are. -/
def AlertSelectedEvidence.SurfacesBounded (evidence : AlertSelectedEvidence) : Prop :=
  ∀ secondary ∈ evidence.secondary, secondary.metricName = .knownSurfaces →
    secondary.observedValue ≤ evidence.observedValue ∧
      secondary.observedValue ≤ RESTRICTED_ALERT_SURFACE_COUNT

/-- Only one expression of the table asks for known surfaces. -/
theorem thresholdFor_knownSurfaces (ruleId : AlertRuleId) (window : AlertWindowKey)
    (severity : ActiveAlertSeverity) :
    (ruleId = .restrictedSensitiveDenied ∧ window = .w60m ∧ severity = .critical) ∨
      ∀ expression ∈ thresholdFor ruleId window severity,
        ∀ contract ∈ evidenceContractsFor expression, ∀ component ∈ contract,
          component.metricName ≠ .knownSurfaces := by
  cases ruleId <;> cases window <;> cases severity <;> decide

/-- The pair that the restricted denials are compared with. -/
theorem restrictedPair_breached {metrics : MetricBag} {components : List AlertMetricEvidence}
    {expression : ThresholdExpression}
    (hthreshold : thresholdFor .restrictedSensitiveDenied .w60m .critical = some expression)
    (hbreached : evaluateExpression expression metrics = .ok (.breached components)) :
    (∃ count, components = [scalarEvidence .count count 20]) ∨
      ∃ count surfaces, metrics .count = some count ∧ metrics .knownSurfaces = some surfaces ∧
        components = [scalarEvidence .count count 5, scalarEvidence .knownSurfaces surfaces 2] := by
  obtain rfl := Option.some.inj hthreshold
  simp only [anyOf, allOf, countAtLeast, evaluateExpression, evaluateAny, evaluateAll] at hbreached
  cases hcount : metrics .count with
  | none =>
    cases hknown : metrics .knownSurfaces with
    | none => simp [hcount, hknown] at hbreached
    | some surfaces => by_cases hpair : surfaces < 2 <;> simp [hcount, hknown, hpair] at hbreached
  | some count =>
    by_cases hcritical : count < 20
    · by_cases hwarning : count < 5
      · simp [hcount, hcritical, hwarning] at hbreached
      · cases hknown : metrics .knownSurfaces with
        | none => simp [hcount, hknown, hcritical, hwarning] at hbreached
        | some surfaces =>
          by_cases hpair : surfaces < 2
          · simp [hcount, hknown, hcritical, hwarning, hpair] at hbreached
          · simp [hcount, hknown, hcritical, hwarning, hpair] at hbreached
            exact .inr ⟨count, surfaces, rfl, rfl, hbreached.symm⟩
    · simp [hcount, hcritical] at hbreached
      exact .inl ⟨count, hbreached.symm⟩

/-- The surfaces of a breached threshold lie in the bounds of its window. -/
theorem selectedEvidence_surfacesBounded {metrics : MetricBag} {ruleId : AlertRuleId}
    {window : AlertWindowKey} {severity : ActiveAlertSeverity} {expression : ThresholdExpression}
    {components : List AlertMetricEvidence} {evidence : AlertSelectedEvidence}
    (hdomain : metrics.InDomain) (hthreshold : thresholdFor ruleId window severity = some expression)
    (hbreached : evaluateExpression expression metrics = .ok (.breached components))
    (hevidence : selectedEvidence components severity window = .ok evidence) :
    evidence.SurfacesBounded := by
  rcases thresholdFor_knownSurfaces ruleId window severity with ⟨rfl, rfl, rfl⟩ | hnone
  · rcases restrictedPair_breached hthreshold hbreached with
      ⟨count, rfl⟩ | ⟨count, surfaces, hcount, hknown, rfl⟩
    · cases hevidence
      simp [AlertSelectedEvidence.SurfacesBounded]
    · cases hevidence
      obtain ⟨hmaximum, count', hcount', hle⟩ := hdomain.surfaces _ hknown
      rw [hcount, Option.mem_def, Option.some.injEq] at hcount'
      subst hcount'
      rintro _ ⟨⟩ -
      exact ⟨hle, hmaximum⟩
  · obtain ⟨contract, hcontract, hproves⟩ := evaluateExpression_breached expression hbreached
    have hnames := hnone expression hthreshold contract hcontract
    cases hproves with
    | nil => cases hevidence
    | cons hprimary hrest =>
      cases hrest with
      | nil =>
        cases hevidence
        simp [AlertSelectedEvidence.SurfacesBounded]
      | cons hsecondary hrest =>
        cases hrest with
        | nil =>
          cases hevidence
          rintro _ ⟨⟩ hname
          exact absurd (hsecondary.metricName_eq.symm.trans hname) (hnames _ (by simp))
        | cons hthird hrest => cases hevidence

/-- Every match comes from a breached threshold of its window. -/
def WindowThresholdEvaluation.Sound (thresholds : AlertWindowKey → Option ThresholdExpression)
    (metrics : Windowed MetricBag) (evaluation : WindowThresholdEvaluation) : Prop :=
  (∀ found ∈ evaluation.found, ∃ expression, thresholds found.window = some expression ∧
    evaluateExpression expression (metrics.at found.window) = .ok (.breached found.components)) ∧
  (evaluation.found.map (·.window)).Nodup

theorem evaluateWindows_sound {thresholds : AlertWindowKey → Option ThresholdExpression}
    {metrics : Windowed MetricBag}
    (hbound : ∀ window, ∀ expression ∈ thresholds window, componentBound expression ≤ 2)
    (windows : List AlertWindowKey) :
    ∃ evaluation, evaluateWindows thresholds metrics windows = .ok evaluation ∧
      (∀ found ∈ evaluation.found, ∃ expression, thresholds found.window = some expression ∧
        evaluateExpression expression (metrics.at found.window) = .ok (.breached found.components)) ∧
      (evaluation.found.map (·.window)).Sublist windows := by
  induction windows with
  | nil => exact ⟨_, rfl, by simp, by simp⟩
  | cons window windows ih =>
    obtain ⟨rest, hrest, hsound, hsublist⟩ := ih
    unfold evaluateWindows
    cases hthreshold : thresholds window with
    | none => exact ⟨rest, hrest, hsound, hsublist.cons window⟩
    | some expression =>
      obtain ⟨result, hresult, -⟩ :=
        @evaluateExpression_returns (metrics.at window) expression
          (hbound window expression hthreshold)
      simp only [hresult, hrest, Bind.bind, Except.bind]
      cases result with
      | clear => exact ⟨rest, rfl, hsound, hsublist.cons window⟩
      | unknown => exact ⟨_, rfl, hsound, hsublist.cons window⟩
      | breached components =>
        refine ⟨_, rfl, ?_, hsublist.cons_cons window⟩
        intro found hfound
        rw [List.mem_cons] at hfound
        rcases hfound with rfl | hfound
        · exact ⟨expression, hthreshold, hresult⟩
        · exact hsound found hfound

theorem evaluateWindowThresholds_sound (ruleId : AlertRuleId) (metrics : Windowed MetricBag)
    (severity : ActiveAlertSeverity) :
    ∃ evaluation, evaluateWindowThresholds ruleId metrics severity = .ok evaluation ∧
      evaluation.Sound (fun window => thresholdFor ruleId window severity) metrics := by
  obtain ⟨evaluation, hevaluation, hsound, hsublist⟩ := @evaluateWindows_sound _ metrics
    (fun window => thresholdFor_componentBound ruleId window severity) ALERT_EVIDENCE_WINDOW_ORDER
  exact ⟨evaluation, hevaluation, hsound, hsublist.nodup (by decide)⟩

/-- Whether the metric of a selected evidence makes it immediate. -/
def immediateCriticalOf (ruleId : AlertRuleId) (evidence : AlertSelectedEvidence) : Bool :=
  isImmediateCriticalEvidence ruleId [evidence.toAlertMetricEvidence]

theorem isImmediateCriticalEvidence_selected {ruleId : AlertRuleId}
    {components : List AlertMetricEvidence} {severity : ActiveAlertSeverity}
    {window : AlertWindowKey} {evidence : AlertSelectedEvidence}
    (hevidence : selectedEvidence components severity window = .ok evidence) :
    immediateCriticalOf ruleId evidence = isImmediateCriticalEvidence ruleId components := by
  unfold selectedEvidence at hevidence
  split at hevidence
  · cases hevidence
    rfl
  · cases hevidence
    rfl
  · cases hevidence

/-- No metric that a warning is compared with is immediate. -/
theorem thresholdFor_warning_not_immediate (ruleId : AlertRuleId) (window : AlertWindowKey) :
    ∀ expression ∈ thresholdFor ruleId window .warning,
      ∀ contract ∈ evidenceContractsFor expression, ∀ component ∈ contract,
        ¬ (ruleId = .logoutDeliveryHealth ∧ component.metricName = .dead) ∧
        ¬ (ruleId = .alertRuntimeHealth ∧
          (component.metricName = .evaluatorMissing ∨ component.metricName = .deadOutbox)) := by
  cases ruleId <;> cases window <;> decide

theorem warning_not_immediate {metrics : MetricBag} {ruleId : AlertRuleId} {window : AlertWindowKey}
    {expression : ThresholdExpression} {components : List AlertMetricEvidence}
    (hthreshold : thresholdFor ruleId window .warning = some expression)
    (hbreached : evaluateExpression expression metrics = .ok (.breached components)) :
    isImmediateCriticalEvidence ruleId components = false := by
  obtain ⟨contract, hcontract, hproves⟩ := evaluateExpression_breached expression hbreached
  have hnames := thresholdFor_warning_not_immediate ruleId window expression hthreshold contract
    hcontract
  cases hproves with
  | nil => simp [isImmediateCriticalEvidence]
  | cons hprimary hrest =>
    obtain ⟨hdead, hruntime⟩ := hnames _ List.mem_cons_self
    rw [← hprimary.metricName_eq] at hdead hruntime
    simp only [isImmediateCriticalEvidence, List.head?_cons, Option.map_some, Option.some.injEq]
    split
    · rename_i hrule
      simpa [hrule] using hdead
    · simpa using hruntime

/-- The three things an evaluation can say. A breach carries evidence of its severity
that the validator of the rule accepts, and only a critical one is immediate. -/
inductive AlertRuleEvaluation.Proper (evaluation : AlertRuleEvaluation) : Prop
  | unknown (hevidence : evaluation.evidence = .unknown) (hseverity : evaluation.severity = .none)
      (himmediate : evaluation.immediateCritical = false)
      (hselected : evaluation.selectedEvidence = none) (hwindows : evaluation.breachedWindows = [])
  | clear (hevidence : evaluation.evidence = .known) (hseverity : evaluation.severity = .none)
      (himmediate : evaluation.immediateCritical = false)
      (hselected : evaluation.selectedEvidence = none) (hwindows : evaluation.breachedWindows = [])
  | breach (severity : ActiveAlertSeverity) (selected : AlertSelectedEvidence)
      (hevidence : evaluation.evidence = .known)
      (hseverity : evaluation.severity = severity.severity)
      (hselected : evaluation.selectedEvidence = some selected)
      (hmatch : selected.severity = severity)
      (haccepted : parseAlertSelectedEvidenceForRule selected evaluation.ruleId = .ok selected)
      (himmediate : evaluation.immediateCritical = true → severity = .critical)
      (hmetric : evaluation.immediateCritical = immediateCriticalOf evaluation.ruleId selected)
      (hsurfaces : selected.SurfacesBounded) (hwindows : evaluation.breachedWindows.Nodup)

theorem WindowThresholdEvaluation.Sound.selected {metrics : Windowed MetricBag}
    {ruleId : AlertRuleId} {severity : ActiveAlertSeverity} {evaluation : WindowThresholdEvaluation}
    (hsound : evaluation.Sound (fun window => thresholdFor ruleId window severity) metrics)
    (hdomain : ∀ window, (metrics.at window).InDomain) {found : WindowMatch}
    (hfound : found ∈ evaluation.found) :
    ∃ evidence, selectedEvidence found.components severity found.window = .ok evidence ∧
      evidence.severity = severity ∧
      parseAlertSelectedEvidenceForRule evidence ruleId = .ok evidence ∧
      evidence.SurfacesBounded := by
  obtain ⟨expression, hthreshold, hbreached⟩ := hsound.1 found hfound
  obtain ⟨evidence, hevidence, hseverity, haccepted⟩ :=
    selectedEvidence_accepted (hdomain found.window) hthreshold hbreached
  exact ⟨evidence, hevidence, hseverity, haccepted,
    selectedEvidence_surfacesBounded (hdomain found.window) hthreshold hbreached hevidence⟩

/-- The match that is preferred for `p`, or else the given one. -/
theorem find_getD {found : List WindowMatch} {first : WindowMatch}
    {p : WindowMatch → Bool} (hfirst : first ∈ found) :
    (found.find? p).getD first ∈ found ∧ (found.find? p).isSome = p ((found.find? p).getD first) := by
  cases hfind : found.find? p with
  | none =>
    have hnot := List.find?_eq_none.mp hfind first hfirst
    simpa using ⟨hfirst, Bool.not_eq_true _ ▸ hnot⟩
  | some selected =>
    have hselected := List.find?_some hfind
    simpa [hselected] using List.mem_of_find?_eq_some hfind

/-- The comparison with the thresholds never throws, and says one of the three things
about the identity it was asked for. -/
theorem evaluateThresholds_proper (observation : AlertRuleObservation)
    {metrics : Windowed MetricBag} (hdomain : ∀ window, (metrics.at window).InDomain) :
    ∃ evaluation, evaluateThresholds observation metrics = .ok evaluation ∧ evaluation.Proper ∧
      evaluation.asOf = observation.asOf ∧ evaluation.ruleId = observation.ruleId ∧
      evaluation.dimension = observation.dimension := by
  obtain ⟨critical, hcritical, hcriticalSound⟩ :=
    evaluateWindowThresholds_sound observation.ruleId metrics .critical
  obtain ⟨warning, hwarning, hwarningSound⟩ :=
    evaluateWindowThresholds_sound observation.ruleId metrics .warning
  simp only [evaluateThresholds, hcritical, Bind.bind, Except.bind]
  cases hfound : critical.found with
  | cons first rest =>
    have hfirst : first ∈ critical.found := by simp [hfound]
    obtain ⟨hmem, himmediate⟩ := find_getD (p := fun found =>
      isImmediateCriticalEvidence observation.ruleId found.components) hfirst
    obtain ⟨evidence, hevidence, hseverity, haccepted, hsurfaces⟩ :=
      hcriticalSound.selected hdomain hmem
    have hmetric := himmediate.trans (isImmediateCriticalEvidence_selected hevidence).symm
    have hwindows := hcriticalSound.2
    simp only [hfound] at hevidence hmetric hwindows
    simp only [hevidence]
    exact ⟨_, rfl, .breach .critical evidence rfl rfl rfl hseverity haccepted (fun _ => rfl)
      hmetric hsurfaces hwindows, rfl, rfl, rfl⟩
  | nil =>
    simp only [hwarning]
    cases hmatches : warning.found with
    | cons first rest =>
      have hfirst : first ∈ warning.found := by simp [hmatches]
      obtain ⟨evidence, hevidence, hseverity, haccepted, hsurfaces⟩ :=
        hwarningSound.selected hdomain hfirst
      obtain ⟨expression, hthreshold, hbreached⟩ := hwarningSound.1 first hfirst
      have hmetric := (isImmediateCriticalEvidence_selected hevidence).trans
        (warning_not_immediate hthreshold hbreached)
      have hwindows := hwarningSound.2
      simp only [hmatches] at hwindows
      simp only [hevidence]
      exact ⟨_, rfl, .breach .warning evidence rfl rfl rfl hseverity haccepted (by simp)
        hmetric.symm hsurfaces hwindows, rfl, rfl, rfl⟩
    | nil =>
      refine ⟨_, rfl, ?_, rfl, rfl, rfl⟩
      by_cases hunknown : critical.unknown = true ∨ warning.unknown = true
      · exact .unknown (if_pos hunknown) rfl rfl rfl rfl
      · exact .clear (if_neg hunknown) rfl rfl rfl rfl

theorem parseAlertObservation_identity {value : AlertObservationInput}
    {observation : AlertRuleObservation} (hparse : parseAlertObservation value = .ok observation) :
    observation.asOf = value.asOf ∧ observation.ruleId = value.ruleId ∧
      observation.dimension = value.dimension ∧
      value.dimension.Accepted (ALERT_RULE_DEFINITIONS value.ruleId).dimensions := by
  simp only [parseAlertObservation, bind_eq_ok_iff, parseAlertDimension_eq_ok_iff,
    pure_eq_ok_iff] at hparse
  obtain ⟨dimension, ⟨haccepted, rfl⟩, measures, -, rfl⟩ := hparse
  exact ⟨rfl, rfl, rfl, haccepted⟩

/-- An accepted observation is evaluated whenever its windows lie in the time range. -/
theorem evaluateAlertRule_returns {value : AlertObservationInput}
    {observation : AlertRuleObservation} (hparse : parseAlertObservation value = .ok observation)
    (hwindows : -Timestamp.maximumMs + 3600000 ≤ value.asOf.ms) :
    ∃ evaluation, evaluateAlertRule value = .ok evaluation ∧ evaluation.Proper ∧
      evaluation.asOf = value.asOf ∧ evaluation.ruleId = value.ruleId ∧
      evaluation.dimension = value.dimension := by
  obtain ⟨hasOf, hrule, hdimension, -⟩ := parseAlertObservation_identity hparse
  rw [← hasOf, ← hrule, ← hdimension]
  obtain ⟨windows, hwindows⟩ := alertWindowsAt_ok_iff.mpr (hasOf ▸ hwindows)
  have hdomain := fun knownQueue hqueue =>
    @metricsForObservation_inDomain _ _ knownQueue hparse hqueue
  simp only [evaluateAlertRule, hparse, hwindows, Bind.bind, Except.bind]
  split
  · rename_i snapshot hmeasures
    cases hknown : knownQueueSnapshot snapshot observation.asOf with
    | none => exact ⟨_, rfl, .unknown rfl rfl rfl rfl rfl, rfl, rfl, rfl⟩
    | some known =>
      refine evaluateThresholds_proper observation (hdomain (some known) ?_)
      rintro snapshot' known' hmeasures' ⟨rfl⟩
      rw [hmeasures] at hmeasures'
      obtain rfl := AlertMeasures.queue.inj hmeasures'
      exact hknown
  · exact evaluateThresholds_proper observation (hdomain none (by simp))

/-- Evaluation succeeds exactly on the accepted observations whose windows exist. -/
theorem evaluateAlertRule_ok_iff {value : AlertObservationInput} :
    (∃ evaluation, evaluateAlertRule value = .ok evaluation) ↔
      (∃ observation, parseAlertObservation value = .ok observation) ∧
        -Timestamp.maximumMs + 3600000 ≤ value.asOf.ms := by
  constructor
  · rintro ⟨evaluation, heval⟩
    simp only [evaluateAlertRule, bind_eq_ok_iff] at heval
    obtain ⟨observation, hparse, windows, hwindows, -⟩ := heval
    refine ⟨⟨observation, hparse⟩, ?_⟩
    rw [← (parseAlertObservation_identity hparse).1]
    exact alertWindowsAt_ok_iff.mp ⟨windows, hwindows⟩
  · rintro ⟨⟨observation, hparse⟩, hwindows⟩
    obtain ⟨evaluation, heval, -⟩ := evaluateAlertRule_returns hparse hwindows
    exact ⟨evaluation, heval⟩

theorem evaluateAlertRule_proper {value : AlertObservationInput} {evaluation : AlertRuleEvaluation}
    (heval : evaluateAlertRule value = .ok evaluation) :
    evaluation.Proper ∧ evaluation.asOf = value.asOf ∧ evaluation.ruleId = value.ruleId ∧
      evaluation.dimension = value.dimension := by
  obtain ⟨⟨observation, hparse⟩, hwindows⟩ := evaluateAlertRule_ok_iff.mp ⟨evaluation, heval⟩
  obtain ⟨returned, hreturned, hproper⟩ := evaluateAlertRule_returns hparse hwindows
  rw [heval, Except.ok.injEq] at hreturned
  subst hreturned
  exact hproper

end pgid.alert
