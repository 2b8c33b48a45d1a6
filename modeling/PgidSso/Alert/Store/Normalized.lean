import PgidSso.Alert.Rules.Evaluate.Outcome

open checked

namespace pgid.alert

/-- Whether an evidence makes a breach of its rule critical at once. -/
def immediateCriticalFor (ruleId : AlertRuleId) (selected : AlertSelectedEvidence) : Bool :=
  if ruleId = .logoutDeliveryHealth then selected.metricName = .dead
  else ruleId = .alertRuntimeHealth ∧
    (selected.metricName = .evaluatorMissing ∨ selected.metricName = .deadOutbox)

/-- The evaluation that `normalizeEvaluation` of the state repository returns, or its error. -/
def normalizeEvaluation (value : AlertRuleEvaluation) : Except String AlertRuleEvaluation := do
  let ruleId := value.ruleId
  throwIf (¬ value.asOf.FourDigitYear) "invalid_input"
  let dimension ← parseAlertDimension value.dimension (ALERT_RULE_DEFINITIONS ruleId).dimensions
  throwIf (¬ value.breachedWindows.Nodup) "invalid_input"
  let selectedEvidence ←
    nullable (fun evidence => parseAlertSelectedEvidenceForRule evidence ruleId) value.selectedEvidence
  let immediateCritical := selectedEvidence.any (immediateCriticalFor ruleId)
  throwIf (¬ (value.severity = .none ↔ selectedEvidence = none) ∨
    (∃ selected ∈ selectedEvidence, selected.severity.severity ≠ value.severity) ∨
    (value.evidence = .unknown ∧
      (value.severity ≠ .none ∨ selectedEvidence ≠ none ∨ value.breachedWindows ≠ [])) ∨
    value.immediateCritical ≠ immediateCritical ∨
    (immediateCritical = true ∧ value.severity ≠ .critical)) "invalid_input"
  return { value with dimension, selectedEvidence, immediateCritical }

/-- The metrics that the thresholds of an observation's rule are compared with. -/
def AlertObservation.metrics (observation : AlertRuleObservation) : Windowed MetricBag :=
  metricsForObservation observation
    (match observation.measures with
      | .queue snapshot => knownQueueSnapshot snapshot observation.asOf
      | _ => none)

/-- The threshold of a window and severity evaluates to breached. -/
def AlertObservation.Breaches (observation : AlertRuleObservation) (severity : ActiveAlertSeverity)
    (window : AlertWindowKey) : Prop :=
  ∃ expression ∈ thresholdFor observation.ruleId window severity, ∃ components,
    evaluateExpression expression (observation.metrics.at window) = .ok (.breached components)

section windows

variable {thresholds : AlertWindowKey → Option ThresholdExpression} {metrics : Windowed MetricBag}
  {evaluation : WindowThresholdEvaluation}

/-- The loop over the windows finds the breached threshold of each of them, and no other. -/
theorem mem_evaluateWindows {windows : List AlertWindowKey}
    (heval : evaluateWindows thresholds metrics windows = .ok evaluation) (found : WindowMatch) :
    found ∈ evaluation.found ↔ found.window ∈ windows ∧ ∃ expression ∈ thresholds found.window,
      evaluateExpression expression (metrics.at found.window) = .ok (.breached found.components) := by
  induction windows generalizing evaluation with
  | nil =>
    cases heval
    exact ⟨fun h => absurd h List.not_mem_nil, fun h => absurd h.1 List.not_mem_nil⟩
  | cons first rest ih =>
    have hskip : (¬ ∃ expression ∈ thresholds first,
          evaluateExpression expression (metrics.at first) = .ok (.breached found.components)) →
        ((found.window ∈ first :: rest ∧ ∃ expression ∈ thresholds found.window,
          evaluateExpression expression (metrics.at found.window) = .ok (.breached found.components)) ↔
        (found.window ∈ rest ∧ ∃ expression ∈ thresholds found.window,
          evaluateExpression expression (metrics.at found.window) = .ok (.breached found.components))) := by
      intro hnot
      constructor
      · rintro ⟨hmem, hbreached⟩
        rcases List.mem_cons.mp hmem with hfirst | hrest
        · rw [hfirst] at hbreached
          exact absurd hbreached hnot
        · exact ⟨hrest, hbreached⟩
      · rintro ⟨hrest, hbreached⟩
        exact ⟨List.mem_cons_of_mem first hrest, hbreached⟩
    rw [evaluateWindows] at heval
    cases hthreshold : thresholds first with
    | none =>
      rw [hthreshold] at heval
      rw [ih heval, hskip]
      rintro ⟨expression, hexpression, -⟩
      rw [hthreshold] at hexpression
      cases hexpression
    | some threshold =>
      rw [hthreshold] at heval
      obtain ⟨result, hresult, heval⟩ := bind_eq_ok_iff.mp heval
      obtain ⟨others, hothers, heval⟩ := bind_eq_ok_iff.mp heval
      have hclear : (∀ components, result ≠ .breached components) → ¬ ∃ expression ∈ thresholds first,
          evaluateExpression expression (metrics.at first) = .ok (.breached found.components) := by
        rintro hnot ⟨expression, hexpression, hbreached⟩
        rw [hthreshold] at hexpression
        cases hexpression
        exact hnot _ (Except.ok.inj (hresult.symm.trans hbreached))
      cases result with
      | breached components =>
        cases heval
        rw [List.mem_cons, ih hothers, List.mem_cons, or_and_right]
        constructor
        · rintro (rfl | hlater)
          · exact .inl ⟨rfl, threshold, hthreshold, hresult⟩
          · exact .inr hlater
        · rintro (⟨hfirst, expression, hexpression, hbreached⟩ | hlater)
          · rw [hfirst, hthreshold] at hexpression
            cases hexpression
            rw [hfirst, hresult] at hbreached
            cases hbreached
            exact .inl (by cases found; cases hfirst; rfl)
          · exact .inr hlater
      | unknown =>
        cases heval
        rw [ih hothers, hskip (hclear fun components hsame => by cases hsame)]
      | clear =>
        cases heval
        rw [ih hothers, hskip (hclear fun components hsame => by cases hsame)]

/-- The loop over the windows finds each window whose threshold is breached, and no other. -/
theorem evaluateWindows_found {windows : List AlertWindowKey}
    (heval : evaluateWindows thresholds metrics windows = .ok evaluation) (window : AlertWindowKey) :
    window ∈ evaluation.found.map (·.window) ↔ window ∈ windows ∧
      ∃ expression ∈ thresholds window, ∃ components,
        evaluateExpression expression (metrics.at window) = .ok (.breached components) := by
  rw [List.mem_map]
  constructor
  · rintro ⟨found, hfound, rfl⟩
    obtain ⟨hwindow, expression, hexpression, hbreached⟩ := (mem_evaluateWindows heval found).mp hfound
    exact ⟨hwindow, expression, hexpression, found.components, hbreached⟩
  · rintro ⟨hwindow, expression, hexpression, components, hbreached⟩
    exact ⟨⟨components, window⟩,
      (mem_evaluateWindows heval ⟨components, window⟩).mpr ⟨hwindow, expression, hexpression, hbreached⟩, rfl⟩

end windows

/-- An evaluation is critical exactly when some critical threshold is breached. -/
theorem evaluateThresholds_critical_iff {observation : AlertRuleObservation} {metrics : Windowed MetricBag}
    {evaluation : AlertRuleEvaluation} (heval : evaluateThresholds observation metrics = .ok evaluation) :
    evaluation.severity = .critical ↔
      ∃ window, ∃ expression ∈ thresholdFor observation.ruleId window .critical, ∃ components,
        evaluateExpression expression (metrics.at window) = .ok (.breached components) := by
  have hall : ∀ window, window ∈ ALERT_EVIDENCE_WINDOW_ORDER := fun window => by cases window <;> decide
  rw [evaluateThresholds] at heval
  obtain ⟨critical, hcritical, heval⟩ := bind_eq_ok_iff.mp heval
  have hwindows := evaluateWindows_found hcritical
  cases hfound : critical.found with
  | cons first rest =>
    rw [hfound] at heval hwindows
    obtain ⟨evidence, -, heq⟩ := bind_eq_ok_iff.mp heval
    cases heq
    refine iff_of_true rfl ⟨first.window, ((hwindows first.window).mp ?_).2⟩
    exact List.mem_map_of_mem List.mem_cons_self
  | nil =>
    rw [hfound] at heval hwindows
    have hnone : ¬ ∃ window, ∃ expression ∈ thresholdFor observation.ruleId window .critical, ∃ components,
        evaluateExpression expression (metrics.at window) = .ok (.breached components) := by
      rintro ⟨window, hbreached⟩
      exact List.not_mem_nil ((hwindows window).mpr ⟨hall window, hbreached⟩)
    refine iff_of_false ?_ hnone
    obtain ⟨warning, -, heval⟩ := bind_eq_ok_iff.mp heval
    cases hwarning : warning.found with
    | nil =>
      rw [hwarning] at heval
      cases heval
      exact fun hsame => by cases hsame
    | cons first rest =>
      rw [hwarning] at heval
      obtain ⟨evidence, -, heq⟩ := bind_eq_ok_iff.mp heval
      cases heq
      exact fun hsame => by cases hsame

theorem selectedEvidence_fields {components : List AlertMetricEvidence} {severity : ActiveAlertSeverity}
    {window : AlertWindowKey} {evidence : AlertSelectedEvidence}
    (hevidence : selectedEvidence components severity window = .ok evidence) :
    evidence.severity = severity ∧ evidence.windowSeconds = ALERT_WINDOW_SECONDS window := by
  unfold selectedEvidence at hevidence
  split at hevidence
  · cases hevidence
    exact ⟨rfl, rfl⟩
  · cases hevidence
    exact ⟨rfl, rfl⟩
  · cases hevidence

/-- What the selected evidence of an evaluation says of the windows that it lists. -/
theorem evaluateThresholds_selected {observation : AlertRuleObservation} {metrics : Windowed MetricBag}
    {evaluation : AlertRuleEvaluation} (heval : evaluateThresholds observation metrics = .ok evaluation)
    {selected : AlertSelectedEvidence} (hselected : evaluation.selectedEvidence = some selected) :
    (∃ window ∈ evaluation.breachedWindows, selected.windowSeconds = ALERT_WINDOW_SECONDS window) ∧
      ∀ window, window ∈ evaluation.breachedWindows ↔
        ∃ expression ∈ thresholdFor observation.ruleId window selected.severity, ∃ components,
          evaluateExpression expression (metrics.at window) = .ok (.breached components) := by
  have hall : ∀ window, window ∈ ALERT_EVIDENCE_WINDOW_ORDER := fun window => by cases window <;> decide
  rw [evaluateThresholds] at heval
  obtain ⟨critical, hcritical, heval⟩ := bind_eq_ok_iff.mp heval
  have hcriticalWindows := evaluateWindows_found hcritical
  cases hfound : critical.found with
  | cons first rest =>
    rw [hfound] at heval hcriticalWindows
    obtain ⟨evidence, hevidence, heq⟩ := bind_eq_ok_iff.mp heval
    cases heq
    cases hselected
    obtain ⟨hseverity, hseconds⟩ := selectedEvidence_fields hevidence
    have hfirst : first ∈ first :: rest := List.mem_cons_self
    refine ⟨⟨_, List.mem_map_of_mem (find_getD hfirst).1, hseconds⟩, fun window => ?_⟩
    rw [hcriticalWindows window, hseverity]
    exact and_iff_right (hall window)
  | nil =>
    rw [hfound] at heval
    obtain ⟨warning, hwarning, heval⟩ := bind_eq_ok_iff.mp heval
    have hwarningWindows := evaluateWindows_found hwarning
    cases hmatches : warning.found with
    | cons first rest =>
      rw [hmatches] at heval hwarningWindows
      obtain ⟨evidence, hevidence, heq⟩ := bind_eq_ok_iff.mp heval
      cases heq
      cases hselected
      obtain ⟨hseverity, hseconds⟩ := selectedEvidence_fields hevidence
      refine ⟨⟨first.window, List.mem_map_of_mem List.mem_cons_self, hseconds⟩, fun window => ?_⟩
      rw [hwarningWindows window, hseverity]
      exact and_iff_right (hall window)
    | nil =>
      rw [hmatches] at heval
      cases heval
      cases hselected

/-- An evaluation compares the metrics of its observation, unless a queue sample is unknown. -/
theorem evaluateAlertRule_thresholds {value : AlertObservationInput} {observation : AlertRuleObservation}
    {evaluation : AlertRuleEvaluation} (hparse : parseAlertObservation value = .ok observation)
    (heval : evaluateAlertRule value = .ok evaluation) :
    ((∃ snapshot, observation.measures = .queue snapshot) ∧ evaluation = unknownEvaluation observation) ∨
      (evaluateThresholds observation observation.metrics = .ok evaluation ∧
        ∀ snapshot, observation.measures = .queue snapshot →
          knownQueueSnapshot snapshot observation.asOf ≠ none) := by
  rw [evaluateAlertRule, hparse, ok_bind] at heval
  obtain ⟨windows, -, heval⟩ := bind_eq_ok_iff.mp heval
  rw [AlertObservation.metrics]
  cases hmeasures : observation.measures with
  | queue snapshot =>
    rw [hmeasures] at heval
    dsimp only at heval ⊢
    cases hknown : knownQueueSnapshot snapshot observation.asOf with
    | none =>
      rw [hknown] at heval
      cases heval
      exact .inl ⟨⟨snapshot, rfl⟩, rfl⟩
    | some known =>
      rw [hknown] at heval
      refine .inr ⟨heval, ?_⟩
      rintro snapshot ⟨rfl⟩
      rw [hknown]
      exact Option.some_ne_none known
  | _ =>
    rw [hmeasures] at heval
    exact .inr ⟨heval, fun snapshot hqueue => by cases hqueue⟩

/-- An evaluation that is no unknown sample compares the metrics of its observation. -/
theorem evaluateAlertRule_selected {value : AlertObservationInput} {observation : AlertRuleObservation}
    {evaluation : AlertRuleEvaluation} (hparse : parseAlertObservation value = .ok observation)
    (heval : evaluateAlertRule value = .ok evaluation) {selected : AlertSelectedEvidence}
    (hselected : evaluation.selectedEvidence = some selected) :
    evaluateThresholds observation observation.metrics = .ok evaluation := by
  rcases evaluateAlertRule_thresholds hparse heval with ⟨-, rfl⟩ | ⟨hthresholds, -⟩
  · cases hselected
  · exact hthresholds

theorem immediateCriticalFor_eq (ruleId : AlertRuleId) (selected : AlertSelectedEvidence) :
    immediateCriticalFor ruleId selected = immediateCriticalOf ruleId selected := by
  simp [immediateCriticalFor, immediateCriticalOf, isImmediateCriticalEvidence]

/-- `normalizeEvaluation` returns a proper evaluation of an accepted dimension as it is,
exactly if the year of its instant has four digits. -/
theorem normalizeEvaluation_proper_iff {evaluation : AlertRuleEvaluation} (hproper : evaluation.Proper)
    (hdimension : evaluation.dimension.Accepted (ALERT_RULE_DEFINITIONS evaluation.ruleId).dimensions) :
    normalizeEvaluation evaluation = .ok evaluation ↔ evaluation.asOf.FourDigitYear := by
  rw [normalizeEvaluation, throwIf_bind_eq_ok_iff, not_not]
  refine and_iff_left ?_
  rw [parseAlertDimension_eq_ok_iff.mpr ⟨hdimension, rfl⟩, ok_bind]
  obtain ⟨asOf, breachedWindows, dimension, evidence, immediateCritical, ruleId, selectedEvidence, severity⟩ :=
    evaluation
  cases hproper with
  | unknown hevidence hseverity himmediate hselected hwindows
  | clear hevidence hseverity himmediate hselected hwindows =>
    dsimp only at hevidence hseverity himmediate hselected hwindows ⊢
    subst hevidence hseverity himmediate hselected hwindows
    rw [throwIf_bind_of_not (not_not.mpr List.nodup_nil), nullable_none, ok_bind, throwIf_bind_of_not]
    · rfl
    · simp
  | breach active selected hevidence hseverity hselected hmatch haccepted himmediate hmetric hsurfaces hwindows =>
    dsimp only at hevidence hseverity hselected haccepted himmediate hmetric hwindows ⊢
    subst hevidence hseverity hselected hmatch
    have hparsed : nullable (fun evidence => parseAlertSelectedEvidenceForRule evidence ruleId) (some selected) =
        .ok (some selected) :=
      nullable_some_eq_ok_iff.mpr ⟨selected, haccepted, rfl⟩
    have hflag : (some selected).any (immediateCriticalFor ruleId) = immediateCritical :=
      (immediateCriticalFor_eq ruleId selected).trans hmetric.symm
    rw [throwIf_bind_of_not (not_not.mpr hwindows), hparsed, ok_bind, hflag, throwIf_bind_of_not]
    · rfl
    · have hcritical : immediateCritical = true → selected.severity.severity = .critical := by
        intro himmediately
        rw [himmediate himmediately]
        rfl
      simpa using hcritical

/-- The evidence that an evaluation selects is accepted by the validator of its rule, of the
severity of the evaluation and of a window that it lists, and the windows that it lists are
those of its severity that are breached; the repository takes the evaluation as it is exactly
if the year of its instant has four digits. -/
theorem evaluateAlertRule_agrees {value : AlertObservationInput} {observation : AlertRuleObservation}
    {evaluation : AlertRuleEvaluation} (hparse : parseAlertObservation value = .ok observation)
    (heval : evaluateAlertRule value = .ok evaluation) :
    (∀ selected, evaluation.selectedEvidence = some selected →
      parseAlertSelectedEvidenceForRule selected value.ruleId = .ok selected ∧
        selected.severity.severity = evaluation.severity ∧
        (∃ window ∈ evaluation.breachedWindows, selected.windowSeconds = ALERT_WINDOW_SECONDS window) ∧
        ∀ window, window ∈ evaluation.breachedWindows ↔ observation.Breaches selected.severity window) ∧
      (normalizeEvaluation evaluation = .ok evaluation ↔ value.asOf.FourDigitYear) := by
  obtain ⟨hproper, hasOf, hrule, hdimension⟩ := evaluateAlertRule_proper heval
  obtain ⟨-, -, -, haccepted⟩ := parseAlertObservation_identity hparse
  constructor
  · intro selected hselected
    have hthresholds := evaluateAlertRule_selected hparse heval hselected
    obtain ⟨hwindow, hwindows⟩ := evaluateThresholds_selected hthresholds hselected
    refine ⟨?_, ?_, hwindow, hwindows⟩
    · cases hproper with
      | unknown _ _ _ hnone | clear _ _ _ hnone => exact absurd (hselected.symm.trans hnone) (Option.some_ne_none _)
      | breach severity found _ _ hfound _ hvalid =>
        cases hselected.symm.trans hfound
        exact hrule ▸ hvalid
    · cases hproper with
      | unknown _ _ _ hnone | clear _ _ _ hnone => exact absurd (hselected.symm.trans hnone) (Option.some_ne_none _)
      | breach severity found _ hseverity hfound hmatch =>
        cases hselected.symm.trans hfound
        rw [hseverity, hmatch]
  · rw [← hasOf]
    apply normalizeEvaluation_proper_iff hproper
    rw [hdimension, hrule]
    exact haccepted

/-- A thousand rate-limited registrations in the last five minutes. -/
def registrationFlood (asOf : Timestamp) : AlertObservationInput where
  asOf := asOf
  dimension := .global
  ruleId := .registrationRateLimited
  measures := .count { w5m := ⟨1000⟩, w15m := ⟨1000⟩, w60m := ⟨1000⟩ }

/-- The first instant of the year 10000. -/
def yearTenThousand : Timestamp :=
  ⟨253402300800000, by decide⟩

theorem normalizeEvaluation_rejects :
    ¬ ∀ (value : AlertObservationInput) (observation : AlertRuleObservation) (evaluation : AlertRuleEvaluation),
      parseAlertObservation value = .ok observation → evaluateAlertRule value = .ok evaluation →
        normalizeEvaluation evaluation = .ok evaluation := by
  intro h
  have hobservation : (parseAlertObservation (registrationFlood yearTenThousand)).toOption.isSome = true := by
    decide
  have hparse := eq_ok_get hobservation
  obtain ⟨evaluation, heval, hproper, hasOf, hrule, hdimension⟩ := evaluateAlertRule_returns hparse (by decide)
  have hnormalized := h _ _ evaluation hparse heval
  rw [normalizeEvaluation_proper_iff hproper, hasOf] at hnormalized
  · exact absurd hnormalized (by decide)
  · rw [hdimension, hrule]
    exact (parseAlertObservation_identity hparse).2.2.2

theorem evaluateAlertRule_agrees_registrationFlood :
    ∃ evaluation selected, evaluateAlertRule (registrationFlood ⟨0, by decide⟩) = .ok evaluation ∧
      evaluation.selectedEvidence = some selected ∧
      parseAlertSelectedEvidenceForRule selected .registrationRateLimited = .ok selected ∧
      normalizeEvaluation evaluation = .ok evaluation := by
  have hobservation : (parseAlertObservation (registrationFlood ⟨0, by decide⟩)).toOption.isSome = true := by
    decide
  have hevidence : ((evaluateAlertRule (registrationFlood ⟨0, by decide⟩)).toOption.bind
      (·.selectedEvidence)).isSome = true := by decide
  obtain ⟨selected, hbind⟩ := Option.isSome_iff_exists.mp hevidence
  obtain ⟨evaluation, hreturned, hselected⟩ := Option.bind_eq_some_iff.mp hbind
  have heval : evaluateAlertRule (registrationFlood ⟨0, by decide⟩) = .ok evaluation := by
    rw [eq_ok_get (Option.isSome_iff_exists.mpr ⟨evaluation, hreturned⟩), Option.get_of_mem _ hreturned]
  obtain ⟨hagrees, hnormalized⟩ := evaluateAlertRule_agrees (eq_ok_get hobservation) heval
  exact ⟨evaluation, selected, heval, hselected, (hagrees selected hselected).1, hnormalized.mpr (by decide)⟩

end pgid.alert
