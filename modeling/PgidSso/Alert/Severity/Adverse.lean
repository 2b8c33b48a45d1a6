import PgidSso.Alert.Severity.Outcome

open checked

namespace pgid.alert

/-- Metrics after further adverse events: what was known is known and not smaller, and what is
added to the numerator of a ratio is added to its denominator. -/
structure MetricBag.Below (metrics worse : MetricBag) : Prop where
  value : ∀ metric value, metrics metric = some value → ∃ larger, worse metric = some larger ∧ value ≤ larger
  ratio : ∀ numerator denominator, metrics .numerator = some numerator → metrics .denominator = some denominator →
    ∃ larger total, worse .numerator = some larger ∧ worse .denominator = some total ∧ numerator ≤ larger ∧
      total - larger = denominator - numerator

mutual

/-- Ratios of at most one whole, over samples that are not empty. -/
def graded : ThresholdExpression → Bool
  | .gte _ _ => true
  | .ratioGte minDenominator _ basisPoints => decide (1 ≤ minDenominator ∧ basisPoints ≤ 10000)
  | .all clauses => gradedAll clauses
  | .any clauses => gradedAll clauses

def gradedAll : List ThresholdExpression → Bool
  | [] => true
  | clause :: clauses => graded clause && gradedAll clauses

end

theorem gradedAll_cons {clause : ThresholdExpression} {clauses : List ThresholdExpression} :
    gradedAll (clause :: clauses) = true ↔ graded clause = true ∧ gradedAll clauses = true := by
  rw [gradedAll, Bool.and_eq_true]

theorem thresholdFor_graded (ruleId : AlertRuleId) (window : AlertWindowKey) (severity : ActiveAlertSeverity) :
    ∀ expression ∈ thresholdFor ruleId window severity, graded expression = true := by
  cases ruleId <;> cases window <;> cases severity <;> decide

theorem ratio_of_below {numerator denominator larger total basisPoints : Int} (hlarger : numerator ≤ larger)
    (hrest : total - larger = denominator - numerator) (hbasis : basisPoints ≤ 10000)
    (hratio : denominator * basisPoints ≤ numerator * 10000) : total * basisPoints ≤ larger * 10000 := by
  obtain ⟨added, hadded⟩ := Int.le.dest hlarger
  have htotal : total = denominator + added := by omega
  have hscaled : (added : Int) * basisPoints ≤ added * 10000 := Int.mul_le_mul_of_nonneg_left hbasis (by omega)
  rw [htotal, ← hadded, Int.add_mul, Int.add_mul]
  omega

section meaning

variable {metrics worse : MetricBag}

mutual

/-- A breached expression stays breached. -/
theorem meaning_below (hbelow : metrics.Below worse) : ∀ expression : ThresholdExpression,
    graded expression = true → sql.Holds (meaning expression metrics) → sql.Holds (meaning expression worse)
  | .gte metric value, _, hholds => by
    rw [meaning, sql.holds_le] at hholds ⊢
    obtain ⟨bound, hbound, observed, hobserved, hle⟩ := hholds
    obtain ⟨larger, hlarger, hgrown⟩ := hbelow.value metric observed hobserved
    exact ⟨bound, hbound, larger, hlarger, Int.le_trans hle hgrown⟩
  | .ratioGte minDenominator minNumerator basisPoints, hgraded, hholds => by
    obtain ⟨hsample, hbasis⟩ := of_decide_eq_true hgraded
    rw [meaning] at hholds ⊢
    cases hnumerator : metrics .numerator with
    | none =>
      rw [hnumerator] at hholds
      cases hholds
    | some numerator =>
      cases hdenominator : metrics .denominator with
      | none =>
        rw [hnumerator, hdenominator] at hholds
        cases hholds
      | some denominator =>
        obtain ⟨larger, total, hlarger, htotal, hgrown, hrest⟩ :=
          hbelow.ratio numerator denominator hnumerator hdenominator
        rw [hnumerator, hdenominator] at hholds
        rw [hlarger, htotal]
        obtain ⟨hminNumerator, hminDenominator, -, hratio⟩ := sql.holds_fact.mp hholds
        exact sql.holds_fact.mpr ⟨by omega, by omega, by omega, ratio_of_below hgrown hrest hbasis hratio⟩
  | .all clauses, hgraded, hholds => by
    rw [meaning] at hholds ⊢
    exact meanings_all_below hbelow clauses hgraded hholds
  | .any clauses, hgraded, hholds => by
    rw [meaning] at hholds ⊢
    exact meanings_any_below hbelow clauses hgraded hholds

theorem meanings_all_below (hbelow : metrics.Below worse) : ∀ clauses : List ThresholdExpression,
    gradedAll clauses = true → sql.Holds (sql.all (meanings clauses metrics)) →
      sql.Holds (sql.all (meanings clauses worse))
  | [], _, _ => rfl
  | clause :: clauses, hgraded, hholds => by
    obtain ⟨hclause, hclauses⟩ := gradedAll_cons.mp hgraded
    rw [meanings, sql.holds_all_cons] at hholds ⊢
    exact ⟨meaning_below hbelow clause hclause hholds.1, meanings_all_below hbelow clauses hclauses hholds.2⟩

theorem meanings_any_below (hbelow : metrics.Below worse) : ∀ clauses : List ThresholdExpression,
    gradedAll clauses = true → sql.Holds (sql.any (meanings clauses metrics)) →
      sql.Holds (sql.any (meanings clauses worse))
  | [], _, hholds => hholds
  | clause :: clauses, hgraded, hholds => by
    obtain ⟨hclause, hclauses⟩ := gradedAll_cons.mp hgraded
    rw [meanings, sql.holds_any_cons] at hholds ⊢
    rcases hholds with hfirst | hlater
    · exact .inl (meaning_below hbelow clause hclause hfirst)
    · exact .inr (meanings_any_below hbelow clauses hclauses hlater)

end

end meaning

/-- A severity breached in some window stays breached. -/
theorem severityMeaning_below {ruleId : AlertRuleId} {metrics worse : Windowed MetricBag}
    (hbelow : ∀ window, (metrics.at window).Below (worse.at window)) (severity : ActiveAlertSeverity)
    (hholds : severityMeaning ruleId severity metrics = some true) :
    severityMeaning ruleId severity worse = some true := by
  rw [severityMeaning, windowsMeaning, ← sql.Holds] at hholds ⊢
  rw [sql.holds_any_iff] at hholds ⊢
  obtain ⟨condition, hcondition, hbreached⟩ := hholds
  obtain ⟨window, hwindow, rfl⟩ := List.mem_map.mp hcondition
  refine ⟨_, List.mem_map_of_mem hwindow, ?_⟩
  rw [windowMeaning] at hbreached ⊢
  cases hthreshold : thresholdFor ruleId window severity with
  | none =>
    rw [hthreshold] at hbreached
    cases hbreached
  | some expression =>
    rw [hthreshold] at hbreached
    exact meaning_below (hbelow window) expression (thresholdFor_graded ruleId window severity expression hthreshold)
      hbreached

theorem outcome_rank_le {critical warning worseCritical worseWarning : sql.Truth}
    (hcritical : critical = some true → worseCritical = some true)
    (hwarning : warning = some true → worseWarning = some true) :
    (outcome critical warning).1.rank ≤ (outcome worseCritical worseWarning).1.rank := by
  rcases critical with _ | _ | _ <;> rcases warning with _ | _ | _ <;>
    rcases worseCritical with _ | _ | _ <;> rcases worseWarning with _ | _ | _ <;> simp_all [outcome, AlertSeverity.rank]

/-- An evaluation is immediate exactly when some critical threshold breaches with an
immediate component first. -/
theorem evaluateThresholds_immediate_iff {observation : AlertRuleObservation} {metrics : Windowed MetricBag}
    {evaluation : AlertRuleEvaluation} (heval : evaluateThresholds observation metrics = .ok evaluation) :
    evaluation.immediateCritical = true ↔
      ∃ window, ∃ expression ∈ thresholdFor observation.ruleId window .critical, ∃ components,
        evaluateExpression expression (metrics.at window) = .ok (.breached components) ∧
          isImmediateCriticalEvidence observation.ruleId components = true := by
  have hall : ∀ window, window ∈ ALERT_EVIDENCE_WINDOW_ORDER := fun window => by cases window <;> decide
  rw [evaluateThresholds] at heval
  obtain ⟨critical, hcritical, heval⟩ := bind_eq_ok_iff.mp heval
  have hfind : (critical.found.find? fun found =>
        isImmediateCriticalEvidence observation.ruleId found.components).isSome = true ↔
      ∃ window, ∃ expression ∈ thresholdFor observation.ruleId window .critical, ∃ components,
        evaluateExpression expression (metrics.at window) = .ok (.breached components) ∧
          isImmediateCriticalEvidence observation.ruleId components = true := by
    rw [List.find?_isSome]
    constructor
    · rintro ⟨found, hfound, himmediate⟩
      obtain ⟨-, expression, hexpression, hbreached⟩ := (mem_evaluateWindows hcritical found).mp hfound
      exact ⟨found.window, expression, hexpression, found.components, hbreached, himmediate⟩
    · rintro ⟨window, expression, hexpression, components, hbreached, himmediate⟩
      exact ⟨⟨components, window⟩,
        (mem_evaluateWindows hcritical _).mpr ⟨hall window, expression, hexpression, hbreached⟩, himmediate⟩
  cases hfound : critical.found with
  | cons first rest =>
    rw [hfound] at heval hfind
    obtain ⟨evidence, -, heq⟩ := bind_eq_ok_iff.mp heval
    cases heq
    exact hfind
  | nil =>
    rw [hfound] at heval hfind
    obtain ⟨warning, -, heval⟩ := bind_eq_ok_iff.mp heval
    have hnot : evaluation.immediateCritical = false := by
      cases hwarning : warning.found with
      | nil =>
        rw [hwarning] at heval
        cases heval
        rfl
      | cons first rest =>
        rw [hwarning] at heval
        obtain ⟨evidence, -, heq⟩ := bind_eq_ok_iff.mp heval
        cases heq
        rfl
    rw [hnot, ← hfind, List.find?_nil]
    rfl

section leading

variable {metrics : MetricBag} {metric : InternalMetricName} {bound observed : Int}
  {rest : List ThresholdExpression} {components : List AlertMetricEvidence}

/-- An `any` whose first clause is breached says so, whatever the later clauses say. -/
theorem evaluateExpression_leading (hobserved : metrics metric = some observed) (hbound : bound ≤ observed) :
    evaluateExpression (.any (.gte metric bound :: rest)) metrics =
      .ok (.breached [scalarEvidence metric observed bound]) := by
  simp only [evaluateExpression, evaluateAny, hobserved, if_neg (Int.not_lt.mpr hbound)]

/-- Evidence that starts with a name which no later clause gives is that of the first clause. -/
theorem le_of_leading {name : AlertMetricName} (hobserved : metrics metric = some observed)
    (hrest : ∀ contract ∈ evidenceContractsForAny rest, ∀ component ∈ contract, component.metricName ≠ name)
    (heval : evaluateExpression (.any (.gte metric bound :: rest)) metrics = .ok (.breached components))
    (hname : components.head?.map (·.metricName) = some name) : bound ≤ observed := by
  apply Int.not_lt.mp
  intro hbelow
  simp only [evaluateExpression, evaluateAny, hobserved, if_pos hbelow] at heval
  obtain ⟨contract, hcontract, hproves⟩ := evaluateAny_breached rest heval
  cases hproves with
  | nil => cases hname
  | cons hprimary hlater =>
    exact hrest _ hcontract _ List.mem_cons_self (hprimary.metricName_eq.symm.trans (Option.some.inj hname))

end leading

/-- Every critical threshold of the logout rule asks for dead deliveries first. -/
theorem logout_critical_leading (window : AlertWindowKey) :
    ∀ expression ∈ thresholdFor .logoutDeliveryHealth window .critical, ∃ rest,
      expression = .any (.gte .dead 1 :: rest) ∧
        ∀ contract ∈ evidenceContractsForAny rest, ∀ component ∈ contract, component.metricName ≠ .dead := by
  cases window with
  | w5m =>
    rintro expression ⟨rfl⟩
    exact ⟨_, rfl, by decide⟩
  | w15m =>
    rintro expression ⟨rfl⟩
    exact ⟨_, rfl, by decide⟩
  | w60m =>
    rintro expression ⟨rfl⟩
    exact ⟨_, rfl, by decide⟩

/-- An evaluation of the logout rule is immediate exactly when a delivery is dead. -/
theorem logout_immediate_iff {observation : AlertRuleObservation} {metrics : Windowed MetricBag} {dead : Int}
    {evaluation : AlertRuleEvaluation} (heval : evaluateThresholds observation metrics = .ok evaluation)
    (hrule : observation.ruleId = .logoutDeliveryHealth) (hdead : ∀ window, metrics.at window .dead = some dead) :
    evaluation.immediateCritical = true ↔ 1 ≤ dead := by
  rw [evaluateThresholds_immediate_iff heval, hrule]
  constructor
  · rintro ⟨window, expression, hexpression, components, hbreached, himmediate⟩
    obtain ⟨rest, rfl, hrest⟩ := logout_critical_leading window expression hexpression
    exact le_of_leading (hdead window) hrest hbreached (of_decide_eq_true himmediate)
  · intro hbound
    exact ⟨.w60m, _, rfl, _, evaluateExpression_leading (hdead .w60m) hbound, rfl⟩

/-- An evaluation of the runtime rule is immediate exactly when the evaluator is missing or
a delivery of the alert outbox is dead. -/
theorem runtime_immediate_iff {observation : AlertRuleObservation} {metrics : Windowed MetricBag}
    {missing deadOutbox : Int} {evaluation : AlertRuleEvaluation}
    (heval : evaluateThresholds observation metrics = .ok evaluation)
    (hrule : observation.ruleId = .alertRuntimeHealth)
    (hmissing : ∀ window, metrics.at window .evaluatorMissing = some missing)
    (hdead : ∀ window, metrics.at window .deadOutbox = some deadOutbox) :
    evaluation.immediateCritical = true ↔ 1 ≤ missing ∨ 1 ≤ deadOutbox := by
  rw [evaluateThresholds_immediate_iff heval, hrule]
  constructor
  · rintro ⟨window, expression, hexpression, components, hbreached, himmediate⟩
    cases window with
    | w5m => cases hexpression
    | w15m =>
      cases hexpression
      rcases (of_decide_eq_true himmediate).2 with hname | hname
      · exact .inl (le_of_leading (hmissing .w15m) (by decide) hbreached hname)
      · exact .inl (le_of_leading (hmissing .w15m) (by decide) hbreached hname)
    | w60m =>
      cases hexpression
      have hholds : sql.Holds (meaning (.gte .deadOutbox 1) (metrics.at .w60m)) :=
        (evaluateExpression_truth _ hbreached).symm
      rw [meaning, hdead .w60m, sql.holds_le] at hholds
      obtain ⟨_, hone, _, hobserved, hbound⟩ := hholds
      cases hone
      cases hobserved
      exact .inr hbound
  · rintro (hbound | hbound)
    · exact ⟨.w15m, _, rfl, _, evaluateExpression_leading (hmissing .w15m) hbound, rfl⟩
    · refine ⟨.w60m, _, rfl, [scalarEvidence .deadOutbox deadOutbox 1], ?_, rfl⟩
      simp only [evaluateExpression, countAtLeast, hdead .w60m, if_neg (Int.not_lt.mpr hbound)]

end pgid.alert
