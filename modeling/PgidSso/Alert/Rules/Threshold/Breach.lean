import Mathlib.Data.List.Forall2
import PgidSso.Alert.Rules.Threshold

open checked

namespace pgid.alert

/-- A component is read from the metrics by the very leaf that its contract
component was generated from, and the leaf's bound is met. -/
inductive ComponentProves (metrics : MetricBag) :
    AlertMetricEvidence → AlertEvidenceContractComponent → Prop
  | gte {metric : InternalMetricName} {value observed : Int}
      (hobserved : metrics metric = some observed) (hvalue : value ≤ observed) :
      ComponentProves metrics (scalarEvidence metric observed value)
        { metricName := METRIC_NAMES metric, minimumNumeratorCount := none,
          minimumSampleCount := 0, threshold := value }
  | ratio {minDenominator minNumerator basisPoints numerator denominator : Int}
      (hnumerator : metrics .numerator = some numerator)
      (hdenominator : metrics .denominator = some denominator)
      (hminNumerator : minNumerator ≤ numerator) (hminDenominator : minDenominator ≤ denominator)
      (hnonzero : denominator ≠ 0)
      (hratio : denominator * basisPoints ≤ numerator * 10000) :
      ComponentProves metrics
        (ratioEvidence minDenominator minNumerator basisPoints numerator denominator)
        { metricName := .ratio, minimumNumeratorCount := some minNumerator,
          minimumSampleCount := minDenominator, threshold := basisPoints }

/-- The components prove one of the contracts, component by component. -/
def ProvesSome (metrics : MetricBag) (components : List AlertMetricEvidence)
    (contracts : List (List AlertEvidenceContractComponent)) : Prop :=
  ∃ contract ∈ contracts, List.Forall₂ (ComponentProves metrics) components contract

theorem ProvesSome.append {metrics : MetricBag} {left right : List AlertMetricEvidence}
    {contracts suffixes : List (List AlertEvidenceContractComponent)}
    (hleft : ProvesSome metrics left contracts) (hright : ProvesSome metrics right suffixes) :
    ProvesSome metrics (left ++ right)
      (contracts.flatMap fun previous => suffixes.map fun suffix => previous ++ suffix) := by
  obtain ⟨previous, hprevious, hleft⟩ := hleft
  obtain ⟨suffix, hsuffix, hright⟩ := hright
  refine ⟨previous ++ suffix, ?_, List.rel_append hleft hright⟩
  rw [List.mem_flatMap]
  exact ⟨previous, hprevious, List.mem_map.mpr ⟨suffix, hsuffix, rfl⟩⟩

mutual

/-- Breached evidence proves one of the contracts the validator generates from
the same expression. -/
theorem evaluateExpression_breached {metrics : MetricBag} :
    ∀ (expression : ThresholdExpression) {components : List AlertMetricEvidence},
      evaluateExpression expression metrics = .ok (.breached components) →
        ProvesSome metrics components (evidenceContractsFor expression)
  | .gte metric value, components, heval => by
    unfold evaluateExpression at heval
    cases hobserved : metrics metric with
    | none => simp [hobserved] at heval
    | some observed =>
      simp only [hobserved] at heval
      split at heval
      · simp at heval
      · rename_i hvalue
        simp only [Except.ok.injEq, ExpressionEvaluation.breached.injEq] at heval
        subst heval
        refine ⟨_, List.mem_singleton_self _, .cons (.gte hobserved ?_) .nil⟩
        omega
  | .ratioGte minDenominator minNumerator basisPoints, components, heval => by
    unfold evaluateExpression at heval
    cases hnumerator : metrics .numerator with
    | none => simp [hnumerator] at heval
    | some numerator =>
      cases hdenominator : metrics .denominator with
      | none => simp [hnumerator, hdenominator] at heval
      | some denominator =>
        simp only [hnumerator, hdenominator] at heval
        split at heval
        · simp at heval
        · rename_i hbreach
          simp only [not_or, Int.not_lt] at hbreach
          obtain ⟨hminNumerator, hminDenominator, hnonzero, hratio⟩ := hbreach
          simp only [Except.ok.injEq, ExpressionEvaluation.breached.injEq] at heval
          subst heval
          exact ⟨_, List.mem_singleton_self _,
            .cons (.ratio hnumerator hdenominator hminNumerator hminDenominator hnonzero hratio) .nil⟩
  | .all clauses, components, heval => by
    unfold evaluateExpression at heval
    exact evaluateAll_breached clauses heval ⟨[], List.mem_singleton_self _, .nil⟩
  | .any clauses, components, heval => by
    unfold evaluateExpression at heval
    exact evaluateAny_breached clauses heval

/-- The loop of `all` extends the proof of the components pushed so far. -/
theorem evaluateAll_breached {metrics : MetricBag} :
    ∀ (clauses : List ThresholdExpression) {components found : List AlertMetricEvidence}
      {unknown : Bool} {combined : List (List AlertEvidenceContractComponent)},
      evaluateAll clauses metrics components unknown = .ok (.breached found) →
        ProvesSome metrics components combined →
          ProvesSome metrics found (evidenceContractsForAll clauses combined)
  | [], components, found, unknown, combined, heval, hproves => by
    unfold evaluateAll at heval
    split at heval
    · simp at heval
    · split at heval
      · simp at heval
      · simp only [Except.ok.injEq, ExpressionEvaluation.breached.injEq] at heval
        subst heval
        exact hproves
  | clause :: clauses, components, found, unknown, combined, heval, hproves => by
    unfold evaluateAll at heval
    cases hclause : evaluateExpression clause metrics with
    | error message => simp [hclause] at heval
    | ok evaluation =>
      cases evaluation with
      | clear => simp [hclause] at heval
      | unknown =>
        -- An unknown clause pushes nothing, and the loop then never breaches.
        simp only [hclause] at heval
        exact absurd heval (evaluateAll_unknown clauses)
      | breached pushed =>
        simp only [hclause] at heval
        exact evaluateAll_breached clauses heval
          (hproves.append (evaluateExpression_breached clause hclause))

theorem evaluateAll_unknown {metrics : MetricBag} :
    ∀ (clauses : List ThresholdExpression) {components found : List AlertMetricEvidence},
      evaluateAll clauses metrics components true ≠ .ok (.breached found)
  | [], components, found => by
    simp [evaluateAll]
  | clause :: clauses, components, found => by
    unfold evaluateAll
    cases hclause : evaluateExpression clause metrics with
    | error message => simp
    | ok evaluation =>
      cases evaluation with
      | clear => simp
      | unknown => exact evaluateAll_unknown clauses
      | breached pushed => exact evaluateAll_unknown clauses

theorem evaluateAny_breached {metrics : MetricBag} :
    ∀ (clauses : List ThresholdExpression) {components : List AlertMetricEvidence} {unknown : Bool},
      evaluateAny clauses metrics unknown = .ok (.breached components) →
        ProvesSome metrics components (evidenceContractsForAny clauses)
  | [], components, unknown, heval => by
    unfold evaluateAny at heval
    split at heval <;> simp at heval
  | clause :: clauses, components, unknown, heval => by
    unfold evaluateAny at heval
    have hrest : ∀ {flag : Bool},
        evaluateAny clauses metrics flag = .ok (.breached components) →
          ProvesSome metrics components (evidenceContractsForAny (clause :: clauses)) := by
      intro flag hflag
      obtain ⟨contract, hcontract, hproves⟩ := evaluateAny_breached clauses hflag
      exact ⟨contract, List.mem_append_right _ hcontract, hproves⟩
    cases hclause : evaluateExpression clause metrics with
    | error message => simp [hclause] at heval
    | ok evaluation =>
      cases evaluation with
      | clear =>
        simp only [hclause] at heval
        exact hrest heval
      | unknown =>
        simp only [hclause] at heval
        exact hrest heval
      | breached pushed =>
        simp only [hclause, Except.ok.injEq, ExpressionEvaluation.breached.injEq] at heval
        subst heval
        obtain ⟨contract, hcontract, hproves⟩ := evaluateExpression_breached clause hclause
        exact ⟨contract, List.mem_append_left _ hcontract, hproves⟩

end

mutual

/-- The largest number of components the evidence of an expression can have. -/
def componentBound : ThresholdExpression → Nat
  | .gte _ _ => 1
  | .ratioGte _ _ _ => 1
  | .all clauses => componentSum clauses
  | .any clauses => componentMaximum clauses

def componentSum : List ThresholdExpression → Nat
  | [] => 0
  | clause :: clauses => componentBound clause + componentSum clauses

def componentMaximum : List ThresholdExpression → Nat
  | [] => 0
  | clause :: clauses => max (componentBound clause) (componentMaximum clauses)

end

/-- The evaluation returns, and breached evidence has at most `bound` components. -/
def ReturnsWithin (bound : Nat) (evaluation : Except String ExpressionEvaluation) : Prop :=
  ∃ result, evaluation = .ok result ∧
    ∀ components, result = .breached components → components.length ≤ bound

theorem ReturnsWithin.mono {lower upper : Nat} {evaluation : Except String ExpressionEvaluation}
    (hle : lower ≤ upper) (hreturns : ReturnsWithin lower evaluation) :
    ReturnsWithin upper evaluation := by
  obtain ⟨result, hresult, hlength⟩ := hreturns
  exact ⟨result, hresult, fun components hcomponents =>
    Nat.le_trans (hlength components hcomponents) hle⟩

mutual

/-- An expression that fits the two-component schema never throws. -/
theorem evaluateExpression_returns {metrics : MetricBag} :
    ∀ (expression : ThresholdExpression), componentBound expression ≤ 2 →
      ReturnsWithin (componentBound expression) (evaluateExpression expression metrics)
  | .gte metric value, _ => by
    unfold evaluateExpression
    cases metrics metric with
    | none => exact ⟨_, rfl, by simp⟩
    | some observed =>
      simp only
      split
      · exact ⟨_, rfl, by simp⟩
      · exact ⟨_, rfl, by simp [componentBound]⟩
  | .ratioGte minDenominator minNumerator basisPoints, _ => by
    unfold evaluateExpression
    split
    · split
      · exact ⟨_, rfl, by simp⟩
      · exact ⟨_, rfl, by simp [componentBound]⟩
    · exact ⟨_, rfl, by simp⟩
  | .all clauses, hbound => by
    unfold evaluateExpression
    simp only [componentBound] at hbound ⊢
    have hreturns := @evaluateAll_returns metrics clauses [] false (by simpa using hbound)
    simpa using hreturns
  | .any clauses, hbound => by
    unfold evaluateExpression
    simp only [componentBound] at hbound ⊢
    exact evaluateAny_returns clauses hbound

theorem evaluateAll_returns {metrics : MetricBag} :
    ∀ (clauses : List ThresholdExpression) {components : List AlertMetricEvidence} {unknown : Bool},
      components.length + componentSum clauses ≤ 2 →
        ReturnsWithin (components.length + componentSum clauses)
          (evaluateAll clauses metrics components unknown)
  | [], components, unknown, hbound => by
    unfold evaluateAll
    simp only [componentSum] at hbound ⊢
    split
    · exact ⟨_, rfl, by simp⟩
    · rw [if_neg (by omega)]
      exact ⟨_, rfl, by simp⟩
  | clause :: clauses, components, unknown, hbound => by
    simp only [componentSum] at hbound
    unfold evaluateAll
    obtain ⟨evaluation, hclause, hlength⟩ :=
      @evaluateExpression_returns metrics clause (by omega)
    rw [hclause]
    cases evaluation with
    | clear => exact ⟨_, rfl, by simp⟩
    | unknown =>
      refine (evaluateAll_returns clauses (by omega)).mono ?_
      simp only [componentSum]
      omega
    | breached pushed =>
      have hpushed := hlength pushed rfl
      refine (evaluateAll_returns clauses (by simp only [List.length_append]; omega)).mono ?_
      simp only [componentSum, List.length_append]
      omega

theorem evaluateAny_returns {metrics : MetricBag} :
    ∀ (clauses : List ThresholdExpression) {unknown : Bool}, componentMaximum clauses ≤ 2 →
      ReturnsWithin (componentMaximum clauses) (evaluateAny clauses metrics unknown)
  | [], unknown, _ => by
    unfold evaluateAny
    exact ⟨_, rfl, by cases unknown <;> simp⟩
  | clause :: clauses, unknown, hbound => by
    simp only [componentMaximum] at hbound
    unfold evaluateAny
    obtain ⟨evaluation, hclause, hlength⟩ :=
      @evaluateExpression_returns metrics clause (by omega)
    rw [hclause]
    cases evaluation with
    | clear =>
      refine (evaluateAny_returns clauses (by omega)).mono ?_
      simp only [componentMaximum]
      omega
    | unknown =>
      refine (evaluateAny_returns clauses (by omega)).mono ?_
      simp only [componentMaximum]
      omega
    | breached pushed =>
      refine ⟨_, rfl, ?_⟩
      rintro components ⟨rfl⟩
      have hpushed := hlength pushed rfl
      simp only [componentMaximum]
      omega

end

end pgid.alert
