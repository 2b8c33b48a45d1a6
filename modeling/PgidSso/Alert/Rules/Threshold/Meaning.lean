import PgidSso.Alert.Rules.Definitions
import PgidSso.Library.Sql

open checked

namespace pgid.alert

mutual

/-- What an expression says of metrics of which some are unknown: true if they breach it. -/
def meaning : ThresholdExpression → MetricBag → sql.Truth
  | .gte metric value, metrics => sql.le (some value) (metrics metric)
  | .ratioGte minDenominator minNumerator basisPoints, metrics =>
    match metrics .numerator, metrics .denominator with
    | some numerator, some denominator =>
      sql.fact (minNumerator ≤ numerator ∧ minDenominator ≤ denominator ∧ denominator ≠ 0 ∧
        denominator * basisPoints ≤ numerator * 10000)
    | _, _ => none
  | .all clauses, metrics => sql.all (meanings clauses metrics)
  | .any clauses, metrics => sql.any (meanings clauses metrics)

def meanings : List ThresholdExpression → MetricBag → List sql.Truth
  | [], _ => []
  | clause :: clauses, metrics => meaning clause metrics :: meanings clauses metrics

end

/-- What an evaluation says. -/
def ExpressionEvaluation.truth : ExpressionEvaluation → sql.Truth
  | .breached _ => some true
  | .clear => some false
  | .unknown => none

theorem ExpressionEvaluation.truth_eq_none_iff {evaluation : ExpressionEvaluation} :
    evaluation.truth = none ↔ evaluation = .unknown := by
  cases evaluation <;> simp [truth]

/-- The state of an `all` loop: whether a clause was unknown. -/
def allSoFar (unknown : Bool) : sql.Truth :=
  if unknown then none else some true

/-- The state of an `any` loop. -/
def anySoFar (unknown : Bool) : sql.Truth :=
  if unknown then none else some false

mutual

/-- An evaluation that returns says what the expression means. -/
theorem evaluateExpression_truth {metrics : MetricBag} : ∀ (expression : ThresholdExpression)
    {result : ExpressionEvaluation}, evaluateExpression expression metrics = .ok result →
      result.truth = meaning expression metrics
  | .gte metric value, result, hresult => by
    rw [meaning]
    rw [evaluateExpression] at hresult
    cases hmetric : metrics metric with
    | none =>
      rw [hmetric] at hresult
      cases hresult
      rfl
    | some observed =>
      rw [hmetric] at hresult
      dsimp only at hresult
      split at hresult
      · rename_i hless
        cases hresult
        simp [ExpressionEvaluation.truth, sql.le, sql.compare, Int.not_le.mpr hless]
      · rename_i hless
        cases hresult
        simp [ExpressionEvaluation.truth, sql.le, sql.compare, Int.not_lt.mp hless]
  | .ratioGte minDenominator minNumerator basisPoints, result, hresult => by
    rw [meaning]
    rw [evaluateExpression] at hresult
    cases hnumerator : metrics .numerator with
    | none =>
      rw [hnumerator] at hresult
      cases hresult
      rfl
    | some numerator =>
      cases hdenominator : metrics .denominator with
      | none =>
        rw [hnumerator, hdenominator] at hresult
        cases hresult
        rfl
      | some denominator =>
        rw [hnumerator, hdenominator] at hresult
        dsimp only at hresult ⊢
        split at hresult
        · rename_i hclear
          cases hresult
          rw [sql.fact, decide_eq_false (by omega)]
          rfl
        · rename_i hbreached
          cases hresult
          rw [sql.fact, decide_eq_true (by omega)]
          rfl
  | .all clauses, result, hresult => by
    rw [meaning]
    rw [evaluateExpression] at hresult
    exact (evaluateAll_truth clauses hresult).trans sql.Truth.true_and
  | .any clauses, result, hresult => by
    rw [meaning]
    rw [evaluateExpression] at hresult
    exact (evaluateAny_truth clauses hresult).trans sql.Truth.false_or

theorem evaluateAll_truth {metrics : MetricBag} : ∀ (clauses : List ThresholdExpression)
    {components : List AlertMetricEvidence} {unknown : Bool} {result : ExpressionEvaluation},
      evaluateAll clauses metrics components unknown = .ok result →
        result.truth = (allSoFar unknown).and (sql.all (meanings clauses metrics))
  | [], components, unknown, result, hresult => by
    rw [evaluateAll] at hresult
    rw [meanings, sql.all]
    cases unknown with
    | true =>
      cases hresult
      rfl
    | false =>
      rw [if_neg (by decide)] at hresult
      split at hresult
      · cases hresult
      · cases hresult
        rfl
  | clause :: clauses, components, unknown, result, hresult => by
    rw [evaluateAll] at hresult
    rw [meanings, sql.all]
    cases hclause : evaluateExpression clause metrics with
    | error message =>
      rw [hclause] at hresult
      cases hresult
    | ok evaluation =>
      rw [hclause] at hresult
      rw [← evaluateExpression_truth clause hclause]
      cases evaluation with
      | clear =>
        cases hresult
        rw [ExpressionEvaluation.truth, sql.Truth.false_and, sql.Truth.and_false]
      | unknown =>
        rw [evaluateAll_truth clauses hresult, ExpressionEvaluation.truth]
        cases unknown with
        | true => exact (sql.Truth.none_and_none_and).symm
        | false => exact (sql.Truth.true_and).symm
      | breached found =>
        rw [evaluateAll_truth clauses hresult, ExpressionEvaluation.truth, sql.Truth.true_and]

theorem evaluateAny_truth {metrics : MetricBag} : ∀ (clauses : List ThresholdExpression)
    {unknown : Bool} {result : ExpressionEvaluation}, evaluateAny clauses metrics unknown = .ok result →
      result.truth = (anySoFar unknown).or (sql.any (meanings clauses metrics))
  | [], unknown, result, hresult => by
    rw [evaluateAny] at hresult
    rw [meanings, sql.any]
    cases unknown with
    | true =>
      cases hresult
      rfl
    | false =>
      cases hresult
      rfl
  | clause :: clauses, unknown, result, hresult => by
    rw [evaluateAny] at hresult
    rw [meanings, sql.any]
    cases hclause : evaluateExpression clause metrics with
    | error message =>
      rw [hclause] at hresult
      cases hresult
    | ok evaluation =>
      rw [hclause] at hresult
      rw [← evaluateExpression_truth clause hclause]
      cases evaluation with
      | breached found =>
        cases hresult
        rw [ExpressionEvaluation.truth, sql.Truth.true_or, sql.Truth.or_true]
      | unknown =>
        rw [evaluateAny_truth clauses hresult, ExpressionEvaluation.truth]
        cases unknown with
        | true => exact (sql.Truth.none_or_none_or).symm
        | false => exact (sql.Truth.false_or).symm
      | clear =>
        rw [evaluateAny_truth clauses hresult, ExpressionEvaluation.truth, sql.Truth.false_or]

end

/-- Metrics that know at least what others know. -/
def MetricBag.Extends (metrics extended : MetricBag) : Prop :=
  ∀ metric value, metrics metric = some value → extended metric = some value

mutual

/-- What an expression says stays said when more metrics are known. -/
theorem meaning_refines {metrics extended : MetricBag} (hextends : metrics.Extends extended) :
    ∀ expression : ThresholdExpression, (meaning expression metrics).Refines (meaning expression extended)
  | .gte metric value => by
    intro truth htruth
    rw [meaning] at htruth ⊢
    cases hmetric : metrics metric with
    | none =>
      rw [hmetric] at htruth
      cases htruth
    | some observed =>
      rw [hextends metric observed hmetric]
      rw [hmetric] at htruth
      exact htruth
  | .ratioGte minDenominator minNumerator basisPoints => by
    intro truth htruth
    rw [meaning] at htruth ⊢
    cases hnumerator : metrics .numerator with
    | none =>
      rw [hnumerator] at htruth
      cases htruth
    | some numerator =>
      cases hdenominator : metrics .denominator with
      | none =>
        rw [hnumerator, hdenominator] at htruth
        cases htruth
      | some denominator =>
        rw [hextends _ numerator hnumerator, hextends _ denominator hdenominator]
        rw [hnumerator, hdenominator] at htruth
        exact htruth
  | .all clauses => by
    rw [meaning, meaning]
    exact meanings_all_refines hextends clauses
  | .any clauses => by
    rw [meaning, meaning]
    exact meanings_any_refines hextends clauses

theorem meanings_all_refines {metrics extended : MetricBag} (hextends : metrics.Extends extended) :
    ∀ clauses : List ThresholdExpression,
      (sql.all (meanings clauses metrics)).Refines (sql.all (meanings clauses extended))
  | [] => sql.refines_rfl
  | clause :: clauses => by
    rw [meanings, meanings, sql.all, sql.all]
    exact sql.refines_and (meaning_refines hextends clause) (meanings_all_refines hextends clauses)

theorem meanings_any_refines {metrics extended : MetricBag} (hextends : metrics.Extends extended) :
    ∀ clauses : List ThresholdExpression,
      (sql.any (meanings clauses metrics)).Refines (sql.any (meanings clauses extended))
  | [] => sql.refines_rfl
  | clause :: clauses => by
    rw [meanings, meanings, sql.any, sql.any]
    exact sql.refines_or (meaning_refines hextends clause) (meanings_any_refines hextends clauses)

end

end pgid.alert
