import PgidSso.Alert.Store.Normalized
import PgidSso.Alert.Rules.Threshold.Meaning

open checked

namespace pgid.alert

def AlertSeverity.rank : AlertSeverity → Nat
  | .none => 0
  | .warning => 1
  | .critical => 2

section windows

variable {thresholds : AlertWindowKey → Option ThresholdExpression} {metrics : Windowed MetricBag}

/-- What the threshold of a window says. A window without one says nothing happened. -/
def windowMeaning (thresholds : AlertWindowKey → Option ThresholdExpression)
    (metrics : Windowed MetricBag) (window : AlertWindowKey) : sql.Truth :=
  match thresholds window with
  | none => some false
  | some threshold => meaning threshold (metrics.at window)

/-- Whether one of the windows is breached, as far as that is known. -/
def windowsMeaning (thresholds : AlertWindowKey → Option ThresholdExpression)
    (metrics : Windowed MetricBag) (windows : List AlertWindowKey) : sql.Truth :=
  sql.any (windows.map (windowMeaning thresholds metrics))

/-- What the evaluation of several windows says. -/
def WindowThresholdEvaluation.truth (evaluation : WindowThresholdEvaluation) : sql.Truth :=
  match evaluation.found with
  | _ :: _ => some true
  | [] => if evaluation.unknown then none else some false

theorem WindowThresholdEvaluation.truth_of_found {evaluation : WindowThresholdEvaluation} {first : WindowMatch}
    {rest : List WindowMatch} (hfound : evaluation.found = first :: rest) : evaluation.truth = some true := by
  rw [truth, hfound]

theorem WindowThresholdEvaluation.truth_of_nil {evaluation : WindowThresholdEvaluation}
    (hfound : evaluation.found = []) :
    evaluation.truth = if evaluation.unknown then none else some false := by
  rw [truth, hfound]

/-- The loop over the windows says what its windows mean. -/
theorem evaluateWindows_truth {windows : List AlertWindowKey} {evaluation : WindowThresholdEvaluation}
    (heval : evaluateWindows thresholds metrics windows = .ok evaluation) :
    evaluation.truth = windowsMeaning thresholds metrics windows := by
  induction windows generalizing evaluation with
  | nil =>
    cases heval
    rfl
  | cons window windows ih =>
    rw [evaluateWindows] at heval
    rw [windowsMeaning, List.map_cons, sql.any, windowMeaning, ← windowsMeaning]
    cases hthreshold : thresholds window with
    | none =>
      rw [hthreshold] at heval
      exact (ih heval).trans sql.Truth.false_or.symm
    | some threshold =>
      rw [hthreshold] at heval
      obtain ⟨result, hresult, heval⟩ := bind_eq_ok_iff.mp heval
      obtain ⟨rest, hrest, heval⟩ := bind_eq_ok_iff.mp heval
      dsimp only
      rw [← evaluateExpression_truth threshold hresult, ← ih hrest]
      cases result with
      | breached components =>
        cases heval
        exact sql.Truth.true_or.symm
      | clear =>
        cases heval
        exact sql.Truth.false_or.symm
      | unknown =>
        cases heval
        cases hfound : rest.found with
        | cons first others =>
          rw [WindowThresholdEvaluation.truth_of_found hfound, ExpressionEvaluation.truth, sql.Truth.or_true]
          rfl
        | nil =>
          rw [WindowThresholdEvaluation.truth_of_nil hfound]
          cases rest.unknown <;> rfl

/-- More known metrics only settle what was unknown. -/
theorem windowsMeaning_refines {extended : Windowed MetricBag}
    (hextends : ∀ window, (metrics.at window).Extends (extended.at window)) (windows : List AlertWindowKey) :
    (windowsMeaning thresholds metrics windows).Refines (windowsMeaning thresholds extended windows) := by
  induction windows with
  | nil => exact sql.refines_rfl
  | cons window windows ih =>
    refine sql.refines_or ?_ ih
    rw [windowMeaning, windowMeaning]
    cases thresholds window with
    | none => exact sql.refines_rfl
    | some threshold => exact meaning_refines (hextends window) threshold

end windows

/-- Whether a rule's thresholds of a severity are breached in some window. -/
def severityMeaning (ruleId : AlertRuleId) (severity : ActiveAlertSeverity) (metrics : Windowed MetricBag) :
    sql.Truth :=
  windowsMeaning (fun window => thresholdFor ruleId window severity) metrics ALERT_EVIDENCE_WINDOW_ORDER

/-- The severity and evidence status that follow from what the two severities say. -/
def outcome : sql.Truth → sql.Truth → AlertSeverity × AlertEvidenceStatus
  | some true, _ => (.critical, .known)
  | _, some true => (.warning, .known)
  | some false, some false => (.none, .known)
  | _, _ => (.none, .unknown)

theorem outcome_critical_iff {critical warning : sql.Truth} :
    (outcome critical warning).1 = .critical ↔ critical = some true := by
  rcases critical with _ | _ | _ <;> rcases warning with _ | _ | _ <;> decide

theorem outcome_unknown {critical warning : sql.Truth} (hunknown : (outcome critical warning).2 = .unknown) :
    critical ≠ some true ∧ warning ≠ some true ∧ (critical = none ∨ warning = none) := by
  rcases critical with _ | _ | _ <;> rcases warning with _ | _ | _ <;> simp_all [outcome]

/-- The severity and evidence status of an evaluation are those of its rule's thresholds. -/
theorem evaluateThresholds_outcome {observation : AlertRuleObservation} {metrics : Windowed MetricBag}
    {evaluation : AlertRuleEvaluation} (heval : evaluateThresholds observation metrics = .ok evaluation) :
    outcome (severityMeaning observation.ruleId .critical metrics)
      (severityMeaning observation.ruleId .warning metrics) = (evaluation.severity, evaluation.evidence) := by
  rw [evaluateThresholds] at heval
  obtain ⟨critical, hcritical, heval⟩ := bind_eq_ok_iff.mp heval
  rw [severityMeaning, ← evaluateWindows_truth hcritical]
  cases hfound : critical.found with
  | cons first rest =>
    rw [hfound] at heval
    obtain ⟨evidence, -, heq⟩ := bind_eq_ok_iff.mp heval
    cases heq
    rw [WindowThresholdEvaluation.truth_of_found hfound]
    rfl
  | nil =>
    rw [hfound] at heval
    obtain ⟨warning, hwarning, heval⟩ := bind_eq_ok_iff.mp heval
    rw [severityMeaning, ← evaluateWindows_truth hwarning, WindowThresholdEvaluation.truth_of_nil hfound]
    cases hselected : warning.found with
    | cons first rest =>
      rw [hselected] at heval
      obtain ⟨evidence, -, heq⟩ := bind_eq_ok_iff.mp heval
      cases heq
      rw [WindowThresholdEvaluation.truth_of_found hselected]
      cases critical.unknown <;> rfl
    | nil =>
      rw [hselected] at heval
      cases heval
      rw [WindowThresholdEvaluation.truth_of_nil hselected]
      cases critical.unknown <;> cases warning.unknown <;> rfl

/-- Settling what is unknown keeps a severity that is known, or raises a warning. -/
theorem outcome_refines {critical warning settledCritical settledWarning : sql.Truth}
    (hcritical : critical.Refines settledCritical) (hwarning : warning.Refines settledWarning)
    (hknown : (outcome critical warning).2 = .known) :
    (outcome critical warning).1.rank ≤ (outcome settledCritical settledWarning).1.rank ∧
      ((outcome critical warning).1 = .none → (outcome settledCritical settledWarning).1 = .none) := by
  cases critical with
  | none =>
    cases warning with
    | none => cases hknown
    | some breached =>
      cases breached with
      | false => cases hknown
      | true =>
        rw [hwarning true rfl]
        cases settledCritical with
        | none => exact ⟨Nat.le_refl _, fun hnone => by cases hnone⟩
        | some breached => cases breached <;> exact ⟨by decide, fun hnone => by cases hnone⟩
  | some breached =>
    rw [hcritical breached rfl]
    cases breached with
    | true => exact ⟨Nat.le_refl _, id⟩
    | false =>
      cases warning with
      | none => cases hknown
      | some breached =>
        rw [hwarning breached rfl]
        exact ⟨Nat.le_refl _, id⟩

/-- The severity and evidence status of a known evaluation are those of the observation's rule. -/
theorem evaluateAlertRule_outcome {value : AlertObservationInput} {observation : AlertRuleObservation}
    {evaluation : AlertRuleEvaluation} (hparse : parseAlertObservation value = .ok observation)
    (heval : evaluateAlertRule value = .ok evaluation)
    (hsample : evaluation.evidence = .known ∨ ∀ snapshot, observation.measures ≠ .queue snapshot) :
    outcome (severityMeaning observation.ruleId .critical observation.metrics)
      (severityMeaning observation.ruleId .warning observation.metrics) =
        (evaluation.severity, evaluation.evidence) := by
  rcases evaluateAlertRule_thresholds hparse heval with ⟨⟨snapshot, hqueue⟩, rfl⟩ | ⟨hthresholds, -⟩
  · rcases hsample with hknown | hother
    · cases hknown
    · exact absurd hqueue (hother snapshot)
  · exact evaluateThresholds_outcome hthresholds

end pgid.alert
