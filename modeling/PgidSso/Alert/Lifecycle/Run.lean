import PgidSso.Alert.Lifecycle.Move
import PgidSso.Library.Run

open checked

namespace pgid.alert

/-- One evaluation of a run: what was observed, what it meant, the state before it and
the answer of the reducer. -/
structure LifecycleStep where
  observation : AlertObservationInput
  evaluation : AlertRuleEvaluation
  previous : AlertLifecycleState
  result : AlertLifecycleResult
  deriving DecidableEq

def LifecycleStep.asOf (step : LifecycleStep) : Timestamp :=
  step.observation.asOf

def lifecycleStep (state : AlertLifecycleState) (observation : AlertObservationInput) :
    Except String (LifecycleStep × AlertLifecycleState) := do
  let evaluation ← evaluateAlertRule observation
  let result ← advanceAlertLifecycle { asOf := observation.asOf, observation, previous := state }
  return ({ observation, evaluation, previous := state, result }, result.state)

/-- The run of `advanceAlertLifecycle` from `inactiveAlertState()`. -/
def lifecycleRun (observations : List AlertObservationInput) :
    Except String (List LifecycleStep × AlertLifecycleState) :=
  run.outputs lifecycleStep inactiveAlertState observations

/-- Observations of one rule and dimension with strictly increasing `asOf`. -/
structure OneIdentity (ruleId : AlertRuleId) (dimension : AlertDimension)
    (observations : List AlertObservationInput) : Prop where
  rule : ∀ observation ∈ observations, observation.ruleId = ruleId
  dimension : ∀ observation ∈ observations, observation.dimension = dimension
  increasing : observations.Pairwise fun earlier later => earlier.asOf < later.asOf

/-- How an observation of the identity stands to the ones before it. -/
def FitsIdentity (ruleId : AlertRuleId) (dimension : AlertDimension)
    (past : List AlertObservationInput) (observation : AlertObservationInput) : Prop :=
  (observation.ruleId = ruleId ∧ observation.dimension = dimension) ∧
    ∀ earlier ∈ past, earlier.asOf < observation.asOf

theorem OneIdentity.fitting {ruleId : AlertRuleId} {dimension : AlertDimension}
    {observations : List AlertObservationInput}
    (hone : OneIdentity ruleId dimension observations) :
    run.Fitting (FitsIdentity ruleId dimension) [] observations :=
  run.fitting_of_pairwise hone.increasing fun observation hmem =>
    ⟨hone.rule observation hmem, hone.dimension observation hmem⟩

/-- A signal says of an evaluation what the lifecycle depends on. -/
def Signal.Describes {ruleId : AlertRuleId} (signal : Signal ruleId)
    (evaluation : AlertRuleEvaluation) : Prop :=
  match signal with
  | .unknown => evaluation.evidence = .unknown
  | .clear => evaluation.evidence = .known ∧ evaluation.severity = .none
  | .breach evidence immediate _ => evaluation.evidence = .known ∧
      evaluation.severity = evidence.severity.severity ∧ evaluation.immediateCritical = immediate

theorem Signal.Reads.describes {evaluation : AlertRuleEvaluation}
    {signal : Signal evaluation.ruleId} (hreads : signal.Reads evaluation) :
    signal.Describes evaluation := by
  cases hreads with
  | unknown hevidence hseverity => exact hevidence
  | clear hevidence hseverity => exact ⟨hevidence, hseverity⟩
  | breach evidence himmediate hevidence hseverity hselected => exact ⟨hevidence, hseverity, rfl⟩

/-- The last evaluation and the watch of an identity; `none` until it is bound. -/
abbrev View (ruleId : AlertRuleId) := Option (Timestamp × Watch ruleId)

namespace View

variable {ruleId : AlertRuleId}

def state (dimension : AlertDimension) : View ruleId → AlertLifecycleState
  | none => inactiveAlertState
  | some (evaluatedAt, watch) => watch.state dimension evaluatedAt

/-- The watch that an evaluation at `asOf` finds. -/
def watchAt (asOf : Timestamp) : View ruleId → Watch ruleId
  | none => .quiet none
  | some (_, watch) => watch.live asOf

/-- The instants of the view are in order, and lie before `asOf`. -/
def Before (asOf : Timestamp) (view : View ruleId) : Prop :=
  ∀ evaluatedAt watch, view = some (evaluatedAt, watch) →
    watch.Timely evaluatedAt ∧ evaluatedAt < asOf

theorem Before.timely {asOf : Timestamp} {view : View ruleId} (hbefore : view.Before asOf) :
    (view.watchAt asOf).Timely asOf := by
  cases view with
  | none => simp [watchAt, Watch.Timely]
  | some entry =>
    obtain ⟨htimely, hlater⟩ := hbefore entry.1 entry.2 rfl
    exact htimely.live (Int.le_of_lt hlater)

end View

/-- What one evaluation does to the view of its identity. -/
inductive LifecycleMove {ruleId : AlertRuleId} (dimension : AlertDimension) (view : View ruleId)
    (step : LifecycleStep) : View ruleId → Prop
  | unbound (signal : Signal ruleId) (hview : view = none) (hsignal : ¬ signal.IsBreach)
      (hdescribes : signal.Describes step.evaluation) (hintent : step.result.intent = none) :
      LifecycleMove dimension view step none
  | moved (signal : Signal ruleId) (notice : Option (Notice ruleId)) (watch : Watch ruleId)
      (hdescribes : signal.Describes step.evaluation)
      (hmove : (view.watchAt step.asOf).Move step.asOf signal notice watch)
      (hintent : step.result.intent = notice.map
        (Notice.intent { «at» := step.asOf, dimension, mode := .observeOnly, ruleId })) :
      LifecycleMove dimension view step (some (step.asOf, watch))

theorem lifecycleStep_eq_ok {state next : AlertLifecycleState} {observation : AlertObservationInput}
    {step : LifecycleStep} (hstep : lifecycleStep state observation = .ok (step, next)) :
    step.observation = observation ∧ step.previous = state ∧ step.result.state = next ∧
      evaluateAlertRule observation = .ok step.evaluation ∧
      advanceAlertLifecycle { asOf := observation.asOf, observation, previous := state } =
        .ok step.result := by
  simp only [lifecycleStep, bind_eq_ok_iff, pure_eq_ok_iff, Prod.mk.injEq] at hstep
  obtain ⟨evaluation, heval, result, hadvance, rfl, rfl⟩ := hstep
  exact ⟨rfl, rfl, rfl, heval, hadvance⟩

section step

variable {ruleId : AlertRuleId} {dimension : AlertDimension} {observation : AlertObservationInput}
  {view : View ruleId}

theorem dimension_accepted (hrule : observation.ruleId = ruleId)
    (hdimension : observation.dimension = dimension) {evaluation : AlertRuleEvaluation}
    (heval : evaluateAlertRule observation = .ok evaluation) :
    dimension.Accepted (ALERT_RULE_DEFINITIONS ruleId).dimensions := by
  obtain ⟨⟨parsed, hparse⟩, -⟩ := evaluateAlertRule_ok_iff.mp ⟨evaluation, heval⟩
  obtain ⟨-, -, -, haccepted⟩ := parseAlertObservation_identity hparse
  rwa [hrule, hdimension] at haccepted

/-- The reducer at a view is the step of the watch it finds, except that an identity is
only bound by a breach. -/
theorem advance_view (hrule : observation.ruleId = ruleId) (hdimension : observation.dimension = dimension)
    (hbefore : view.Before observation.asOf) {evaluation : AlertRuleEvaluation}
    (heval : evaluateAlertRule observation = .ok evaluation) :
    ∃ signal : Signal ruleId, signal.Describes evaluation ∧
      advanceAlertLifecycle
          { asOf := observation.asOf, observation, previous := view.state dimension } =
        if view = none ∧ ¬ signal.IsBreach then .ok { intent := none, state := inactiveAlertState }
        else ((view.watchAt observation.asOf).step observation.asOf signal).map fun next =>
          { intent := next.1.map (Notice.intent
              { «at» := observation.asOf, dimension, mode := .observeOnly, ruleId })
            state := View.state dimension (some (observation.asOf, next.2)) } := by
  have haccepted := dimension_accepted hrule hdimension heval
  obtain ⟨hproper, -, hruleEval, hdimensionEval⟩ := evaluateAlertRule_proper heval
  obtain ⟨signal, hreads⟩ := hproper.reads
  have hruleEq : evaluation.ruleId = ruleId := hruleEval.trans hrule
  have hdimensionEq : evaluation.dimension = dimension := hdimensionEval.trans hdimension
  subst hruleEq hdimensionEq
  refine ⟨signal, hreads.describes, ?_⟩
  cases view with
  | none =>
    simp only [View.state, View.watchAt, true_and]
    rw [advanceAlertLifecycle_inactive heval hreads]
    by_cases hbreach : signal.IsBreach
    · rw [if_pos hbreach, if_neg (not_not_intro hbreach)]
      rfl
    · rw [if_neg hbreach, if_pos hbreach]
  | some entry =>
    obtain ⟨evaluatedAt, watch⟩ := entry
    obtain ⟨htimely, hlater⟩ := hbefore evaluatedAt watch rfl
    rw [if_neg (by simp)]
    exact advanceAlertLifecycle_watch heval hreads haccepted htimely hlater

/-- A step of a run moves the view. -/
theorem lifecycleStep_moves {next : AlertLifecycleState} {step : LifecycleStep}
    (hrule : observation.ruleId = ruleId) (hdimension : observation.dimension = dimension)
    (hbefore : view.Before observation.asOf)
    (hstep : lifecycleStep (view.state dimension) observation = .ok (step, next)) :
    ∃ view' : View ruleId, next = view'.state dimension ∧ LifecycleMove dimension view step view' ∧
      ∀ evaluatedAt watch, view' = some (evaluatedAt, watch) →
        watch.Timely evaluatedAt ∧ evaluatedAt = observation.asOf := by
  obtain ⟨hobservation, -, rfl, heval, hadvance⟩ := lifecycleStep_eq_ok hstep
  obtain ⟨signal, hdescribes, hview⟩ := advance_view hrule hdimension hbefore heval
  have hasOf : step.asOf = observation.asOf := by rw [LifecycleStep.asOf, hobservation]
  rw [hadvance] at hview
  split at hview
  · rename_i hunbound
    obtain ⟨hnone, hbreach⟩ := hunbound
    simp only [Except.ok.injEq] at hview
    rw [hview]
    exact ⟨none, rfl, .unbound signal hnone hbreach hdescribes (by rw [hview]), by simp⟩
  · cases hwatch : (view.watchAt observation.asOf).step observation.asOf signal with
    | error message => simp [hwatch, Except.map] at hview
    | ok moved =>
      simp only [hwatch, Except.map, Except.ok.injEq] at hview
      refine ⟨some (observation.asOf, moved.2), by rw [hview], ?_, ?_⟩
      · rw [← hasOf]
        exact .moved signal moved.1 moved.2 hdescribes (hasOf ▸ Watch.step_move hwatch)
          (by rw [hview, hasOf])
      · rintro evaluatedAt watch heq
        simp only [Option.some.injEq, Prod.mk.injEq] at heq
        obtain ⟨rfl, rfl⟩ := heq
        exact ⟨Watch.step_timely hwatch hbefore.timely, rfl⟩

end step

section history

variable {ruleId : AlertRuleId} {dimension : AlertDimension}

/-- The state is the record of a view whose last evaluation is in the past. -/
def Tracks (dimension : AlertDimension) (past : List LifecycleStep) (view : View ruleId)
    (state : AlertLifecycleState) : Prop :=
  state = view.state dimension ∧ ∀ evaluatedAt watch, view = some (evaluatedAt, watch) →
    watch.Timely evaluatedAt ∧ ∃ step ∈ past, step.asOf = evaluatedAt

theorem Tracks.before {past : List LifecycleStep} {view : View ruleId}
    {state : AlertLifecycleState} {observation : AlertObservationInput}
    (htracks : Tracks dimension past view state)
    (hfits : FitsIdentity ruleId dimension (past.map (·.observation)) observation) :
    view.Before observation.asOf := by
  intro evaluatedAt watch hview
  obtain ⟨htimely, step, hmem, rfl⟩ := htracks.2 evaluatedAt watch hview
  exact ⟨htimely, hfits.2 step.observation (List.mem_map_of_mem hmem)⟩

/-- All that is known of one step of a run. -/
structure LifecycleTransition (dimension : AlertDimension) (past : List LifecycleStep)
    (view : View ruleId) (step : LifecycleStep) (view' : View ruleId) : Prop where
  accepted : dimension.Accepted (ALERT_RULE_DEFINITIONS ruleId).dimensions
  increasing : ∀ earlier ∈ past, earlier.asOf < step.asOf
  before : view.Before step.asOf
  previous : step.previous = view.state dimension
  next : step.result.state = view'.state dimension
  move : LifecycleMove dimension view step view'
  timely : ∀ evaluatedAt watch, view' = some (evaluatedAt, watch) →
    watch.Timely evaluatedAt ∧ evaluatedAt = step.asOf

theorem Tracks.start : Tracks dimension [] (none : View ruleId) inactiveAlertState :=
  ⟨rfl, by simp⟩

theorem Tracks.transition {past : List LifecycleStep} {view : View ruleId}
    {state next : AlertLifecycleState} {observation : AlertObservationInput} {step : LifecycleStep}
    (htracks : Tracks dimension past view state)
    (hfits : FitsIdentity ruleId dimension (past.map (·.observation)) observation)
    (hstep : lifecycleStep state observation = .ok (step, next)) :
    ∃ view' : View ruleId, LifecycleTransition dimension past view step view' ∧
      Tracks dimension (past ++ [step]) view' next := by
  have hbefore := htracks.before hfits
  obtain ⟨⟨hrule, hdimension⟩, hearlier⟩ := hfits
  obtain ⟨hobservation, hprevious, hnextState, heval, -⟩ := lifecycleStep_eq_ok hstep
  have hasOf : step.asOf = observation.asOf := by rw [LifecycleStep.asOf, hobservation]
  obtain ⟨view', hnext, hmoves, htimely⟩ :=
    lifecycleStep_moves hrule hdimension hbefore (htracks.1 ▸ hstep)
  refine ⟨view', ⟨dimension_accepted hrule hdimension heval, ?_, hasOf ▸ hbefore,
    hprevious.trans htracks.1, hnextState.trans hnext, hmoves, hasOf ▸ htimely⟩, hnext, ?_⟩
  · intro earlier hmem
    rw [hasOf]
    exact hearlier earlier.observation (List.mem_map_of_mem hmem)
  · intro evaluatedAt watch hview
    obtain ⟨htime, hevaluated⟩ := htimely evaluatedAt watch hview
    exact ⟨htime, step, by simp, by rw [hasOf, hevaluated]⟩

/-- An invariant of the history and the view that every transition keeps, with the
property that every transition establishes, holds along the whole run. -/
theorem lifecycleRun_history {Inv : List LifecycleStep → View ruleId → Prop}
    {P : List LifecycleStep → LifecycleStep → Prop} {observations : List AlertObservationInput}
    {steps : List LifecycleStep} {last : AlertLifecycleState} (hstart : Inv [] none)
    (hmove : ∀ {past step view view'}, Inv past view →
      LifecycleTransition dimension past view step view' → P past step ∧ Inv (past ++ [step]) view')
    (hone : OneIdentity ruleId dimension observations)
    (hrun : lifecycleRun observations = .ok (steps, last)) :
    (∃ view : View ruleId, Tracks dimension steps view last ∧ Inv steps view) ∧
      ∀ before step after, steps = before ++ step :: after → P before step := by
  have horigin : ∀ {state : AlertLifecycleState} {input : AlertObservationInput}
      {output : LifecycleStep} {next : AlertLifecycleState},
      lifecycleStep state input = .ok (output, next) → output.observation = input :=
    fun hstep => (lifecycleStep_eq_ok hstep).1
  have hresult := @run.outputs_invariant _ _ _ _ lifecycleStep (·.observation)
    (fun past state => ∃ view : View ruleId, Tracks dimension past view state ∧ Inv past view)
    (FitsIdentity ruleId dimension) P horigin ?_ observations [] _ steps last
    ⟨none, Tracks.start, hstart⟩ hone.fitting hrun
  · simpa using hresult
  · rintro past state input output next ⟨view, htracks, hinv⟩ hfits hstep
    obtain ⟨view', htransition, htracks'⟩ := htracks.transition hfits hstep
    obtain ⟨hproperty, hinv'⟩ := hmove hinv htransition
    exact ⟨hproperty, view', htracks', hinv'⟩

end history

end pgid.alert
