import PgidSso.Alert.Lifecycle.Run

open checked

namespace pgid.alert

/-- From an accepted state and an accepted, later observation of the same identity, at
an instant that is admitted, the reducer returns, and the state it returns is accepted
from then on. -/
def ClosedUnderAdvance (Admitted : Timestamp → Prop) : Prop :=
  ∀ (asOf : Timestamp) (previous accepted : AlertLifecycleState)
    (observation : AlertObservationInput) (parsed : AlertRuleObservation),
    parseState previous asOf.ms = .ok accepted →
    parseAlertObservation observation = .ok parsed →
    observation.asOf = asOf →
    (∀ lastEvaluatedAt ∈ previous.lastEvaluatedAt, lastEvaluatedAt < asOf) →
    (∀ identity ∈ previous.identity, identity.ruleId = observation.ruleId ∧
      identity.dimension = observation.dimension) →
    Admitted asOf →
    ∃ result, advanceAlertLifecycle { asOf, observation, previous } = .ok result ∧
      ∀ later : Timestamp, asOf ≤ later → parseState result.state later.ms = .ok result.state

/-- Runs of any length from the initial state over observations of one identity return,
and every state on the way is accepted from its evaluation on. -/
def ClosedUnderRuns (Admitted : Timestamp → Prop) : Prop :=
  ∀ (ruleId : AlertRuleId) (dimension : AlertDimension)
    (observations : List AlertObservationInput),
    OneIdentity ruleId dimension observations →
    (∀ observation ∈ observations, (∃ parsed, parseAlertObservation observation = .ok parsed) ∧
      Admitted observation.asOf) →
    ∃ steps last, lifecycleRun observations = .ok (steps, last) ∧
      steps.map (·.observation) = observations ∧
      ∀ step ∈ steps, ∀ later : Timestamp, step.asOf ≤ later →
        parseState step.result.state later.ms = .ok step.result.state

/-- The cooldown that may start at an evaluation, and the longest window that ends at
it, both lie in the time range. -/
def OffsetsRepresentable (asOf : Timestamp) : Prop :=
  asOf.ms + ALERT_RULE_POLICY.cooldownMs ≤ Timestamp.maximumMs ∧
    -Timestamp.maximumMs ≤ asOf.ms - ALERT_WINDOW_SECONDS .w60m * 1000

theorem OffsetsRepresentable.bounds {asOf : Timestamp} (hoffsets : OffsetsRepresentable asOf) :
    asOf.ms + 1800000 ≤ Timestamp.maximumMs ∧ -Timestamp.maximumMs + 3600000 ≤ asOf.ms := by
  simp only [OffsetsRepresentable, ALERT_RULE_POLICY, ALERT_WINDOW_SECONDS] at hoffsets
  omega

section step

variable {ruleId : AlertRuleId} {dimension : AlertDimension} {observation : AlertObservationInput}

theorem View.parseState_state {view : View ruleId}
    (haccepted : dimension.Accepted (ALERT_RULE_DEFINITIONS ruleId).dimensions) {later : Timestamp}
    (hview : ∀ evaluatedAt watch, view = some (evaluatedAt, watch) →
      watch.Timely evaluatedAt ∧ evaluatedAt.ms ≤ later.ms) :
    parseState (view.state dimension) later.ms = .ok (view.state dimension) := by
  cases view with
  | none => exact parseState_inactive _
  | some entry =>
    obtain ⟨htimely, hlater⟩ := hview entry.1 entry.2 rfl
    exact entry.2.parseState_state haccepted htimely hlater

/-- The reducer at a view returns a view, evaluated now. -/
theorem advance_view_returns {view : View ruleId} {evaluation : AlertRuleEvaluation}
    (hrule : observation.ruleId = ruleId) (hdimension : observation.dimension = dimension)
    (hbefore : view.Before observation.asOf)
    (heval : evaluateAlertRule observation = .ok evaluation)
    (hcooldown : observation.asOf.ms + 1800000 ≤ Timestamp.maximumMs) :
    ∃ result, ∃ view' : View ruleId,
      advanceAlertLifecycle
        { asOf := observation.asOf, observation, previous := view.state dimension } = .ok result ∧
      result.state = view'.state dimension ∧
      ∀ evaluatedAt watch, view' = some (evaluatedAt, watch) →
        watch.Timely evaluatedAt ∧ evaluatedAt = observation.asOf := by
  obtain ⟨signal, -, hadvance⟩ := advance_view hrule hdimension hbefore heval
  rw [hadvance]
  split
  · exact ⟨_, none, rfl, rfl, by simp⟩
  · obtain ⟨next, hnext⟩ := Watch.step_returns hcooldown (view.watchAt observation.asOf) signal
    rw [hnext]
    refine ⟨_, some (observation.asOf, next.2), rfl, rfl, ?_⟩
    rintro evaluatedAt watch heq
    simp only [Option.some.injEq, Prod.mk.injEq] at heq
    obtain ⟨rfl, rfl⟩ := heq
    exact ⟨Watch.step_timely hnext hbefore.timely, rfl⟩

/-- An accepted state is the record of a view of the identity it is bound to. -/
theorem parseState_view {previous accepted : AlertLifecycleState} {asOf : Timestamp}
    (hparse : parseState previous asOf.ms = .ok accepted)
    (hlater : ∀ lastEvaluatedAt ∈ previous.lastEvaluatedAt, lastEvaluatedAt < asOf)
    (hidentity : ∀ identity ∈ previous.identity, identity.ruleId = ruleId ∧
      identity.dimension = dimension) :
    ∃ view : View ruleId, previous = view.state dimension ∧ view.Before asOf := by
  rcases parseState_accepts_iff.mp ⟨accepted, hparse⟩ with rfl | ⟨watched, hasOf, rfl⟩
  · exact ⟨none, rfl, by simp [View.Before]⟩
  · obtain ⟨watchedRule, watchedDimension, haccepted, evaluatedAt, watch, htimely⟩ := watched
    simp only [Watched.state, Watch.state_identity, Option.mem_def, Option.some.injEq,
      forall_eq', Watch.state_lastEvaluatedAt] at hidentity hlater
    obtain ⟨rfl, rfl⟩ := hidentity
    refine ⟨some (evaluatedAt, watch), rfl, ?_⟩
    rintro _ _ ⟨⟩
    exact ⟨htimely, hlater⟩

end step

theorem closedUnderAdvance : ClosedUnderAdvance OffsetsRepresentable := by
  rintro asOf previous accepted observation parsed hparse hobservation rfl hlater hidentity hadmitted
  obtain ⟨hcooldown, hwindows⟩ := hadmitted.bounds
  obtain ⟨evaluation, heval, -⟩ := evaluateAlertRule_returns hobservation hwindows
  obtain ⟨view, rfl, hbefore⟩ := parseState_view hparse hlater hidentity
  obtain ⟨result, view', hadvance, hstate, hview⟩ :=
    advance_view_returns rfl rfl hbefore heval hcooldown
  refine ⟨result, hadvance, fun later hle => ?_⟩
  rw [hstate]
  refine View.parseState_state (dimension_accepted rfl rfl heval) fun evaluatedAt watch heq => ?_
  obtain ⟨htimely, rfl⟩ := hview evaluatedAt watch heq
  exact ⟨htimely, hle⟩

/-- A run over accepted, representable observations returns. -/
theorem lifecycleRun_returns {ruleId : AlertRuleId} {dimension : AlertDimension}
    {observations : List AlertObservationInput} (hone : OneIdentity ruleId dimension observations)
    (hadmitted : ∀ observation ∈ observations,
      (∃ parsed, parseAlertObservation observation = .ok parsed) ∧
        OffsetsRepresentable observation.asOf) :
    ∃ steps last, lifecycleRun observations = .ok (steps, last) ∧
      steps.map (·.observation) = observations := by
  have hfits : run.Fitting (fun past observation =>
      (((∃ parsed, parseAlertObservation observation = .ok parsed) ∧
        OffsetsRepresentable observation.asOf) ∧
          observation.ruleId = ruleId ∧ observation.dimension = dimension) ∧
        ∀ earlier ∈ past, earlier.asOf < observation.asOf) [] observations :=
    run.fitting_of_pairwise hone.increasing fun observation hmem =>
      ⟨hadmitted observation hmem, hone.rule observation hmem, hone.dimension observation hmem⟩
  have hinv : ∃ view : View ruleId, Tracks dimension [] view inactiveAlertState :=
    ⟨none, Tracks.start⟩
  refine @run.outputs_returns _ _ _ _ lifecycleStep (·.observation)
    (fun past state => ∃ view : View ruleId, Tracks dimension past view state) _
    (fun hstep => (lifecycleStep_eq_ok hstep).1) ?_ observations [] _ hinv hfits
  rintro past state observation ⟨view, htracks⟩
    ⟨⟨⟨⟨parsed, hparse⟩, hoffsets⟩, hrule, hdimension⟩, hearlier⟩
  obtain ⟨hcooldown, hwindows⟩ := hoffsets.bounds
  obtain ⟨evaluation, heval, -⟩ := evaluateAlertRule_returns hparse hwindows
  have hfits : FitsIdentity ruleId dimension (past.map (·.observation)) observation :=
    ⟨⟨hrule, hdimension⟩, hearlier⟩
  obtain ⟨result, view', hadvance, -⟩ :=
    advance_view_returns hrule hdimension (htracks.before hfits) heval hcooldown
  have hstep : lifecycleStep state observation =
      .ok ({ observation, evaluation, previous := state, result }, result.state) := by
    rw [htracks.1]
    simp [lifecycleStep, heval, hadvance, Bind.bind, Except.bind, Pure.pure, Except.pure]
  obtain ⟨view', -, htracks'⟩ := htracks.transition hfits hstep
  exact ⟨_, _, hstep, view', htracks'⟩

theorem closedUnderRuns : ClosedUnderRuns OffsetsRepresentable := by
  intro ruleId dimension observations hone hadmitted
  obtain ⟨steps, last, hrun, hobservations⟩ := lifecycleRun_returns hone hadmitted
  refine ⟨steps, last, hrun, hobservations, ?_⟩
  have hclosed := (@lifecycleRun_history ruleId dimension (fun _ _ => True)
    (fun _ step => ∀ later : Timestamp, step.asOf ≤ later →
      parseState step.result.state later.ms = .ok step.result.state) _ _ _ trivial ?_ hone hrun).2
  · intro step hmem
    obtain ⟨before, after, rfl⟩ := List.append_of_mem hmem
    exact hclosed before step after rfl
  · intro past step view view' _ htransition
    refine ⟨fun later hle => ?_, trivial⟩
    rw [htransition.next]
    refine View.parseState_state htransition.accepted fun evaluatedAt watch hview => ?_
    obtain ⟨htimely, rfl⟩ := htransition.timely evaluatedAt watch hview
    exact ⟨htimely, hle⟩

/-- The lifecycle is closed under evaluation, one step at a time and over runs, wherever
the offsets of the evaluation instant are representable. -/
theorem advanceAlertLifecycle_closed :
    ClosedUnderAdvance OffsetsRepresentable ∧ ClosedUnderRuns OffsetsRepresentable :=
  ⟨closedUnderAdvance, closedUnderRuns⟩

theorem minute_inRange (minute : Fin 1440) :
    -Timestamp.maximumMs ≤ 60000 * minute.val ∧ 60000 * minute.val ≤ Timestamp.maximumMs := by
  simp only [Timestamp.maximumMs]
  omega

/-- A minute of the registration rate limit, with the counts of its windows. -/
def registrationMinute (minute : Fin 1440) (recent hourly : Int) : AlertObservationInput :=
  { asOf := ⟨60000 * minute.val, minute_inRange minute⟩
    dimension := .global
    measures := .count { w5m := ⟨recent⟩, w15m := ⟨recent⟩, w60m := ⟨hourly⟩ }
    ruleId := .registrationRateLimited }

/-- The two minutes in which a warning opens are admitted, and so is each state that they leave. -/
theorem advanceAlertLifecycle_closed_registrationMinutes :
    (∃ result, advanceAlertLifecycle
        { asOf := (registrationMinute 0 5 5).asOf, observation := registrationMinute 0 5 5,
          previous := inactiveAlertState } = .ok result ∧
      parseState result.state (registrationMinute 1 5 5).asOf.ms = .ok result.state) ∧
    ∃ steps last, lifecycleRun [registrationMinute 0 5 5, registrationMinute 1 5 5] = .ok (steps, last) ∧
      steps.length = 2 ∧ ∀ step ∈ steps, ∀ later : Timestamp, step.asOf ≤ later →
        parseState step.result.state later.ms = .ok step.result.state := by
  have hparsed : ∀ minute, ∃ parsed, parseAlertObservation (registrationMinute minute 5 5) = .ok parsed :=
    fun _ => ⟨_, rfl⟩
  have hoffsets : ∀ minute, OffsetsRepresentable (registrationMinute minute 5 5).asOf := by
    intro minute
    simp only [OffsetsRepresentable, registrationMinute, ALERT_RULE_POLICY, ALERT_WINDOW_SECONDS, Timestamp.maximumMs]
    omega
  obtain ⟨hadvance, hruns⟩ := advanceAlertLifecycle_closed
  refine ⟨?_, ?_⟩
  · obtain ⟨parsed, hfirst⟩ := hparsed 0
    obtain ⟨result, hresult, hlater⟩ := hadvance _ inactiveAlertState inactiveAlertState (registrationMinute 0 5 5)
      parsed (parseState_inactive _) hfirst rfl (by simp [inactiveAlertState]) (by simp [inactiveAlertState])
      (hoffsets 0)
    exact ⟨result, hresult, hlater _ (by decide)⟩
  · obtain ⟨steps, last, hrun, hobservations, hlater⟩ := hruns .registrationRateLimited .global
      [registrationMinute 0 5 5, registrationMinute 1 5 5] ⟨by decide, by decide, by decide⟩ (by
        simp only [List.forall_mem_cons]
        exact ⟨⟨hparsed 0, hoffsets 0⟩, ⟨hparsed 1, hoffsets 1⟩,
          List.forall_mem_nil _⟩)
    exact ⟨steps, last, hrun, by rw [← @List.length_map _ _ steps (·.observation), hobservations]; rfl, hlater⟩

/-- The earliest instant of the time range. -/
def earliestTimestamp : Timestamp :=
  ⟨-8640000000000000, by decide⟩

/-- A quiet minute of the registration rate limit. -/
def quietRegistrationObservation (asOf : Timestamp) : AlertObservationInput :=
  { asOf, dimension := .global, ruleId := .registrationRateLimited
    measures := .count { w5m := ⟨0⟩, w15m := ⟨0⟩, w60m := ⟨0⟩ } }

/-- The cooldown alone is not enough: within an hour of the beginning of the time range
the windows of an evaluation have no start, and the reducer throws. -/
theorem advanceAlertLifecycle_not_closed_at_earliest :
    ¬ (ClosedUnderAdvance (fun asOf =>
        asOf.ms + ALERT_RULE_POLICY.cooldownMs ≤ Timestamp.maximumMs) ∧
      ClosedUnderRuns (fun asOf =>
        asOf.ms + ALERT_RULE_POLICY.cooldownMs ≤ Timestamp.maximumMs)) := by
  rintro ⟨hclosed, -⟩
  have hparsed : parseAlertObservation (quietRegistrationObservation earliestTimestamp) =
      .ok { asOf := earliestTimestamp, dimension := .global, ruleId := .registrationRateLimited
            measures := .count { w5m := ⟨0⟩, w15m := ⟨0⟩, w60m := ⟨0⟩ } } := rfl
  obtain ⟨result, hadvance, -⟩ := hclosed earliestTimestamp inactiveAlertState inactiveAlertState
    (quietRegistrationObservation earliestTimestamp) _ (parseState_inactive _) hparsed rfl
    (by simp [inactiveAlertState]) (by simp [inactiveAlertState]) (by decide)
  have hthrows : advanceAlertLifecycle
      { asOf := earliestTimestamp, observation := quietRegistrationObservation earliestTimestamp,
        previous := inactiveAlertState } = .error "Invalid time value" := rfl
  rw [hthrows] at hadvance
  simp at hadvance

end pgid.alert
