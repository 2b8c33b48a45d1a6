import PgidSso.Alert.Lifecycle.Closure

open checked

namespace pgid.alert

/-- The intents that open, raise or end an incident. -/
inductive IncidentMark
  | opened (severity : ActiveAlertSeverity)
  | escalated
  | resolved
  deriving DecidableEq

def AlertActionIntent.mark? : AlertActionIntent → Option IncidentMark
  | .open _ _ severity => some (.opened severity)
  | .escalate _ _ _ _ => some .escalated
  | .remind _ _ _ => none
  | .resolve _ _ _ => some .resolved

/-- The severity that an `open` or `escalate` intent announces. -/
def AlertActionIntent.announces? : AlertActionIntent → Option ActiveAlertSeverity
  | .open _ _ severity => some severity
  | .escalate _ _ _ severity => some severity
  | .remind _ _ _ => none
  | .resolve _ _ _ => none

namespace LifecycleStep

def mark? (step : LifecycleStep) : Option IncidentMark :=
  step.result.intent.bind AlertActionIntent.mark?

def announces? (step : LifecycleStep) : Option ActiveAlertSeverity :=
  step.result.intent.bind AlertActionIntent.announces?

/-- The evaluation of the step is known and has this severity. -/
def KnownAs (step : LifecycleStep) (severity : AlertSeverity) : Prop :=
  step.evaluation.evidence = .known ∧ step.evaluation.severity = severity

instance (step : LifecycleStep) (severity : AlertSeverity) : Decidable (step.KnownAs severity) :=
  inferInstanceAs (Decidable (_ ∧ _))

end LifecycleStep

/-- The last of the marks of a history. -/
def lastMark (past : List LifecycleStep) : Option IncidentMark :=
  (past.filterMap LifecycleStep.mark?).getLast?

theorem lastMark_append_singleton {past : List LifecycleStep} {step : LifecycleStep} :
    lastMark (past ++ [step]) = step.mark?.or (lastMark past) := by
  simp only [lastMark, List.filterMap_append, List.getLast?_append]
  cases hmark : step.mark? <;> simp [hmark]

/-- The marks that may follow the last one: an incident is opened when there is none, it
is escalated only directly after it was opened as a warning, and it is resolved once. -/
inductive IncidentMark.Follows : Option IncidentMark → IncidentMark → Prop
  | first (severity : ActiveAlertSeverity) : Follows none (.opened severity)
  | reopened (severity : ActiveAlertSeverity) : Follows (some .resolved) (.opened severity)
  | escalated : Follows (some (.opened .warning)) .escalated
  | resolvedOpened (severity : ActiveAlertSeverity) : Follows (some (.opened severity)) .resolved
  | resolvedEscalated : Follows (some .escalated) .resolved

/-- The severity of the open incident after the last mark. -/
inductive IncidentMark.Leaves : Option IncidentMark → Option ActiveAlertSeverity → Prop
  | start : Leaves none none
  | opened (severity : ActiveAlertSeverity) : Leaves (some (.opened severity)) (some severity)
  | escalated : Leaves (some .escalated) (some .critical)
  | resolved : Leaves (some .resolved) none

namespace IncidentMark

theorem Leaves.follows_opened {last : Option IncidentMark} (hleaves : Leaves last none)
    (severity : ActiveAlertSeverity) : Follows last (.opened severity) := by
  cases hleaves with
  | start => exact .first severity
  | resolved => exact .reopened severity

theorem Leaves.follows_escalated {last : Option IncidentMark}
    (hleaves : Leaves last (some .warning)) : Follows last .escalated := by
  cases hleaves with
  | opened => exact .escalated

theorem Leaves.follows_resolved {last : Option IncidentMark} {severity : ActiveAlertSeverity}
    (hleaves : Leaves last (some severity)) : Follows last .resolved := by
  cases hleaves with
  | opened => exact .resolvedOpened severity
  | escalated => exact .resolvedEscalated

end IncidentMark

def Notice.mark? {ruleId : AlertRuleId} : Notice ruleId → Option IncidentMark
  | .open evidence => some (.opened evidence.severity)
  | .escalate _ => some .escalated
  | .remind _ => none
  | .resolve _ => some .resolved

def Notice.announces? {ruleId : AlertRuleId} : Notice ruleId → Option ActiveAlertSeverity
  | .open evidence => some evidence.severity
  | .escalate _ => some .critical
  | .remind _ => none
  | .resolve _ => none

@[simp] theorem Notice.intent_mark? {ruleId : AlertRuleId} {base : ObserveOnlyIntentBase}
    (notice : Notice ruleId) : (notice.intent base).mark? = notice.mark? := by
  cases notice <;> rfl

@[simp] theorem Notice.intent_announces? {ruleId : AlertRuleId} {base : ObserveOnlyIntentBase}
    (notice : Notice ruleId) : (notice.intent base).announces? = notice.announces? := by
  cases notice <;> rfl

namespace Watch

variable {ruleId : AlertRuleId} {asOf : Timestamp} {watch watch' : Watch ruleId}
  {signal : Signal ruleId} {notice : Option (Notice ruleId)}

theorem Idle.incident?_eq {cooldownUntil : Option Timestamp} (hidle : watch.Idle cooldownUntil) :
    watch.incident? = none := by
  cases hidle <;> rfl

theorem Open.incident?_eq {openedAt notifiedAt : Timestamp} {evidence : RuleEvidence ruleId}
    {clears : Fin 5} (hopen : watch.Open openedAt notifiedAt evidence clears) :
    watch.incident? = some evidence.severity := by
  cases hopen <;> rfl

@[simp] theorem live_incident? : (watch.live asOf).incident? = watch.incident? := by
  cases watch <;> rfl

/-- A move keeps the marks of an incident in order. -/
theorem Move.marks (hmove : watch.Move asOf signal notice watch') {last : Option IncidentMark}
    (hleaves : IncidentMark.Leaves last watch.incident?) :
    (∀ mark, notice.bind Notice.mark? = some mark → IncidentMark.Follows last mark) ∧
      IncidentMark.Leaves ((notice.bind Notice.mark?).or last) watch'.incident? := by
  cases hmove with
  | settle hidle hsignal =>
    rw [hidle.incident?_eq] at hleaves
    exact ⟨by simp, hleaves⟩
  | suspect hidle =>
    rw [hidle.incident?_eq] at hleaves
    exact ⟨by simp, hleaves⟩
  | «open» hidle hconfirmed hcooldown =>
    rw [hidle.incident?_eq] at hleaves
    refine ⟨?_, .opened _⟩
    rintro mark ⟨rfl⟩
    exact hleaves.follows_opened _
  | forget hopen =>
    rw [hopen.incident?_eq] at hleaves
    exact ⟨by simp, hleaves⟩
  | ease hopen hautomatic hclears =>
    rw [hopen.incident?_eq] at hleaves
    exact ⟨by simp, hleaves⟩
  | resolve hopen hautomatic hclears hcooldown =>
    rw [hopen.incident?_eq] at hleaves
    refine ⟨?_, .resolved⟩
    rintro mark ⟨rfl⟩
    exact hleaves.follows_resolved
  | keep hopen hsignal hkept hdue =>
    rw [hopen.incident?_eq, ← hkept] at hleaves
    exact ⟨by simp, hleaves⟩
  | remind hopen hsignal hkept hdue =>
    rw [hopen.incident?_eq, ← hkept] at hleaves
    exact ⟨by simp [Notice.mark?], hleaves⟩
  | worsen hwarning hcritical => exact ⟨by simp, hleaves⟩
  | escalate hopen hwarning hcritical hconfirmed =>
    rw [hopen.incident?_eq, hwarning] at hleaves
    refine ⟨?_, ?_⟩
    · rintro mark ⟨rfl⟩
      exact hleaves.follows_escalated
    · rw [incident?, hcritical]
      exact .escalated

/-- The severity of the breach that still needs its confirmation. -/
def pending? : Watch ruleId → Option ActiveAlertSeverity
  | .quiet _ => none
  | .suspected _ breach => some breach.severity
  | .active _ _ _ _ => none
  | .worsening _ _ _ _ _ _ => some .critical

@[simp] theorem live_pending? : (watch.live asOf).pending? = watch.pending? := by
  cases watch <;> rfl

/-- What is announced is the severity of the breach that is seen now, and it was pending
before unless it is immediate. -/
theorem Move.announces (hmove : watch.Move asOf signal notice watch')
    {severity : ActiveAlertSeverity}
    (hannounces : notice.bind Notice.announces? = some severity) :
    ∃ breach immediate himmediate, signal = .breach breach immediate himmediate ∧
      breach.severity = severity ∧ (immediate = true ∨ watch.pending? = some severity) := by
  cases hmove with
  | settle hidle hsignal => simp at hannounces
  | suspect hidle => simp at hannounces
  | «open» hidle hconfirmed hcooldown =>
    cases hannounces
    refine ⟨_, _, _, rfl, rfl, ?_⟩
    rcases hconfirmed with himmediate | ⟨previous, rfl, hsame⟩
    · exact .inl himmediate
    · exact .inr (congrArg some hsame)
  | forget hopen => simp at hannounces
  | ease hopen hautomatic hclears => simp at hannounces
  | resolve hopen hautomatic hclears hcooldown => simp [Notice.announces?] at hannounces
  | keep hopen hsignal hkept hdue => simp at hannounces
  | remind hopen hsignal hkept hdue => simp [Notice.announces?] at hannounces
  | worsen hwarning hcritical => simp at hannounces
  | escalate hopen hwarning hcritical hconfirmed =>
    cases hannounces
    refine ⟨_, _, _, rfl, hcritical, ?_⟩
    rcases hconfirmed with himmediate | ⟨previous, _, _, rfl⟩
    · exact .inl himmediate
    · exact .inr rfl

/-- A breach that is pending after a move is the one that was seen in it. -/
theorem Move.pending (hmove : watch.Move asOf signal notice watch')
    {severity : ActiveAlertSeverity} (hpending : watch'.pending? = some severity) :
    ∃ breach immediate himmediate, signal = .breach breach immediate himmediate ∧
      breach.severity = severity := by
  cases hmove with
  | suspect hidle => exact ⟨_, _, _, rfl, Option.some.inj hpending⟩
  | worsen hwarning hcritical =>
    exact ⟨_, _, _, rfl, hcritical.trans (Option.some.inj hpending)⟩
  | _ => simp [pending?] at hpending

/-- An instant from which a cooldown has been waited for: it is still running, or over. -/
def Waited (evaluatedAt resolvedAt : Timestamp) : Watch ruleId → Prop
  | .quiet cooldownUntil => resolvedAt.ms + ALERT_RULE_POLICY.cooldownMs ≤
      (cooldownUntil.getD evaluatedAt).ms
  | .suspected cooldownUntil _ => resolvedAt.ms + ALERT_RULE_POLICY.cooldownMs ≤
      (cooldownUntil.getD evaluatedAt).ms
  | .active _ _ _ _ => True
  | .worsening _ _ _ _ _ _ => True

private theorem waited_filter {evaluatedAt : Timestamp} {cooldownUntil : Option Timestamp}
    {bound : Int} (hwaited : bound ≤ (cooldownUntil.getD evaluatedAt).ms)
    (hlater : evaluatedAt.ms ≤ asOf.ms) :
    bound ≤ ((cooldownUntil.filter fun until' => asOf.ms < until'.ms).getD asOf).ms := by
  cases cooldownUntil with
  | none => exact Int.le_trans hwaited hlater
  | some until' =>
    rw [Option.getD_some] at hwaited
    by_cases hrunning : asOf.ms < until'.ms
    · simpa [Option.filter, hrunning] using hwaited
    · simp only [Option.filter, hrunning, decide_false, Bool.false_eq_true, if_false,
        Option.getD_none]
      omega

theorem Waited.live {evaluatedAt resolvedAt : Timestamp}
    (hwaited : watch.Waited evaluatedAt resolvedAt) (hlater : evaluatedAt.ms ≤ asOf.ms) :
    (watch.live asOf).Waited asOf resolvedAt := by
  cases watch with
  | quiet cooldownUntil => exact waited_filter hwaited hlater
  | suspected cooldownUntil breach => exact waited_filter hwaited hlater
  | active => trivial
  | worsening => trivial

theorem Idle.waited {cooldownUntil : Option Timestamp} {resolvedAt : Timestamp}
    (hidle : watch.Idle cooldownUntil) (hwaited : watch.Waited asOf resolvedAt) :
    resolvedAt.ms + ALERT_RULE_POLICY.cooldownMs ≤ (cooldownUntil.getD asOf).ms := by
  cases hidle with
  | quiet => exact hwaited
  | suspected => exact hwaited

/-- A move keeps what has been waited for; a warning is only opened after the cooldown,
and a resolution starts a new one. -/
theorem Move.waited (hmove : watch.Move asOf signal notice watch') :
    (∀ resolvedAt : Timestamp, resolvedAt.ms ≤ asOf.ms → watch.Waited asOf resolvedAt →
      watch'.Waited asOf resolvedAt ∧
        (notice.bind Notice.mark? = some (.opened .warning) →
          resolvedAt.ms + ALERT_RULE_POLICY.cooldownMs ≤ asOf.ms)) ∧
      (notice.bind Notice.mark? = some .resolved → watch'.Waited asOf asOf) := by
  cases hmove with
  | settle hidle hsignal => exact ⟨fun _ _ hwaited => ⟨hidle.waited hwaited, by simp⟩, by simp⟩
  | suspect hidle => exact ⟨fun _ _ hwaited => ⟨hidle.waited hwaited, by simp⟩, by simp⟩
  | «open» hidle hconfirmed hcooldown =>
    refine ⟨fun resolvedAt _ hwaited => ⟨trivial, fun hopened => ?_⟩, by simp [Notice.mark?]⟩
    have hidleWaited := hidle.waited hwaited
    rw [hcooldown (by simpa [Notice.mark?] using hopened)] at hidleWaited
    exact hidleWaited
  | forget hopen => exact ⟨fun _ _ _ => ⟨trivial, by simp⟩, by simp⟩
  | ease hopen hautomatic hclears => exact ⟨fun _ _ _ => ⟨trivial, by simp⟩, by simp⟩
  | resolve hopen hautomatic hclears hcooldown =>
    refine ⟨fun resolvedAt hpast _ => ⟨?_, by simp [Notice.mark?]⟩, fun _ => ?_⟩
    · simp only [Waited, Option.getD_some]
      omega
    · simp only [Waited, Option.getD_some]
      omega
  | keep hopen hsignal hkept hdue => exact ⟨fun _ _ _ => ⟨trivial, by simp⟩, by simp⟩
  | remind hopen hsignal hkept hdue =>
    exact ⟨fun _ _ _ => ⟨trivial, by simp [Notice.mark?]⟩, by simp [Notice.mark?]⟩
  | worsen hwarning hcritical => exact ⟨fun _ _ _ => ⟨trivial, by simp⟩, by simp⟩
  | escalate hopen hwarning hcritical hconfirmed =>
    exact ⟨fun _ _ _ => ⟨trivial, by simp [Notice.mark?]⟩, by simp [Notice.mark?]⟩

end Watch

section run

variable {ruleId : AlertRuleId} {dimension : AlertDimension} {view view' : View ruleId}
  {past : List LifecycleStep} {step : LifecycleStep}

namespace View

def incident? (view : View ruleId) : Option ActiveAlertSeverity :=
  view.bind fun entry => entry.2.incident?

@[simp] theorem watchAt_incident? (asOf : Timestamp) :
    (view.watchAt asOf).incident? = view.incident? := by
  cases view with
  | none => rfl
  | some entry => exact Watch.live_incident?

def pending? (view : View ruleId) : Option ActiveAlertSeverity :=
  view.bind fun entry => entry.2.pending?

@[simp] theorem watchAt_pending? (asOf : Timestamp) :
    (view.watchAt asOf).pending? = view.pending? := by
  cases view with
  | none => rfl
  | some entry => exact Watch.live_pending?

end View

theorem mark?_eq_of_intent {base : ObserveOnlyIntentBase} {notice : Option (Notice ruleId)}
    (hintent : step.result.intent = notice.map (Notice.intent base)) :
    step.mark? = notice.bind Notice.mark? := by
  rw [LifecycleStep.mark?, hintent]
  cases notice <;> simp

private theorem announces?_eq {base : ObserveOnlyIntentBase} {notice : Option (Notice ruleId)}
    (hintent : step.result.intent = notice.map (Notice.intent base)) :
    step.announces? = notice.bind Notice.announces? := by
  rw [LifecycleStep.announces?, hintent]
  cases notice <;> simp

theorem LifecycleMove.marks (hmove : LifecycleMove dimension view step view')
    (hleaves : IncidentMark.Leaves (lastMark past) view.incident?) :
    (∀ mark, step.mark? = some mark → IncidentMark.Follows (lastMark past) mark) ∧
      IncidentMark.Leaves (lastMark (past ++ [step])) view'.incident? := by
  rw [lastMark_append_singleton]
  cases hmove with
  | unbound signal hview hsignal hdescribes hintent =>
    subst hview
    have hmark : step.mark? = none := by simp [LifecycleStep.mark?, hintent]
    rw [hmark]
    exact ⟨by simp, hleaves⟩
  | moved signal notice watch hdescribes hmove hintent =>
    rw [mark?_eq_of_intent hintent]
    exact hmove.marks (by rwa [View.watchAt_incident?])

/-- Incidents are opened, escalated and resolved in order along a run. -/
theorem lifecycleRun_marks {observations : List AlertObservationInput} {steps : List LifecycleStep}
    {last : AlertLifecycleState} (hone : OneIdentity ruleId dimension observations)
    (hrun : lifecycleRun observations = .ok (steps, last)) :
    ∀ before step after, steps = before ++ step :: after → ∀ mark, step.mark? = some mark →
      IncidentMark.Follows (lastMark before) mark :=
  (@lifecycleRun_history ruleId dimension
    (fun past view => IncidentMark.Leaves (lastMark past) view.incident?)
    (fun past step => ∀ mark, step.mark? = some mark → IncidentMark.Follows (lastMark past) mark)
    _ _ _ .start (fun hinv htransition => htransition.move.marks hinv) hone hrun).2

theorem LifecycleMove.announces (hmove : LifecycleMove dimension view step view')
    {severity : ActiveAlertSeverity} (hannounces : step.announces? = some severity) :
    step.KnownAs severity.severity ∧
      (step.evaluation.immediateCritical = true ∨ view.pending? = some severity) := by
  cases hmove with
  | unbound signal hview hsignal hdescribes hintent =>
    simp [LifecycleStep.announces?, hintent] at hannounces
  | moved signal notice watch hdescribes hmove hintent =>
    rw [announces?_eq hintent] at hannounces
    obtain ⟨breach, immediate, himmediate, rfl, rfl, hconfirmed⟩ := hmove.announces hannounces
    obtain ⟨hknown, hseverity, rfl⟩ := hdescribes
    exact ⟨⟨hknown, hseverity⟩, by rwa [View.watchAt_pending?] at hconfirmed⟩

theorem LifecycleMove.pending (hmove : LifecycleMove dimension view step view')
    {severity : ActiveAlertSeverity} (hpending : view'.pending? = some severity) :
    step.KnownAs severity.severity := by
  cases hmove with
  | unbound signal hview hsignal hdescribes hintent => simp [View.pending?] at hpending
  | moved signal notice watch hdescribes hmove hintent =>
    obtain ⟨breach, immediate, himmediate, rfl, rfl⟩ := hmove.pending hpending
    exact ⟨hdescribes.1, hdescribes.2.1⟩

/-- An incident is announced at a breach of its severity, and directly after another one
unless it is immediate. -/
theorem lifecycleRun_announces {observations : List AlertObservationInput}
    {steps : List LifecycleStep} {last : AlertLifecycleState}
    (hone : OneIdentity ruleId dimension observations)
    (hrun : lifecycleRun observations = .ok (steps, last)) :
    ∀ before step after, steps = before ++ step :: after → ∀ severity,
      step.announces? = some severity → step.evaluation.immediateCritical = false →
        step.KnownAs severity.severity ∧
          ∃ earlier, before.getLast? = some earlier ∧ earlier.KnownAs severity.severity := by
  refine (@lifecycleRun_history ruleId dimension
    (fun past view => ∀ severity, view.pending? = some severity →
      ∃ earlier, past.getLast? = some earlier ∧ earlier.KnownAs severity.severity)
    (fun past step => ∀ severity, step.announces? = some severity →
      step.evaluation.immediateCritical = false → step.KnownAs severity.severity ∧
        ∃ earlier, past.getLast? = some earlier ∧ earlier.KnownAs severity.severity)
    _ _ _ (by simp [View.pending?]) ?_ hone hrun).2
  intro past step view view' hinv htransition
  refine ⟨fun severity hannounces himmediate => ?_, fun severity hpending => ?_⟩
  · obtain ⟨hknown, hconfirmed⟩ := htransition.move.announces hannounces
    rw [himmediate] at hconfirmed
    exact ⟨hknown, hinv severity (hconfirmed.resolve_left (by simp))⟩
  · exact ⟨step, by simp, htransition.move.pending hpending⟩

/-- Every resolution of the history has been waited for. -/
def Waits (past : List LifecycleStep) (view : View ruleId) : Prop :=
  ∀ earlier ∈ past, earlier.mark? = some .resolved → ∃ evaluatedAt watch,
    view = some (evaluatedAt, watch) ∧ watch.Waited evaluatedAt earlier.asOf

theorem LifecycleTransition.waits (htransition : LifecycleTransition dimension past view step view')
    (hwaits : Waits past view) :
    (∀ earlier ∈ past, earlier.mark? = some .resolved →
      step.mark? = some (.opened .warning) →
        earlier.asOf.ms + ALERT_RULE_POLICY.cooldownMs ≤ step.asOf.ms) ∧
      Waits (past ++ [step]) view' := by
  cases htransition.move with
  | unbound signal hview hsignal hdescribes hintent =>
    have hmark : step.mark? = none := by simp [LifecycleStep.mark?, hintent]
    refine ⟨by simp [hmark], fun earlier hmem hresolved => ?_⟩
    rcases List.mem_append.mp hmem with hmem | hmem
    · obtain ⟨evaluatedAt, watch, hbound, -⟩ := hwaits earlier hmem hresolved
      simp [hview] at hbound
    · rw [List.mem_singleton.mp hmem, hmark] at hresolved
      simp at hresolved
  | moved signal notice watch hdescribes hmove hintent =>
    obtain ⟨hkeeps, hstarts⟩ := hmove.waited
    have hpast : ∀ earlier ∈ past, earlier.mark? = some .resolved →
        earlier.asOf.ms ≤ step.asOf.ms ∧ (view.watchAt step.asOf).Waited step.asOf earlier.asOf := by
      intro earlier hmem hresolved
      obtain ⟨evaluatedAt, watch, rfl, hwaited⟩ := hwaits earlier hmem hresolved
      have hearlier := Int.le_of_lt (htransition.increasing earlier hmem)
      have hlater := Int.le_of_lt (htransition.before evaluatedAt watch rfl).2
      exact ⟨hearlier, hwaited.live hlater⟩
    refine ⟨fun earlier hmem hresolved hopened => ?_, fun earlier hmem hresolved => ?_⟩
    · obtain ⟨hearlier, hwaited⟩ := hpast earlier hmem hresolved
      exact (hkeeps earlier.asOf hearlier hwaited).2 (by rwa [← mark?_eq_of_intent hintent])
    · refine ⟨step.asOf, watch, rfl, ?_⟩
      rcases List.mem_append.mp hmem with hmem | hmem
      · obtain ⟨hearlier, hwaited⟩ := hpast earlier hmem hresolved
        exact (hkeeps earlier.asOf hearlier hwaited).1
      · rw [List.mem_singleton.mp hmem] at hresolved ⊢
        exact hstarts (by rwa [← mark?_eq_of_intent hintent])

/-- A warning is opened a cooldown after every earlier resolution. -/
theorem lifecycleRun_cooldown {observations : List AlertObservationInput}
    {steps : List LifecycleStep} {last : AlertLifecycleState}
    (hone : OneIdentity ruleId dimension observations)
    (hrun : lifecycleRun observations = .ok (steps, last)) :
    ∀ before step after, steps = before ++ step :: after → ∀ earlier ∈ before,
      earlier.mark? = some .resolved → step.mark? = some (.opened .warning) →
        earlier.asOf.ms + ALERT_RULE_POLICY.cooldownMs ≤ step.asOf.ms :=
  (@lifecycleRun_history ruleId dimension Waits
    (fun past step => ∀ earlier ∈ past, earlier.mark? = some .resolved →
      step.mark? = some (.opened .warning) →
        earlier.asOf.ms + ALERT_RULE_POLICY.cooldownMs ≤ step.asOf.ms)
    _ _ _ (by simp [Waits]) (fun hinv htransition => htransition.waits hinv) hone hrun).2

/-- Open, escalate and cooldown discipline: over a run from the initial state, every mark
follows the last one, what is announced has been confirmed by the evaluation directly
before it unless it is immediate, and no warning is opened within the cooldown of an
earlier resolution. -/
theorem lifecycleRun_opening_discipline {observations : List AlertObservationInput}
    {steps : List LifecycleStep} {last : AlertLifecycleState}
    (hone : OneIdentity ruleId dimension observations)
    (hrun : lifecycleRun observations = .ok (steps, last)) {before after : List LifecycleStep}
    {step : LifecycleStep} (hsplit : steps = before ++ step :: after) :
    (∀ mark, step.mark? = some mark → IncidentMark.Follows (lastMark before) mark) ∧
      (∀ severity, step.announces? = some severity → step.evaluation.immediateCritical = false →
        step.KnownAs severity.severity ∧
          ∃ earlier, before.getLast? = some earlier ∧ earlier.KnownAs severity.severity) ∧
      ∀ earlier ∈ before, earlier.mark? = some .resolved → step.mark? = some (.opened .warning) →
        earlier.asOf.ms + ALERT_RULE_POLICY.cooldownMs ≤ step.asOf.ms :=
  ⟨lifecycleRun_marks hone hrun before step after hsplit,
    lifecycleRun_announces hone hrun before step after hsplit,
    lifecycleRun_cooldown hone hrun before step after hsplit⟩

end run

/-- A warning that is resolved, and another one after the cooldown. -/
def registrationDay : List AlertObservationInput :=
  [registrationMinute 0 5 5, registrationMinute 1 5 5, registrationMinute 2 0 0,
    registrationMinute 3 0 0, registrationMinute 4 0 0, registrationMinute 5 0 0,
    registrationMinute 6 0 0, registrationMinute 35 5 5, registrationMinute 36 5 5]

theorem registrationDay_returns : (lifecycleRun registrationDay).toOption.isSome = true := by
  decide +kernel

def registrationDayRun : List LifecycleStep × AlertLifecycleState :=
  (lifecycleRun registrationDay).toOption.get registrationDay_returns

theorem lifecycleRun_registrationDay :
    lifecycleRun registrationDay = .ok (registrationDayRun.1, registrationDayRun.2) := by
  rw [Prod.eta]
  exact eq_ok_get registrationDay_returns

theorem registrationDay_oneIdentity :
    OneIdentity .registrationRateLimited .global registrationDay :=
  ⟨by decide, by decide, by decide⟩

/-- A step of the day, by its number. -/
def registrationDayStep (number : Fin 9) : LifecycleStep :=
  registrationDayRun.1.get (number.cast (by decide +kernel))

theorem lifecycleRun_opening_discipline_registrationDay :
    ∃ before after, registrationDayRun.1 = before ++ registrationDayStep 8 :: after ∧
      IncidentMark.Follows (lastMark before) (.opened .warning) ∧
      (∃ earlier, before.getLast? = some earlier ∧ earlier.KnownAs .warning) ∧
      (registrationDayStep 6).asOf.ms + ALERT_RULE_POLICY.cooldownMs ≤
        (registrationDayStep 8).asOf.ms := by
  have hsplit : registrationDayRun.1 =
      registrationDayRun.1.take 8 ++ registrationDayStep 8 :: [] := by decide +kernel
  have hopened : (registrationDayStep 8).mark? = some (.opened .warning) := by decide +kernel
  have hresolved : (registrationDayStep 6).mark? = some .resolved := by decide +kernel
  have hmem : registrationDayStep 6 ∈ registrationDayRun.1.take 8 := by decide +kernel
  have hannounces : (registrationDayStep 8).announces? = some .warning := by decide +kernel
  have himmediate : (registrationDayStep 8).evaluation.immediateCritical = false := by
    decide +kernel
  obtain ⟨hfollows, hconfirmed, hcooldown⟩ := lifecycleRun_opening_discipline
    registrationDay_oneIdentity lifecycleRun_registrationDay hsplit
  exact ⟨_, _, hsplit, hfollows _ hopened, (hconfirmed .warning hannounces himmediate).2,
    hcooldown _ hmem hresolved hopened⟩

end pgid.alert
