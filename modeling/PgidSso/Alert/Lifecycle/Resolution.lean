import PgidSso.Alert.Lifecycle.Opening

open checked

namespace pgid.alert

/-- The clear evaluations at the end of a history, which is given newest first. -/
def clearsInARow : List LifecycleStep → Nat
  | [] => 0
  | step :: earlier => if step.KnownAs .none then clearsInARow earlier + 1 else 0

theorem le_clearsInARow_iff {recent : List LifecycleStep} {count : Nat} :
    count ≤ clearsInARow recent ↔
      count ≤ recent.length ∧ ∀ step ∈ recent.take count, step.KnownAs .none := by
  induction recent generalizing count with
  | nil => simp [clearsInARow]
  | cons step earlier ih =>
    cases count with
    | zero => simp
    | succ count =>
      simp only [clearsInARow, List.length_cons, List.take_succ_cons, List.mem_cons,
        forall_eq_or_imp]
      by_cases hclear : step.KnownAs .none
      · rw [if_pos hclear, Nat.add_le_add_iff_right, Nat.add_le_add_iff_right, ih]
        exact ⟨fun ⟨hlength, hall⟩ => ⟨hlength, hclear, hall⟩,
          fun ⟨hlength, _, hall⟩ => ⟨hlength, hall⟩⟩
      · rw [if_neg hclear]
        exact ⟨fun hle => by omega, fun ⟨_, hnow, _⟩ => absurd hnow hclear⟩

/-- The last step of a history that told something. -/
def lastNotice (past : List LifecycleStep) : Option LifecycleStep :=
  (past.filter fun step => step.result.intent.isSome).getLast?

theorem lastNotice_append_singleton {past : List LifecycleStep} {step : LifecycleStep} :
    lastNotice (past ++ [step]) =
      if step.result.intent.isSome then some step else lastNotice past := by
  simp only [lastNotice, List.filter_append, List.getLast?_append]
  cases hintent : step.result.intent <;> simp [hintent]

/-- The severity that a `remind` intent repeats. -/
def AlertActionIntent.reminds? : AlertActionIntent → Option ActiveAlertSeverity
  | .open _ _ _ => none
  | .escalate _ _ _ _ => none
  | .remind _ _ severity => some severity
  | .resolve _ _ _ => none

def LifecycleStep.reminds? (step : LifecycleStep) : Option ActiveAlertSeverity :=
  step.result.intent.bind AlertActionIntent.reminds?

def Notice.reminds? {ruleId : AlertRuleId} : Notice ruleId → Option ActiveAlertSeverity
  | .open _ => none
  | .escalate _ => none
  | .remind evidence => some evidence.severity
  | .resolve _ => none

@[simp] theorem Notice.intent_reminds? {ruleId : AlertRuleId} {base : ObserveOnlyIntentBase}
    (notice : Notice ruleId) : (notice.intent base).reminds? = notice.reminds? := by
  cases notice <;> rfl

namespace Watch

variable {ruleId : AlertRuleId} {asOf : Timestamp} {watch watch' : Watch ruleId}
  {signal : Signal ruleId} {notice : Option (Notice ruleId)}

/-- The clears that an open incident has counted. -/
def clears? : Watch ruleId → Option Nat
  | .quiet _ => none
  | .suspected _ _ => none
  | .active _ _ _ clears => some clears.val
  | .worsening _ _ _ _ _ _ => some 0

/-- The instant of the last notice about an open incident. -/
def notifiedAt? : Watch ruleId → Option Timestamp
  | .quiet _ => none
  | .suspected _ _ => none
  | .active _ notifiedAt _ _ => some notifiedAt
  | .worsening _ notifiedAt _ _ _ _ => some notifiedAt

@[simp] theorem live_clears? : (watch.live asOf).clears? = watch.clears? := by
  cases watch <;> rfl

@[simp] theorem live_notifiedAt? : (watch.live asOf).notifiedAt? = watch.notifiedAt? := by
  cases watch <;> rfl

theorem Idle.clears?_eq {cooldownUntil : Option Timestamp} (hidle : watch.Idle cooldownUntil) :
    watch.clears? = none := by
  cases hidle <;> rfl

theorem Open.clears?_eq {openedAt notifiedAt : Timestamp} {evidence : RuleEvidence ruleId}
    {clears : Fin 5} (hopen : watch.Open openedAt notifiedAt evidence clears) :
    watch.clears? = some clears.val := by
  cases hopen <;> rfl

theorem Open.notifiedAt?_eq {openedAt notifiedAt : Timestamp} {evidence : RuleEvidence ruleId}
    {clears : Fin 5} (hopen : watch.Open openedAt notifiedAt evidence clears) :
    watch.notifiedAt? = some notifiedAt := by
  cases hopen <;> rfl

/-- Under automatic resolution a clear is counted on, and everything else starts the
count again. -/
theorem Move.clears (hmove : watch.Move asOf signal notice watch')
    (hautomatic : (ALERT_RULE_DEFINITIONS ruleId).resolutionMode = .automatic) {clears : Nat}
    (hclears : watch'.clears? = some clears) :
    (signal = .clear ∧ ∃ earlier, watch.clears? = some earlier ∧ clears = earlier + 1) ∨
      signal ≠ .clear ∧ clears = 0 := by
  cases hmove with
  | settle hidle hsignal => simp [clears?] at hclears
  | suspect hidle => simp [clears?] at hclears
  | resolve hopen hmode hcount hcooldown => simp [clears?] at hclears
  | ease hopen hmode hcount =>
    exact .inl ⟨rfl, _, hopen.clears?_eq, (Option.some.inj hclears).symm⟩
  | keep hopen hsignal hkept hdue =>
    rcases hsignal with hbreach | ⟨-, hmanual⟩
    · exact .inr ⟨by rintro rfl; exact hbreach, (Option.some.inj hclears).symm⟩
    · rw [hautomatic] at hmanual
      cases hmanual
  | remind hopen hsignal hkept hdue =>
    rcases hsignal with hbreach | ⟨-, hmanual⟩
    · exact .inr ⟨by rintro rfl; exact hbreach, (Option.some.inj hclears).symm⟩
    · rw [hautomatic] at hmanual
      cases hmanual
  | «open» hidle hconfirmed hcooldown => exact .inr ⟨by simp, (Option.some.inj hclears).symm⟩
  | forget hopen => exact .inr ⟨by simp, (Option.some.inj hclears).symm⟩
  | worsen hwarning hcritical => exact .inr ⟨by simp, (Option.some.inj hclears).symm⟩
  | escalate hopen hwarning hcritical hconfirmed =>
    exact .inr ⟨by simp, (Option.some.inj hclears).symm⟩

/-- Exactly the fifth clear of an automatic rule resolves. -/
theorem Move.resolves_iff (hmove : watch.Move asOf signal notice watch') :
    notice.bind Notice.mark? = some .resolved ↔
      (ALERT_RULE_DEFINITIONS ruleId).resolutionMode = .automatic ∧ signal = .clear ∧
        watch.clears? = some 4 := by
  cases hmove with
  | settle hidle hsignal => simp [hidle.clears?_eq]
  | suspect hidle => simp
  | «open» hidle hconfirmed hcooldown => simp [Notice.mark?]
  | forget hopen => simp
  | ease hopen hautomatic hclears =>
    rw [hopen.clears?_eq]
    simp only [Option.bind_none, reduceCtorEq, Option.some.injEq, true_and, false_iff, not_and]
    omega
  | resolve hopen hautomatic hclears hcooldown =>
    rw [hopen.clears?_eq]
    simp only [Option.bind_some, Notice.mark?, hautomatic, Option.some.injEq, true_and, true_iff]
    omega
  | keep hopen hsignal hkept hdue =>
    refine ⟨by simp, ?_⟩
    rintro ⟨hautomatic, rfl, -⟩
    rcases hsignal with hbreach | ⟨-, hmanual⟩
    · exact absurd hbreach id
    · rw [hautomatic] at hmanual
      cases hmanual
  | remind hopen hsignal hkept hdue =>
    refine ⟨by simp [Notice.mark?], ?_⟩
    rintro ⟨hautomatic, rfl, -⟩
    rcases hsignal with hbreach | ⟨-, hmanual⟩
    · exact absurd hbreach id
    · rw [hautomatic] at hmanual
      cases hmanual
  | worsen hwarning hcritical => simp
  | escalate hopen hwarning hcritical hconfirmed => simp [Notice.mark?]

/-- A reminder repeats the severity of the incident, an interval after its last notice. -/
theorem Move.reminds (hmove : watch.Move asOf signal notice watch')
    {severity : ActiveAlertSeverity} (hreminds : notice.bind Notice.reminds? = some severity) :
    watch.incident? = some severity ∧ ∃ notifiedAt, watch.notifiedAt? = some notifiedAt ∧
      reminderMs severity ≤ asOf.ms - notifiedAt.ms := by
  cases hmove with
  | remind hopen hsignal hkept hdue =>
    cases hreminds
    exact ⟨hopen.incident?_eq.trans (congrArg some hkept.symm), _, hopen.notifiedAt?_eq, hdue⟩
  | _ => simp [Notice.reminds?] at hreminds

/-- The last notice about an open incident is the one of this move or an earlier one. -/
theorem Move.notified (hmove : watch.Move asOf signal notice watch') {notifiedAt : Timestamp}
    (hnotified : watch'.notifiedAt? = some notifiedAt) :
    (notice = none ∧ watch.notifiedAt? = some notifiedAt) ∨
      (notice.isSome = true ∧ notice.bind Notice.mark? ≠ some .resolved ∧ notifiedAt = asOf) := by
  cases hmove with
  | settle hidle hsignal => simp [notifiedAt?] at hnotified
  | suspect hidle => simp [notifiedAt?] at hnotified
  | resolve hopen hautomatic hclears hcooldown => simp [notifiedAt?] at hnotified
  | «open» hidle hconfirmed hcooldown =>
    exact .inr ⟨rfl, by simp [Notice.mark?], (Option.some.inj hnotified).symm⟩
  | forget hopen => exact .inl ⟨rfl, hopen.notifiedAt?_eq.trans hnotified⟩
  | ease hopen hautomatic hclears => exact .inl ⟨rfl, hopen.notifiedAt?_eq.trans hnotified⟩
  | keep hopen hsignal hkept hdue => exact .inl ⟨rfl, hopen.notifiedAt?_eq.trans hnotified⟩
  | remind hopen hsignal hkept hdue =>
    exact .inr ⟨rfl, by simp [Notice.mark?], (Option.some.inj hnotified).symm⟩
  | worsen hwarning hcritical => exact .inl ⟨rfl, hnotified⟩
  | escalate hopen hwarning hcritical hconfirmed =>
    exact .inr ⟨rfl, by simp [Notice.mark?], (Option.some.inj hnotified).symm⟩

end Watch

theorem Signal.Describes.clear_iff {ruleId : AlertRuleId} {signal : Signal ruleId}
    {step : LifecycleStep} (hdescribes : signal.Describes step.evaluation) :
    signal = .clear ↔ step.KnownAs .none := by
  cases signal with
  | unknown =>
    have hunknown : step.evaluation.evidence = .unknown := hdescribes
    simp [LifecycleStep.KnownAs, hunknown]
  | clear => exact ⟨fun _ => hdescribes, fun _ => rfl⟩
  | breach evidence immediate himmediate =>
    obtain ⟨hknown, hseverity, -⟩ := hdescribes
    simp only [reduceCtorEq, LifecycleStep.KnownAs, hseverity, false_iff, not_and]
    intro _
    cases evidence.severity <;> simp [ActiveAlertSeverity.severity]

section run

variable {ruleId : AlertRuleId} {dimension : AlertDimension} {view view' : View ruleId}
  {past : List LifecycleStep} {step : LifecycleStep}

namespace View

def clears? (view : View ruleId) : Option Nat :=
  view.bind fun entry => entry.2.clears?

@[simp] theorem watchAt_clears? (asOf : Timestamp) :
    (view.watchAt asOf).clears? = view.clears? := by
  cases view with
  | none => rfl
  | some entry => exact Watch.live_clears?

def notifiedAt? (view : View ruleId) : Option Timestamp :=
  view.bind fun entry => entry.2.notifiedAt?

@[simp] theorem watchAt_notifiedAt? (asOf : Timestamp) :
    (view.watchAt asOf).notifiedAt? = view.notifiedAt? := by
  cases view with
  | none => rfl
  | some entry => exact Watch.live_notifiedAt?

theorem state_active_iff : (view.state dimension).phase = .active ↔
    ∃ clears, view.clears? = some clears ∧ clears ≤ 4 := by
  cases view with
  | none => simp [state, clears?, inactiveAlertState]
  | some entry =>
    obtain ⟨evaluatedAt, watch⟩ := entry
    cases watch with
    | quiet cooldownUntil => simp [state, clears?, Watch.state, Watch.clears?, inactiveAlertState]
    | suspected cooldownUntil breach => simp [state, clears?, Watch.state, Watch.clears?]
    | active openedAt notifiedAt evidence clears =>
      simp only [state, Watch.state, clears?, Option.bind_some, Watch.clears?, true_iff]
      exact ⟨_, rfl, by omega⟩
    | worsening openedAt notifiedAt evidence breach hwarning hcritical =>
      simp [state, clears?, Watch.state, Watch.clears?]

theorem state_status_of_incident? {severity : ActiveAlertSeverity}
    (hincident : view.incident? = some severity) :
    (view.state dimension).status = severity.severity := by
  cases view with
  | none => simp [incident?] at hincident
  | some entry =>
    obtain ⟨evaluatedAt, watch⟩ := entry
    cases watch with
    | quiet cooldownUntil => simp [incident?, Watch.incident?] at hincident
    | suspected cooldownUntil breach => simp [incident?, Watch.incident?] at hincident
    | active openedAt notifiedAt evidence clears =>
      obtain rfl : evidence.severity = severity := Option.some.inj hincident
      rfl
    | worsening openedAt notifiedAt evidence breach hwarning hcritical =>
      obtain rfl : evidence.severity = severity := Option.some.inj hincident
      rw [hwarning]
      rfl

end View

/-- The clears that an open incident has counted are those at the end of the history. -/
def CountsClears (past : List LifecycleStep) (view : View ruleId) : Prop :=
  (ALERT_RULE_DEFINITIONS ruleId).resolutionMode = .automatic → ∀ clears,
    view.clears? = some clears → clearsInARow past.reverse = clears

theorem LifecycleMove.countsClears (hmove : LifecycleMove dimension view step view')
    (hcounts : CountsClears past view) : CountsClears (past ++ [step]) view' := by
  intro hautomatic clears hclears
  cases hmove with
  | unbound signal hview hsignal hdescribes hintent => simp [View.clears?] at hclears
  | moved signal notice watch hdescribes hmove hintent =>
    rw [List.reverse_append, List.reverse_singleton, List.singleton_append, clearsInARow]
    rcases hmove.clears hautomatic hclears with ⟨hclear, earlier, hearlier, rfl⟩ | ⟨hclear, rfl⟩
    · rw [if_pos (hdescribes.clear_iff.mp hclear),
        hcounts hautomatic earlier (by rwa [View.watchAt_clears?] at hearlier)]
    · rw [if_neg (hclear ∘ hdescribes.clear_iff.mpr)]

theorem LifecycleMove.resolves_iff (hmove : LifecycleMove dimension view step view') :
    step.mark? = some .resolved ↔
      (ALERT_RULE_DEFINITIONS ruleId).resolutionMode = .automatic ∧ step.KnownAs .none ∧
        view.clears? = some 4 := by
  cases hmove with
  | unbound signal hview hsignal hdescribes hintent =>
    simp [LifecycleStep.mark?, hintent, hview, View.clears?]
  | moved signal notice watch hdescribes hmove hintent =>
    rw [mark?_eq_of_intent hintent, hmove.resolves_iff, View.watchAt_clears?, hdescribes.clear_iff]

theorem LifecycleTransition.resolves_iff
    (htransition : LifecycleTransition dimension past view step view')
    (hcounts : CountsClears past view) :
    step.mark? = some .resolved ↔
      (ALERT_RULE_DEFINITIONS ruleId).resolutionMode = .automatic ∧
        step.previous.phase = .active ∧ step.KnownAs .none ∧
          4 ≤ past.length ∧ ∀ recent ∈ past.reverse.take 4, recent.KnownAs .none := by
  rw [htransition.move.resolves_iff, htransition.previous, View.state_active_iff,
    ← List.length_reverse, ← le_clearsInARow_iff]
  constructor
  · rintro ⟨hautomatic, hclear, hclears⟩
    exact ⟨hautomatic, ⟨4, hclears, Nat.le_refl 4⟩, hclear, Nat.le_of_eq (hcounts hautomatic 4 hclears).symm⟩
  · rintro ⟨hautomatic, ⟨clears, hclears, hle⟩, hclear, hcount⟩
    rw [hcounts hautomatic clears hclears] at hcount
    obtain rfl : clears = 4 := by omega
    exact ⟨hautomatic, hclear, hclears⟩

/-- An incident is resolved exactly at the fifth clear in a row. -/
theorem lifecycleRun_resolves_iff {observations : List AlertObservationInput}
    {steps : List LifecycleStep} {last : AlertLifecycleState}
    (hone : OneIdentity ruleId dimension observations)
    (hrun : lifecycleRun observations = .ok (steps, last)) :
    ∀ before step after, steps = before ++ step :: after →
      (step.mark? = some .resolved ↔
        (ALERT_RULE_DEFINITIONS ruleId).resolutionMode = .automatic ∧
          step.previous.phase = .active ∧ step.KnownAs .none ∧
            4 ≤ before.length ∧ ∀ recent ∈ before.reverse.take 4, recent.KnownAs .none) :=
  (@lifecycleRun_history ruleId dimension CountsClears
    (fun past step => step.mark? = some .resolved ↔
      (ALERT_RULE_DEFINITIONS ruleId).resolutionMode = .automatic ∧
        step.previous.phase = .active ∧ step.KnownAs .none ∧
          4 ≤ past.length ∧ ∀ recent ∈ past.reverse.take 4, recent.KnownAs .none)
    _ _ _ (by simp [CountsClears, View.clears?])
    (fun hinv htransition => ⟨htransition.resolves_iff hinv, htransition.move.countsClears hinv⟩)
    hone hrun).2

/-- The last notice of the history is about the open incident, at the recorded instant. -/
def RecordsNotice (past : List LifecycleStep) (view : View ruleId) : Prop :=
  ∀ notifiedAt, view.notifiedAt? = some notifiedAt → ∃ earlier, lastNotice past = some earlier ∧
    earlier.mark? ≠ some .resolved ∧ earlier.asOf = notifiedAt

theorem LifecycleMove.recordsNotice (hmove : LifecycleMove dimension view step view')
    (hrecords : RecordsNotice past view) : RecordsNotice (past ++ [step]) view' := by
  intro notifiedAt hnotified
  rw [lastNotice_append_singleton]
  cases hmove with
  | unbound signal hview hsignal hdescribes hintent => simp [View.notifiedAt?] at hnotified
  | moved signal notice watch hdescribes hmove hintent =>
    rcases hmove.notified hnotified with ⟨rfl, hearlier⟩ | ⟨hsome, hmark, rfl⟩
    · rw [if_neg (by simp [hintent])]
      exact hrecords notifiedAt (by rwa [View.watchAt_notifiedAt?] at hearlier)
    · rw [if_pos (by rw [hintent, Option.isSome_map, hsome])]
      exact ⟨step, rfl, by rwa [mark?_eq_of_intent hintent], rfl⟩

theorem LifecycleTransition.reminds
    (htransition : LifecycleTransition dimension past view step view')
    (hrecords : RecordsNotice past view) {severity : ActiveAlertSeverity}
    (hreminds : step.reminds? = some severity) :
    step.previous.status = severity.severity ∧ ∃ earlier, lastNotice past = some earlier ∧
      earlier.mark? ≠ some .resolved ∧ reminderMs severity ≤ step.asOf.ms - earlier.asOf.ms := by
  rw [htransition.previous]
  cases htransition.move with
  | unbound signal hview hsignal hdescribes hintent =>
    simp [LifecycleStep.reminds?, hintent] at hreminds
  | moved signal notice watch hdescribes hmove hintent =>
    have hnotice : notice.bind Notice.reminds? = some severity := by
      rw [← hreminds, LifecycleStep.reminds?, hintent]
      cases notice <;> simp
    obtain ⟨hincident, notifiedAt, hnotified, hdue⟩ := hmove.reminds hnotice
    rw [View.watchAt_incident?] at hincident
    rw [View.watchAt_notifiedAt?] at hnotified
    obtain ⟨earlier, hlast, hmark, rfl⟩ := hrecords notifiedAt hnotified
    exact ⟨View.state_status_of_incident? hincident, earlier, hlast, hmark, hdue⟩

/-- A reminder comes an interval after the last notice about its incident. -/
theorem lifecycleRun_reminds {observations : List AlertObservationInput}
    {steps : List LifecycleStep} {last : AlertLifecycleState}
    (hone : OneIdentity ruleId dimension observations)
    (hrun : lifecycleRun observations = .ok (steps, last)) :
    ∀ before step after, steps = before ++ step :: after → ∀ severity,
      step.reminds? = some severity →
        step.previous.status = severity.severity ∧ ∃ earlier, lastNotice before = some earlier ∧
          earlier.mark? ≠ some .resolved ∧
            reminderMs severity ≤ step.asOf.ms - earlier.asOf.ms :=
  (@lifecycleRun_history ruleId dimension RecordsNotice
    (fun past step => ∀ severity, step.reminds? = some severity →
      step.previous.status = severity.severity ∧ ∃ earlier, lastNotice past = some earlier ∧
        earlier.mark? ≠ some .resolved ∧ reminderMs severity ≤ step.asOf.ms - earlier.asOf.ms)
    _ _ _ (by simp [RecordsNotice, View.notifiedAt?])
    (fun hinv htransition => ⟨fun _ hreminds => htransition.reminds hinv hreminds,
      htransition.move.recordsNotice hinv⟩)
    hone hrun).2

/-- Resolution and reminder discipline: over a run from the initial state, an incident
is resolved exactly when its rule resolves automatically and this evaluation and the four
directly before it are clear; the manual rule never resolves; and a reminder repeats the
severity of the incident, an interval after the last notice about it. -/
theorem lifecycleRun_resolution_discipline {observations : List AlertObservationInput}
    {steps : List LifecycleStep} {last : AlertLifecycleState}
    (hone : OneIdentity ruleId dimension observations)
    (hrun : lifecycleRun observations = .ok (steps, last)) {before after : List LifecycleStep}
    {step : LifecycleStep} (hsplit : steps = before ++ step :: after) :
    (step.mark? = some .resolved ↔
      (ALERT_RULE_DEFINITIONS ruleId).resolutionMode = .automatic ∧
        step.previous.phase = .active ∧ step.KnownAs .none ∧
          4 ≤ before.length ∧ ∀ recent ∈ before.reverse.take 4, recent.KnownAs .none) ∧
      (ruleId = .securityFanoutGap → step.mark? ≠ some .resolved) ∧
      ∀ severity, step.reminds? = some severity →
        step.previous.status = severity.severity ∧ ∃ earlier, lastNotice before = some earlier ∧
          earlier.mark? ≠ some .resolved ∧
            reminderMs severity ≤ step.asOf.ms - earlier.asOf.ms := by
  have hresolves := lifecycleRun_resolves_iff hone hrun before step after hsplit
  refine ⟨hresolves, ?_, lifecycleRun_reminds hone hrun before step after hsplit⟩
  intro hfanout hresolved
  have hmanual := resolutionMode_eq_manual_iff.mpr hfanout
  rw [(hresolves.mp hresolved).1] at hmanual
  cases hmanual

end run

/-- A warning that is reminded of after an hour, and then resolved. -/
def registrationShift : List AlertObservationInput :=
  [registrationMinute ⟨0, by decide⟩ 5 5, registrationMinute ⟨1, by decide⟩ 5 5,
    registrationMinute ⟨61, by decide⟩ 5 5, registrationMinute ⟨62, by decide⟩ 0 0,
    registrationMinute ⟨63, by decide⟩ 0 0, registrationMinute ⟨64, by decide⟩ 0 0,
    registrationMinute ⟨65, by decide⟩ 0 0, registrationMinute ⟨66, by decide⟩ 0 0]

theorem registrationShift_returns : (lifecycleRun registrationShift).toOption.isSome = true := by
  decide +kernel

def registrationShiftRun : List LifecycleStep × AlertLifecycleState :=
  (lifecycleRun registrationShift).toOption.get registrationShift_returns

/-- A step of the shift, by its number. -/
def registrationShiftStep (number : Fin 8) : LifecycleStep :=
  registrationShiftRun.1.get (number.cast (by decide +kernel))

/-- The reminder comes an hour after the opening, and the resolution after five quiet minutes. -/
theorem lifecycleRun_resolution_discipline_registrationShift :
    (∃ before after, registrationShiftRun.1 = before ++ registrationShiftStep 2 :: after ∧
      (registrationShiftStep 2).reminds? = some .warning ∧
      ∃ earlier, lastNotice before = some earlier ∧ earlier.mark? ≠ some .resolved ∧
        60 * 60000 ≤ (registrationShiftStep 2).asOf.ms - earlier.asOf.ms) ∧
    ∃ before after, registrationShiftRun.1 = before ++ registrationShiftStep 7 :: after ∧
      (registrationShiftStep 7).mark? = some .resolved ∧
      (registrationShiftStep 7).previous.phase = .active ∧ 4 ≤ before.length ∧
      ∀ recent ∈ before.reverse.take 4, recent.KnownAs .none := by
  have hone : OneIdentity .registrationRateLimited .global registrationShift :=
    ⟨by decide, by decide, by decide⟩
  have hrun : lifecycleRun registrationShift = .ok (registrationShiftRun.1, registrationShiftRun.2) := by
    rw [Prod.eta]
    exact eq_ok_get registrationShift_returns
  have hreminder : registrationShiftRun.1 = registrationShiftRun.1.take 2 ++
      registrationShiftStep 2 :: registrationShiftRun.1.drop 3 := by decide +kernel
  have hresolution : registrationShiftRun.1 = registrationShiftRun.1.take 7 ++ registrationShiftStep 7 :: [] := by
    decide +kernel
  have hreminds : (registrationShiftStep 2).reminds? = some .warning := by decide +kernel
  have hresolved : (registrationShiftStep 7).mark? = some .resolved := by decide +kernel
  refine ⟨⟨_, _, hreminder, hreminds, ?_⟩, _, _, hresolution, hresolved, ?_⟩
  · obtain ⟨-, -, hinterval⟩ := lifecycleRun_resolution_discipline hone hrun hreminder
    exact (hinterval .warning hreminds).2
  · obtain ⟨hresolves, -, -⟩ := lifecycleRun_resolution_discipline hone hrun hresolution
    obtain ⟨-, hactive, -, hlength, hclears⟩ := hresolves.mp hresolved
    exact ⟨hactive, hlength, hclears⟩

end pgid.alert
