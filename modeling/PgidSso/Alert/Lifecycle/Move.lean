import PgidSso.Alert.Lifecycle.Refinement

open checked

namespace pgid.alert

namespace Watch

variable {ruleId : AlertRuleId}

/-- No incident is open. -/
inductive Idle : Watch ruleId → Option Timestamp → Prop
  | quiet {cooldownUntil : Option Timestamp} : Idle (.quiet cooldownUntil) cooldownUntil
  | suspected {cooldownUntil : Option Timestamp} {breach : RuleEvidence ruleId} :
      Idle (.suspected cooldownUntil breach) cooldownUntil

/-- An incident is open, and this many clears in a row have been seen. -/
inductive Open : Watch ruleId → Timestamp → Timestamp → RuleEvidence ruleId → Fin 5 → Prop
  | active {openedAt notifiedAt : Timestamp} {evidence : RuleEvidence ruleId} {clears : Fin 5} :
      Open (.active openedAt notifiedAt evidence clears) openedAt notifiedAt evidence clears
  | worsening {openedAt notifiedAt : Timestamp} {evidence breach : RuleEvidence ruleId}
      {hwarning : evidence.severity = .warning} {hcritical : breach.severity = .critical} :
      Open (.worsening openedAt notifiedAt evidence breach hwarning hcritical) openedAt notifiedAt
        evidence 0

/-- Everything one evaluation can do to a watch. -/
inductive Move (asOf : Timestamp) :
    Watch ruleId → Signal ruleId → Option (Notice ruleId) → Watch ruleId → Prop
  | settle {watch : Watch ruleId} {signal : Signal ruleId} {cooldownUntil : Option Timestamp}
      (hidle : watch.Idle cooldownUntil) (hsignal : ¬ signal.IsBreach) :
      Move asOf watch signal none (.quiet cooldownUntil)
  | suspect {watch : Watch ruleId} {cooldownUntil : Option Timestamp} {breach : RuleEvidence ruleId}
      {immediate : Bool} {himmediate : immediate = true → breach.severity = .critical}
      (hidle : watch.Idle cooldownUntil) :
      Move asOf watch (.breach breach immediate himmediate) none (.suspected cooldownUntil breach)
  | open {watch : Watch ruleId} {cooldownUntil : Option Timestamp} {breach : RuleEvidence ruleId}
      {immediate : Bool} {himmediate : immediate = true → breach.severity = .critical}
      (hidle : watch.Idle cooldownUntil)
      (hconfirmed : immediate = true ∨ ∃ previous, watch = .suspected cooldownUntil previous ∧
        previous.severity = breach.severity)
      (hcooldown : breach.severity = .warning → cooldownUntil = none) :
      Move asOf watch (.breach breach immediate himmediate) (some (.open breach))
        (.active asOf asOf breach 0)
  | forget {watch : Watch ruleId} {openedAt notifiedAt : Timestamp} {evidence : RuleEvidence ruleId}
      {clears : Fin 5} (hopen : watch.Open openedAt notifiedAt evidence clears) :
      Move asOf watch .unknown none (.active openedAt notifiedAt evidence 0)
  | ease {watch : Watch ruleId} {openedAt notifiedAt : Timestamp} {evidence : RuleEvidence ruleId}
      {clears : Fin 5} (hopen : watch.Open openedAt notifiedAt evidence clears)
      (hautomatic : (ALERT_RULE_DEFINITIONS ruleId).resolutionMode = .automatic)
      (hclears : clears.val + 1 < 5) :
      Move asOf watch .clear none (.active openedAt notifiedAt evidence ⟨clears.val + 1, hclears⟩)
  | resolve {watch : Watch ruleId} {openedAt notifiedAt : Timestamp} {evidence : RuleEvidence ruleId}
      {clears : Fin 5} {cooldownUntil : Timestamp}
      (hopen : watch.Open openedAt notifiedAt evidence clears)
      (hautomatic : (ALERT_RULE_DEFINITIONS ruleId).resolutionMode = .automatic)
      (hclears : clears.val + 1 = 5)
      (hcooldown : cooldownUntil.ms = asOf.ms + ALERT_RULE_POLICY.cooldownMs) :
      Move asOf watch .clear (some (.resolve evidence.severity)) (.quiet (some cooldownUntil))
  | keep {watch : Watch ruleId} {signal : Signal ruleId} {openedAt notifiedAt : Timestamp}
      {evidence kept : RuleEvidence ruleId} {clears : Fin 5}
      (hopen : watch.Open openedAt notifiedAt evidence clears)
      (hsignal : signal.IsBreach ∨ signal = .clear ∧
        (ALERT_RULE_DEFINITIONS ruleId).resolutionMode = .manual)
      (hkept : kept.severity = evidence.severity)
      (hdue : asOf.ms - notifiedAt.ms < reminderMs kept.severity) :
      Move asOf watch signal none (.active openedAt notifiedAt kept 0)
  | remind {watch : Watch ruleId} {signal : Signal ruleId} {openedAt notifiedAt : Timestamp}
      {evidence kept : RuleEvidence ruleId} {clears : Fin 5}
      (hopen : watch.Open openedAt notifiedAt evidence clears)
      (hsignal : signal.IsBreach ∨ signal = .clear ∧
        (ALERT_RULE_DEFINITIONS ruleId).resolutionMode = .manual)
      (hkept : kept.severity = evidence.severity)
      (hdue : reminderMs kept.severity ≤ asOf.ms - notifiedAt.ms) :
      Move asOf watch signal (some (.remind kept)) (.active openedAt asOf kept 0)
  | worsen {openedAt notifiedAt : Timestamp} {evidence breach : RuleEvidence ruleId} {clears : Fin 5}
      {himmediate : false = true → breach.severity = .critical}
      (hwarning : evidence.severity = .warning) (hcritical : breach.severity = .critical) :
      Move asOf (.active openedAt notifiedAt evidence clears) (.breach breach false himmediate) none
        (.worsening openedAt notifiedAt evidence breach hwarning hcritical)
  | escalate {watch : Watch ruleId} {openedAt notifiedAt : Timestamp}
      {evidence breach : RuleEvidence ruleId} {clears : Fin 5} {immediate : Bool}
      {himmediate : immediate = true → breach.severity = .critical}
      (hopen : watch.Open openedAt notifiedAt evidence clears)
      (hwarning : evidence.severity = .warning) (hcritical : breach.severity = .critical)
      (hconfirmed : immediate = true ∨ ∃ previous hwarning' hcritical',
        watch = .worsening openedAt notifiedAt evidence previous hwarning' hcritical') :
      Move asOf watch (.breach breach immediate himmediate) (some (.escalate breach))
        (.active openedAt asOf breach 0)

private theorem critical_of_not_warning {severity : ActiveAlertSeverity} (hnot : severity ≠ .warning) :
    severity = .critical :=
  severity.warning_or_critical.resolve_left hnot

private theorem warning_of_not_critical {severity : ActiveAlertSeverity}
    (hnot : severity ≠ .critical) : severity = .warning :=
  severity.warning_or_critical.resolve_right hnot

theorem hold_move {asOf openedAt notifiedAt : Timestamp} {watch : Watch ruleId}
    {signal : Signal ruleId} {evidence kept : RuleEvidence ruleId} {clears : Fin 5}
    (hopen : watch.Open openedAt notifiedAt evidence clears)
    (hsignal : signal.IsBreach ∨ signal = .clear ∧
      (ALERT_RULE_DEFINITIONS ruleId).resolutionMode = .manual)
    (hkept : kept.severity = evidence.severity) :
    Move asOf watch signal (hold asOf openedAt notifiedAt kept).1
      (hold asOf openedAt notifiedAt kept).2 := by
  unfold hold
  split
  · rename_i hdue
    exact .remind hopen hsignal hkept hdue
  · rename_i hdue
    exact .keep hopen hsignal hkept (by omega)

theorem ease_move {asOf openedAt notifiedAt : Timestamp} {watch : Watch ruleId}
    {evidence : RuleEvidence ruleId} {clears : Fin 5}
    {next : Option (Notice ruleId) × Watch ruleId}
    (hopen : watch.Open openedAt notifiedAt evidence clears)
    (hease : ease asOf openedAt notifiedAt evidence clears = .ok next) :
    Move asOf watch .clear next.1 next.2 := by
  unfold ease at hease
  split at hease
  · rename_i hmanual
    cases hease
    exact hold_move hopen (.inr ⟨rfl, hmanual⟩) rfl
  · rename_i hmode
    have hautomatic : (ALERT_RULE_DEFINITIONS ruleId).resolutionMode = .automatic := by
      cases hcase : (ALERT_RULE_DEFINITIONS ruleId).resolutionMode with
      | automatic => rfl
      | manual => exact absurd hcase hmode
    split at hease
    · rename_i hclears
      cases hease
      exact .ease hopen hautomatic hclears
    · rename_i hclears
      simp only [addMilliseconds, bind_eq_ok_iff, Timestamp.ofMs_eq_ok_iff, pure_eq_ok_iff] at hease
      obtain ⟨cooldownUntil, hcooldown, rfl⟩ := hease
      exact .resolve hopen hautomatic (by omega) hcooldown

theorem suspect_move {asOf : Timestamp} {watch : Watch ruleId} {cooldownUntil : Option Timestamp}
    {breach : RuleEvidence ruleId} {immediate confirmed : Bool}
    {himmediate : immediate = true → breach.severity = .critical}
    (hidle : watch.Idle cooldownUntil)
    (hconfirmed : confirmed = true → immediate = true ∨ ∃ previous,
      watch = .suspected cooldownUntil previous ∧ previous.severity = breach.severity) :
    Move asOf watch (.breach breach immediate himmediate)
      (suspect asOf cooldownUntil breach confirmed).1
      (suspect asOf cooldownUntil breach confirmed).2 := by
  unfold suspect
  split
  · rename_i hopen
    obtain ⟨htrue, hcooldown⟩ := hopen
    refine .open hidle (hconfirmed htrue) fun hwarning => ?_
    by_contra hnone
    exact hcooldown ⟨hnone, hwarning⟩
  · exact .suspect hidle

/-- A step is one of the moves. -/
theorem step_move {asOf : Timestamp} {watch : Watch ruleId} {signal : Signal ruleId}
    {next : Option (Notice ruleId) × Watch ruleId} (hstep : watch.step asOf signal = .ok next) :
    Move asOf watch signal next.1 next.2 := by
  cases watch with
  | quiet cooldownUntil =>
    cases signal with
    | unknown => cases hstep; exact .settle .quiet (by simp [Signal.IsBreach])
    | clear => cases hstep; exact .settle .quiet (by simp [Signal.IsBreach])
    | breach breach immediate himmediate => cases hstep; exact suspect_move .quiet .inl
  | suspected cooldownUntil previous =>
    cases signal with
    | unknown => cases hstep; exact .settle .suspected (by simp [Signal.IsBreach])
    | clear => cases hstep; exact .settle .suspected (by simp [Signal.IsBreach])
    | breach breach immediate himmediate =>
      cases hstep
      refine suspect_move .suspected fun hconfirmed => ?_
      simp only [Bool.or_eq_true, decide_eq_true_eq] at hconfirmed
      exact hconfirmed.imp_right fun hsame => ⟨previous, rfl, hsame⟩
  | active openedAt notifiedAt evidence clears =>
    cases signal with
    | unknown => cases hstep; exact .forget .active
    | clear => exact ease_move .active hstep
    | breach breach immediate himmediate =>
      simp only [step] at hstep
      split at hstep
      · rename_i hcritical
        cases hstep
        refine hold_move .active (.inl trivial) ?_
        split
        · rename_i hbreach
          rw [hcritical, hbreach]
        · rfl
      · rename_i hnot
        have hwarning := warning_of_not_critical hnot
        split at hstep
        · rename_i hbreach
          cases hstep
          exact hold_move .active (.inl trivial) (by rw [hbreach, hwarning])
        · rename_i hbreach
          have hcritical := critical_of_not_warning hbreach
          split at hstep
          · rename_i htrue
            cases hstep
            exact .escalate .active hwarning hcritical (.inl htrue)
          · rename_i hfalse
            cases hstep
            obtain rfl : immediate = false := by simpa using hfalse
            exact .worsen hwarning hcritical
  | worsening openedAt notifiedAt evidence previous hwarning hcritical =>
    cases signal with
    | unknown => cases hstep; exact .forget .worsening
    | clear => exact ease_move .worsening hstep
    | breach breach immediate himmediate =>
      simp only [step] at hstep
      split at hstep
      · rename_i hbreach
        cases hstep
        exact hold_move .worsening (.inl trivial) (by rw [hbreach, hwarning])
      · rename_i hbreach
        cases hstep
        exact .escalate .worsening hwarning (critical_of_not_warning hbreach)
          (.inr ⟨previous, hwarning, hcritical, rfl⟩)

end Watch

end pgid.alert
