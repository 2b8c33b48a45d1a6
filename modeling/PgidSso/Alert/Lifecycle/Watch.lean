import PgidSso.Alert.Lifecycle.Advance

open checked

namespace pgid.alert

/-- Evidence that the validator of a rule accepts. -/
structure RuleEvidence (ruleId : AlertRuleId) where
  evidence : AlertSelectedEvidence
  accepted : parseAlertSelectedEvidenceForRule evidence ruleId = .ok evidence

namespace RuleEvidence

variable {ruleId : AlertRuleId}

def severity (evidence : RuleEvidence ruleId) : ActiveAlertSeverity :=
  evidence.evidence.severity

end RuleEvidence

/-- What an evaluation means for the incident of its identity. -/
inductive Signal (ruleId : AlertRuleId)
  | unknown
  | clear
  | breach (evidence : RuleEvidence ruleId) (immediate : Bool)
      (himmediate : immediate = true → evidence.severity = .critical)

/-- What is told about an incident. -/
inductive Notice (ruleId : AlertRuleId)
  | open (evidence : RuleEvidence ruleId)
  | escalate (evidence : RuleEvidence ruleId)
  | remind (evidence : RuleEvidence ruleId)
  | resolve (fromSeverity : ActiveAlertSeverity)

/-- The watch over one identity of a rule. Nothing fires in `quiet`; `suspected` has
seen one breach that still needs its confirmation; `active` has an open incident and
counts the clears in a row; `worsening` is an open warning that has seen one critical
breach. -/
inductive Watch (ruleId : AlertRuleId)
  | quiet (cooldownUntil : Option Timestamp)
  | suspected (cooldownUntil : Option Timestamp) (breach : RuleEvidence ruleId)
  | active (openedAt notifiedAt : Timestamp) (evidence : RuleEvidence ruleId) (clears : Fin 5)
  | worsening (openedAt notifiedAt : Timestamp) (evidence breach : RuleEvidence ruleId)
      (hwarning : evidence.severity = .warning) (hcritical : breach.severity = .critical)

namespace Watch

variable {ruleId : AlertRuleId}

/-- A cooldown that has run out is forgotten. -/
def live (asOf : Timestamp) : Watch ruleId → Watch ruleId
  | .quiet cooldownUntil => .quiet (cooldownUntil.filter fun until' => asOf.ms < until'.ms)
  | .suspected cooldownUntil breach =>
    .suspected (cooldownUntil.filter fun until' => asOf.ms < until'.ms) breach
  | watch => watch

/-- The incident continues with this evidence; a reminder is due after the interval of
its severity. -/
def hold (asOf openedAt notifiedAt : Timestamp) (evidence : RuleEvidence ruleId) :
    Option (Notice ruleId) × Watch ruleId :=
  if reminderMs evidence.severity ≤ asOf.ms - notifiedAt.ms then
    (some (.remind evidence), .active openedAt asOf evidence 0)
  else
    (none, .active openedAt notifiedAt evidence 0)

/-- One more clear after `clears` of them. -/
def ease (asOf openedAt notifiedAt : Timestamp) (evidence : RuleEvidence ruleId) (clears : Fin 5) :
    Except String (Option (Notice ruleId) × Watch ruleId) :=
  if (ALERT_RULE_DEFINITIONS ruleId).resolutionMode = .manual then
    .ok (hold asOf openedAt notifiedAt evidence)
  else if hclears : clears.val + 1 < 5 then
    .ok (none, .active openedAt notifiedAt evidence ⟨clears.val + 1, hclears⟩)
  else do
    let cooldownUntil ← addMilliseconds asOf ALERT_RULE_POLICY.cooldownMs
    return (some (.resolve evidence.severity), .quiet (some cooldownUntil))

/-- A breach without an open incident. A confirmed warning waits for the cooldown. -/
def suspect (asOf : Timestamp) (cooldownUntil : Option Timestamp) (breach : RuleEvidence ruleId)
    (confirmed : Bool) : Option (Notice ruleId) × Watch ruleId :=
  if confirmed = true ∧ ¬ (cooldownUntil ≠ none ∧ breach.severity = .warning) then
    (some (.open breach), .active asOf asOf breach 0)
  else
    (none, .suspected cooldownUntil breach)

/-- One evaluation at `asOf`. -/
def step (asOf : Timestamp) : Watch ruleId → Signal ruleId →
    Except String (Option (Notice ruleId) × Watch ruleId)
  | .quiet cooldownUntil, .unknown => .ok (none, .quiet cooldownUntil)
  | .suspected cooldownUntil _, .unknown => .ok (none, .quiet cooldownUntil)
  | .active openedAt notifiedAt evidence _, .unknown =>
    .ok (none, .active openedAt notifiedAt evidence 0)
  | .worsening openedAt notifiedAt evidence _ _ _, .unknown =>
    .ok (none, .active openedAt notifiedAt evidence 0)
  | .quiet cooldownUntil, .clear => .ok (none, .quiet cooldownUntil)
  | .suspected cooldownUntil _, .clear => .ok (none, .quiet cooldownUntil)
  | .active openedAt notifiedAt evidence clears, .clear =>
    ease asOf openedAt notifiedAt evidence clears
  | .worsening openedAt notifiedAt evidence _ _ _, .clear => ease asOf openedAt notifiedAt evidence 0
  | .quiet cooldownUntil, .breach breach immediate _ => .ok (suspect asOf cooldownUntil breach immediate)
  | .suspected cooldownUntil previous, .breach breach immediate _ =>
    .ok (suspect asOf cooldownUntil breach (immediate || previous.severity = breach.severity))
  | .active openedAt notifiedAt evidence _, .breach breach immediate _ =>
    if hcritical : evidence.severity = .critical then
      .ok (hold asOf openedAt notifiedAt (if breach.severity = .critical then breach else evidence))
    else if hwarning : breach.severity = .warning then
      .ok (hold asOf openedAt notifiedAt breach)
    else if immediate then
      .ok (some (.escalate breach), .active openedAt asOf breach 0)
    else
      .ok (none, .worsening openedAt notifiedAt evidence breach
        (by cases h : evidence.severity <;> simp_all) (by cases h : breach.severity <;> simp_all))
  | .worsening openedAt notifiedAt _ _ _ _, .breach breach _ _ =>
    if breach.severity = .warning then .ok (hold asOf openedAt notifiedAt breach)
    else .ok (some (.escalate breach), .active openedAt asOf breach 0)

/-- The severity of the open incident. -/
def incident? : Watch ruleId → Option ActiveAlertSeverity
  | .quiet _ => none
  | .suspected _ _ => none
  | .active _ _ evidence _ => some evidence.severity
  | .worsening _ _ evidence _ _ _ => some evidence.severity

/-- The instants of a watch, seen from its last evaluation. -/
def Timely (evaluatedAt : Timestamp) : Watch ruleId → Prop
  | .quiet cooldownUntil =>
    ∀ until' ∈ cooldownUntil, until'.ms - evaluatedAt.ms ≤ ALERT_RULE_POLICY.cooldownMs
  | .suspected cooldownUntil _ =>
    ∀ until' ∈ cooldownUntil, until'.ms - evaluatedAt.ms ≤ ALERT_RULE_POLICY.cooldownMs
  | .active openedAt notifiedAt _ _ => openedAt.ms ≤ notifiedAt.ms ∧ notifiedAt.ms ≤ evaluatedAt.ms
  | .worsening openedAt notifiedAt _ _ _ _ =>
    openedAt.ms ≤ notifiedAt.ms ∧ notifiedAt.ms ≤ evaluatedAt.ms

theorem Timely.live {evaluatedAt asOf : Timestamp} {watch : Watch ruleId}
    (htimely : watch.Timely evaluatedAt) (hlater : evaluatedAt.ms ≤ asOf.ms) :
    (watch.live asOf).Timely asOf := by
  cases watch with
  | quiet cooldownUntil =>
    intro until' huntil
    have := htimely until' (Option.mem_filter_iff.mp huntil).1
    omega
  | suspected cooldownUntil breach =>
    intro until' huntil
    have := htimely until' (Option.mem_filter_iff.mp huntil).1
    omega
  | active openedAt notifiedAt evidence clears => exact ⟨htimely.1, by have := htimely.2; omega⟩
  | worsening openedAt notifiedAt evidence breach hwarning hcritical =>
    exact ⟨htimely.1, by have := htimely.2; omega⟩

theorem hold_timely {asOf openedAt notifiedAt : Timestamp} {evidence : RuleEvidence ruleId}
    (hopened : openedAt.ms ≤ notifiedAt.ms) (hnotified : notifiedAt.ms ≤ asOf.ms) :
    (hold asOf openedAt notifiedAt evidence).2.Timely asOf := by
  unfold hold
  split
  · exact ⟨by omega, Int.le_refl _⟩
  · exact ⟨hopened, hnotified⟩

theorem suspect_timely {asOf : Timestamp} {cooldownUntil : Option Timestamp}
    {breach : RuleEvidence ruleId} {confirmed : Bool}
    (htimely : ∀ until' ∈ cooldownUntil, until'.ms - asOf.ms ≤ ALERT_RULE_POLICY.cooldownMs) :
    (suspect asOf cooldownUntil breach confirmed).2.Timely asOf := by
  unfold suspect
  split
  · exact ⟨Int.le_refl _, Int.le_refl _⟩
  · exact htimely

theorem ease_timely {asOf openedAt notifiedAt : Timestamp} {evidence : RuleEvidence ruleId}
    {clears : Fin 5} {result : Option (Notice ruleId) × Watch ruleId}
    (hease : ease asOf openedAt notifiedAt evidence clears = .ok result)
    (hopened : openedAt.ms ≤ notifiedAt.ms) (hnotified : notifiedAt.ms ≤ asOf.ms) :
    result.2.Timely asOf := by
  unfold ease at hease
  split at hease
  · simp only [Except.ok.injEq] at hease
    subst hease
    exact hold_timely hopened hnotified
  · split at hease
    · simp only [Except.ok.injEq] at hease
      subst hease
      exact ⟨hopened, hnotified⟩
    · simp only [addMilliseconds, bind_eq_ok_iff, Timestamp.ofMs_eq_ok_iff, pure_eq_ok_iff] at hease
      obtain ⟨cooldownUntil, hcooldown, rfl⟩ := hease
      rintro until' ⟨rfl⟩
      omega

/-- Every evaluation keeps the instants of the watch in order. -/
theorem step_timely {asOf : Timestamp} {watch : Watch ruleId} {signal : Signal ruleId}
    {result : Option (Notice ruleId) × Watch ruleId} (hstep : watch.step asOf signal = .ok result)
    (htimely : watch.Timely asOf) : result.2.Timely asOf := by
  cases watch with
  | quiet cooldownUntil =>
    cases signal with
    | unknown => cases hstep; exact htimely
    | clear => cases hstep; exact htimely
    | breach breach immediate himmediate => cases hstep; exact suspect_timely htimely
  | suspected cooldownUntil previous =>
    cases signal with
    | unknown => cases hstep; exact htimely
    | clear => cases hstep; exact htimely
    | breach breach immediate himmediate => cases hstep; exact suspect_timely htimely
  | active openedAt notifiedAt evidence clears =>
    obtain ⟨hopened, hnotified⟩ := htimely
    cases signal with
    | unknown => cases hstep; exact ⟨hopened, hnotified⟩
    | clear => exact ease_timely hstep hopened hnotified
    | breach breach immediate himmediate =>
      simp only [step] at hstep
      split at hstep
      · cases hstep; exact hold_timely hopened hnotified
      split at hstep
      · cases hstep; exact hold_timely hopened hnotified
      split at hstep
      · cases hstep; exact ⟨by omega, Int.le_refl _⟩
      · cases hstep; exact ⟨hopened, hnotified⟩
  | worsening openedAt notifiedAt evidence previous hwarning hcritical =>
    obtain ⟨hopened, hnotified⟩ := htimely
    cases signal with
    | unknown => cases hstep; exact ⟨hopened, hnotified⟩
    | clear => exact ease_timely hstep hopened hnotified
    | breach breach immediate himmediate =>
      simp only [step] at hstep
      split at hstep
      · cases hstep; exact hold_timely hopened hnotified
      · cases hstep; exact ⟨by omega, Int.le_refl _⟩

/-- An evaluation returns as soon as a cooldown that starts at it can be written. -/
theorem step_returns {asOf : Timestamp} (hcooldown : asOf.ms + 1800000 ≤ Timestamp.maximumMs)
    (watch : Watch ruleId) (signal : Signal ruleId) :
    ∃ result, watch.step asOf signal = .ok result := by
  have hease : ∀ openedAt notifiedAt (evidence : RuleEvidence ruleId) clears,
      ∃ result, ease asOf openedAt notifiedAt evidence clears = .ok result := by
    intro openedAt notifiedAt evidence clears
    unfold ease
    split
    · exact ⟨_, rfl⟩
    split
    · exact ⟨_, rfl⟩
    · have hrange := asOf.inRange
      refine ⟨_, bind_eq_ok_iff.mpr ⟨⟨asOf.ms + 1800000, ?_⟩, ?_, rfl⟩⟩
      · omega
      · rw [addMilliseconds, Timestamp.ofMs_eq_ok_iff]
        rfl
  cases watch <;> cases signal <;> simp only [step]
  all_goals first
    | exact ⟨_, rfl⟩
    | exact hease _ _ _ _
    | skip
  · split
    · exact ⟨_, rfl⟩
    split
    · exact ⟨_, rfl⟩
    split <;> exact ⟨_, rfl⟩
  · split <;> exact ⟨_, rfl⟩

end Watch

end pgid.alert
