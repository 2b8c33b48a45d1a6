import PgidSso.Alert.Lifecycle.Watch

open checked

namespace pgid.alert

/-- The record that `advanceAlertLifecycle` keeps for a watch. -/
def Watch.state {ruleId : AlertRuleId} (dimension : AlertDimension) (evaluatedAt : Timestamp) :
    Watch ruleId → AlertLifecycleState
  | .quiet cooldownUntil =>
    { inactiveAlertState with
      cooldownUntil, identity := some { dimension, ruleId }, lastEvaluatedAt := some evaluatedAt }
  | .suspected cooldownUntil breach =>
    { inactiveAlertState with
      breachEvidence := some breach.evidence
      breachSeverity := some breach.severity
      consecutiveBreaches := 1
      cooldownUntil
      identity := some { dimension, ruleId }
      lastEvaluatedAt := some evaluatedAt
      phase := .pending }
  | .active openedAt notifiedAt evidence clears =>
    { activeEvidence := some evidence.evidence
      breachEvidence := none
      breachSeverity := none
      consecutiveBreaches := 0
      consecutiveClears := clears.val
      cooldownUntil := none
      identity := some { dimension, ruleId }
      lastEvaluatedAt := some evaluatedAt
      lastNotificationAt := some notifiedAt
      openedAt := some openedAt
      phase := .active
      status := evidence.severity.severity }
  | .worsening openedAt notifiedAt evidence breach _ _ =>
    { activeEvidence := some evidence.evidence
      breachEvidence := some breach.evidence
      breachSeverity := some .critical
      consecutiveBreaches := 1
      consecutiveClears := 0
      cooldownUntil := none
      identity := some { dimension, ruleId }
      lastEvaluatedAt := some evaluatedAt
      lastNotificationAt := some notifiedAt
      openedAt := some openedAt
      phase := .active
      status := .warning }

/-- A watch over an accepted identity whose instants are in order. -/
structure Watched where
  ruleId : AlertRuleId
  dimension : AlertDimension
  accepted : dimension.Accepted (ALERT_RULE_DEFINITIONS ruleId).dimensions
  evaluatedAt : Timestamp
  watch : Watch ruleId
  timely : watch.Timely evaluatedAt

def Watched.state (watched : Watched) : AlertLifecycleState :=
  watched.watch.state watched.dimension watched.evaluatedAt

@[simp] theorem Watch.state_identity {ruleId : AlertRuleId} {dimension : AlertDimension}
    {evaluatedAt : Timestamp} (watch : Watch ruleId) :
    (watch.state dimension evaluatedAt).identity = some { dimension, ruleId } := by
  cases watch <;> rfl

@[simp] theorem Watch.state_lastEvaluatedAt {ruleId : AlertRuleId} {dimension : AlertDimension}
    {evaluatedAt : Timestamp} (watch : Watch ruleId) :
    (watch.state dimension evaluatedAt).lastEvaluatedAt = some evaluatedAt := by
  cases watch <;> rfl

theorem parseIdentity_eq_ok_iff {value identity : AlertLifecycleIdentity} :
    parseIdentity value = .ok identity ↔ identity = value ∧
      value.dimension.Accepted (ALERT_RULE_DEFINITIONS value.ruleId).dimensions := by
  simp only [parseIdentity, bind_eq_ok_iff, parseAlertDimension_eq_ok_iff, pure_eq_ok_iff]
  constructor
  · rintro ⟨dimension, ⟨haccepted, rfl⟩, rfl⟩
    exact ⟨rfl, haccepted⟩
  · rintro ⟨rfl, haccepted⟩
    exact ⟨_, ⟨haccepted, rfl⟩, rfl⟩

theorem parseEvidence_eq_ok {identity : Option AlertLifecycleIdentity}
    {value : Option AlertSelectedEvidence} {evidence : Option AlertSelectedEvidence}
    (hparse : nullable (parseEvidence identity) value = .ok evidence) :
    evidence = value ∧ ∀ bound ∈ identity, ∀ selected ∈ value,
      parseAlertSelectedEvidenceForRule selected bound.ruleId = .ok selected := by
  cases value with
  | none =>
    rw [nullable_none, Except.ok.injEq] at hparse
    exact ⟨hparse.symm, by simp⟩
  | some selected =>
    rw [nullable_some_eq_ok_iff] at hparse
    obtain ⟨parsed, hparsed, rfl⟩ := hparse
    cases identity with
    | none => simp [parseEvidence] at hparsed
    | some bound =>
      obtain rfl := parseAlertSelectedEvidenceForRule_eq_self hparsed
      refine ⟨rfl, ?_⟩
      rintro _ ⟨rfl⟩ _ ⟨rfl⟩
      exact hparsed

/-- The facts about a state that `parseState` establishes. -/
structure AlertLifecycleState.Checked (state : AlertLifecycleState) (asOfMs : Int) : Prop where
  identity : ∀ bound ∈ state.identity,
    bound.dimension.Accepted (ALERT_RULE_DEFINITIONS bound.ruleId).dimensions
  activeEvidence : nullable (parseEvidence state.identity) state.activeEvidence =
    .ok state.activeEvidence
  breachEvidence : nullable (parseEvidence state.identity) state.breachEvidence =
    .ok state.breachEvidence
  consecutiveBreaches : 0 ≤ state.consecutiveBreaches ∧ state.consecutiveBreaches ≤ 1
  consecutiveClears : 0 ≤ state.consecutiveClears ∧ state.consecutiveClears ≤ 4
  valid : validateState state asOfMs = .ok ()

theorem parseState_eq_ok_iff {value state : AlertLifecycleState} {asOfMs : Int} :
    parseState value asOfMs = .ok state ↔ state = value ∧ value.Checked asOfMs := by
  constructor
  · intro hparse
    simp only [parseState, bind_eq_ok_iff, counter_eq_ok_iff, pure_eq_ok_iff] at hparse
    obtain ⟨identity, hidentity, active, hactive, breach, hbreach, breaches, ⟨rfl, hbreaches⟩,
      clears, ⟨rfl, hclears⟩, ⟨⟩, hvalid, hstate⟩ := hparse
    have hbound : identity = value.identity ∧ ∀ bound ∈ value.identity,
        bound.dimension.Accepted (ALERT_RULE_DEFINITIONS bound.ruleId).dimensions := by
      cases hvalue : value.identity with
      | none =>
        rw [hvalue, nullable_none, Except.ok.injEq] at hidentity
        exact ⟨hidentity.symm, by simp⟩
      | some bound =>
        rw [hvalue, nullable_some_eq_ok_iff] at hidentity
        obtain ⟨parsed, hparsed, rfl⟩ := hidentity
        obtain ⟨rfl, haccepted⟩ := parseIdentity_eq_ok_iff.mp hparsed
        exact ⟨rfl, by rintro _ ⟨rfl⟩; exact haccepted⟩
    obtain ⟨rfl, haccepted⟩ := hbound
    obtain ⟨rfl, -⟩ := parseEvidence_eq_ok hactive
    obtain ⟨rfl, -⟩ := parseEvidence_eq_ok hbreach
    exact ⟨hstate.symm, haccepted, hactive, hbreach, hbreaches, hclears, hvalid⟩
  · rintro ⟨rfl, hchecked⟩
    simp only [parseState, bind_eq_ok_iff, counter_eq_ok_iff, pure_eq_ok_iff]
    refine ⟨state.identity, ?_, state.activeEvidence, hchecked.activeEvidence,
      state.breachEvidence, hchecked.breachEvidence, state.consecutiveBreaches,
      ⟨rfl, hchecked.consecutiveBreaches⟩, state.consecutiveClears,
      ⟨rfl, hchecked.consecutiveClears⟩, (), hchecked.valid, rfl⟩
    cases hidentity : state.identity with
    | none => rfl
    | some bound =>
      exact nullable_some_eq_ok_iff.mpr
        ⟨bound, parseIdentity_eq_ok_iff.mpr ⟨rfl, hchecked.identity bound hidentity⟩, rfl⟩

/-- The checks of `validateState`, without their messages. -/
theorem validateState_ok_iff {state : AlertLifecycleState} {asOfMs : Int} :
    validateState state asOfMs = .ok () ↔
      (state.breachSeverity = none ↔ state.consecutiveBreaches = 0) ∧
      ((state.breachEvidence = none ↔ state.breachSeverity = none) ∧
        ∀ evidence ∈ state.breachEvidence, some evidence.severity = state.breachSeverity) ∧
      ¬ (state.consecutiveBreaches > 0 ∧ state.consecutiveClears > 0) ∧
      (state.identity = none ↔ state.lastEvaluatedAt = none) ∧
      (∀ cooldownUntil ∈ state.cooldownUntil, state.lastEvaluatedAt ≠ none ∧
        ∀ lastEvaluatedAt ∈ state.lastEvaluatedAt,
          cooldownUntil.ms - lastEvaluatedAt.ms ≤ ALERT_RULE_POLICY.cooldownMs) ∧
      validatePhase state = .ok () ∧
      (∀ instant ∈ state.openedAt, instant.ms ≤ asOfMs) ∧
      (∀ instant ∈ state.lastEvaluatedAt, instant.ms ≤ asOfMs) ∧
      (∀ instant ∈ state.lastNotificationAt, instant.ms ≤ asOfMs) ∧
      (∀ lastEvaluatedAt ∈ state.lastEvaluatedAt,
        (∀ openedAt ∈ state.openedAt, openedAt.ms ≤ lastEvaluatedAt.ms) ∧
          ∀ notifiedAt ∈ state.lastNotificationAt, notifiedAt.ms ≤ lastEvaluatedAt.ms) ∧
      ∀ openedAt ∈ state.openedAt, ∀ notifiedAt ∈ state.lastNotificationAt,
        openedAt.ms ≤ notifiedAt.ms := by
  simp only [validateState, notInFuture, bind_eq_ok_iff, throwIf_eq_ok_iff, exists_const,
    Decidable.not_not, not_or, not_exists, not_and, Int.not_lt, gt_iff_lt, ne_eq]
  constructor
  · rintro ⟨hcount, hbreach, hboth, hbound, hcooldown, ⟨⟩, hphase, hrest⟩
    exact ⟨hcount, hbreach, hboth, hbound, hcooldown, hphase, hrest⟩
  · rintro ⟨hcount, hbreach, hboth, hbound, hcooldown, hphase, hrest⟩
    exact ⟨hcount, hbreach, hboth, hbound, hcooldown, (), hphase, hrest⟩

theorem parseState_inactive (asOfMs : Int) :
    parseState inactiveAlertState asOfMs = .ok inactiveAlertState := by
  rw [parseState_eq_ok_iff]
  refine ⟨rfl, by simp [inactiveAlertState], rfl, rfl, by decide, by decide, ?_⟩
  rw [validateState_ok_iff]
  simp [validatePhase, inactiveAlertState]

namespace Watch

variable {ruleId : AlertRuleId} {dimension : AlertDimension} {evaluatedAt : Timestamp}

theorem state_valid (watch : Watch ruleId) (htimely : watch.Timely evaluatedAt) {asOfMs : Int}
    (hasOf : evaluatedAt.ms ≤ asOfMs) :
    validateState (watch.state dimension evaluatedAt) asOfMs = .ok () := by
  rw [validateState_ok_iff]
  cases watch with
  | quiet cooldownUntil =>
    simpa [Watch.state, inactiveAlertState, validatePhase, hasOf, Timely] using htimely
  | suspected cooldownUntil breach =>
    simpa [Watch.state, inactiveAlertState, validatePhase, hasOf, RuleEvidence.severity, Timely]
      using htimely
  | active openedAt notifiedAt evidence clears =>
    obtain ⟨hopened, hnotified⟩ := htimely
    have hopenedAsOf : openedAt.ms ≤ asOfMs := by omega
    have hnotifiedAsOf : notifiedAt.ms ≤ asOfMs := by omega
    have hopenedEvaluated : openedAt.ms ≤ evaluatedAt.ms := by omega
    simp [Watch.state, validatePhase, hasOf, RuleEvidence.severity, hopened, hnotified,
      hopenedAsOf, hnotifiedAsOf, hopenedEvaluated]
  | worsening openedAt notifiedAt evidence breach hwarning hcritical =>
    obtain ⟨hopened, hnotified⟩ := htimely
    have hopenedAsOf : openedAt.ms ≤ asOfMs := by omega
    have hnotifiedAsOf : notifiedAt.ms ≤ asOfMs := by omega
    have hopenedEvaluated : openedAt.ms ≤ evaluatedAt.ms := by omega
    simp only [RuleEvidence.severity] at hwarning hcritical
    simp [Watch.state, validatePhase, hasOf, hwarning, hcritical, hopened, hnotified,
      hopenedAsOf, hnotifiedAsOf, hopenedEvaluated, ActiveAlertSeverity.severity]

private theorem parseEvidence_rule (evidence : RuleEvidence ruleId) :
    nullable (parseEvidence (some { dimension, ruleId })) (some evidence.evidence) =
      .ok (some evidence.evidence) :=
  nullable_some_eq_ok_iff.mpr ⟨evidence.evidence, evidence.accepted, rfl⟩

/-- The record of a watch is accepted from its last evaluation on. -/
theorem parseState_state (watch : Watch ruleId)
    (haccepted : dimension.Accepted (ALERT_RULE_DEFINITIONS ruleId).dimensions)
    (htimely : watch.Timely evaluatedAt) {asOfMs : Int} (hasOf : evaluatedAt.ms ≤ asOfMs) :
    parseState (watch.state dimension evaluatedAt) asOfMs =
      .ok (watch.state dimension evaluatedAt) := by
  rw [parseState_eq_ok_iff]
  have hidentity : ∀ bound ∈ (watch.state dimension evaluatedAt).identity,
      bound.dimension.Accepted (ALERT_RULE_DEFINITIONS bound.ruleId).dimensions := by
    rw [state_identity]
    rintro _ ⟨rfl⟩
    exact haccepted
  have hvalid := @state_valid _ dimension _ watch htimely _ hasOf
  refine ⟨rfl, hidentity, ?_, ?_, ?_, ?_, hvalid⟩ <;> clear hvalid hidentity
  · cases watch with
    | quiet => rfl
    | suspected => rfl
    | active _ _ evidence => exact parseEvidence_rule evidence
    | worsening _ _ evidence => exact parseEvidence_rule evidence
  · cases watch with
    | quiet => rfl
    | suspected _ breach => exact parseEvidence_rule breach
    | active => rfl
    | worsening _ _ _ breach => exact parseEvidence_rule breach
  · cases watch <;> simp [Watch.state, inactiveAlertState]
  · cases watch with
    | active _ _ _ clears => simp only [Watch.state]; omega
    | _ => simp [Watch.state, inactiveAlertState]

end Watch

theorem parseState_watched (watched : Watched) {asOfMs : Int}
    (hasOf : watched.evaluatedAt.ms ≤ asOfMs) :
    parseState watched.state asOfMs = .ok watched.state :=
  watched.watch.parseState_state watched.accepted watched.timely hasOf

/-- An accepted state is the initial one or the record of a watch. -/
theorem AlertLifecycleState.Checked.shape {state : AlertLifecycleState} {asOfMs : Int}
    (hchecked : state.Checked asOfMs) :
    state = inactiveAlertState ∨
      ∃ watched : Watched, watched.evaluatedAt.ms ≤ asOfMs ∧ state = watched.state := by
  obtain ⟨hidentity, hactive, hbreach, hbreaches, hclears, hvalid⟩ := hchecked
  obtain ⟨hcount, ⟨hpending, hseverity⟩, hboth, hbound, hcooldown, hphase, hopenedAsOf,
    hevaluatedAsOf, hnotifiedAsOf, hwatermark, hordered⟩ := validateState_ok_iff.mp hvalid
  obtain ⟨-, hactive⟩ := parseEvidence_eq_ok hactive
  obtain ⟨-, hbreach⟩ := parseEvidence_eq_ok hbreach
  clear hvalid
  obtain ⟨activeEvidence, breachEvidence, breachSeverity, consecutiveBreaches, consecutiveClears,
    cooldownUntil, identity, lastEvaluatedAt, lastNotificationAt, openedAt, phase, status⟩ := state
  simp only at *
  cases identity with
  | none =>
    left
    obtain rfl := hbound.mp rfl
    cases phase with
    | inactive =>
      simp only [validatePhase, throwIf_eq_ok_iff, not_or, Decidable.not_not, true_and] at hphase
      obtain ⟨rfl, rfl, rfl, rfl, rfl, rfl, rfl, rfl, rfl⟩ := hphase
      rfl
    | pending => simp [validatePhase] at hphase
    | active => simp [validatePhase] at hphase
  | some bound =>
    right
    obtain ⟨dimension, ruleId⟩ := bound
    have haccepted := hidentity _ rfl
    cases lastEvaluatedAt with
    | none => simp at hbound
    | some evaluatedAt =>
      have hasOf := hevaluatedAsOf evaluatedAt rfl
      cases phase with
      | inactive =>
        simp only [validatePhase, throwIf_eq_ok_iff, not_or, Decidable.not_not] at hphase
        obtain ⟨rfl, rfl, rfl, rfl, rfl, rfl, rfl, rfl, -⟩ := hphase
        exact ⟨⟨ruleId, dimension, haccepted, evaluatedAt, .quiet cooldownUntil,
          fun until' huntil => (hcooldown until' huntil).2 evaluatedAt rfl⟩, hasOf, rfl⟩
      | pending =>
        simp only [validatePhase, throwIf_eq_ok_iff, not_or, Decidable.not_not] at hphase
        obtain ⟨rfl, rfl, hevidence, -, rfl, rfl, -, hpositive, rfl⟩ := hphase
        obtain ⟨evidence, rfl⟩ := Option.ne_none_iff_exists'.mp hevidence
        obtain rfl : consecutiveBreaches = 1 := by omega
        rw [← hseverity evidence rfl]
        exact ⟨⟨ruleId, dimension, haccepted, evaluatedAt,
          .suspected cooldownUntil ⟨evidence, hbreach _ rfl _ rfl⟩,
          fun until' huntil => (hcooldown until' huntil).2 evaluatedAt rfl⟩, hasOf, rfl⟩
      | active =>
        simp only [validatePhase, bind_eq_ok_iff, throwIf_eq_ok_iff, exists_const, not_or,
          Decidable.not_not] at hphase
        obtain ⟨⟨hstatus, hevidence, hmatch, -, hopened, hnotified, rfl⟩, hworse⟩ := hphase
        obtain ⟨evidence, rfl⟩ := Option.ne_none_iff_exists'.mp hevidence
        obtain ⟨openedAt, rfl⟩ := Option.ne_none_iff_exists'.mp hopened
        obtain ⟨notifiedAt, rfl⟩ := Option.ne_none_iff_exists'.mp hnotified
        have hstatusEq : evidence.severity.severity = status := by
          simpa using hmatch
        have htimes : openedAt.ms ≤ notifiedAt.ms ∧ notifiedAt.ms ≤ evaluatedAt.ms :=
          ⟨hordered openedAt rfl notifiedAt rfl, (hwatermark evaluatedAt rfl).2 notifiedAt rfl⟩
        cases breachSeverity with
        | none =>
          obtain rfl := hpending.mpr rfl
          obtain rfl := hcount.mp rfl
          obtain ⟨clears, hclearsNat⟩ := Int.eq_ofNat_of_zero_le hclears.1
          subst hclearsNat hstatusEq
          exact ⟨⟨ruleId, dimension, haccepted, evaluatedAt,
            .active openedAt notifiedAt ⟨evidence, hactive _ rfl _ rfl⟩ ⟨clears, by omega⟩, htimes⟩,
            hasOf, rfl⟩
        | some severity =>
          obtain ⟨hwarning, hcritical⟩ : status = .warning ∧ severity = .critical := by
            simpa using hworse
          subst hwarning hcritical
          have hbreachSome : breachEvidence ≠ none := fun hnone => by simp [hnone] at hpending
          obtain ⟨breach, rfl⟩ := Option.ne_none_iff_exists'.mp hbreachSome
          obtain rfl : consecutiveBreaches = 1 := by
            have : consecutiveBreaches ≠ 0 := fun hzero => by simp [hzero] at hcount
            omega
          obtain rfl : consecutiveClears = 0 := by omega
          have hwarning : evidence.severity = .warning := by
            cases hcase : evidence.severity <;> simp_all [ActiveAlertSeverity.severity]
          have hcritical : breach.severity = .critical := by simpa using hseverity breach rfl
          exact ⟨⟨ruleId, dimension, haccepted, evaluatedAt,
            .worsening openedAt notifiedAt ⟨evidence, hactive _ rfl _ rfl⟩
              ⟨breach, hbreach _ rfl _ rfl⟩ hwarning hcritical, htimes⟩, hasOf, rfl⟩

/-- The domain of the reducer: what `parseState` accepts at an instant. -/
theorem parseState_accepts_iff {value : AlertLifecycleState} {asOfMs : Int} :
    (∃ state, parseState value asOfMs = .ok state) ↔
      value = inactiveAlertState ∨
        ∃ watched : Watched, watched.evaluatedAt.ms ≤ asOfMs ∧ value = watched.state := by
  constructor
  · rintro ⟨state, hparse⟩
    exact (parseState_eq_ok_iff.mp hparse).2.shape
  · rintro (rfl | ⟨watched, hasOf, rfl⟩)
    · exact ⟨_, parseState_inactive asOfMs⟩
    · exact ⟨_, parseState_watched watched hasOf⟩

end pgid.alert
