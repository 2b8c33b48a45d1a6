import PgidSso.Alert.Orchestration.Digest
import PgidSso.Alert.Rules.Evaluate.Outcome
import PgidSso.Library.IsoDetermined

/-! The canonical text of an observation determines it. -/

open checked

namespace pgid.alert

/-- The shapes of measured parts. -/
inductive AlertMeasures.Shape
  | count
  | ratio
  | restricted
  | recoveryEntry
  | oauth
  | adminSensitive
  | fanout
  | logout
  | runtime
  | queue
  deriving DecidableEq

def AlertMeasures.shape {Queue : Type} : AlertMeasures Queue → AlertMeasures.Shape
  | .count _ => .count
  | .ratio _ => .ratio
  | .restricted _ => .restricted
  | .recoveryEntry _ => .recoveryEntry
  | .oauth _ => .oauth
  | .adminSensitive _ => .adminSensitive
  | .fanout _ => .fanout
  | .logout _ _ => .logout
  | .runtime _ => .runtime
  | .queue _ => .queue

/-- The shape that a rule requires. -/
def AlertRuleId.shape : AlertRuleId → AlertMeasures.Shape
  | .registrationRateLimited => .count
  | .registrationDenied => .count
  | .registrationChallengeUnavailable => .ratio
  | .registrationRestrictedCreated => .count
  | .restrictedSensitiveDenied => .restricted
  | .recoveryEntryAbuse => .recoveryEntry
  | .recoveryPasskeyFailure => .ratio
  | .passkeyStepUpFailure => .ratio
  | .oauthClientReport => .oauth
  | .adminSensitiveActivity => .adminSensitive
  | .adminDirectoryVolume => .count
  | .securityFanoutGap => .fanout
  | .logoutDeliveryHealth => .logout
  | .alertRuntimeHealth => .runtime
  | .queueDlqApproximate => .queue

namespace orchestration

theorem parseRuleMeasures_shape {ruleId : AlertRuleId} {measures : AlertMeasures QueueBindingSnapshot}
    {parsed : AlertMeasures QueueDepthSnapshot} (hparsed : parseRuleMeasures ruleId measures = .ok parsed) :
    parsed.shape = ruleId.shape := by
  unfold parseRuleMeasures at hparsed
  split at hparsed
  case h_4 =>
    simp only [bind_eq_ok_iff, pure_eq_ok_iff] at hparsed
    obtain ⟨_, _, _, _, rfl⟩ := hparsed
    rfl
  case h_16 => cases hparsed
  all_goals
    simp only [bind_eq_ok_iff, pure_eq_ok_iff] at hparsed
    obtain ⟨_, _, rfl⟩ := hparsed
    rfl

/-- The measures of an accepted observation have the shape of its rule. -/
theorem parseAlertObservation_shape {value : AlertObservationInput} {observation : AlertRuleObservation}
    (hparsed : parseAlertObservation value = .ok observation) :
    observation.measures.shape = observation.ruleId.shape := by
  simp only [parseAlertObservation, parseMeasures, bind_eq_ok_iff, pure_eq_ok_iff] at hparsed
  obtain ⟨_, _, _, ⟨_, hmeasures, _, _, rfl⟩, rfl⟩ := hparsed
  exact parseRuleMeasures_shape hmeasures

section names

open json

/-- A name is determined by its text in quotes where it can be found among all names. -/
theorem determined_quoted {α : Type} [DecidableEq α] {name : α → String} (all : List α) (hall : ∀ value, value ∈ all)
    (hfind : ∀ value ∈ all, (all.find? fun other => Text.of (name other) = Text.of (name value)) = some value) :
    Determined fun value => quoted (name value) := by
  refine determined_string.comp ?_
  intro left right hsame
  have hleft := hfind left (hall left)
  rw [hsame, hfind right (hall right)] at hleft
  exact (Option.some.inj hleft).symm

theorem determined_ruleId : Determined fun ruleId : AlertRuleId => quoted ruleId.text :=
  determined_quoted ALERT_RULE_IDS AlertRuleId.mem_ids (by decide)

theorem determined_dimensionKind : Determined fun kind : AlertDimensionKind => quoted kind.text := by
  refine determined_quoted
    [.global, .hashed .subjectHmac, .hashed .actorHmac, .hashed .clientHmac, .queue] ?_ (by decide)
  intro kind
  cases kind with
  | global => decide
  | hashed kind => cases kind <;> decide
  | queue => decide

theorem determined_queueName : Determined fun queue : AlertQueueName => quoted queue.text := by
  refine determined_quoted [.securityEventsDlq, .logoutDeliveriesDlq, .alertDeliveriesDlq, .auditArchiveDlq] ?_
    (by decide)
  intro queue
  cases queue <;> decide

end names

section dimension

/-- What an accepted dimension holds of a reference. -/
def ReferenceAccepted (dimension : AlertDimension) : Prop :=
  ∀ kind reference, dimension = .hashed kind reference →
    reference.keyVersion = 1 ∧ isCanonicalBase64Url32 reference.value

/-- The members of a dimension after its kind. -/
def afterKind : AlertDimension → List (String × Text)
  | .global => []
  | .hashed _ reference =>
    [("reference", json.object [("keyVersion", json.integer reference.keyVersion), ("value", quoted reference.value)])]
  | .queue queue => [("queue", quoted queue.text)]

theorem dimensionText_eq (dimension : AlertDimension) :
    dimensionText dimension = json.object (("kind", quoted dimension.kind.text) :: afterKind dimension) := by
  cases dimension <;> rfl

/-- A reference by its canonical text: its key version and its value. -/
theorem determined_reference :
    json.Determined fun reference : Int × Text =>
      json.object [("keyVersion", json.integer reference.1), ("value", json.string reference.2)] := by
  intro left right rest other _ _ hsame
  obtain ⟨hversion, hsame⟩ := json.determined_integer.first hsame
  obtain ⟨hvalue, hsame⟩ := json.determined_string.next hsame
  exact ⟨Prod.ext hversion hvalue, json.afterMember_end hsame⟩

/-- The text of an accepted dimension determines it. -/
theorem dimensionText_determined {left right : AlertDimension} {rest other : Text} (hleft : ReferenceAccepted left)
    (hright : ReferenceAccepted right) (hsame : dimensionText left ++ rest = dimensionText right ++ other) :
    left = right ∧ rest = other := by
  rw [dimensionText_eq, dimensionText_eq] at hsame
  obtain ⟨hkind, hsame⟩ := determined_dimensionKind.first hsame
  cases left with
  | global =>
    cases right with
    | global => exact ⟨rfl, json.afterMember_end hsame⟩
    | hashed kind reference => cases hkind
    | queue queue => cases hkind
  | hashed kind reference =>
    cases right with
    | global => cases hkind
    | hashed otherKind otherReference =>
      obtain rfl : kind = otherKind := AlertDimensionKind.hashed.inj hkind
      have hreference : (reference.keyVersion, Text.of reference.value) =
          (otherReference.keyVersion, Text.of otherReference.value) ∧ json.afterMember [] ++ rest = json.afterMember [] ++ other :=
        determined_reference.next hsame
      obtain ⟨hfields, hafter⟩ := hreference
      obtain ⟨hversion, hvalue⟩ := Prod.mk.inj hfields
      have hvalues := reference_eq_of_text (hleft kind reference rfl).2 (hright kind otherReference rfl).2 hvalue
      refine ⟨?_, json.afterMember_end hafter⟩
      rw [AlertDimension.hashed.injEq, HashedAlertReference.mk.injEq]
      exact ⟨rfl, hversion, hvalues⟩
    | queue queue => cases hkind
  | queue queue =>
    cases right with
    | global => cases hkind
    | hashed kind reference => cases hkind
    | queue otherQueue =>
      obtain ⟨hqueue, hafter⟩ := determined_queueName.next hsame
      exact ⟨congrArg AlertDimension.queue hqueue, json.afterMember_end hafter⟩

end dimension

section measures

open json

theorem determined_nullableInteger : Determined (nullable json.integer) :=
  determined_integer.nullable head_integer

theorem determined_instant : Determined instant :=
  determined_string.comp fun _ _ hsame => Timestamp.iso_inj hsame

theorem determined_nullableInstant : Determined (nullable instant) :=
  determined_instant.nullable fun value => head_string value.iso

theorem determined_windowsText {T : Type} {metrics : T → Text} (hmetrics : Determined metrics) :
    Determined (windowsText metrics) := by
  intro left right rest other _ _ hsame
  obtain ⟨hmiddle, hsame⟩ := hmetrics.first hsame
  obtain ⟨hshort, hsame⟩ := hmetrics.next hsame
  obtain ⟨hlong, hsame⟩ := hmetrics.next hsame
  exact ⟨by rw [Windowed.mk.injEq]; exact ⟨hshort, hmiddle, hlong⟩, afterMember_end hsame⟩

theorem determined_countText : Determined countText := by
  intro left right rest other _ _ hsame
  obtain ⟨hcount, hsame⟩ := determined_integer.first hsame
  exact ⟨by rw [CountWindowMetrics.mk.injEq]; exact hcount, afterMember_end hsame⟩

theorem determined_ratioText : Determined ratioText := by
  intro left right rest other _ _ hsame
  obtain ⟨hdenominator, hsame⟩ := determined_integer.first hsame
  obtain ⟨hnumerator, hsame⟩ := determined_integer.next hsame
  exact ⟨by rw [RatioWindowMetrics.mk.injEq]; exact ⟨hdenominator, hnumerator⟩, afterMember_end hsame⟩

theorem determined_restrictedText : Determined restrictedText := by
  intro left right rest other _ _ hsame
  obtain ⟨hcount, hsame⟩ := determined_integer.first hsame
  obtain ⟨hsurfaces, hsame⟩ := determined_integer.next hsame
  exact ⟨by rw [RestrictedDenialWindowMetrics.mk.injEq]; exact ⟨hcount, hsurfaces⟩, afterMember_end hsame⟩

theorem determined_recoveryEntryText : Determined recoveryEntryText := by
  intro left right rest other _ _ hsame
  obtain ⟨hdenied, hsame⟩ := determined_integer.first hsame
  obtain ⟨hlimited, hsame⟩ := determined_integer.next hsame
  obtain ⟨hstarted, hsame⟩ := determined_integer.next hsame
  exact ⟨by rw [RecoveryEntryWindowMetrics.mk.injEq]; exact ⟨hdenied, hlimited, hstarted⟩, afterMember_end hsame⟩

theorem determined_oauthText : Determined oauthText := by
  intro left right rest other _ _ hsame
  obtain ⟨hcount, hsame⟩ := determined_integer.first hsame
  obtain ⟨hreporters, hsame⟩ := determined_nullableInteger.next hsame
  obtain ⟨hrisk, hsame⟩ := determined_integer.next hsame
  exact ⟨by rw [OAuthClientReportWindowMetrics.mk.injEq]; exact ⟨hcount, hreporters, hrisk⟩, afterMember_end hsame⟩

theorem determined_adminSensitiveText : Determined adminSensitiveText := by
  intro left right rest other _ _ hsame
  obtain ⟨hdenials, hsame⟩ := determined_integer.first hsame
  obtain ⟨hsuccesses, hsame⟩ := determined_integer.next hsame
  exact ⟨by rw [AdminSensitiveWindowMetrics.mk.injEq]; exact ⟨hdenials, hsuccesses⟩, afterMember_end hsame⟩

theorem determined_fanoutText : Determined fanoutText := by
  intro left right rest other _ _ hsame
  obtain ⟨hlater, hsame⟩ := determined_integer.first hsame
  obtain ⟨hsooner, hsame⟩ := determined_integer.next hsame
  exact ⟨by rw [FanoutGapSnapshot.mk.injEq]; exact ⟨hlater, hsooner⟩, afterMember_end hsame⟩

theorem determined_logoutCurrentText : Determined logoutCurrentText := by
  intro left right rest other _ _ hsame
  obtain ⟨hdead, hsame⟩ := determined_integer.first hsame
  obtain ⟨hunresolved, hsame⟩ := determined_integer.next hsame
  obtain ⟨hage, hsame⟩ := determined_nullableInteger.next hsame
  exact ⟨by rw [LogoutDeliveryCurrentSnapshot.mk.injEq]; exact ⟨hdead, hunresolved, hage⟩, afterMember_end hsame⟩

theorem determined_logoutText : Determined logoutText := by
  intro left right rest other _ _ hsame
  obtain ⟨heligible, hsame⟩ := determined_integer.first hsame
  obtain ⟨hexpired, hsame⟩ := determined_integer.next hsame
  obtain ⟨hunresolved, hsame⟩ := determined_integer.next hsame
  exact ⟨by rw [LogoutDeliveryWindowMetrics.mk.injEq]; exact ⟨heligible, hexpired, hunresolved⟩,
    afterMember_end hsame⟩

theorem determined_runtimeText : Determined runtimeText := by
  intro left right rest other _ _ hsame
  obtain ⟨hdead, hsame⟩ := determined_integer.first hsame
  obtain ⟨hage, hsame⟩ := determined_nullableInteger.next hsame
  obtain ⟨hdue, hsame⟩ := determined_nullableInteger.next hsame
  exact ⟨by rw [AlertRuntimeSnapshot.mk.injEq]; exact ⟨hdead, hage, hdue⟩, afterMember_end hsame⟩

theorem determined_queueText : Determined queueText := by
  intro left right rest other _ _ hsame
  obtain ⟨hbytes, hsame⟩ := determined_nullableInteger.first hsame
  obtain ⟨hcount, hsame⟩ := determined_nullableInteger.next hsame
  obtain ⟨hsamples, hsame⟩ := determined_nullableInteger.next hsame
  obtain ⟨hsince, hsame⟩ := determined_nullableInstant.next hsame
  obtain ⟨holdest, hsame⟩ := determined_nullableInstant.next hsame
  obtain ⟨hsampled, hsame⟩ := determined_nullableInstant.next hsame
  exact ⟨by rw [QueueDepthSnapshot.mk.injEq]; exact ⟨hbytes, hcount, hsamples, hsince, holdest, hsampled⟩,
    afterMember_end hsame⟩

/-- The measured members determine the measures, given their shape. -/
theorem measuresAfter_determined {left right : AlertMeasures QueueDepthSnapshot} {rest other : Text}
    (hshape : left.shape = right.shape) (hlogout : left.shape ≠ .logout)
    (hsame : afterMember [measuresAfter left] ++ rest = afterMember [measuresAfter right] ++ other) :
    left = right := by
  cases left with
  | count windows =>
    cases right <;> cases hshape
    exact congrArg AlertMeasures.count ((determined_windowsText determined_countText).next hsame).1
  | ratio windows =>
    cases right <;> cases hshape
    exact congrArg AlertMeasures.ratio ((determined_windowsText determined_ratioText).next hsame).1
  | restricted windows =>
    cases right <;> cases hshape
    exact congrArg AlertMeasures.restricted ((determined_windowsText determined_restrictedText).next hsame).1
  | recoveryEntry windows =>
    cases right <;> cases hshape
    exact congrArg AlertMeasures.recoveryEntry ((determined_windowsText determined_recoveryEntryText).next hsame).1
  | oauth windows =>
    cases right <;> cases hshape
    exact congrArg AlertMeasures.oauth ((determined_windowsText determined_oauthText).next hsame).1
  | adminSensitive windows =>
    cases right <;> cases hshape
    exact congrArg AlertMeasures.adminSensitive ((determined_windowsText determined_adminSensitiveText).next hsame).1
  | fanout snapshot =>
    cases right <;> cases hshape
    exact congrArg AlertMeasures.fanout (determined_fanoutText.next hsame).1
  | logout current windows => exact absurd rfl hlogout
  | runtime snapshot =>
    cases right <;> cases hshape
    exact congrArg AlertMeasures.runtime (determined_runtimeText.next hsame).1
  | queue snapshot =>
    cases right <;> cases hshape
    exact congrArg AlertMeasures.queue (determined_queueText.next hsame).1

theorem measuresBefore_eq_nil {measures : AlertMeasures QueueDepthSnapshot} (hlogout : measures.shape ≠ .logout) :
    measuresBefore measures = [] := by
  cases measures with
  | logout current windows => exact absurd rfl hlogout
  | _ => rfl

end measures

section observations

/-- What is accepted of an observation beside its numbers. -/
structure Admitted (observation : AlertRuleObservation) : Prop where
  dimension : observation.dimension.Accepted (ALERT_RULE_DEFINITIONS observation.ruleId).dimensions
  shape : observation.measures.shape = observation.ruleId.shape

theorem parseAlertObservation_admitted {value : AlertObservationInput} {observation : AlertRuleObservation}
    (hparsed : parseAlertObservation value = .ok observation) : Admitted observation := by
  obtain ⟨-, hrule, hdimension, haccepted⟩ := parseAlertObservation_identity hparsed
  rw [← hrule, ← hdimension] at haccepted
  exact ⟨haccepted, parseAlertObservation_shape hparsed⟩

variable {left right : AlertRuleObservation}

/-- The identity of an accepted observation is its dimension and its rule. -/
theorem semanticIdentity_eq_iff (hleft : Admitted left) (hright : Admitted right) :
    semanticIdentity left = semanticIdentity right ↔ left.dimension = right.dimension ∧ left.ruleId = right.ruleId := by
  constructor
  · intro hsame
    have hsame : semanticIdentity left ++ [] = semanticIdentity right ++ [] := by rw [hsame]
    obtain ⟨hdimension, hsame⟩ :=
      dimensionText_determined hleft.dimension.2 hright.dimension.2 (json.first_cancel hsame)
    exact ⟨hdimension, (determined_ruleId.next hsame).1⟩
  · rintro ⟨hdimension, hrule⟩
    rw [semanticIdentity, semanticIdentity, hdimension, hrule]

/-- The canonical text of an accepted observation determines it. -/
theorem observationText_inj (hleft : Admitted left) (hright : Admitted right) (hrule : left.ruleId = right.ruleId)
    (hsame : observationText left = observationText right) : left = right := by
  have hshape : left.measures.shape = right.measures.shape := by rw [hleft.shape, hright.shape, hrule]
  have hsame : observationText left ++ [] = observationText right ++ [] := by rw [hsame]
  obtain ⟨hasOf, hsame⟩ := determined_instant.first hsame
  have hparts : left.dimension = right.dimension ∧ left.measures = right.measures := by
    by_cases hlogout : left.measures.shape = .logout
    · have hlogout' := hlogout
      rw [hshape] at hlogout'
      cases hleftMeasures : left.measures with
      | logout current windows =>
        cases hrightMeasures : right.measures with
        | logout otherCurrent otherWindows =>
          rw [hleftMeasures, hrightMeasures] at hsame
          obtain ⟨hcurrent, hsame⟩ := determined_logoutCurrentText.next hsame
          obtain ⟨hdimension, hsame⟩ :=
            dimensionText_determined hleft.dimension.2 hright.dimension.2 (json.next_cancel hsame)
          obtain ⟨-, hsame⟩ := determined_ruleId.next hsame
          obtain ⟨hwindows, -⟩ := (determined_windowsText determined_logoutText).next hsame
          exact ⟨hdimension, by rw [hcurrent, hwindows]⟩
        | _ => rw [hrightMeasures] at hlogout'; cases hlogout'
      | _ => rw [hleftMeasures] at hlogout; cases hlogout
    · rw [measuresBefore_eq_nil hlogout, measuresBefore_eq_nil (hshape ▸ hlogout)] at hsame
      obtain ⟨hdimension, hsame⟩ :=
        dimensionText_determined hleft.dimension.2 hright.dimension.2 (json.next_cancel hsame)
      obtain ⟨-, hsame⟩ := determined_ruleId.next hsame
      exact ⟨hdimension, measuresAfter_determined hshape hlogout hsame⟩
  rw [AlertObservation.mk.injEq]
  exact ⟨hasOf, hparts.1, hrule, hparts.2⟩

end observations

end orchestration

end pgid.alert
