import PgidSso.Library.Checked
import PgidSso.Library.Timestamp

open checked

namespace pgid.alert

inductive AlertRuleId
  | registrationRateLimited
  | registrationDenied
  | registrationChallengeUnavailable
  | registrationRestrictedCreated
  | restrictedSensitiveDenied
  | recoveryEntryAbuse
  | recoveryPasskeyFailure
  | passkeyStepUpFailure
  | oauthClientReport
  | adminSensitiveActivity
  | adminDirectoryVolume
  | securityFanoutGap
  | logoutDeliveryHealth
  | alertRuntimeHealth
  | queueDlqApproximate
  deriving DecidableEq, Repr

def ALERT_RULE_IDS : List AlertRuleId :=
  [.registrationRateLimited, .registrationDenied, .registrationChallengeUnavailable,
    .registrationRestrictedCreated, .restrictedSensitiveDenied, .recoveryEntryAbuse,
    .recoveryPasskeyFailure, .passkeyStepUpFailure, .oauthClientReport,
    .adminSensitiveActivity, .adminDirectoryVolume, .securityFanoutGap,
    .logoutDeliveryHealth, .alertRuntimeHealth, .queueDlqApproximate]

/-- The text a rule is stored and reported under. -/
def AlertRuleId.text : AlertRuleId → String
  | .registrationRateLimited => "pgid.registration.rate_limited.v1"
  | .registrationDenied => "pgid.registration.denied.v1"
  | .registrationChallengeUnavailable => "pgid.registration.challenge_unavailable.v1"
  | .registrationRestrictedCreated => "pgid.registration.restricted_created.v1"
  | .restrictedSensitiveDenied => "pgid.restricted.sensitive_denied.v1"
  | .recoveryEntryAbuse => "pgid.recovery.entry_abuse.v1"
  | .recoveryPasskeyFailure => "pgid.recovery.passkey_failure.v1"
  | .passkeyStepUpFailure => "pgid.passkey.step_up_failure.v1"
  | .oauthClientReport => "pgid.oauth.client_report.v1"
  | .adminSensitiveActivity => "pgid.admin.sensitive_activity.v1"
  | .adminDirectoryVolume => "pgid.admin.directory_volume.v1"
  | .securityFanoutGap => "pgid.security.fanout_gap.v1"
  | .logoutDeliveryHealth => "pgid.logout.delivery_health.v1"
  | .alertRuntimeHealth => "pgid.alert.runtime_health.v1"
  | .queueDlqApproximate => "pgid.queue.dlq_approximate.v1"

theorem AlertRuleId.mem_ids (ruleId : AlertRuleId) : ruleId ∈ ALERT_RULE_IDS := by
  cases ruleId <;> decide

inductive AlertSeverity
  | none
  | warning
  | critical
  deriving DecidableEq, Repr

/-- `Exclude<AlertSeverity, "none">`. -/
inductive ActiveAlertSeverity
  | warning
  | critical
  deriving DecidableEq, Repr

def ActiveAlertSeverity.severity : ActiveAlertSeverity → AlertSeverity
  | .warning => .warning
  | .critical => .critical

@[simp] theorem ActiveAlertSeverity.severity_inj {left right : ActiveAlertSeverity} :
    left.severity = right.severity ↔ left = right := by
  cases left <;> cases right <;> simp [severity]

@[simp] theorem ActiveAlertSeverity.severity_ne_none (severity : ActiveAlertSeverity) :
    severity.severity ≠ .none := by
  cases severity <;> simp [ActiveAlertSeverity.severity]

theorem ActiveAlertSeverity.warning_or_critical (severity : ActiveAlertSeverity) :
    severity = .warning ∨ severity = .critical := by
  cases severity <;> simp

inductive AlertEvidenceStatus
  | known
  | unknown
  deriving DecidableEq, Repr

inductive AlertResolutionMode
  | automatic
  | manual
  deriving DecidableEq, Repr

inductive AlertSourceKind
  | d1Exact
  | queueApproximate
  deriving DecidableEq, Repr

inductive AlertWindowKey
  | w5m
  | w15m
  | w60m
  deriving DecidableEq, Repr

def ALERT_WINDOW_KEYS : List AlertWindowKey := [.w5m, .w15m, .w60m]

def ALERT_EVIDENCE_WINDOW_ORDER : List AlertWindowKey := ALERT_WINDOW_KEYS

def ALERT_WINDOW_SECONDS : AlertWindowKey → Int
  | .w5m => 300
  | .w15m => 900
  | .w60m => 3600

/-- `Readonly<Record<AlertWindowKey, T>>`. -/
structure Windowed (T : Type) where
  w5m : T
  w15m : T
  w60m : T
  deriving DecidableEq, Repr

def Windowed.at {T : Type} (windows : Windowed T) : AlertWindowKey → T
  | .w5m => windows.w5m
  | .w15m => windows.w15m
  | .w60m => windows.w60m

def Windowed.map {T U : Type} (f : T → U) (windows : Windowed T) : Windowed U :=
  ⟨f windows.w5m, f windows.w15m, f windows.w60m⟩

@[simp] theorem Windowed.at_map {T U : Type} (f : T → U) (windows : Windowed T)
    (window : AlertWindowKey) : (windows.map f).at window = f (windows.at window) := by
  cases window <;> rfl

/-- The values in the order of `ALERT_WINDOW_KEYS`. -/
def Windowed.entries {T : Type} (windows : Windowed T) : List T :=
  [windows.w5m, windows.w15m, windows.w60m]

inductive AlertQueueName
  | securityEventsDlq
  | logoutDeliveriesDlq
  | alertDeliveriesDlq
  | auditArchiveDlq
  deriving DecidableEq, Repr

inductive AlertHashedDimensionKind
  | subjectHmac
  | actorHmac
  | clientHmac
  deriving DecidableEq, Repr

inductive AlertDimensionKind
  | global
  | hashed (kind : AlertHashedDimensionKind)
  | queue
  deriving DecidableEq, Repr

structure HashedAlertReference where
  keyVersion : Int
  value : String
  deriving DecidableEq, Repr

inductive AlertDimension
  | global
  | hashed (kind : AlertHashedDimensionKind) (reference : HashedAlertReference)
  | queue (queue : AlertQueueName)
  deriving DecidableEq, Repr

def AlertDimension.kind : AlertDimension → AlertDimensionKind
  | .global => .global
  | .hashed kind _ => .hashed kind
  | .queue _ => .queue

structure AlertWindowDescriptor where
  endExclusive : Timestamp
  key : AlertWindowKey
  minutes : Int
  startInclusive : Timestamp
  deriving DecidableEq

def alertWindowAt (asOf : Timestamp) (key : AlertWindowKey) :
    Except String AlertWindowDescriptor := do
  let startInclusive ← Timestamp.ofMs (asOf.ms - ALERT_WINDOW_SECONDS key * 1000)
  return { endExclusive := asOf, key, minutes := ALERT_WINDOW_SECONDS key / 60, startInclusive }

def alertWindowsAt (asOf : Timestamp) : Except String (List AlertWindowDescriptor) :=
  ALERT_WINDOW_KEYS.mapM (alertWindowAt asOf)

/-- The windows of an evaluation exist exactly when the longest one starts inside
the time range. -/
theorem alertWindowsAt_ok_iff {asOf : Timestamp} :
    (∃ windows, alertWindowsAt asOf = .ok windows) ↔
      -Timestamp.maximumMs + 3600000 ≤ asOf.ms := by
  have hrange := asOf.inRange
  simp only [Timestamp.maximumMs] at hrange ⊢
  have hwindow : ∀ key, (∃ window, alertWindowAt asOf key = .ok window) ↔
      -Timestamp.maximumMs + ALERT_WINDOW_SECONDS key * 1000 ≤ asOf.ms := by
    intro key
    simp only [alertWindowAt, bind_eq_ok_iff, pure_eq_ok_iff, Timestamp.ofMs_eq_ok_iff]
    constructor
    · rintro ⟨_, start, hstart, _⟩
      have := start.inRange
      omega
    · intro hstart
      refine ⟨_, ⟨asOf.ms - ALERT_WINDOW_SECONDS key * 1000, ?_⟩, rfl, rfl⟩
      simp only [Timestamp.maximumMs] at hstart ⊢
      cases key <;> simp only [ALERT_WINDOW_SECONDS] at hstart ⊢ <;> omega
  simp only [alertWindowsAt, ALERT_WINDOW_KEYS, List.mapM_cons, List.mapM_nil, bind_eq_ok_iff,
    pure_eq_ok_iff]
  constructor
  · rintro ⟨_, _, _, _, ⟨_, _, _, ⟨third, hthird, _⟩, _⟩, _⟩
    have := (hwindow .w60m).mp ⟨third, hthird⟩
    simp only [Timestamp.maximumMs, ALERT_WINDOW_SECONDS] at this
    omega
  · intro hstart
    have hall : ∀ key, ∃ window, alertWindowAt asOf key = .ok window := by
      intro key
      rw [hwindow key]
      cases key <;> simp only [Timestamp.maximumMs, ALERT_WINDOW_SECONDS] <;> omega
    obtain ⟨first, hfirst⟩ := hall .w5m
    obtain ⟨second, hsecond⟩ := hall .w15m
    obtain ⟨third, hthird⟩ := hall .w60m
    refine ⟨[first, second, third], first, hfirst, [second, third], ?_, rfl⟩
    exact ⟨second, hsecond, [third], ⟨third, hthird, [], rfl, rfl⟩, rfl⟩

/-- `base64UrlIndex`: the six-bit value of a base64url character. -/
def base64UrlIndex (character : Char) : Int :=
  let code : Int := character.toNat
  if 65 ≤ code ∧ code ≤ 90 then code - 65
  else if 97 ≤ code ∧ code ≤ 122 then code - 97 + 26
  else if 48 ≤ code ∧ code ≤ 57 then code - 48 + 52
  else if character = '-' then 62
  else if character = '_' then 63
  else -1

/-- `/^[A-Za-z0-9_-]{43}$/`. -/
def matchesHmacReferencePattern (value : String) : Prop :=
  value.length = 43 ∧ ∀ character ∈ value.toList, 0 ≤ base64UrlIndex character

instance (value : String) : Decidable (matchesHmacReferencePattern value) :=
  @instDecidableAnd _ _ inferInstance (List.decidableBAll _ _)

/-- Forty-three characters that encode exactly thirty-two bytes: the two spare
bits of the last one are zero. -/
def isCanonicalBase64Url32 (value : String) : Prop :=
  matchesHmacReferencePattern value ∧
    ∃ final ∈ value.toList.getLast?, 0 ≤ base64UrlIndex final ∧ base64UrlIndex final % 4 = 0

instance (value : String) : Decidable (isCanonicalBase64Url32 value) :=
  @instDecidableAnd _ _ inferInstance (Option.decidableExistsMem _)

def parseHashedReference (reference : HashedAlertReference) :
    Except String HashedAlertReference := do
  throwIf (reference.keyVersion ≠ 1) "alert reference key version must be 1"
  throwIf (¬ isCanonicalBase64Url32 reference.value)
    "alert reference must be a canonical unpadded base64url HMAC"
  return { keyVersion := 1, value := reference.value }

/-- The dimension kinds and queue names a request may name are the constructors of
`AlertDimension`, so only the allowance of the rule and the reference are left
to check. -/
def parseAlertDimension (dimension : AlertDimension) (allowed : List AlertDimensionKind) :
    Except String AlertDimension := do
  throwIf (dimension.kind ∉ allowed) "alert dimension is not allowed"
  match dimension with
  | .global => return .global
  | .queue queue => return .queue queue
  | .hashed kind reference =>
    let reference ← parseHashedReference reference
    return .hashed kind reference

theorem parseHashedReference_eq_ok_iff {reference result : HashedAlertReference} :
    parseHashedReference reference = .ok result ↔
      reference.keyVersion = 1 ∧ isCanonicalBase64Url32 reference.value ∧ result = reference := by
  simp only [parseHashedReference, throwIf_bind_eq_ok_iff, pure_eq_ok_iff, Decidable.not_not]
  obtain ⟨keyVersion, value⟩ := reference
  constructor
  · rintro ⟨rfl, hvalue, rfl⟩
    exact ⟨rfl, hvalue, rfl⟩
  · rintro ⟨rfl, hvalue, rfl⟩
    exact ⟨rfl, hvalue, rfl⟩

/-- What `parseAlertDimension` demands of the dimension it returns unchanged. -/
def AlertDimension.Accepted (allowed : List AlertDimensionKind) (dimension : AlertDimension) : Prop :=
  dimension.kind ∈ allowed ∧
    ∀ kind reference, dimension = .hashed kind reference →
      reference.keyVersion = 1 ∧ isCanonicalBase64Url32 reference.value

theorem parseAlertDimension_eq_ok_iff {dimension result : AlertDimension}
    {allowed : List AlertDimensionKind} :
    parseAlertDimension dimension allowed = .ok result ↔
      dimension.Accepted allowed ∧ result = dimension := by
  unfold parseAlertDimension
  rw [throwIf_bind_eq_ok_iff, Decidable.not_not]
  cases dimension with
  | global => simp [AlertDimension.Accepted, Pure.pure, Except.pure, eq_comm]
  | queue queue => simp [AlertDimension.Accepted, Pure.pure, Except.pure, eq_comm]
  | hashed kind reference =>
    simp only [bind_eq_ok_iff, pure_eq_ok_iff, parseHashedReference_eq_ok_iff,
      AlertDimension.Accepted, AlertDimension.hashed.injEq]
    constructor
    · rintro ⟨hallowed, reference', ⟨hversion, hvalue, rfl⟩, rfl⟩
      refine ⟨⟨hallowed, ?_⟩, rfl⟩
      rintro _ _ ⟨rfl, rfl⟩
      exact ⟨hversion, hvalue⟩
    · rintro ⟨⟨hallowed, hreference⟩, rfl⟩
      obtain ⟨hversion, hvalue⟩ := hreference kind reference ⟨rfl, rfl⟩
      exact ⟨hallowed, reference, ⟨hversion, hvalue, rfl⟩, rfl⟩

end pgid.alert
