import PgidSso.Alert.Rules.Evaluate

open checked

namespace pgid.alert

/-- The bounds that every metric of an accepted observation keeps. -/
structure MetricBag.InDomain (metrics : MetricBag) : Prop where
  value : ∀ metric value, metrics metric = some value → 0 ≤ value ∧ value ≤ MAX_EVIDENCE_VALUE
  ratio : ∀ numerator denominator, metrics .numerator = some numerator →
    metrics .denominator = some denominator → numerator ≤ denominator ∧ denominator ≤ MAX_RATIO_FIELD
  missing : ∀ value, metrics .evaluatorMissing = some value → value ≤ 1
  surfaces : ∀ surfaces, metrics .knownSurfaces = some surfaces →
    surfaces ≤ RESTRICTED_ALERT_SURFACE_COUNT ∧ ∃ count ∈ metrics .count, surfaces ≤ count

theorem metricBag_eq_some {fields : List (InternalMetricName × Int)} {metric : InternalMetricName}
    {value : Int} (hlookup : metricBag fields metric = some value) : (metric, value) ∈ fields := by
  unfold metricBag at hlookup
  induction fields with
  | nil =>
    rw [List.lookup_nil] at hlookup
    cases hlookup
  | cons field fields ih =>
    obtain ⟨name, first⟩ := field
    rw [List.lookup_cons] at hlookup
    by_cases hname : metric = name
    · subst hname
      simp only [beq_self_eq_true, Option.some.injEq] at hlookup
      simp [hlookup]
    · rw [beq_false_of_ne hname] at hlookup
      exact List.mem_cons_of_mem _ (ih hlookup)

/-- The domain of a bag, read off its fields. -/
theorem MetricBag.InDomain.of_fields {fields : List (InternalMetricName × Int)}
    (hvalue : ∀ field ∈ fields, 0 ≤ field.2 ∧ field.2 ≤ MAX_EVIDENCE_VALUE)
    (hratio : ∀ numerator denominator, (.numerator, numerator) ∈ fields →
      (.denominator, denominator) ∈ fields → numerator ≤ denominator ∧ denominator ≤ MAX_RATIO_FIELD)
    (hmissing : ∀ value, (.evaluatorMissing, value) ∈ fields → value ≤ 1)
    (hsurfaces : ∀ surfaces, (.knownSurfaces, surfaces) ∈ fields →
      surfaces ≤ RESTRICTED_ALERT_SURFACE_COUNT ∧ ∃ count ∈ metricBag fields .count, surfaces ≤ count) :
    (metricBag fields).InDomain where
  value _ _ hlookup := hvalue _ (metricBag_eq_some hlookup)
  ratio _ _ hnumerator hdenominator :=
    hratio _ _ (metricBag_eq_some hnumerator) (metricBag_eq_some hdenominator)
  missing _ hlookup := hmissing _ (metricBag_eq_some hlookup)
  surfaces _ hlookup := hsurfaces _ (metricBag_eq_some hlookup)

theorem nullableInteger_eq_ok_iff {value result : Option Int} {name : String} {maximum : Int} :
    nullableInteger value name maximum = .ok result ↔
      (∀ number ∈ value, 0 ≤ number ∧ number ≤ maximum) ∧ result = value := by
  cases value with
  | none => simp [nullableInteger, eq_comm]
  | some number =>
    rw [nullableInteger, nullable_some_eq_ok_iff]
    simp only [integer_eq_ok_iff, Option.some.injEq, Option.mem_def]
    constructor
    · rintro ⟨_, ⟨rfl, hlow, hhigh⟩, rfl⟩
      exact ⟨fun _ hnumber => hnumber ▸ ⟨hlow, hhigh⟩, rfl⟩
    · rintro ⟨hbounds, rfl⟩
      exact ⟨number, ⟨rfl, hbounds number rfl⟩, rfl⟩

theorem nullableInteger_eq_ok {value result : Option Int} {name : String} {maximum : Int}
    (hparse : nullableInteger value name maximum = .ok result) :
    result = value ∧ ∀ number ∈ result, 0 ≤ number ∧ number ≤ maximum := by
  obtain ⟨hbounds, rfl⟩ := nullableInteger_eq_ok_iff.mp hparse
  exact ⟨rfl, hbounds⟩

/-- Windows are accepted as they are when each of them is. -/
theorem parseWindows_eq_ok_iff {T : Type} {P : T → Prop} {parser : T → Except String T}
    (hparser : ∀ {entry result}, parser entry = .ok result ↔ P entry ∧ result = entry)
    {record windows : Windowed T} :
    parseWindows parser record = .ok windows ↔ (∀ window, P (record.at window)) ∧ windows = record := by
  simp only [parseWindows, bind_eq_ok_iff, pure_eq_ok_iff, hparser]
  constructor
  · rintro ⟨_, ⟨hfirst, rfl⟩, _, ⟨hsecond, rfl⟩, _, ⟨hthird, rfl⟩, rfl⟩
    refine ⟨?_, rfl⟩
    intro window
    cases window with
    | w5m => exact hfirst
    | w15m => exact hsecond
    | w60m => exact hthird
  · rintro ⟨hvalid, rfl⟩
    exact ⟨_, ⟨hvalid .w5m, rfl⟩, _, ⟨hvalid .w15m, rfl⟩, _, ⟨hvalid .w60m, rfl⟩, rfl⟩

theorem nondecreasing_three {first second third : Int} {name : String} {result : Unit} :
    nondecreasing [first, second, third] name = .ok result ↔ first ≤ second ∧ second ≤ third := by
  rw [nondecreasing, throwIf_bind_eq_ok_iff, nondecreasing, throwIf_bind_eq_ok_iff, nondecreasing]
  · simp only [and_true]
    omega
  · simp

theorem parseWindows_forall {T : Type} {P : T → Prop} {parser : T → Except String T}
    {record windows : Windowed T} (hparser : ∀ {entry result}, parser entry = .ok result → P result)
    (hparse : parseWindows parser record = .ok windows) (window : AlertWindowKey) :
    P (windows.at window) := by
  simp only [parseWindows, bind_eq_ok_iff, pure_eq_ok_iff] at hparse
  obtain ⟨w5m, hw5m, w15m, hw15m, w60m, hw60m, rfl⟩ := hparse
  cases window with
  | w5m => exact hparser hw5m
  | w15m => exact hparser hw15m
  | w60m => exact hparser hw60m

private theorem ratio_le_evidence {value : Int} (hle : value ≤ MAX_RATIO_FIELD) :
    value ≤ MAX_EVIDENCE_VALUE :=
  Int.le_trans hle (by decide)

theorem parseCountMetrics_inDomain {record metrics : CountWindowMetrics}
    (hparse : parseCountMetrics record = .ok metrics) : (countBag metrics).InDomain := by
  simp only [parseCountMetrics, bind_eq_ok_iff, integer_eq_ok_iff, pure_eq_ok_iff] at hparse
  obtain ⟨count, ⟨-, hcount⟩, rfl⟩ := hparse
  apply MetricBag.InDomain.of_fields <;> simp [hcount]

theorem parseRatioMetrics_inDomain {record metrics : RatioWindowMetrics}
    (hparse : parseRatioMetrics record = .ok metrics) : (ratioBag metrics).InDomain := by
  simp only [parseRatioMetrics, bind_eq_ok_iff, throwIf_eq_ok_iff, exists_const, integer_eq_ok_iff,
    pure_eq_ok_iff, Int.not_lt] at hparse
  obtain ⟨denominator, ⟨-, hdenominator⟩, numerator, ⟨-, hnumerator⟩, hle, rfl⟩ := hparse
  apply MetricBag.InDomain.of_fields <;>
    simp [hle, hdenominator, hnumerator, ratio_le_evidence]

theorem parseRestrictedMetrics_inDomain {record metrics : RestrictedDenialWindowMetrics}
    (hparse : parseRestrictedMetrics record = .ok metrics) : (restrictedBag metrics).InDomain := by
  simp only [parseRestrictedMetrics, bind_eq_ok_iff, throwIf_eq_ok_iff, exists_const,
    integer_eq_ok_iff, pure_eq_ok_iff] at hparse
  obtain ⟨count, ⟨-, hcount⟩, knownSurfaces, ⟨-, hknown⟩, hsurfaces, rfl⟩ := hparse
  simp only [not_or, Int.not_lt] at hsurfaces
  have hread : metricBag [(.count, count), (.knownSurfaces, knownSurfaces)] .count = some count := rfl
  apply MetricBag.InDomain.of_fields <;> simp [hcount, hknown, hsurfaces, hread]

theorem parseRecoveryEntryMetrics_inDomain {record metrics : RecoveryEntryWindowMetrics}
    (hparse : parseRecoveryEntryMetrics record = .ok metrics) :
    (recoveryEntryBag metrics).InDomain := by
  simp only [parseRecoveryEntryMetrics, bind_eq_ok_iff, throwIf_eq_ok_iff, exists_const,
    integer_eq_ok_iff, pure_eq_ok_iff, Int.not_lt] at hparse
  obtain ⟨denied, ⟨-, hdenied⟩, rateLimited, ⟨-, hlimited⟩, started, ⟨-, hstarted⟩, htotal, rfl⟩ :=
    hparse
  apply MetricBag.InDomain.of_fields <;>
    simp [hdenied, hlimited, hstarted, htotal, ratio_le_evidence, Int.add_nonneg,
      Int.le_add_of_nonneg_right]

theorem parseOAuthMetrics_inDomain {record metrics : OAuthClientReportWindowMetrics}
    (hparse : parseOAuthMetrics record = .ok metrics) : (oauthBag metrics).InDomain := by
  simp only [parseOAuthMetrics, bind_eq_ok_iff, throwIf_eq_ok_iff, exists_const,
    integer_eq_ok_iff, pure_eq_ok_iff] at hparse
  obtain ⟨count, ⟨-, hcount⟩, reporters, hreporters, highRisk, ⟨-, hhighRisk⟩, -, rfl⟩ := hparse
  obtain ⟨-, hreporters⟩ := nullableInteger_eq_ok hreporters
  cases reporters with
  | none => apply MetricBag.InDomain.of_fields <;> simp [optionalField, hcount, hhighRisk]
  | some number =>
    have hnumber := hreporters number rfl
    apply MetricBag.InDomain.of_fields <;> simp [optionalField, hcount, hhighRisk, hnumber]

theorem parseAdminSensitiveMetrics_inDomain {record metrics : AdminSensitiveWindowMetrics}
    (hparse : parseAdminSensitiveMetrics record = .ok metrics) :
    (adminSensitiveBag metrics).InDomain := by
  simp only [parseAdminSensitiveMetrics, bind_eq_ok_iff, throwIf_eq_ok_iff, exists_const,
    integer_eq_ok_iff, pure_eq_ok_iff, Int.not_lt] at hparse
  obtain ⟨denials, ⟨-, hdenials⟩, successes, ⟨-, hsuccesses⟩, htotal, rfl⟩ := hparse
  rw [Int.add_comm] at htotal
  apply MetricBag.InDomain.of_fields <;> simp [hdenials, hsuccesses, htotal, Int.add_nonneg]

theorem parseFanoutSnapshot_inDomain {record snapshot : FanoutGapSnapshot}
    (hparse : parseFanoutSnapshot record = .ok snapshot) :
    (metricBag [(.missingOlderThan5mCount, snapshot.missingOlderThan5mCount)]).InDomain ∧
      (metricBag [(.missingOlderThan15mCount, snapshot.missingOlderThan15mCount)]).InDomain := by
  simp only [parseFanoutSnapshot, bind_eq_ok_iff, throwIf_eq_ok_iff, exists_const,
    integer_eq_ok_iff, pure_eq_ok_iff] at hparse
  obtain ⟨older15m, ⟨-, holder15m⟩, older5m, ⟨-, holder5m⟩, -, rfl⟩ := hparse
  constructor
  · apply MetricBag.InDomain.of_fields <;> simp [holder5m]
  · apply MetricBag.InDomain.of_fields <;> simp [holder15m]

/-- A nullable count, read with the fallback zero. -/
private theorem getD_zero_inDomain {value : Option Int}
    (hvalue : ∀ number ∈ value, 0 ≤ number ∧ number ≤ MAX_EVIDENCE_VALUE) :
    0 ≤ value.getD 0 ∧ value.getD 0 ≤ MAX_EVIDENCE_VALUE := by
  cases value with
  | none => decide
  | some number => exact hvalue number rfl

theorem parseLogoutMetrics_inDomain {currentRecord current : LogoutDeliveryCurrentSnapshot}
    {record metrics : LogoutDeliveryWindowMetrics}
    (hcurrent : parseLogoutCurrentSnapshot currentRecord = .ok current)
    (hparse : parseLogoutMetrics record = .ok metrics) : (logoutBag current metrics).InDomain := by
  simp only [parseLogoutCurrentSnapshot, bind_eq_ok_iff, throwIf_eq_ok_iff, exists_const,
    integer_eq_ok_iff, pure_eq_ok_iff] at hcurrent
  obtain ⟨dead, ⟨-, hdead⟩, unresolvedNow, -, oldest, holdest, -, -, rfl⟩ := hcurrent
  have hage := getD_zero_inDomain (nullableInteger_eq_ok holdest).2
  simp only [parseLogoutMetrics, bind_eq_ok_iff, throwIf_eq_ok_iff, exists_const,
    integer_eq_ok_iff, pure_eq_ok_iff, Int.not_lt] at hparse
  obtain ⟨eligible, ⟨-, heligible⟩, leases, ⟨-, hleases⟩, unresolved, ⟨-, hunresolved⟩, hle, rfl⟩ :=
    hparse
  apply MetricBag.InDomain.of_fields <;>
    simp [hdead, heligible, hleases, hunresolved, hle, hage, ratio_le_evidence]

theorem parseRuntimeSnapshot_inDomain {record snapshot : AlertRuntimeSnapshot}
    (hparse : parseRuntimeSnapshot record = .ok snapshot) : (runtimeBag snapshot).InDomain := by
  simp only [parseRuntimeSnapshot, bind_eq_ok_iff, integer_eq_ok_iff, pure_eq_ok_iff] at hparse
  obtain ⟨dead, ⟨-, hdead⟩, evaluatorAge, hevaluator, outboxAge, houtbox, rfl⟩ := hparse
  have hevaluatorAge := getD_zero_inDomain (nullableInteger_eq_ok hevaluator).2
  have houtboxAge := getD_zero_inDomain (nullableInteger_eq_ok houtbox).2
  have hmissing : 0 ≤ (if evaluatorAge = none then (1 : Int) else 0) ∧
      (if evaluatorAge = none then (1 : Int) else 0) ≤ 1 := by
    split <;> decide
  have hmissingValue : (if evaluatorAge = none then (1 : Int) else 0) ≤ MAX_EVIDENCE_VALUE :=
    Int.le_trans hmissing.2 (by decide)
  apply MetricBag.InDomain.of_fields
  · simp only [List.mem_cons, List.not_mem_nil, or_false]
    rintro field (rfl | rfl | rfl | rfl)
    · exact hdead
    · exact hevaluatorAge
    · exact ⟨hmissing.1, hmissingValue⟩
    · exact houtboxAge
  · simp
  · rintro value hmem
    simp only [List.mem_cons, Prod.mk.injEq, reduceCtorEq, false_and, true_and, List.not_mem_nil,
      or_false, false_or] at hmem
    rw [hmem]
    exact hmissing.2
  · simp

private theorem queueBindingInteger_snd {value : Option Int} {maximum number : Int}
    (hvalue : (queueBindingInteger value maximum).2 = some number) :
    0 ≤ number ∧ number ≤ maximum := by
  unfold queueBindingInteger at hvalue
  cases value with
  | none => simp at hvalue
  | some value =>
    simp only at hvalue
    split at hvalue
    · simp at hvalue
    · simp only [Option.some.injEq] at hvalue
      omega

theorem parseQueueSnapshot_bounds {record : QueueBindingSnapshot} {snapshot : QueueDepthSnapshot}
    (hparse : parseQueueSnapshot record = .ok snapshot) :
    (∀ count, snapshot.backlogCount = some count → 0 ≤ count ∧ count ≤ MAX_EVIDENCE_VALUE) ∧
      ∀ samples, snapshot.consecutiveNonzeroSamples = some samples →
        0 ≤ samples ∧ samples ≤ MAX_RATIO_FIELD := by
  simp only [parseQueueSnapshot, bind_eq_ok_iff, pure_eq_ok_iff] at hparse
  obtain ⟨streak, hstreak, rfl⟩ := hparse
  refine ⟨fun count hcount => ?_, (nullableInteger_eq_ok hstreak).2⟩
  simp only at hcount
  split at hcount
  · exact queueBindingInteger_snd hcount
  · simp at hcount

private theorem knownBacklog_bounds {backlogBytes depth samples : Int}
    {sampledAt nonzeroSinceAt oldestMessageTimestamp : Timestamp} {known : KnownQueueSnapshot}
    (hknown : knownBacklog backlogBytes depth samples sampledAt nonzeroSinceAt
      oldestMessageTimestamp = some known) (hsamples : 0 ≤ samples) :
    known.depth = depth ∧ 0 ≤ known.consecutiveNonzeroSamples ∧
      known.consecutiveNonzeroSamples ≤ samples := by
  simp only [knownBacklog] at hknown
  split at hknown
  · simp at hknown
  split at hknown
  · simp at hknown
  split at hknown
  · simp at hknown
  split at hknown
  · simp at hknown
  · simp only [Option.some.injEq] at hknown
    subst hknown
    exact ⟨rfl, by simp only; omega, by simp only; omega⟩

/-- A known sample reports the parsed depth, and a streak no longer than the parsed one. -/
theorem knownQueueSnapshot_bounds {snapshot : QueueDepthSnapshot} {asOf : Timestamp}
    {known : KnownQueueSnapshot} (hknown : knownQueueSnapshot snapshot asOf = some known)
    (hpositive : ∀ samples, snapshot.consecutiveNonzeroSamples = some samples → 0 ≤ samples) :
    snapshot.backlogCount = some known.depth ∧
      ∃ samples, snapshot.consecutiveNonzeroSamples = some samples ∧
        0 ≤ known.consecutiveNonzeroSamples ∧ known.consecutiveNonzeroSamples ≤ samples := by
  unfold knownQueueSnapshot at hknown
  split at hknown
  · rename_i backlogBytes backlogCount sampledAt samples hbytes hcount hsampled hsamples
    have hnonneg := hpositive samples hsamples
    split at hknown
    · simp at hknown
    split at hknown
    · rename_i hzero
      split at hknown
      · rename_i hempty
        simp only [Option.some.injEq] at hknown
        subst hknown
        exact ⟨by rw [hcount, hzero], samples, hsamples, by decide, hnonneg⟩
      · simp at hknown
    split at hknown
    · split at hknown
      · simp at hknown
      · obtain ⟨hdepth, hlower, hupper⟩ := knownBacklog_bounds hknown hnonneg
        exact ⟨by rw [hcount, hdepth], samples, hsamples, hlower, hupper⟩
    · simp at hknown
  · simp at hknown

theorem parseQueueSnapshot_inDomain {record : QueueBindingSnapshot} {snapshot : QueueDepthSnapshot}
    {asOf : Timestamp} {known : KnownQueueSnapshot} (hparse : parseQueueSnapshot record = .ok snapshot)
    (hknown : knownQueueSnapshot snapshot asOf = some known) : (queueBag known).InDomain := by
  obtain ⟨hcount, hstreak⟩ := parseQueueSnapshot_bounds hparse
  obtain ⟨hdepth, samples, hsamples, hlower, hupper⟩ :=
    knownQueueSnapshot_bounds hknown fun samples hsamples => (hstreak samples hsamples).1
  have hmaximum := (hstreak samples hsamples).2
  apply MetricBag.InDomain.of_fields <;>
    simp [hcount known.depth hdepth, hlower, ratio_le_evidence (Int.le_trans hupper hmaximum)]

/-- Every metric that the thresholds of an accepted observation are compared with is in
the domain. -/
theorem metricsForObservation_inDomain {value : AlertObservationInput}
    {observation : AlertRuleObservation} {knownQueue : Option KnownQueueSnapshot}
    (hparse : parseAlertObservation value = .ok observation)
    (hqueue : ∀ snapshot known, observation.measures = .queue snapshot → knownQueue = some known →
      knownQueueSnapshot snapshot observation.asOf = some known) (window : AlertWindowKey) :
    ((metricsForObservation observation knownQueue).at window).InDomain := by
  simp only [parseAlertObservation, bind_eq_ok_iff, pure_eq_ok_iff] at hparse
  obtain ⟨dimension, -, measures, hmeasures, rfl⟩ := hparse
  simp only [parseMeasures, bind_eq_ok_iff, pure_eq_ok_iff] at hmeasures
  obtain ⟨parsed, hparsed, -, -, rfl⟩ := hmeasures
  unfold parseRuleMeasures at hparsed
  split at hparsed <;> simp only [bind_eq_ok_iff, pure_eq_ok_iff, reduceCtorEq] at hparsed
  · obtain ⟨snapshot, hsnapshot, rfl⟩ := hparsed
    obtain ⟨h5m, h15m⟩ := parseFanoutSnapshot_inDomain hsnapshot
    cases window with
    | w5m => exact h5m
    | w15m => exact h15m
    | w60m => exact h5m
  · obtain ⟨snapshot, hsnapshot, rfl⟩ := hparsed
    cases window <;> exact parseRuntimeSnapshot_inDomain hsnapshot
  · obtain ⟨snapshot, hsnapshot, rfl⟩ := hparsed
    cases knownQueue with
    | none => cases window <;> apply MetricBag.InDomain.of_fields <;> simp
    | some known =>
      have hknown := hqueue snapshot known rfl rfl
      cases window <;> exact parseQueueSnapshot_inDomain hsnapshot hknown
  · obtain ⟨current, hcurrent, windows, hwindows, rfl⟩ := hparsed
    simp only [metricsForObservation, Windowed.at_map]
    exact parseWindows_forall (T := LogoutDeliveryWindowMetrics)
      (parseLogoutMetrics_inDomain hcurrent) hwindows window
  all_goals
    obtain ⟨windows, hwindows, rfl⟩ := hparsed
    simp only [metricsForObservation, Windowed.at_map]
  · exact parseWindows_forall parseCountMetrics_inDomain hwindows window
  · exact parseWindows_forall parseCountMetrics_inDomain hwindows window
  · exact parseWindows_forall parseCountMetrics_inDomain hwindows window
  · exact parseWindows_forall parseCountMetrics_inDomain hwindows window
  · exact parseWindows_forall parseRatioMetrics_inDomain hwindows window
  · exact parseWindows_forall parseRatioMetrics_inDomain hwindows window
  · exact parseWindows_forall parseRatioMetrics_inDomain hwindows window
  · exact parseWindows_forall parseRestrictedMetrics_inDomain hwindows window
  · exact parseWindows_forall parseRecoveryEntryMetrics_inDomain hwindows window
  · exact parseWindows_forall parseOAuthMetrics_inDomain hwindows window
  · exact parseWindows_forall parseAdminSensitiveMetrics_inDomain hwindows window

end pgid.alert
