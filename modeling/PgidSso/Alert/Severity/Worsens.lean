import PgidSso.Alert.Severity.Adverse
import PgidSso.Alert.Severity.Completion

open checked

namespace pgid.alert

/-- A count that was known is known, and not smaller. -/
def GrowsTo (value larger : Option Int) : Prop :=
  ∀ known ∈ value, ∃ grown ∈ larger, known ≤ grown

/-- An age whose absence is the worst that can be. -/
def AgesTo (age later : Option Int) : Prop :=
  later = none ∨ ∃ known ∈ age, ∃ grown ∈ later, known ≤ grown

/-- Measures of a rule after further adverse events. Events of a numerator are added to its
denominator too, whose other part stays; what no threshold reads may be anything. Reporters
are counted or not, as the provenance of the reports allows; where they are counted both
times there are no fewer. -/
inductive AlertMeasures.Worsens : AlertMeasures QueueDepthSnapshot → AlertMeasures QueueDepthSnapshot → Prop
  | count {windows worse : Windowed CountWindowMetrics}
      (hcount : ∀ window, (windows.at window).count ≤ (worse.at window).count) :
      Worsens (.count windows) (.count worse)
  | ratio {windows worse : Windowed RatioWindowMetrics}
      (hnumerator : ∀ window, (windows.at window).numerator ≤ (worse.at window).numerator)
      (hrest : ∀ window, (worse.at window).denominator - (worse.at window).numerator =
        (windows.at window).denominator - (windows.at window).numerator) :
      Worsens (.ratio windows) (.ratio worse)
  | restricted {windows worse : Windowed RestrictedDenialWindowMetrics}
      (hcount : ∀ window, (windows.at window).count ≤ (worse.at window).count)
      (hsurfaces : ∀ window, (windows.at window).knownSurfaces ≤ (worse.at window).knownSurfaces) :
      Worsens (.restricted windows) (.restricted worse)
  | recoveryEntry {windows worse : Windowed RecoveryEntryWindowMetrics}
      (hdenied : ∀ window, (windows.at window).denied ≤ (worse.at window).denied)
      (hstarted : ∀ window, (worse.at window).started = (windows.at window).started)
      (hrateLimited : ∀ window, (windows.at window).rateLimited ≤ (worse.at window).rateLimited) :
      Worsens (.recoveryEntry windows) (.recoveryEntry worse)
  | oauth {windows worse : Windowed OAuthClientReportWindowMetrics}
      (hcount : ∀ window, (windows.at window).count ≤ (worse.at window).count)
      (hrisk : ∀ window, (windows.at window).highRiskCount ≤ (worse.at window).highRiskCount)
      (hreporters : ∀ window, ∀ known ∈ (windows.at window).distinctReporters,
        ∀ grown ∈ (worse.at window).distinctReporters, known ≤ grown) :
      Worsens (.oauth windows) (.oauth worse)
  | adminSensitive {windows worse : Windowed AdminSensitiveWindowMetrics}
      (hdenials : ∀ window, (windows.at window).protectedDenials ≤ (worse.at window).protectedDenials)
      (hsuccesses : ∀ window, (windows.at window).successes ≤ (worse.at window).successes) :
      Worsens (.adminSensitive windows) (.adminSensitive worse)
  | fanout {snapshot worse : FanoutGapSnapshot}
      (hlong : snapshot.missingOlderThan15mCount ≤ worse.missingOlderThan15mCount)
      (hshort : snapshot.missingOlderThan5mCount ≤ worse.missingOlderThan5mCount) :
      Worsens (.fanout snapshot) (.fanout worse)
  | logout {current worseCurrent : LogoutDeliveryCurrentSnapshot} {windows worse : Windowed LogoutDeliveryWindowMetrics}
      (hdead : current.currentDead ≤ worseCurrent.currentDead)
      (hage : GrowsTo current.oldestUnresolvedAgeSeconds worseCurrent.oldestUnresolvedAgeSeconds)
      (hunresolved : ∀ window, (windows.at window).unresolved ≤ (worse.at window).unresolved)
      (hrest : ∀ window, (worse.at window).eligible - (worse.at window).unresolved =
        (windows.at window).eligible - (windows.at window).unresolved)
      (hlease : ∀ window, (windows.at window).leaseExpired ≤ (worse.at window).leaseExpired) :
      Worsens (.logout current windows) (.logout worseCurrent worse)
  | runtime {snapshot worse : AlertRuntimeSnapshot}
      (hdead : snapshot.deadOutbox ≤ worse.deadOutbox)
      (hevaluator : AgesTo snapshot.evaluatorAgeSeconds worse.evaluatorAgeSeconds)
      (houtbox : GrowsTo snapshot.outboxDueAgeSeconds worse.outboxDueAgeSeconds) :
      Worsens (.runtime snapshot) (.runtime worse)
  | queue {snapshot worse : QueueDepthSnapshot}
      (hcount : GrowsTo snapshot.backlogCount worse.backlogCount)
      (hsamples : GrowsTo snapshot.consecutiveNonzeroSamples worse.consecutiveNonzeroSamples)
      (hsince : ∀ since ∈ snapshot.nonzeroSinceAt, ∃ earlier ∈ worse.nonzeroSinceAt, earlier.ms ≤ since.ms) :
      Worsens (.queue snapshot) (.queue worse)

/-- The reporters of the last hour are still counted if they were: no report came since then
that its reporter is not known of. -/
def AlertMeasures.KeepsReporters (measures other : AlertMeasures QueueDepthSnapshot) : Prop :=
  ∀ windows worse, measures = .oauth windows → other = .oauth worse →
    windows.w60m.distinctReporters ≠ none → worse.w60m.distinctReporters ≠ none

/-- Fields of the same names, none of them smaller. -/
def FieldsGrow (fields worse : List (InternalMetricName × Int)) : Prop :=
  List.Forall₂ (fun field grown => field.1 = grown.1 ∧ field.2 ≤ grown.2) fields worse

theorem metricBag_grows {fields worse : List (InternalMetricName × Int)} (hgrow : FieldsGrow fields worse)
    (metric : InternalMetricName) (value : Int) (hvalue : metricBag fields metric = some value) :
    ∃ larger, metricBag worse metric = some larger ∧ value ≤ larger := by
  unfold metricBag at hvalue ⊢
  induction hgrow with
  | nil => cases hvalue
  | @cons field grown fields worse hfield _ ih =>
    obtain ⟨name, observed⟩ := field
    obtain ⟨grownName, larger⟩ := grown
    obtain ⟨hname, hle⟩ := hfield
    simp only at hname hle
    subst hname
    rw [List.lookup_cons] at hvalue ⊢
    cases hsame : metric == name with
    | true =>
      rw [hsame] at hvalue
      cases hvalue
      exact ⟨larger, rfl, hle⟩
    | false =>
      rw [hsame] at hvalue
      exact ih hvalue

/-- Bags without a ratio need only grow. -/
theorem MetricBag.Below.of_grows {fields worse : List (InternalMetricName × Int)} (hgrow : FieldsGrow fields worse)
    (hnumerator : metricBag fields .numerator = none) : (metricBag fields).Below (metricBag worse) where
  value := metricBag_grows hgrow
  ratio _ _ hsome := by
    rw [hnumerator] at hsome
    cases hsome

theorem GrowsTo.getD_le {value larger : Option Int} (hgrows : GrowsTo value larger)
    (hpositive : 0 ≤ larger.getD 0) : value.getD 0 ≤ larger.getD 0 := by
  cases value with
  | none => exact hpositive
  | some known =>
    obtain ⟨grown, hgrown, hle⟩ := hgrows known rfl
    rw [Option.mem_def.mp hgrown]
    exact hle

/-- What a known sample says: of an empty queue nothing, of a backlog its depth and the part
of its streak that time has passed for. -/
theorem knownQueueSnapshot_cases {snapshot : QueueDepthSnapshot} {asOf : Timestamp} {known : KnownQueueSnapshot}
    (hknown : knownQueueSnapshot snapshot asOf = some known) :
    (snapshot.backlogCount = some 0 ∧ known.depth = 0 ∧ known.consecutiveNonzeroSamples = 0) ∨
      ∃ count samples since, snapshot.backlogCount = some count ∧ count ≠ 0 ∧
        snapshot.consecutiveNonzeroSamples = some samples ∧ 1 ≤ samples ∧ snapshot.nonzeroSinceAt = some since ∧
        0 ≤ asOf.ms - since.ms ∧ known.depth = count ∧
        known.consecutiveNonzeroSamples = min samples ((asOf.ms - since.ms) / 60000) := by
  unfold knownQueueSnapshot at hknown
  split at hknown
  · rename_i bytes count sampledAt samples hbytes hcount hsampledAt hsamples
    split at hknown
    · cases hknown
    · rename_i hinstant
      have hsame : sampledAt = asOf := Decidable.not_not.mp hinstant
      split at hknown
      · rename_i hzero
        split at hknown
        · cases hknown
          exact .inl ⟨by rw [hcount, hzero], rfl, rfl⟩
        · cases hknown
      · rename_i hbacklog
        split at hknown
        · rename_i since oldest hsince holdest
          split at hknown
          · cases hknown
          · rename_i hstreak
            simp only [knownBacklog] at hknown
            split at hknown
            · cases hknown
            · split at hknown
              · cases hknown
              · split at hknown
                · cases hknown
                · split at hknown
                  · cases hknown
                  · rename_i helapsed _
                    cases hknown
                    subst hsame
                    exact .inr ⟨count, samples, since, hcount, hbacklog, hsamples, by omega, hsince, by omega, rfl, rfl⟩
        · cases hknown
  · cases hknown

/-- A deeper and longer backlog is known as such. -/
theorem queueBag_below {snapshot worse : QueueDepthSnapshot} {asOf : Timestamp} {known grown : KnownQueueSnapshot}
    (hknown : knownQueueSnapshot snapshot asOf = some known) (hgrown : knownQueueSnapshot worse asOf = some grown)
    (hcount : GrowsTo snapshot.backlogCount worse.backlogCount)
    (hsamples : GrowsTo snapshot.consecutiveNonzeroSamples worse.consecutiveNonzeroSamples)
    (hsince : ∀ since ∈ snapshot.nonzeroSinceAt, ∃ earlier ∈ worse.nonzeroSinceAt, earlier.ms ≤ since.ms)
    (hdomain : (queueBag known).InDomain) : (queueBag known).Below (queueBag grown) := by
  have hdepth : 0 ≤ known.depth := (hdomain.value .depth known.depth rfl).1
  have hfields : known.consecutiveNonzeroSamples ≤ grown.consecutiveNonzeroSamples ∧ known.depth ≤ grown.depth := by
    rcases knownQueueSnapshot_cases hknown with ⟨hempty, hnone, hzero⟩ |
        ⟨count, samples, since, hbacklog, hnonzero, hstreak, hpositive, hfrom, hpassed, hdeep, hlong⟩
    · obtain ⟨_, hmore, hle⟩ := hcount 0 hempty
      rcases knownQueueSnapshot_cases hgrown with ⟨hempty', hnone', hzero'⟩ |
          ⟨count', samples', since', hbacklog', -, -, hpositive', -, hpassed', hdeep', hlong'⟩
      · omega
      · rw [hbacklog'] at hmore
        cases hmore
        omega
    · obtain ⟨_, hmore, hle⟩ := hcount count hbacklog
      obtain ⟨_, hlonger, hlasted⟩ := hsamples samples hstreak
      obtain ⟨_, hearlier, hbefore⟩ := hsince since hfrom
      rcases knownQueueSnapshot_cases hgrown with ⟨hempty', -, -⟩ |
          ⟨count', samples', since', hbacklog', -, hstreak', -, hfrom', hpassed', hdeep', hlong'⟩
      · rw [hempty'] at hmore
        cases hmore
        omega
      · rw [hbacklog'] at hmore
        rw [hstreak'] at hlonger
        rw [hfrom'] at hearlier
        cases hmore
        cases hlonger
        cases hearlier
        omega
  exact .of_grows (.cons ⟨rfl, hfields.1⟩ (.cons ⟨rfl, hfields.2⟩ .nil)) rfl

/-- More reports keep the critical threshold breached, as long as the reporters of the last
hour stay counted: it reads no others. -/
theorem oauth_critical_holds {windows worse : Windowed OAuthClientReportWindowMetrics}
    (hworsens : AlertMeasures.Worsens (.oauth windows) (.oauth worse))
    (hkeeps : AlertMeasures.KeepsReporters (.oauth windows) (.oauth worse))
    (hholds : severityMeaning .oauthClientReport .critical (windows.map oauthBag) = some true) :
    severityMeaning .oauthClientReport .critical (worse.map oauthBag) = some true := by
  cases hworsens with
  | oauth hcount hrisk hreporters =>
    rw [severityMeaning_critical_holds] at hholds ⊢
    have hmoreCount : windows.w60m.count ≤ worse.w60m.count := hcount .w60m
    have hmoreRisk : windows.w60m.highRiskCount ≤ worse.w60m.highRiskCount := hrisk .w60m
    rcases hholds with ⟨hmany, reporters, hcounted, htwo⟩ | hmany
    · have hsome : windows.w60m.distinctReporters ≠ none := by
        rw [Option.mem_def.mp hcounted]
        exact Option.some_ne_none reporters
      obtain ⟨grown, hgrown⟩ := Option.ne_none_iff_exists'.mp (hkeeps windows worse rfl rfl hsome)
      have hmore : reporters ≤ grown := hreporters .w60m reporters hcounted grown hgrown
      exact .inl ⟨by omega, grown, hgrown, by omega⟩
    · exact .inr (by omega)

theorem oauth_warning_holds {windows worse : Windowed OAuthClientReportWindowMetrics}
    (hworsens : AlertMeasures.Worsens (.oauth windows) (.oauth worse))
    (hholds : severityMeaning .oauthClientReport .warning (windows.map oauthBag) = some true) :
    severityMeaning .oauthClientReport .warning (worse.map oauthBag) = some true := by
  cases hworsens with
  | oauth hcount hrisk hreporters =>
    have hmoreRisk : windows.w5m.highRiskCount ≤ worse.w5m.highRiskCount := hrisk .w5m
    have hmoreCount : windows.w15m.count ≤ worse.w15m.count := hcount .w15m
    rw [severityMeaning_warning, Option.some.injEq, decide_eq_true_iff] at hholds ⊢
    omega

theorem recoveryEntryBag_below {metrics worse : RecoveryEntryWindowMetrics} (hdenied : metrics.denied ≤ worse.denied)
    (hstarted : worse.started = metrics.started) (hrateLimited : metrics.rateLimited ≤ worse.rateLimited) :
    (recoveryEntryBag metrics).Below (recoveryEntryBag worse) where
  value := metricBag_grows (.cons ⟨rfl, by simp only; omega⟩ (.cons ⟨rfl, hdenied⟩ (.cons ⟨rfl, hrateLimited⟩ .nil)))
  ratio numerator denominator hnumerator hdenominator := by
    cases hnumerator
    cases hdenominator
    exact ⟨worse.denied, worse.denied + worse.started, rfl, rfl, hdenied, by omega⟩

theorem ratioBag_below {metrics worse : RatioWindowMetrics} (hnumerator : metrics.numerator ≤ worse.numerator)
    (hrest : worse.denominator - worse.numerator = metrics.denominator - metrics.numerator) :
    (ratioBag metrics).Below (ratioBag worse) where
  value := metricBag_grows (.cons ⟨rfl, by simp only; omega⟩ (.cons ⟨rfl, hnumerator⟩ .nil))
  ratio numerator denominator hsome htotal := by
    cases hsome
    cases htotal
    exact ⟨worse.numerator, worse.denominator, rfl, rfl, hnumerator, hrest⟩

theorem logoutBag_below {current worseCurrent : LogoutDeliveryCurrentSnapshot}
    {metrics worse : LogoutDeliveryWindowMetrics} (hdead : current.currentDead ≤ worseCurrent.currentDead)
    (hage : current.oldestUnresolvedAgeSeconds.getD 0 ≤ worseCurrent.oldestUnresolvedAgeSeconds.getD 0)
    (hunresolved : metrics.unresolved ≤ worse.unresolved)
    (hrest : worse.eligible - worse.unresolved = metrics.eligible - metrics.unresolved)
    (hlease : metrics.leaseExpired ≤ worse.leaseExpired) :
    (logoutBag current metrics).Below (logoutBag worseCurrent worse) where
  value := metricBag_grows (.cons ⟨rfl, hdead⟩ (.cons ⟨rfl, by simp only; omega⟩ (.cons ⟨rfl, hlease⟩
    (.cons ⟨rfl, hunresolved⟩ (.cons ⟨rfl, hage⟩ .nil)))))
  ratio numerator denominator hnumerator hdenominator := by
    cases hnumerator
    cases hdenominator
    exact ⟨worse.unresolved, worse.eligible, rfl, rfl, hunresolved, hrest⟩

/-- As long as the evaluator is not found missing, its age only grows. -/
theorem runtimeBag_below {snapshot worse : AlertRuntimeSnapshot} (hdead : snapshot.deadOutbox ≤ worse.deadOutbox)
    (hevaluator : ∃ known ∈ snapshot.evaluatorAgeSeconds, ∃ grown ∈ worse.evaluatorAgeSeconds, known ≤ grown)
    (houtbox : snapshot.outboxDueAgeSeconds.getD 0 ≤ worse.outboxDueAgeSeconds.getD 0) :
    (runtimeBag snapshot).Below (runtimeBag worse) := by
  obtain ⟨known, hknown, grown, hgrown, hle⟩ := hevaluator
  rw [runtimeBag, runtimeBag, Option.mem_def.mp hknown, Option.mem_def.mp hgrown]
  exact .of_grows (.cons ⟨rfl, hdead⟩ (.cons ⟨rfl, hle⟩ (.cons ⟨rfl, Int.le_refl _⟩ (.cons ⟨rfl, houtbox⟩ .nil)))) rfl

theorem map_below {T : Type} {bag worseBag : T → MetricBag} {windows worse : Windowed T}
    (hbelow : ∀ window, (bag (windows.at window)).Below (worseBag (worse.at window))) (window : AlertWindowKey) :
    ((windows.map bag).at window).Below ((worse.map worseBag).at window) := by
  rw [Windowed.at_map, Windowed.at_map]
  exact hbelow window

/-- Adverse events are seen in the metrics, unless they make the evaluator go missing. Reports
are not looked at here: their reporters may become unknown. -/
theorem metrics_below {observation other : AlertRuleObservation} (hworsens : observation.measures.Worsens other.measures)
    (hasOf : other.asOf = observation.asOf) (hdomain : ∀ window, (observation.metrics.at window).InDomain)
    (hworse : ∀ window, (other.metrics.at window).InDomain)
    (hsample : ∀ snapshot, observation.measures = .queue snapshot →
      knownQueueSnapshot snapshot observation.asOf ≠ none)
    (hother : ∀ snapshot, other.measures = .queue snapshot → knownQueueSnapshot snapshot other.asOf ≠ none)
    (hreport : ∀ windows, observation.measures ≠ .oauth windows) :
    (∀ window, (observation.metrics.at window).Below (other.metrics.at window)) ∨
      ∃ snapshot, other.measures = .runtime snapshot ∧ snapshot.evaluatorAgeSeconds = none := by
  obtain ⟨asOf, dimension, ruleId, measures⟩ := observation
  obtain ⟨otherAsOf, otherDimension, otherRuleId, otherMeasures⟩ := other
  cases hasOf
  cases hworsens with
  | count hcount => exact .inl (map_below fun window => .of_grows (.cons ⟨rfl, hcount window⟩ .nil) rfl)
  | ratio hnumerator hrest => exact .inl (map_below fun window => ratioBag_below (hnumerator window) (hrest window))
  | restricted hcount hsurfaces =>
    exact .inl (map_below fun window =>
      .of_grows (.cons ⟨rfl, hcount window⟩ (.cons ⟨rfl, hsurfaces window⟩ .nil)) rfl)
  | recoveryEntry hdenied hstarted hrateLimited =>
    exact .inl (map_below fun window =>
      recoveryEntryBag_below (hdenied window) (hstarted window) (hrateLimited window))
  | oauth hcount hrisk hreporters => exact absurd rfl (hreport _)
  | adminSensitive hdenials hsuccesses =>
    have hboth := fun window => Int.add_le_add (hsuccesses window) (hdenials window)
    exact .inl (map_below fun window =>
      .of_grows (.cons ⟨rfl, hboth window⟩ (.cons ⟨rfl, hdenials window⟩ (.cons ⟨rfl, hsuccesses window⟩ .nil))) rfl)
  | fanout hlong hshort =>
    left
    intro window
    cases window with
    | w5m => exact .of_grows (.cons ⟨rfl, hshort⟩ .nil) rfl
    | w15m => exact .of_grows (.cons ⟨rfl, hlong⟩ .nil) rfl
    | w60m => exact .of_grows (.cons ⟨rfl, hshort⟩ .nil) rfl
  | logout hdead hage hunresolved hrest hlease =>
    have hpositive := (hworse .w5m).value .oldestUnresolvedAgeSeconds _ rfl
    exact .inl (map_below fun window =>
      logoutBag_below hdead (hage.getD_le hpositive.1) (hunresolved window) (hrest window) (hlease window))
  | @runtime snapshot worse hdead hevaluator houtbox =>
    rcases hevaluator with hmissing | hknown
    · exact .inr ⟨worse, rfl, hmissing⟩
    · left
      intro window
      have hpositive := (hworse .w5m).value .outboxDueAgeSeconds _ rfl
      cases window <;> exact runtimeBag_below hdead hknown (houtbox.getD_le hpositive.1)
  | @queue snapshot worse hcount hsamples hsince =>
    left
    intro window
    obtain ⟨known, hknown⟩ := Option.ne_none_iff_exists'.mp (hsample snapshot rfl)
    obtain ⟨grown, hgrown⟩ := Option.ne_none_iff_exists'.mp (hother worse rfl)
    simp only [AlertObservation.metrics, metricsForObservation, hknown, hgrown] at hdomain ⊢
    have hbelow := queueBag_below hknown hgrown hcount hsamples hsince (hdomain .w5m)
    cases window <;> exact hbelow

/-- The rules that can be immediate have measures of their own. -/
theorem parseRuleMeasures_shape {ruleId : AlertRuleId} {measures : AlertMeasures QueueBindingSnapshot}
    {parsed : AlertMeasures QueueDepthSnapshot} (hparse : parseRuleMeasures ruleId measures = .ok parsed) :
    ((∃ snapshot, parsed = .runtime snapshot) ↔ ruleId = .alertRuntimeHealth) ∧
      ((∃ current windows, parsed = .logout current windows) ↔ ruleId = .logoutDeliveryHealth) ∧
      ((∃ windows, parsed = .oauth windows) ↔ ruleId = .oauthClientReport) := by
  unfold parseRuleMeasures at hparse
  split at hparse <;> simp only [bind_eq_ok_iff, pure_eq_ok_iff, reduceCtorEq] at hparse
  · obtain ⟨snapshot, -, rfl⟩ := hparse
    simp
  · obtain ⟨snapshot, -, rfl⟩ := hparse
    simp
  · obtain ⟨snapshot, -, rfl⟩ := hparse
    simp
  · obtain ⟨current, -, windows, -, rfl⟩ := hparse
    simp
  all_goals
    obtain ⟨windows, -, rfl⟩ := hparse
    simp

theorem parseAlertObservation_shape {value : AlertObservationInput} {observation : AlertRuleObservation}
    (hparse : parseAlertObservation value = .ok observation) :
    ((∃ snapshot, observation.measures = .runtime snapshot) ↔ observation.ruleId = .alertRuntimeHealth) ∧
      ((∃ current windows, observation.measures = .logout current windows) ↔
        observation.ruleId = .logoutDeliveryHealth) ∧
      ((∃ windows, observation.measures = .oauth windows) ↔ observation.ruleId = .oauthClientReport) := by
  simp only [parseAlertObservation, parseMeasures, bind_eq_ok_iff, pure_eq_ok_iff] at hparse
  obtain ⟨dimension, -, measures, ⟨parsed, hparsed, -, -, rfl⟩, rfl⟩ := hparse
  exact parseRuleMeasures_shape hparsed

theorem metrics_inDomain {value : AlertObservationInput} {observation : AlertRuleObservation}
    (hparse : parseAlertObservation value = .ok observation) (window : AlertWindowKey) :
    (observation.metrics.at window).InDomain := by
  rw [AlertObservation.metrics]
  apply metricsForObservation_inDomain hparse
  intro snapshot known hmeasures hknown
  rw [hmeasures] at hknown
  exact hknown

theorem evaluateAlertRule_known {value : AlertObservationInput} {observation : AlertRuleObservation}
    {evaluation : AlertRuleEvaluation} (hparse : parseAlertObservation value = .ok observation)
    (heval : evaluateAlertRule value = .ok evaluation) (hknown : evaluation.evidence = .known) :
    evaluateThresholds observation observation.metrics = .ok evaluation ∧
      ∀ snapshot, observation.measures = .queue snapshot → knownQueueSnapshot snapshot observation.asOf ≠ none := by
  rcases evaluateAlertRule_thresholds hparse heval with ⟨-, rfl⟩ | hthresholds
  · cases hknown
  · exact hthresholds

section immediate

variable {observation : AlertRuleObservation} {evaluation : AlertRuleEvaluation}

/-- An observation of logout deliveries is critical at once exactly when one of them is dead. -/
theorem immediate_logout {current : LogoutDeliveryCurrentSnapshot} {windows : Windowed LogoutDeliveryWindowMetrics}
    (hrule : observation.ruleId = .logoutDeliveryHealth) (hmeasures : observation.measures = .logout current windows)
    (heval : evaluateThresholds observation observation.metrics = .ok evaluation) :
    evaluation.immediateCritical = true ↔ 1 ≤ current.currentDead := by
  obtain ⟨asOf, dimension, ruleId, measures⟩ := observation
  cases hmeasures
  apply logout_immediate_iff heval hrule
  intro window
  cases window <;> rfl

/-- An observation of the runtime is critical at once exactly when the evaluator is missing or
a delivery of the alert outbox is dead. -/
theorem immediate_runtime {snapshot : AlertRuntimeSnapshot} (hrule : observation.ruleId = .alertRuntimeHealth)
    (hmeasures : observation.measures = .runtime snapshot)
    (heval : evaluateThresholds observation observation.metrics = .ok evaluation) :
    evaluation.immediateCritical = true ↔ snapshot.evaluatorAgeSeconds = none ∨ 1 ≤ snapshot.deadOutbox := by
  obtain ⟨asOf, dimension, ruleId, measures⟩ := observation
  cases hmeasures
  have hiff := @runtime_immediate_iff _ _ (if snapshot.evaluatorAgeSeconds = none then 1 else 0) snapshot.deadOutbox _
    heval hrule (fun window => by cases window <;> rfl) (fun window => by cases window <;> rfl)
  rw [hiff]
  apply or_congr_left
  split
  · rename_i hmissing
    exact iff_of_true (Int.le_refl 1) hmissing
  · rename_i hpresent
    exact iff_of_false (by decide) hpresent

/-- Only the two rules can be critical at once. -/
theorem immediate_rule (heval : evaluateThresholds observation observation.metrics = .ok evaluation)
    (himmediate : evaluation.immediateCritical = true) :
    observation.ruleId = .logoutDeliveryHealth ∨ observation.ruleId = .alertRuntimeHealth := by
  obtain ⟨window, expression, hexpression, components, hbreached, hname⟩ :=
    (evaluateThresholds_immediate_iff heval).mp himmediate
  by_cases hlogout : observation.ruleId = .logoutDeliveryHealth
  · exact .inl hlogout
  · rw [isImmediateCriticalEvidence, if_neg hlogout] at hname
    exact .inr (of_decide_eq_true hname).1

theorem critical_of_immediate (heval : evaluateThresholds observation observation.metrics = .ok evaluation)
    (himmediate : evaluation.immediateCritical = true) : evaluation.severity = .critical := by
  obtain ⟨window, expression, hexpression, components, hbreached, -⟩ :=
    (evaluateThresholds_immediate_iff heval).mp himmediate
  exact (evaluateThresholds_critical_iff heval).mpr ⟨window, expression, hexpression, components, hbreached⟩

end immediate

/-- Adverse events never take away what makes an evaluation critical at once. -/
theorem immediate_worsens {value : AlertObservationInput} {observation other : AlertRuleObservation}
    {evaluation worse : AlertRuleEvaluation} (hparse : parseAlertObservation value = .ok observation)
    (hrule : other.ruleId = observation.ruleId)
    (hworsens : observation.measures.Worsens other.measures)
    (heval : evaluateThresholds observation observation.metrics = .ok evaluation)
    (hworse : evaluateThresholds other other.metrics = .ok worse) (himmediate : evaluation.immediateCritical = true) :
    worse.immediateCritical = true := by
  rcases immediate_rule heval himmediate with hlogout | hruntime
  · obtain ⟨current, windows, hmeasures⟩ := (parseAlertObservation_shape hparse).2.1.mpr hlogout
    have hdead := (immediate_logout hlogout hmeasures heval).mp himmediate
    rw [hmeasures] at hworsens
    generalize hgrown : other.measures = grown at hworsens
    cases hworsens with
    | logout hmore => exact (immediate_logout (hrule.trans hlogout) hgrown hworse).mpr (by omega)
  · obtain ⟨snapshot, hmeasures⟩ := (parseAlertObservation_shape hparse).1.mpr hruntime
    have hcause := (immediate_runtime hruntime hmeasures heval).mp himmediate
    rw [hmeasures] at hworsens
    generalize hgrown : other.measures = grown at hworsens
    cases hworsens with
    | runtime hdead hevaluator houtbox =>
      apply (immediate_runtime (hrule.trans hruntime) hgrown hworse).mpr
      rcases hcause with hmissing | hcause
      · rcases hevaluator with hmissing' | ⟨known, hknown, -⟩
        · exact .inl hmissing'
        · rw [hmissing] at hknown
          cases hknown
      · exact .inr (by omega)

/-- An observation of reports is not less severe after more of them, as long as the reporters
of the last hour stay counted. -/
theorem oauth_rank_le {value : AlertObservationInput} {observation other : AlertRuleObservation}
    {windows : Windowed OAuthClientReportWindowMetrics} {evaluation worse : AlertRuleEvaluation}
    (hparse : parseAlertObservation value = .ok observation) (hrule : other.ruleId = observation.ruleId)
    (hmeasures : observation.measures = .oauth windows) (hworsens : observation.measures.Worsens other.measures)
    (hkeeps : observation.measures.KeepsReporters other.measures)
    (heval : evaluateThresholds observation observation.metrics = .ok evaluation)
    (hworse : evaluateThresholds other other.metrics = .ok worse) :
    evaluation.severity.rank ≤ worse.severity.rank := by
  have hreport : observation.ruleId = .oauthClientReport :=
    (parseAlertObservation_shape hparse).2.2.mp ⟨windows, hmeasures⟩
  have houtcome := congrArg Prod.fst (evaluateThresholds_outcome heval)
  have hworseOutcome := congrArg Prod.fst (evaluateThresholds_outcome hworse)
  rw [hrule] at hworseOutcome
  rw [← show _ = evaluation.severity from houtcome, ← show _ = worse.severity from hworseOutcome, hreport]
  obtain ⟨asOf, dimension, ruleId, measures⟩ := observation
  obtain ⟨otherAsOf, otherDimension, otherRuleId, otherMeasures⟩ := other
  cases hmeasures
  cases hworsens with
  | oauth hcount hrisk hreporters =>
    have hsame := AlertMeasures.Worsens.oauth hcount hrisk hreporters
    exact outcome_rank_le (oauth_critical_holds hsame hkeeps) (oauth_warning_holds hsame)

/-- Five deliveries, one of them unresolved for ten seconds. -/
def lateDelivery : AlertObservationInput where
  asOf := ⟨1700005000000, by decide⟩
  dimension := .global
  ruleId := .logoutDeliveryHealth
  measures := .logout { currentDead := 0, currentUnresolved := 1, oldestUnresolvedAgeSeconds := some 10 }
    { w5m := { eligible := 5, leaseExpired := 0, unresolved := 1 }
      w15m := { eligible := 5, leaseExpired := 0, unresolved := 1 }
      w60m := { eligible := 5, leaseExpired := 0, unresolved := 1 } }

/-- A sixth delivery, which is dead. -/
def deadDelivery : AlertObservationInput where
  asOf := ⟨1700005000000, by decide⟩
  dimension := .global
  ruleId := .logoutDeliveryHealth
  measures := .logout { currentDead := 1, currentUnresolved := 2, oldestUnresolvedAgeSeconds := some 10 }
    { w5m := { eligible := 6, leaseExpired := 0, unresolved := 2 }
      w15m := { eligible := 6, leaseExpired := 0, unresolved := 2 }
      w60m := { eligible := 6, leaseExpired := 0, unresolved := 2 } }

/-- Three high-risk reports of a client by two reporters, one of them just now. -/
def identifiedReports : Windowed OAuthClientReportWindowMetrics where
  w5m := { count := 1, distinctReporters := some 1, highRiskCount := 1 }
  w15m := { count := 1, distinctReporters := some 1, highRiskCount := 1 }
  w60m := { count := 3, distinctReporters := some 2, highRiskCount := 3 }

/-- The same reports and another one, by a reporter who is not known. -/
def unidentifiedReport : Windowed OAuthClientReportWindowMetrics where
  w5m := { count := 1, distinctReporters := some 1, highRiskCount := 1 }
  w15m := { count := 1, distinctReporters := some 1, highRiskCount := 1 }
  w60m := { count := 4, distinctReporters := none, highRiskCount := 4 }

end pgid.alert
