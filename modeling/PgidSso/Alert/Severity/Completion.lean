import PgidSso.Alert.Severity.Outcome

open checked

namespace pgid.alert

/-- A report of a client, as its reader hands it over. -/
def oauthReport (asOf : Timestamp) (dimension : AlertDimension)
    (windows : Windowed OAuthClientReportWindowMetrics) : AlertObservationInput where
  asOf := asOf
  dimension := dimension
  ruleId := .oauthClientReport
  measures := .oauth windows

/-- Counts of a window that the parser accepts. -/
structure OAuthClientReportWindowMetrics.Valid (metrics : OAuthClientReportWindowMetrics) : Prop where
  count : 0 ≤ metrics.count ∧ metrics.count ≤ MAX_EVIDENCE_VALUE
  reporters : ∀ reporters ∈ metrics.distinctReporters, 0 ≤ reporters ∧ reporters ≤ metrics.count
  highRisk : 0 ≤ metrics.highRiskCount ∧ metrics.highRiskCount ≤ metrics.count

/-- The same reports, with the reporters counted where they were unknown. -/
structure OAuthClientReportWindowMetrics.Completes (completed metrics : OAuthClientReportWindowMetrics) :
    Prop where
  count : completed.count = metrics.count
  highRisk : completed.highRiskCount = metrics.highRiskCount
  counted : completed.distinctReporters ≠ none
  kept : ∀ reporters, metrics.distinctReporters = some reporters → completed.distinctReporters = some reporters

/-- Windows that contain those of the shorter ones, as far as their reporters are known. -/
structure NestedReports (windows : Windowed OAuthClientReportWindowMetrics) : Prop where
  count : windows.w5m.count ≤ windows.w15m.count ∧ windows.w15m.count ≤ windows.w60m.count
  highRisk : windows.w5m.highRiskCount ≤ windows.w15m.highRiskCount ∧
    windows.w15m.highRiskCount ≤ windows.w60m.highRiskCount
  reporters : nullableCountNondecreasing (fieldEntries windows (·.distinctReporters)) none false
    "distinct reporters" = .ok ()

theorem parseOAuthMetrics_eq_ok_iff {record metrics : OAuthClientReportWindowMetrics} :
    parseOAuthMetrics record = .ok metrics ↔ record.Valid ∧ metrics = record := by
  obtain ⟨count, reporters, highRisk⟩ := record
  rw [parseOAuthMetrics]
  simp only [bind_eq_ok_iff, integer_eq_ok_iff, Option.some.injEq, nullableInteger_eq_ok_iff, throwIf_eq_ok_iff,
    exists_const, pure_eq_ok_iff]
  constructor
  · rintro ⟨_, ⟨rfl, hcount⟩, _, ⟨hreporters, rfl⟩, _, ⟨rfl, hhighRisk⟩, hwithin, rfl⟩
    obtain ⟨hsubset, hrisk⟩ := not_or.mp hwithin
    refine ⟨⟨hcount, ?_, hhighRisk.1, by simp only; omega⟩, rfl⟩
    intro number hnumber
    refine ⟨(hreporters number hnumber).1, ?_⟩
    apply Int.not_lt.mp
    intro hexceeds
    exact hsubset ⟨number, hnumber, hexceeds⟩
  · rintro ⟨hvalid, rfl⟩
    obtain ⟨hcount, hreporters, hrisk⟩ := hvalid
    simp only at hcount hreporters hrisk
    refine ⟨count, ⟨rfl, hcount⟩, reporters, ⟨?_, rfl⟩, highRisk, ⟨rfl, hrisk.1, by omega⟩, ?_, rfl⟩
    · intro number hnumber
      have hbounds := hreporters number hnumber
      omega
    · rintro (⟨number, hnumber, hexceeds⟩ | hexceeds)
      · have hbounds := hreporters number hnumber
        omega
      · omega

theorem parseMeasures_oauth_eq_ok_iff {windows : Windowed OAuthClientReportWindowMetrics}
    {measures : AlertMeasures QueueDepthSnapshot} :
    parseMeasures .oauthClientReport (.oauth windows) = .ok measures ↔
      (∀ window, (windows.at window).Valid) ∧ NestedReports windows ∧ measures = .oauth windows := by
  simp only [parseMeasures, parseRuleMeasures, bind_eq_ok_iff, pure_eq_ok_iff,
    parseWindows_eq_ok_iff parseOAuthMetrics_eq_ok_iff]
  constructor
  · rintro ⟨_, ⟨_, ⟨hvalid, rfl⟩, rfl⟩, _, hnested, rfl⟩
    simp only [validateNestedWindows, fieldEntries, Windowed.entries, List.map_cons, List.map_nil, bind_eq_ok_iff,
      nondecreasing_three, exists_const] at hnested
    exact ⟨hvalid, ⟨hnested.1, hnested.2.1, hnested.2.2⟩, rfl⟩
  · rintro ⟨hvalid, hnested, rfl⟩
    refine ⟨_, ⟨_, ⟨hvalid, rfl⟩, rfl⟩, (), ?_, rfl⟩
    simp only [validateNestedWindows, fieldEntries, Windowed.entries, List.map_cons, List.map_nil, bind_eq_ok_iff,
      nondecreasing_three, exists_const]
    exact ⟨hnested.count, hnested.highRisk, hnested.reporters⟩

theorem nullableCountNondecreasing_known {first second third : Int} {name : String} :
    nullableCountNondecreasing [some first, some second, some third] none false name = .ok () ↔
      first ≤ second ∧ second ≤ third := by
  simp [nullableCountNondecreasing]

/-- Known reporters of the shorter windows, when those of the last are unknown: what is
unknown stays unknown, and what is known does not fall. -/
theorem nullableCountNondecreasing_last {first second : Option Int} {name : String} :
    nullableCountNondecreasing [first, second, none] none false name = .ok () ↔
      ∀ later ∈ second, ∃ earlier ∈ first, earlier ≤ later := by
  cases first <;> cases second <;> simp [nullableCountNondecreasing]

section report

variable {asOf : Timestamp} {dimension : AlertDimension} {windows : Windowed OAuthClientReportWindowMetrics}

/-- The observation that the parser makes of a report. -/
def parsedReport (asOf : Timestamp) (dimension : AlertDimension)
    (windows : Windowed OAuthClientReportWindowMetrics) : AlertRuleObservation where
  asOf := asOf
  dimension := dimension
  ruleId := .oauthClientReport
  measures := .oauth windows

theorem parseAlertObservation_oauth_eq_ok_iff {observation : AlertRuleObservation} :
    parseAlertObservation (oauthReport asOf dimension windows) = .ok observation ↔
      dimension.Accepted (ALERT_RULE_DEFINITIONS .oauthClientReport).dimensions ∧
        (∀ window, (windows.at window).Valid) ∧ NestedReports windows ∧
        observation = parsedReport asOf dimension windows := by
  simp only [parseAlertObservation, oauthReport, bind_eq_ok_iff, pure_eq_ok_iff, parseAlertDimension_eq_ok_iff,
    parseMeasures_oauth_eq_ok_iff]
  constructor
  · rintro ⟨_, ⟨hdimension, rfl⟩, _, ⟨hvalid, hnested, rfl⟩, rfl⟩
    exact ⟨hdimension, hvalid, hnested, rfl⟩
  · rintro ⟨hdimension, hvalid, hnested, rfl⟩
    exact ⟨_, ⟨hdimension, rfl⟩, _, ⟨hvalid, hnested, rfl⟩, rfl⟩

/-- A report is evaluated exactly when it is accepted and its windows lie in time. -/
theorem evaluateAlertRule_oauth_ok_iff :
    (∃ evaluation, evaluateAlertRule (oauthReport asOf dimension windows) = .ok evaluation) ↔
      dimension.Accepted (ALERT_RULE_DEFINITIONS .oauthClientReport).dimensions ∧
        (∀ window, (windows.at window).Valid) ∧ NestedReports windows ∧
        -Timestamp.maximumMs + 3600000 ≤ asOf.ms := by
  rw [evaluateAlertRule_ok_iff]
  simp only [parseAlertObservation_oauth_eq_ok_iff]
  constructor
  · rintro ⟨⟨_, hdimension, hvalid, hnested, -⟩, hinstant⟩
    exact ⟨hdimension, hvalid, hnested, hinstant⟩
  · rintro ⟨hdimension, hvalid, hnested, hinstant⟩
    exact ⟨⟨_, hdimension, hvalid, hnested, rfl⟩, hinstant⟩

theorem oauthBag_highRiskCount {metrics : OAuthClientReportWindowMetrics} :
    oauthBag metrics .highRiskCount = some metrics.highRiskCount := by
  rw [oauthBag]
  cases metrics.distinctReporters <;> rfl

theorem oauthBag_distinctReporters {metrics : OAuthClientReportWindowMetrics} :
    oauthBag metrics .distinctReporters = metrics.distinctReporters := by
  rw [oauthBag]
  cases metrics.distinctReporters <;> rfl

theorem oauthBag_count {metrics : OAuthClientReportWindowMetrics} :
    oauthBag metrics .count = some metrics.count := rfl

/-- The critical threshold of a report is one over its longest window. -/
theorem severityMeaning_critical :
    severityMeaning .oauthClientReport .critical (windows.map oauthBag) =
      sql.any [sql.all [sql.le (some 3) (some windows.w60m.highRiskCount),
        sql.le (some 2) windows.w60m.distinctReporters], sql.le (some 10) (some windows.w60m.count)] := by
  have hwindows : severityMeaning .oauthClientReport .critical (windows.map oauthBag) =
      sql.any [some false, some false, meaning (.any [.all [.gte .highRiskCount 3, .gte .distinctReporters 2],
        .gte .count 10]) (oauthBag windows.w60m)] := rfl
  simp only [hwindows, sql.any, sql.Truth.false_or, sql.Truth.or_false, meaning, meanings, oauthBag_highRiskCount,
    oauthBag_distinctReporters, oauthBag_count]

theorem severityMeaning_warning :
    severityMeaning .oauthClientReport .warning (windows.map oauthBag) =
      some (decide (1 ≤ windows.w5m.highRiskCount ∨ 3 ≤ windows.w15m.count)) := by
  have hwindows : severityMeaning .oauthClientReport .warning (windows.map oauthBag) =
      sql.any [meaning (.gte .highRiskCount 1) (oauthBag windows.w5m),
        meaning (.gte .count 3) (oauthBag windows.w15m), some false] := rfl
  rw [hwindows, meaning, meaning, oauthBag_highRiskCount, oauthBag_count]
  by_cases hrisk : 1 ≤ windows.w5m.highRiskCount <;> by_cases hcount : 3 ≤ windows.w15m.count <;>
    simp [sql.any, sql.le, sql.compare, sql.Truth.or, hrisk, hcount]

theorem severityMeaning_critical_holds :
    severityMeaning .oauthClientReport .critical (windows.map oauthBag) = some true ↔
      (3 ≤ windows.w60m.highRiskCount ∧ ∃ reporters ∈ windows.w60m.distinctReporters, 2 ≤ reporters) ∨
        10 ≤ windows.w60m.count := by
  rw [severityMeaning_critical, ← sql.Holds]
  cases windows.w60m.distinctReporters <;> simp

/-- The critical threshold is unknown only for want of the reporters of the longest window. -/
theorem severityMeaning_critical_unknown
    (hunknown : severityMeaning .oauthClientReport .critical (windows.map oauthBag) = none) :
    3 ≤ windows.w60m.highRiskCount ∧ windows.w60m.count < 10 ∧ windows.w60m.distinctReporters = none := by
  rw [severityMeaning_critical] at hunknown
  cases hreporters : windows.w60m.distinctReporters with
  | none =>
    rw [hreporters] at hunknown
    by_cases hrisk : 3 ≤ windows.w60m.highRiskCount <;> by_cases hcount : 10 ≤ windows.w60m.count <;>
      simp [sql.any, sql.all, sql.le, sql.compare, sql.Truth.or, sql.Truth.and, hrisk, hcount] at hunknown
    exact ⟨hrisk, Int.not_le.mp hcount, rfl⟩
  | some reporters =>
    rw [hreporters] at hunknown
    by_cases hrisk : 3 ≤ windows.w60m.highRiskCount <;> by_cases hknown : 2 ≤ reporters <;>
      by_cases hcount : 10 ≤ windows.w60m.count <;>
      simp [sql.any, sql.all, sql.le, sql.compare, sql.Truth.or, sql.Truth.and, hrisk, hknown, hcount] at hunknown

theorem evaluateAlertRule_report {evaluation : AlertRuleEvaluation}
    (heval : evaluateAlertRule (oauthReport asOf dimension windows) = .ok evaluation) :
    outcome (severityMeaning .oauthClientReport .critical (windows.map oauthBag))
      (severityMeaning .oauthClientReport .warning (windows.map oauthBag)) =
        (evaluation.severity, evaluation.evidence) := by
  obtain ⟨hdimension, hvalid, hnested, -⟩ := evaluateAlertRule_oauth_ok_iff.mp ⟨evaluation, heval⟩
  have hparse : parseAlertObservation (oauthReport asOf dimension windows) =
      .ok (parsedReport asOf dimension windows) :=
    parseAlertObservation_oauth_eq_ok_iff.mpr ⟨hdimension, hvalid, hnested, rfl⟩
  exact evaluateAlertRule_outcome hparse heval (.inr fun snapshot hqueue => by cases hqueue)

/-- A report without breached warnings is critical or not for its longest window alone. -/
theorem evaluateAlertRule_last {evaluation : AlertRuleEvaluation} {last : Int}
    (heval : evaluateAlertRule (oauthReport asOf dimension windows) = .ok evaluation)
    (hlast : windows.w60m.distinctReporters = some last) (hrisk : 3 ≤ windows.w60m.highRiskCount)
    (hcount : windows.w60m.count < 10) : evaluation.severity = .critical ↔ 2 ≤ last := by
  have houtcome : _ = evaluation.severity := congrArg Prod.fst (evaluateAlertRule_report heval)
  rw [← houtcome, outcome_critical_iff, severityMeaning_critical_holds, hlast]
  constructor
  · rintro (⟨-, reporters, hreporters, hbound⟩ | hexceeds)
    · cases hreporters
      exact hbound
    · omega
  · exact fun hbound => .inl ⟨hrisk, last, rfl, hbound⟩

/-- The evaluation of the same report with every reporter count filled in. -/
structure ReportCompletion (asOf : Timestamp) (dimension : AlertDimension)
    (windows completed : Windowed OAuthClientReportWindowMetrics) (evaluation : AlertRuleEvaluation) : Prop where
  completes : ∀ window, (completed.at window).Completes (windows.at window)
  evaluated : evaluateAlertRule (oauthReport asOf dimension completed) = .ok evaluation

theorem OAuthClientReportWindowMetrics.Completes.extends {completed metrics : OAuthClientReportWindowMetrics}
    (hcompletes : completed.Completes metrics) : (oauthBag metrics).Extends (oauthBag completed) := by
  obtain ⟨count, reporters, highRisk⟩ := completed
  obtain ⟨hcount, hrisk, -, hkept⟩ := hcompletes
  simp only at hcount hrisk hkept
  subst hcount
  subst hrisk
  intro metric value hvalue
  cases hreporters : metrics.distinctReporters with
  | some known =>
    rw [hkept known hreporters, ← hreporters]
    exact hvalue
  | none =>
    rw [oauthBag, hreporters] at hvalue
    cases metric with
    | count => exact hvalue
    | highRiskCount => exact oauthBag_highRiskCount.trans hvalue
    | _ => cases hvalue

/-- What is known of a report is known of its completions. -/
theorem completion_of_known {evaluation completion : AlertRuleEvaluation}
    {completed : Windowed OAuthClientReportWindowMetrics}
    (heval : evaluateAlertRule (oauthReport asOf dimension windows) = .ok evaluation)
    (hknown : evaluation.evidence = .known)
    (hcompletion : ReportCompletion asOf dimension windows completed completion) :
    evaluation.severity.rank ≤ completion.severity.rank ∧
      (evaluation.severity = .none → completion.severity = .none) := by
  have hextends : ∀ window, ((windows.map oauthBag).at window).Extends ((completed.map oauthBag).at window) := by
    intro window
    rw [Windowed.at_map, Windowed.at_map]
    exact (hcompletion.completes window).extends
  have houtcome := evaluateAlertRule_report heval
  have hcompleted := evaluateAlertRule_report hcompletion.evaluated
  have hsettles := fun severity => @windowsMeaning_refines (fun window => thresholdFor .oauthClientReport window severity)
    _ _ hextends ALERT_EVIDENCE_WINDOW_ORDER
  have hrefines := outcome_refines (hsettles .critical) (hsettles .warning) ((congrArg Prod.snd houtcome).trans hknown)
  rw [← severityMeaning, ← severityMeaning, ← severityMeaning, ← severityMeaning, houtcome, hcompleted] at hrefines
  exact hrefines

/-- The reporters that the shorter windows know of. -/
def knownReporters (windows : Windowed OAuthClientReportWindowMetrics) : Int :=
  windows.w15m.distinctReporters.getD (windows.w5m.distinctReporters.getD 0)

/-- The windows with their unknown reporters counted: none more than the shorter windows know
of, and `last` in the longest one. -/
def completeReporters (windows : Windowed OAuthClientReportWindowMetrics) (last : Int) :
    Windowed OAuthClientReportWindowMetrics where
  w5m := { windows.w5m with distinctReporters := some (windows.w5m.distinctReporters.getD 0) }
  w15m := { windows.w15m with distinctReporters := some (knownReporters windows) }
  w60m := { windows.w60m with distinctReporters := some last }

theorem completeReporters_completes {last : Int} (hlast : windows.w60m.distinctReporters = none)
    (window : AlertWindowKey) : ((completeReporters windows last).at window).Completes (windows.at window) := by
  cases window with
  | w5m =>
    refine ⟨rfl, rfl, Option.some_ne_none _, ?_⟩
    intro reporters hreporters
    have hfirst : windows.w5m.distinctReporters = some reporters := hreporters
    simp only [completeReporters, Windowed.at, hfirst, Option.getD_some]
  | w15m =>
    refine ⟨rfl, rfl, Option.some_ne_none _, ?_⟩
    intro reporters hreporters
    have hsecond : windows.w15m.distinctReporters = some reporters := hreporters
    simp only [completeReporters, Windowed.at, knownReporters, hsecond, Option.getD_some]
  | w60m =>
    refine ⟨rfl, rfl, Option.some_ne_none _, ?_⟩
    intro reporters hreporters
    exact absurd (hlast.symm.trans hreporters) (Option.some_ne_none reporters).symm

/-- The shorter windows know of no more reporters than they have reports. -/
theorem knownReporters_bounds (hvalid : ∀ window, (windows.at window).Valid) (hnested : NestedReports windows)
    (hlast : windows.w60m.distinctReporters = none) :
    0 ≤ windows.w5m.distinctReporters.getD 0 ∧
      windows.w5m.distinctReporters.getD 0 ≤ windows.w5m.count ∧
      windows.w5m.distinctReporters.getD 0 ≤ knownReporters windows ∧
      knownReporters windows ≤ windows.w15m.count := by
  have hfirst := (hvalid .w5m).reporters
  have hsecond := (hvalid .w15m).reporters
  have hcount := (hvalid .w5m).count
  have hcounts := hnested.count
  have hreporters := hnested.reporters
  simp only [fieldEntries, Windowed.entries, List.map_cons, List.map_nil, hlast, nullableCountNondecreasing_last]
    at hreporters
  simp only [Windowed.at] at hfirst hsecond hcount
  rw [knownReporters]
  cases hshort : windows.w5m.distinctReporters with
  | none =>
    cases hmiddle : windows.w15m.distinctReporters with
    | none =>
      simp only [Option.getD_none]
      omega
    | some middle =>
      obtain ⟨earlier, hearlier, -⟩ := hreporters middle hmiddle
      rw [hshort] at hearlier
      cases hearlier
  | some short =>
    have hshortBounds := hfirst short hshort
    cases hmiddle : windows.w15m.distinctReporters with
    | none =>
      simp only [Option.getD_none, Option.getD_some]
      omega
    | some middle =>
      obtain ⟨earlier, hearlier, hbelow⟩ := hreporters middle hmiddle
      rw [hshort] at hearlier
      cases hearlier
      have hmiddleBounds := hsecond middle hmiddle
      simp only [Option.getD_some]
      omega

/-- The reporters of the longest window may be any number between those the shorter windows
know of and its reports. -/
theorem completeReporters_accepted {last : Int} (hvalid : ∀ window, (windows.at window).Valid)
    (hnested : NestedReports windows) (hunknown : windows.w60m.distinctReporters = none)
    (hlow : knownReporters windows ≤ last) (hhigh : last ≤ windows.w60m.count) :
    (∀ window, ((completeReporters windows last).at window).Valid) ∧
      NestedReports (completeReporters windows last) := by
  obtain ⟨hzero, hshort, hbelow, hmiddle⟩ := knownReporters_bounds hvalid hnested hunknown
  refine ⟨?_, hnested.count, hnested.highRisk, ?_⟩
  · intro window
    cases window with
    | w5m =>
      refine ⟨(hvalid .w5m).count, ?_, (hvalid .w5m).highRisk⟩
      rintro reporters ⟨rfl⟩
      exact ⟨hzero, hshort⟩
    | w15m =>
      refine ⟨(hvalid .w15m).count, ?_, (hvalid .w15m).highRisk⟩
      rintro reporters ⟨rfl⟩
      exact ⟨by omega, hmiddle⟩
    | w60m =>
      refine ⟨(hvalid .w60m).count, ?_, (hvalid .w60m).highRisk⟩
      rintro reporters ⟨rfl⟩
      exact ⟨by omega, hhigh⟩
  · exact nullableCountNondecreasing_known.mpr ⟨hbelow, hlow⟩

/-- When the reporters of the longest window are unknown, a window that knows of so many
reporters is a shorter one, and what the shorter windows know of does not fall. -/
theorem knownReporters_ge_iff (bound : Int) (hnested : NestedReports windows)
    (hlast : windows.w60m.distinctReporters = none) (hpositive : 0 < bound) :
    bound ≤ knownReporters windows ↔
      ∃ window, ∃ reporters ∈ (windows.at window).distinctReporters, bound ≤ reporters := by
  have hreporters := hnested.reporters
  simp only [fieldEntries, Windowed.entries, List.map_cons, List.map_nil, hlast, nullableCountNondecreasing_last]
    at hreporters
  rw [knownReporters]
  constructor
  · intro hbound
    cases hmiddle : windows.w15m.distinctReporters with
    | some middle =>
      rw [hmiddle] at hbound
      exact ⟨.w15m, middle, hmiddle, hbound⟩
    | none =>
      cases hshort : windows.w5m.distinctReporters with
      | some short =>
        rw [hmiddle, hshort] at hbound
        exact ⟨.w5m, short, hshort, hbound⟩
      | none =>
        rw [hmiddle, hshort, Option.getD_none, Option.getD_none] at hbound
        omega
  · rintro ⟨window, reporters, hcounted, hbound⟩
    cases window with
    | w60m => cases hlast.symm.trans hcounted
    | w15m =>
      have hmiddle : windows.w15m.distinctReporters = some reporters := hcounted
      rw [hmiddle]
      exact hbound
    | w5m =>
      have hshort : windows.w5m.distinctReporters = some reporters := hcounted
      rw [hshort]
      cases hmiddle : windows.w15m.distinctReporters with
      | none => exact hbound
      | some middle =>
        obtain ⟨earlier, hearlier, hbelow⟩ := hreporters middle hmiddle
        cases hshort.symm.trans hearlier
        exact Int.le_trans hbound hbelow

/-- A completion counts at least the reporters that the shorter windows know of. -/
theorem knownReporters_le_completed {completed : Windowed OAuthClientReportWindowMetrics}
    {completion : AlertRuleEvaluation} (hcompletion : ReportCompletion asOf dimension windows completed completion) :
    ∃ last, completed.w60m.distinctReporters = some last ∧ knownReporters windows ≤ last := by
  obtain ⟨-, hvalid, hnested, -⟩ := evaluateAlertRule_oauth_ok_iff.mp ⟨completion, hcompletion.evaluated⟩
  obtain ⟨short, hshort⟩ := Option.ne_none_iff_exists'.mp (hcompletion.completes .w5m).counted
  obtain ⟨middle, hmiddle⟩ := Option.ne_none_iff_exists'.mp (hcompletion.completes .w15m).counted
  obtain ⟨last, hlast⟩ := Option.ne_none_iff_exists'.mp (hcompletion.completes .w60m).counted
  simp only [Windowed.at] at hshort hmiddle hlast
  refine ⟨last, hlast, ?_⟩
  have hreporters := hnested.reporters
  simp only [fieldEntries, Windowed.entries, List.map_cons, List.map_nil, hshort, hmiddle, hlast,
    nullableCountNondecreasing_known] at hreporters
  have hpositive := (hvalid .w5m).reporters short hshort
  rw [knownReporters]
  cases hknown : windows.w15m.distinctReporters with
  | some known =>
    have hkept := (hcompletion.completes .w15m).kept known hknown
    rw [Windowed.at, hmiddle] at hkept
    cases hkept
    exact hreporters.2
  | none =>
    rw [Option.getD_none]
    cases hfirst : windows.w5m.distinctReporters with
    | some known =>
      have hkept := (hcompletion.completes .w5m).kept known hfirst
      rw [Windowed.at, hshort] at hkept
      cases hkept
      rw [Option.getD_some]
      omega
    | none =>
      rw [Option.getD_none]
      omega

/-- An unknown report can be completed to a critical one. Where a shorter window already knows
of two reporters its completions are all critical; otherwise one of them is not. -/
theorem completion_of_unknown {evaluation : AlertRuleEvaluation}
    (heval : evaluateAlertRule (oauthReport asOf dimension windows) = .ok evaluation)
    (hunknown : evaluation.evidence = .unknown) :
    (∃ completed critical, ReportCompletion asOf dimension windows completed critical ∧
      critical.severity = .critical) ∧
    ((∃ window, ∃ reporters ∈ (windows.at window).distinctReporters, 2 ≤ reporters) →
      ∀ completed completion, ReportCompletion asOf dimension windows completed completion →
        completion.severity = .critical) ∧
    ((¬ ∃ window, ∃ reporters ∈ (windows.at window).distinctReporters, 2 ≤ reporters) →
      ∃ completed other, ReportCompletion asOf dimension windows completed other ∧ other.severity ≠ .critical) := by
  have houtcome : _ = evaluation.evidence := congrArg Prod.snd (evaluateAlertRule_report heval)
  obtain ⟨-, -, hnone⟩ := outcome_unknown (houtcome.trans hunknown)
  have hcritical : severityMeaning .oauthClientReport .critical (windows.map oauthBag) = none := by
    rcases hnone with hcritical | hwarning
    · exact hcritical
    · rw [severityMeaning_warning] at hwarning
      cases hwarning
  obtain ⟨hrisk, hcount, hlast⟩ := severityMeaning_critical_unknown hcritical
  obtain ⟨hdimension, hvalid, hnested, hinstant⟩ := evaluateAlertRule_oauth_ok_iff.mp ⟨evaluation, heval⟩
  obtain ⟨-, -, -, hknown⟩ := knownReporters_bounds hvalid hnested hlast
  have hcounts := hnested.count
  have hrisks : 0 ≤ windows.w60m.highRiskCount ∧ windows.w60m.highRiskCount ≤ windows.w60m.count :=
    (hvalid .w60m).highRisk
  -- Every number of reporters between the bounds is that of some completion.
  have hcomplete : ∀ last, knownReporters windows ≤ last → last ≤ windows.w60m.count →
      ∃ completion, ReportCompletion asOf dimension windows (completeReporters windows last) completion ∧
        (completion.severity = .critical ↔ 2 ≤ last) := by
    intro last hlow hhigh
    obtain ⟨haccepted, hwithin⟩ := completeReporters_accepted hvalid hnested hlast hlow hhigh
    obtain ⟨completion, hcompletion⟩ :=
      evaluateAlertRule_oauth_ok_iff.mpr ⟨hdimension, haccepted, hwithin, hinstant⟩
    exact ⟨completion, ⟨completeReporters_completes hlast, hcompletion⟩,
      evaluateAlertRule_last hcompletion rfl hrisk hcount⟩
  have hcounted := knownReporters_ge_iff 2 hnested hlast (by omega)
  refine ⟨?_, ?_, ?_⟩
  · obtain ⟨completion, hcompletion, hiff⟩ := hcomplete windows.w60m.count (by omega) (Int.le_refl _)
    exact ⟨_, completion, hcompletion, hiff.mpr (by omega)⟩
  · intro hwindow completed completion hcompletion
    have htwo : 2 ≤ knownReporters windows := hcounted.mpr hwindow
    obtain ⟨last, hlastCounted, hbelow⟩ := knownReporters_le_completed hcompletion
    have hcompleted := hcompletion.completes .w60m
    have hsameRisk : completed.w60m.highRiskCount = windows.w60m.highRiskCount := hcompleted.highRisk
    have hsameCount : completed.w60m.count = windows.w60m.count := hcompleted.count
    exact (evaluateAlertRule_last hcompletion.evaluated hlastCounted (by omega) (by omega)).mpr (by omega)
  · intro hwindow
    have hfew : ¬ 2 ≤ knownReporters windows := fun htwo => hwindow (hcounted.mp htwo)
    obtain ⟨completion, hcompletion, hiff⟩ := hcomplete (knownReporters windows) (Int.le_refl _) (by omega)
    exact ⟨_, completion, hcompletion, fun hsame => hfew (hiff.mp hsame)⟩

end report

/-- Evaluations say only what holds however the unknown metrics turn out. An expression that
is breached or clear stays so when more metrics are known, except that an `all` which then
breaches with more than two components throws. A known report has at least its severity in
every completion, and none only if they all have none; an unknown one has a critical
completion, and one that is not critical unless a shorter window already knows of two
reporters, when every completion is critical. -/
theorem unknown_metrics_sound :
    (∀ expression metrics extended result, MetricBag.Extends metrics extended →
      evaluateExpression expression metrics = .ok result → result ≠ .unknown →
        (∀ other, evaluateExpression expression extended = .ok other → other.truth = result.truth) ∧
          (componentBound expression ≤ 2 → ∃ other, evaluateExpression expression extended = .ok other)) ∧
    ∀ asOf dimension windows evaluation,
      evaluateAlertRule (oauthReport asOf dimension windows) = .ok evaluation →
        (evaluation.evidence = .known →
          ∀ completed completion, ReportCompletion asOf dimension windows completed completion →
            evaluation.severity.rank ≤ completion.severity.rank ∧
              (evaluation.severity = .none → completion.severity = .none)) ∧
        (evaluation.evidence = .unknown →
          (∃ completed critical, ReportCompletion asOf dimension windows completed critical ∧
            critical.severity = .critical) ∧
          ((∃ window, ∃ reporters ∈ (windows.at window).distinctReporters, 2 ≤ reporters) →
            ∀ completed completion, ReportCompletion asOf dimension windows completed completion →
              completion.severity = .critical) ∧
          ((¬ ∃ window, ∃ reporters ∈ (windows.at window).distinctReporters, 2 ≤ reporters) →
            ∃ completed other, ReportCompletion asOf dimension windows completed other ∧
              other.severity ≠ .critical)) := by
  constructor
  · intro expression metrics extended result hextends hresult hsettled
    constructor
    · intro other hother
      rw [evaluateExpression_truth expression hresult, evaluateExpression_truth expression hother]
      cases hmeaning : meaning expression metrics with
      | none =>
        rw [← evaluateExpression_truth expression hresult] at hmeaning
        exact absurd (ExpressionEvaluation.truth_eq_none_iff.mp hmeaning) hsettled
      | some breached => exact meaning_refines hextends expression breached hmeaning
    · intro hbound
      obtain ⟨other, hother, -⟩ := @evaluateExpression_returns extended expression hbound
      exact ⟨other, hother⟩
  · intro asOf dimension windows evaluation heval
    refine ⟨?_, completion_of_unknown heval⟩
    intro hknown completed completion hcompletion
    exact completion_of_known heval hknown hcompletion

/-- Three clauses that are breached together, or a fourth. -/
def wideExpression : ThresholdExpression :=
  .any [.all [.gte .count 1, .gte .dead 1, .gte .depth 1], .gte .rateLimited 1]

/-- Two reports by two reporters within a quarter of an hour, and a third within the hour
whose reporter is not counted. -/
def countedWindows : Windowed OAuthClientReportWindowMetrics where
  w5m := { count := 0, distinctReporters := some 0, highRiskCount := 0 }
  w15m := { count := 2, distinctReporters := some 2, highRiskCount := 2 }
  w60m := { count := 3, distinctReporters := none, highRiskCount := 3 }

/-- A metric that becomes known turns a breach into an error, and an unknown report is
critical however its reporters are counted. -/
theorem wideExpression_throws_countedWindows_critical :
    (∃ metrics extended components message, MetricBag.Extends metrics extended ∧
      evaluateExpression wideExpression metrics = .ok (.breached components) ∧
      evaluateExpression wideExpression extended = .error message) ∧
    ∃ asOf dimension evaluation,
      evaluateAlertRule (oauthReport asOf dimension countedWindows) = .ok evaluation ∧
        evaluation.evidence = .unknown ∧
        ∀ completed completion, ReportCompletion asOf dimension countedWindows completed completion →
          completion.severity = .critical := by
  constructor
  · refine ⟨metricBag [(.count, 1), (.rateLimited, 1)],
      metricBag [(.count, 1), (.rateLimited, 1), (.dead, 1), (.depth, 1)], _, _, ?_, rfl, rfl⟩
    intro metric value hvalue
    cases metric <;> first | exact hvalue | cases hvalue
  · refine ⟨⟨1700004000000, by decide⟩,
      .hashed .clientHmac ⟨1, "AAAAAAAAAAAAAAAAAAAAAAAAAAAAAAAAAAAAAAAAAAA"⟩, _, rfl, rfl, ?_⟩
    intro completed completion hcompletion
    obtain ⟨last, hcounted, hbelow⟩ := knownReporters_le_completed hcompletion
    have hcompleted := hcompletion.completes .w60m
    have hrisk : completed.w60m.highRiskCount = 3 := hcompleted.highRisk
    have hcount : completed.w60m.count = 3 := hcompleted.count
    have hknown : knownReporters countedWindows = 2 := rfl
    exact (evaluateAlertRule_last hcompletion.evaluated hcounted (by omega) (by omega)).mpr (by omega)

end pgid.alert
