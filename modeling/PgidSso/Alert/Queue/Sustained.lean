import PgidSso.Alert.Queue.Source
import PgidSso.Alert.Store.Normalized
import Mathlib.Data.List.Chain

open checked transition

namespace pgid.alert

section evaluation

variable {sample : QueueMetricSample} {since : Option Timestamp} {streak : Int}

/-- The observation of a persisted sample. -/
def sampleObservation (sample : QueueMetricSample) (since : Option Timestamp) (streak : Int) :
    AlertRuleObservation where
  asOf := sample.sampledAt
  dimension := .queue sample.queueName
  ruleId := .queueDlqApproximate
  measures := .queue (sampleSnapshot sample since streak)

theorem parseQueueSnapshot_sample (hvalid : sample.Valid) (hstreak : Streak sample since streak) :
    parseQueueSnapshot (sampleSnapshot sample since streak).binding =
      .ok (sampleSnapshot sample since streak) := by
  have hbytes : ¬ (sample.backlogBytes < 0 ∨ MAX_QUEUE_BACKLOG_BYTES < sample.backlogBytes) := by
    have hbound : _ ∧ sample.backlogBytes ≤ MAX_QUEUE_BACKLOG_BYTES := hvalid.bytes
    omega
  have hcount : ¬ (sample.backlogCount < 0 ∨ MAX_EVIDENCE_VALUE < sample.backlogCount) := by
    have hbound : _ ∧ sample.backlogCount ≤ MAX_EVIDENCE_VALUE := hvalid.count
    omega
  have hsamples : nullableInteger (some streak) "consecutive Queue samples" MAX_RATIO_FIELD =
      .ok (some streak) := by
    have hbound : _ ∧ streak ≤ MAX_RATIO_FIELD := streak_bounds hstreak
    simp only [nullableInteger, nullable, integer_eq_ok_iff.mpr ⟨rfl, hbound.1, hbound.2⟩]
    rfl
  have holdest : queueBindingTimestamp (sampleSnapshot sample since streak).binding.oldestMessageTimestamp =
      (true, (sampleSnapshot sample since streak).oldestMessageTimestamp) := by
    unfold QueueDepthSnapshot.binding
    cases (sampleSnapshot sample since streak).oldestMessageTimestamp <;> rfl
  unfold parseQueueSnapshot
  rw [holdest]
  simp only [QueueDepthSnapshot.binding, sampleSnapshot, queueBindingInteger, if_neg hbytes, if_neg hcount,
    hsamples]
  rfl

theorem parseAlertObservation_sample (hvalid : sample.Valid) (hstreak : Streak sample since streak) :
    parseAlertObservation (sampleObservation sample since streak).input =
      .ok (sampleObservation sample since streak) := by
  have hmeasures : parseMeasures .queueDlqApproximate
      ((sampleObservation sample since streak).measures.map QueueDepthSnapshot.binding) =
        .ok (sampleObservation sample since streak).measures := by
    simp only [parseMeasures, parseRuleMeasures, sampleObservation, AlertMeasures.map,
      parseQueueSnapshot_sample hvalid hstreak]
    rfl
  unfold parseAlertObservation AlertObservation.input
  simp only [show (sampleObservation sample since streak).ruleId = .queueDlqApproximate from rfl, hmeasures]
  rfl

/-- The one critical threshold of the rule, over fifteen minutes. -/
def queueCritical : ThresholdExpression :=
  .any [.gte .depth 10, .gte .consecutiveNonzeroSamples 15]

theorem thresholdFor_queueCritical {window : AlertWindowKey} {expression : ThresholdExpression} :
    expression ∈ thresholdFor .queueDlqApproximate window .critical ↔
      window = .w15m ∧ expression = queueCritical := by
  cases window with
  | w5m =>
    constructor
    · intro hexpression
      cases hexpression
    · rintro ⟨hwindow, -⟩
      cases hwindow
  | w15m =>
    constructor
    · intro hexpression
      cases hexpression
      exact ⟨rfl, rfl⟩
    · rintro ⟨-, rfl⟩
      rfl
  | w60m =>
    constructor
    · intro hexpression
      cases hexpression
    · rintro ⟨hwindow, -⟩
      cases hwindow

theorem breached_queueCritical {depth samples : Int} {metrics : MetricBag}
    (hdepth : metrics .depth = some depth) (hsamples : metrics .consecutiveNonzeroSamples = some samples) :
    (∃ components, evaluateExpression queueCritical metrics = .ok (.breached components)) ↔
      10 ≤ depth ∨ 15 ≤ samples := by
  unfold queueCritical
  by_cases hdeep : depth < 10
  · by_cases hshort : samples < 15
    · simp [evaluateExpression, evaluateAny, hdepth, hsamples, hdeep, hshort]
    · simp [evaluateExpression, evaluateAny, hdepth, hsamples, hdeep, hshort, Int.not_lt.mp hshort]
  · simp [evaluateExpression, evaluateAny, hdepth, hdeep, Int.not_lt.mp hdeep]

/-- The evaluation of a persisted sample is critical from the sixteenth sample of its streak
on, or at once if the queue is ten deep. -/
theorem evaluateAlertRule_sample (hvalid : sample.Valid) (hstreak : Streak sample since streak)
    (hcount : 0 < sample.backlogCount) :
    ∃ evaluation, evaluateAlertRule (sampleObservation sample since streak).input = .ok evaluation ∧
      (evaluation.severity = .critical ↔ 10 ≤ sample.backlogCount ∨ 16 ≤ streak) := by
  have hparse := parseAlertObservation_sample hvalid hstreak
  have hinstant : -Timestamp.maximumMs + 3600000 ≤ sample.sampledAt.ms := by
    have hyear := hvalid.year
    unfold Timestamp.FourDigitYear at hyear
    unfold Timestamp.maximumMs
    omega
  obtain ⟨evaluation, heval, -⟩ := evaluateAlertRule_returns hparse hinstant
  refine ⟨evaluation, heval, ?_⟩
  have hknown := knownQueueSnapshot_sample hvalid hstreak
  rw [if_neg (by omega)] at hknown
  obtain ⟨windows, hwindows⟩ := alertWindowsAt_ok_iff.mpr hinstant
  simp only [evaluateAlertRule, hparse, ok_bind] at heval
  simp only [sampleObservation, hwindows, ok_bind, hknown] at heval
  rw [evaluateThresholds_critical_iff heval]
  have hbreached : (∃ components, evaluateExpression queueCritical
      (queueBag ⟨sample.backlogBytes, streak - 1, sample.backlogCount, sample.oldestMessageAgeSeconds⟩) =
        .ok (.breached components)) ↔ 10 ≤ sample.backlogCount ∨ 15 ≤ streak - 1 :=
    breached_queueCritical rfl rfl
  constructor
  · rintro ⟨window, expression, hexpression, hbreach⟩
    obtain ⟨rfl, rfl⟩ := thresholdFor_queueCritical.mp hexpression
    have hmetric := hbreached.mp hbreach
    omega
  · intro hmetric
    exact ⟨.w15m, queueCritical, rfl, hbreached.mpr (by omega)⟩

end evaluation

section sources

variable {table next : RuntimeTable} {queue : AlertQueueName} {sample : QueueMetricSample} {asOf : Timestamp}
  {observation : AlertRuleObservation} {providers : AlertQueueName → ProviderReading}

/-- The row of a queue is that of a sample of it. -/
structure KeepsSample (table : RuntimeTable) (queue : AlertQueueName) (sample : QueueMetricSample)
    (revision : Int) (since : Option Timestamp) (streak : Int) : Prop where
  row : table (ALERT_QUEUE_COMPONENTS queue) = some (sampledRow sample revision since streak)
  queueName : sample.queueName = queue
  valid : sample.Valid
  low : 0 ≤ revision
  high : revision ≤ MAX_REVISION
  streak : Streak sample since streak

/-- The queue was never sampled, or was empty when it was. -/
def Fresh (queue : AlertQueueName) (table : RuntimeTable) : Prop :=
  table (ALERT_QUEUE_COMPONENTS queue) = none ∨ ∃ sample revision since streak,
    KeepsSample table queue sample revision since streak ∧ sample.backlogCount = 0

theorem upsert_other {component : RuntimeComponent} {changed : Int}
    (hother : component ≠ ALERT_QUEUE_COMPONENTS sample.queueName)
    (hupsert : ALERT_QUEUE_METRIC_SAMPLE_UPSERT sample table = .ok (next, changed)) :
    next component = table component := by
  rw [ALERT_QUEUE_METRIC_SAMPLE_UPSERT, throwIf_bind_eq_ok_iff, throwIf_bind_eq_ok_iff] at hupsert
  obtain ⟨-, -, hupsert⟩ := hupsert
  cases hrow : table (excluded sample).component with
  | none =>
    rw [hrow] at hupsert
    cases hupsert
    exact Function.update_of_ne hother _ _
  | some row =>
    simp only [hrow] at hupsert
    split at hupsert
    · rw [throwIf_bind_eq_ok_iff, throwIf_bind_eq_ok_iff] at hupsert
      obtain ⟨-, -, hupsert⟩ := hupsert
      cases hupsert
      exact Function.update_of_ne hother _ _
    · cases hupsert
      rfl

/-- A call for another queue leaves the row of this one. -/
theorem persistQueueMetricSample_other (table : RuntimeTable) (hother : sample.queueName ≠ queue) :
    (persistQueueMetricSample table sample).2 (ALERT_QUEUE_COMPONENTS queue) =
      table (ALERT_QUEUE_COMPONENTS queue) := by
  unfold persistQueueMetricSample
  cases hparse : parseSample sample with
  | error code => rfl
  | ok parsed =>
    obtain ⟨rfl, hvalid⟩ := parseSample_eq_ok_iff.mp hparse
    cases hupsert : ALERT_QUEUE_METRIC_SAMPLE_UPSERT parsed table with
    | error abort => simp only [hupsert]
    | ok result =>
      simp only [hupsert]
      exact upsert_other (fun heq => hother (ALERT_QUEUE_COMPONENTS_injective heq).symm) hupsert

theorem bindingSample_eq_ok {record : QueueBindingMetrics}
    (hsample : bindingSample record queue asOf = .ok sample) :
    sample.queueName = queue ∧ sample.sampledAt = asOf ∧ record.backlogCount = some sample.backlogCount := by
  unfold bindingSample at hsample
  obtain ⟨bytes, -, hsample⟩ := bind_eq_ok_iff.mp hsample
  obtain ⟨count, hcount, hsample⟩ := bind_eq_ok_iff.mp hsample
  have hreported : record.backlogCount = some count := by
    cases hrecord : record.backlogCount with
    | none =>
      rw [hrecord] at hcount
      cases hcount
    | some reported =>
      rw [hrecord] at hcount
      rw [(boundedInteger_eq_ok_iff.mp hcount).1]
  split at hsample
  · rw [throwIf_bind_eq_ok_iff] at hsample
    cases hsample.2
    exact ⟨rfl, rfl, hreported⟩
  · split at hsample
    · rw [throwIf_bind_eq_ok_iff, throwIf_bind_eq_ok_iff] at hsample
      cases hsample.2.2
      exact ⟨rfl, rfl, hreported⟩
    · cases hsample

theorem normalizeBindingMetrics_eq_some {provider : ProviderReading}
    (hsample : normalizeBindingMetrics provider queue asOf = some sample) :
    sample.queueName = queue ∧ sample.sampledAt = asOf ∧
      ∃ record, provider = .metrics record ∧ record.backlogCount = some sample.backlogCount := by
  unfold normalizeBindingMetrics at hsample
  cases provider with
  | unavailable => cases hsample
  | malformed => cases hsample
  | metrics record =>
    cases hbinding : bindingSample record queue asOf with
    | error code =>
      simp only [hbinding] at hsample
      cases hsample
    | ok found =>
      simp only [hbinding] at hsample
      cases hsample
      obtain ⟨hqueue, hat, hcount⟩ := bindingSample_eq_ok hbinding
      exact ⟨hqueue, hat, record, rfl, hcount⟩

theorem readQueueMetricsAlertSource_of_sample {provider : ProviderReading}
    (hsample : normalizeBindingMetrics provider queue asOf = some sample) :
    readQueueMetricsAlertSource table provider queue asOf =
      (match (persistQueueMetricSample table sample).1 with
        | .ok persisted => persistedSource asOf queue persisted
        | .error _ => unknownSource asOf queue,
      (persistQueueMetricSample table sample).2) := by
  unfold readQueueMetricsAlertSource
  simp only [hsample]
  cases persistQueueMetricSample table sample with
  | mk answer next => cases answer <;> rfl

theorem collectQueueSource_snd :
    (collectQueueSource asOf providers table queue).2 =
      (readQueueMetricsAlertSource table (providers queue) queue asOf).2 := by
  unfold collectQueueSource
  rcases readQueueMetricsAlertSource table (providers queue) queue asOf with ⟨code | source, next⟩ <;> rfl

/-- The source of another queue leaves the row of this one. -/
theorem collectQueueSource_other {other : AlertQueueName} (hother : other ≠ queue) :
    (collectQueueSource asOf providers table other).2 (ALERT_QUEUE_COMPONENTS queue) =
      table (ALERT_QUEUE_COMPONENTS queue) := by
  rw [collectQueueSource_snd]
  cases hsample : normalizeBindingMetrics (providers other) other asOf with
  | none =>
    unfold readQueueMetricsAlertSource
    rw [hsample]
  | some sample =>
    have hqueue := (normalizeBindingMetrics_eq_some hsample).1
    rw [readQueueMetricsAlertSource_of_sample hsample]
    exact persistQueueMetricSample_other table (hqueue ▸ hother)

/-- An unsampled queue holds the first sample that was persisted. -/
theorem persist_of_none {answer : PersistQueueMetricSampleResult}
    (hnone : table (ALERT_QUEUE_COMPONENTS queue) = none) (hqueue : sample.queueName = queue)
    (hpersist : persistQueueMetricSample table sample = (.ok answer, next)) :
    ∃ since streak, KeepsSample next queue sample 0 since streak ∧
      (0 < sample.backlogCount → streak = 1) ∧
      answer = ⟨.committed, some (sampleSnapshot sample since streak)⟩ := by
  subst hqueue
  unfold persistQueueMetricSample at hpersist
  cases hparse : parseSample sample with
  | error code =>
    rw [hparse] at hpersist
    cases hpersist
  | ok parsed =>
    obtain ⟨rfl, hvalid⟩ := parseSample_eq_ok_iff.mp hparse
    have hfirst := streak_first hvalid
    have hzero : (0 : Int) ≤ MAX_REVISION := by decide
    simp only [hparse, upsert_of_none hvalid hnone, Function.update_self, excluded_eq,
      persistedResult_sampledRow hvalid (Int.le_refl 0) hzero hfirst rfl, if_true, Prod.mk.injEq,
      Except.ok.injEq] at hpersist
    obtain ⟨rfl, rfl⟩ := hpersist
    exact ⟨_, _, ⟨Function.update_self _ _ _, rfl, hvalid, Int.le_refl 0, hzero, hfirst⟩,
      fun hcount => if_pos hcount, rfl⟩

/-- A sampled queue holds the same sample still, or a later one that goes on with its streak. -/
theorem persist_of_keeps {old : QueueMetricSample} {revision streak : Int} {since : Option Timestamp}
    {outcome : QueueMetricPersistenceOutcome} {snapshot : QueueDepthSnapshot}
    (hkeeps : KeepsSample table queue old revision since streak) (hqueue : sample.queueName = queue)
    (hpersist : persistQueueMetricSample table sample = (.ok ⟨outcome, some snapshot⟩, next)) :
    old = sample ∨ old.sampledAt < sample.sampledAt ∧
      KeepsSample next queue sample (revision + 1) (nextSince old since sample) (nextStreak old streak sample) ∧
      snapshot = sampleSnapshot sample (nextSince old since sample) (nextStreak old streak sample) := by
  obtain ⟨hrow, hname, hold, hlow, hhigh, hstreak⟩ := hkeeps
  subst hqueue
  unfold persistQueueMetricSample at hpersist
  cases hparse : parseSample sample with
  | error code =>
    rw [hparse] at hpersist
    cases hpersist
  | ok parsed =>
    obtain ⟨rfl, hvalid⟩ := parseSample_eq_ok_iff.mp hparse
    rw [hparse] at hpersist
    simp only [upsert_of_some hvalid hname.symm hlow hstreak hrow] at hpersist
    by_cases haccepts : revision < MAX_REVISION ∧ old.sampledAt < parsed.sampledAt
    · rw [if_neg (not_not_intro haccepts)] at hpersist
      by_cases hroom : nextStreak old streak parsed ≤ MAX_CONSECUTIVE_NONZERO_SAMPLES
      · have hnext := streak_next hstreak hvalid hroom
        have hrevision : revision + 1 ≤ MAX_REVISION := by omega
        rw [if_pos hroom] at hpersist
        simp only [Function.update_self, persistedResult_sampledRow hvalid (show 0 ≤ revision + 1 by omega)
          hrevision hnext rfl, if_true, Prod.mk.injEq, Except.ok.injEq,
          PersistQueueMetricSampleResult.mk.injEq, Option.some.injEq] at hpersist
        obtain ⟨⟨-, rfl⟩, rfl⟩ := hpersist
        exact Or.inr ⟨haccepts.2, ⟨Function.update_self _ _ _, rfl, hvalid, by omega, hrevision, hnext⟩, rfl⟩
      · rw [if_neg hroom] at hpersist
        cases hpersist
    · rw [if_pos haccepts] at hpersist
      simp only [hrow, persistedResult_sampledRow hold hlow hhigh hstreak hname.symm] at hpersist
      by_cases hown : old = parsed
      · exact Or.inl hown
      · rw [if_neg hown, if_neg (by decide)] at hpersist
        cases hpersist

theorem unknownSource_persistence {source : QueueMetricsAlertSourceResult}
    (hsource : unknownSource asOf queue = .ok source) : source.persistence = .unknown := by
  obtain ⟨observation, -, heq⟩ := bind_eq_ok_iff.mp hsource
  cases heq
  rfl

theorem persistedSource_known {persisted : PersistQueueMetricSampleResult}
    {source : QueueMetricsAlertSourceResult} (hsource : persistedSource asOf queue persisted = .ok source)
    (hknown : source.persistence ≠ .unknown) :
    ∃ outcome snapshot, persisted = ⟨outcome, some snapshot⟩ ∧
      queueObservation asOf queue snapshot = .ok source.observation := by
  obtain ⟨outcome, found⟩ := persisted
  unfold persistedSource at hsource
  split at hsource
  · rename_i snapshot hsnapshot houtcome
    obtain ⟨observation, hobservation, heq⟩ := bind_eq_ok_iff.mp hsource
    cases heq
    cases hsnapshot
    exact ⟨outcome, snapshot, rfl, hobservation⟩
  · rename_i snapshot hsnapshot houtcome
    obtain ⟨observation, hobservation, heq⟩ := bind_eq_ok_iff.mp hsource
    cases heq
    cases hsnapshot
    exact ⟨outcome, snapshot, rfl, hobservation⟩
  · exact absurd (unknownSource_persistence hsource) hknown

/-- A source that is complete persisted the sample of its provider. -/
theorem collectQueueSource_some
    (hsource : collectQueueSource asOf providers table queue = (some observation, next)) :
    ∃ sample outcome snapshot candidate,
      normalizeBindingMetrics (providers queue) queue asOf = some sample ∧
      persistQueueMetricSample table sample = (.ok ⟨outcome, some snapshot⟩, next) ∧
      queueObservation asOf queue snapshot = .ok candidate ∧
      completedQueueSource asOf queue candidate = some observation := by
  have hnext : (readQueueMetricsAlertSource table (providers queue) queue asOf).2 = next := by
    rw [← collectQueueSource_snd, hsource]
  unfold collectQueueSource at hsource
  cases hread : readQueueMetricsAlertSource table (providers queue) queue asOf with
  | mk result last =>
    rw [hread] at hnext hsource
    cases hnext
    cases result with
    | error code => cases hsource
    | ok source =>
      simp only [Prod.mk.injEq, and_true, ite_eq_iff, reduceCtorEq, and_false, false_or] at hsource
      obtain ⟨hknown, hcompleted⟩ := hsource
      cases hsample : normalizeBindingMetrics (providers queue) queue asOf with
      | none =>
        unfold readQueueMetricsAlertSource at hread
        simp only [hsample, Prod.mk.injEq] at hread
        exact absurd (unknownSource_persistence hread.1) hknown
      | some sample =>
        rw [readQueueMetricsAlertSource_of_sample hsample] at hread
        cases hpersist : persistQueueMetricSample table sample with
        | mk answer after =>
          rw [hpersist] at hread
          cases answer with
          | error code =>
            simp only [Prod.mk.injEq] at hread
            exact absurd (unknownSource_persistence hread.1) hknown
          | ok persisted =>
            simp only [Prod.mk.injEq] at hread
            obtain ⟨hpersisted, rfl⟩ := hread
            obtain ⟨outcome, snapshot, rfl, hobservation⟩ := persistedSource_known hpersisted hknown
            exact ⟨sample, outcome, snapshot, _, rfl, hpersist, hobservation, hcompleted⟩

theorem queueObservation_sample {since : Option Timestamp} {streak : Int} (hvalid : sample.Valid)
    (hstreak : Streak sample since streak) :
    queueObservation sample.sampledAt sample.queueName (sampleSnapshot sample since streak) =
      .ok (sampleObservation sample since streak) := by
  have hparse := parseAlertObservation_sample hvalid hstreak
  unfold AlertObservation.input sampleObservation AlertMeasures.map at hparse
  unfold queueObservation
  rw [hparse]
  rfl

theorem completedQueueSource_sample {since : Option Timestamp} {streak : Int} (hvalid : sample.Valid)
    (hstreak : Streak sample since streak) :
    completedQueueSource sample.sampledAt sample.queueName (sampleObservation sample since streak) =
      some (sampleObservation sample since streak) := by
  unfold completedQueueSource
  rw [parseAlertObservation_sample hvalid hstreak]
  simp [sampleObservation]

/-- What a complete source of a nonempty queue leaves, from the row of an earlier sample or
from none: the row of its own sample, which it observes. -/
theorem collectQueueSource_keeps
    (hsource : collectQueueSource asOf providers table queue = (some observation, next))
    (hreports : ∀ record, providers queue = .metrics record → ∃ count, record.backlogCount = some count ∧
      0 < count) :
    ∃ sample, sample.sampledAt = asOf ∧ 0 < sample.backlogCount ∧
      (∀ record, providers queue = .metrics record → record.backlogCount = some sample.backlogCount) ∧
      (table (ALERT_QUEUE_COMPONENTS queue) = none → ∃ since, KeepsSample next queue sample 0 since 1 ∧
        observation = sampleObservation sample since 1) ∧
      ∀ old revision since streak, KeepsSample table queue old revision since streak →
        old = sample ∨ old.sampledAt < sample.sampledAt ∧
          KeepsSample next queue sample (revision + 1) (nextSince old since sample)
            (nextStreak old streak sample) ∧
          observation = sampleObservation sample (nextSince old since sample)
            (nextStreak old streak sample) := by
  obtain ⟨sample, outcome, snapshot, candidate, hsample, hpersist, hobservation, hcompleted⟩ :=
    collectQueueSource_some hsource
  obtain ⟨rfl, rfl, record, hrecord, hcount⟩ := normalizeBindingMetrics_eq_some hsample
  have hobserved : ∀ since streak, sample.Valid → Streak sample since streak →
      snapshot = sampleSnapshot sample since streak → observation = sampleObservation sample since streak := by
    rintro since streak hvalid hstreak rfl
    rw [queueObservation_sample hvalid hstreak, Except.ok.injEq] at hobservation
    rw [← hobservation, completedQueueSource_sample hvalid hstreak, Option.some.injEq] at hcompleted
    exact hcompleted.symm
  have hpositive : 0 < sample.backlogCount := by
    obtain ⟨count, hreported, hpositive⟩ := hreports record hrecord
    rw [hcount, Option.some.injEq] at hreported
    omega
  refine ⟨sample, rfl, hpositive, ?_, fun hnone => ?_, fun old revision since streak hkeeps => ?_⟩
  · intro other hother
    rw [hrecord, ProviderReading.metrics.injEq] at hother
    exact hother ▸ hcount
  · obtain ⟨since, streak, hkeeps, hone, hanswer⟩ := persist_of_none hnone rfl hpersist
    obtain rfl := hone hpositive
    simp only [PersistQueueMetricSampleResult.mk.injEq, Option.some.injEq] at hanswer
    exact ⟨since, hkeeps, hobserved since 1 hkeeps.valid hkeeps.streak hanswer.2⟩
  · rcases persist_of_keeps hkeeps rfl hpersist with hown | ⟨hlater, hnext, hsnapshot⟩
    · exact Or.inl hown
    · exact Or.inr ⟨hlater, hnext, hobserved _ _ hnext.valid hnext.streak hsnapshot⟩

end sources

/-- A run: what it is given, the instant its metrics are of, and its queue sources. -/
structure EvaluatorRun where
  input : EvaluatorRunInput
  asOf : Timestamp
  sources : List (AlertQueueName × Option AlertRuleObservation)

/-- A run whose queue sources are all complete, as they are in one that succeeds. -/
def EvaluatorStep (table : RuntimeTable) (run : EvaluatorRun) (next : RuntimeTable) : Prop :=
  queueMetricBarrierAsOf run.input = .ok run.asOf ∧
    collectQueueSources run.asOf run.input.queueProviders ALERT_QUEUE_NAMES table = (run.sources, next) ∧
    ∀ source ∈ run.sources, source.2 ≠ none

namespace EvaluatorRun

/-- The clock of the run stays in the minute of its trigger. -/
def InMinute (run : EvaluatorRun) : Prop :=
  (run.input.scheduledTime ≤ run.input.startedReading.ms ∧
      run.input.startedReading.ms < run.input.scheduledTime + 60000) ∧
    run.input.scheduledTime ≤ run.input.barrierReading.ms ∧
      run.input.barrierReading.ms < run.input.scheduledTime + 60000

/-- The run is triggered one minute after the other. -/
def NextMinute (earlier later : EvaluatorRun) : Prop :=
  later.input.scheduledTime = earlier.input.scheduledTime + 60000

/-- The metrics of the run are exactly one minute after those of the other. -/
def ExactMinute (earlier later : EvaluatorRun) : Prop :=
  later.asOf.ms = earlier.asOf.ms + 60000

/-- The provider of a queue reports a backlog. -/
def Reports (queue : AlertQueueName) (run : EvaluatorRun) : Prop :=
  ∃ record count, run.input.queueProviders queue = .metrics record ∧ record.backlogCount = some count ∧
    0 < count

instance (earlier later : EvaluatorRun) : Decidable (earlier.ExactMinute later) :=
  inferInstanceAs (Decidable (_ = _))

instance (run : EvaluatorRun) : Decidable run.InMinute :=
  inferInstanceAs (Decidable (_ ∧ _))

end EvaluatorRun

/-- The runs that end with the newest and are each exactly a minute apart, newest first. -/
def minuteStreak : List EvaluatorRun → Nat
  | [] => 0
  | [_] => 1
  | later :: earlier :: rest =>
    if earlier.ExactMinute later then minuteStreak (earlier :: rest) + 1 else 1

/-- Every run counts exactly when each is a minute after the one before it. -/
theorem minuteStreak_eq_length_iff (runs : List EvaluatorRun) :
    minuteStreak runs = runs.length ↔ runs.IsChain fun later earlier => earlier.ExactMinute later := by
  induction runs with
  | nil => exact iff_of_true rfl .nil
  | cons later runs ih =>
    cases runs with
    | nil => exact iff_of_true rfl (.singleton later)
    | cons earlier rest =>
      rw [minuteStreak, List.isChain_cons_cons, ← ih]
      by_cases hexact : earlier.ExactMinute later
      · rw [if_pos hexact, List.length_cons]
        constructor
        · exact fun hlength => ⟨hexact, by omega⟩
        · exact fun hlength => by omega
      · rw [if_neg hexact]
        constructor
        · intro hlength
          simp only [List.length_cons] at hlength
          omega
        · exact fun hlength => absurd hlength.1 hexact

section runs

variable {table next : RuntimeTable} {queue : AlertQueueName} {run : EvaluatorRun} {past : List EvaluatorRun}

theorem collectQueueSources_other {asOf : Timestamp} {providers : AlertQueueName → ProviderReading}
    {queues : List AlertQueueName} (table : RuntimeTable) (hnot : queue ∉ queues) :
    (collectQueueSources asOf providers queues table).2 (ALERT_QUEUE_COMPONENTS queue) =
      table (ALERT_QUEUE_COMPONENTS queue) := by
  induction queues generalizing table with
  | nil => rfl
  | cons first queues ih =>
    rw [List.mem_cons, not_or] at hnot
    simp only [collectQueueSources]
    rw [ih _ hnot.2]
    exact collectQueueSource_other fun heq => hnot.1 heq.symm

/-- The source of a queue among those of the run. -/
theorem collectQueueSources_lookup (asOf : Timestamp) (providers : AlertQueueName → ProviderReading)
    {queues : List AlertQueueName} (table : RuntimeTable) (hmem : queue ∈ queues) (hnodup : queues.Nodup) :
    ∃ before, before (ALERT_QUEUE_COMPONENTS queue) = table (ALERT_QUEUE_COMPONENTS queue) ∧
      (queue, (collectQueueSource asOf providers before queue).1) ∈
        (collectQueueSources asOf providers queues table).1 ∧
      (collectQueueSources asOf providers queues table).2 (ALERT_QUEUE_COMPONENTS queue) =
        (collectQueueSource asOf providers before queue).2 (ALERT_QUEUE_COMPONENTS queue) := by
  induction queues generalizing table with
  | nil => exact absurd hmem List.not_mem_nil
  | cons first queues ih =>
    simp only [collectQueueSources]
    by_cases hfirst : first = queue
    · subst hfirst
      refine ⟨table, rfl, List.mem_cons_self, ?_⟩
      exact collectQueueSources_other _ (List.nodup_cons.mp hnodup).1
    · have hrest : queue ∈ queues := (List.mem_cons.mp hmem).resolve_left fun heq => hfirst heq.symm
      obtain ⟨before, hbefore, hsource, hlast⟩ :=
        ih (collectQueueSource asOf providers table first).2 hrest (List.nodup_cons.mp hnodup).2
      refine ⟨before, hbefore.trans (collectQueueSource_other hfirst), List.mem_cons_of_mem _ hsource, hlast⟩

theorem nextTime_eq_ok {clock later : MonotonicClock} {raw instant : Timestamp}
    (hnext : clock.nextTime raw = .ok (instant, later)) :
    instant.ms = clock.logicalTime raw ∧ later = ⟨some instant.ms, some raw⟩ := by
  rw [MonotonicClock.nextTime, throwIf_bind_eq_ok_iff] at hnext
  obtain ⟨-, hnext⟩ := hnext
  cases hofMs : Timestamp.ofMs (clock.logicalTime raw) with
  | ok time =>
    rw [hofMs] at hnext
    cases hnext
    exact ⟨Timestamp.ofMs_eq_ok_iff.mp hofMs, rfl⟩
  | error message =>
    rw [hofMs] at hnext
    cases hnext

/-- The instant of the metrics is the second reading, or just after the first. -/
theorem queueMetricBarrierAsOf_ms {input : EvaluatorRunInput} {asOf : Timestamp}
    (hasOf : queueMetricBarrierAsOf input = .ok asOf) :
    input.startedReading.ms < asOf.ms ∧
      (asOf.ms = input.barrierReading.ms ∨ asOf.ms = input.startedReading.ms + 1) := by
  unfold queueMetricBarrierAsOf at hasOf
  obtain ⟨scheduledAt, -, hasOf⟩ := bind_eq_ok_iff.mp hasOf
  obtain ⟨⟨startedAt, clock⟩, hstarted, hasOf⟩ := bind_eq_ok_iff.mp hasOf
  rw [throwIf_bind_eq_ok_iff] at hasOf
  obtain ⟨⟨found, last⟩, hfound, heq⟩ := bind_eq_ok_iff.mp hasOf.2
  cases heq
  obtain ⟨hfirst, rfl⟩ := nextTime_eq_ok hstarted
  have hsecond := (nextTime_eq_ok hfound).1
  unfold MonotonicClock.logicalTime at hfirst hsecond
  simp only at hfirst hsecond
  split at hsecond <;> omega

/-- A run a minute later has later metrics. -/
theorem asOf_lt_of_nextMinute {earlier later : EvaluatorRun}
    (hearlier : queueMetricBarrierAsOf earlier.input = .ok earlier.asOf)
    (hlater : queueMetricBarrierAsOf later.input = .ok later.asOf)
    (hminute : earlier.InMinute) (hnextMinute : later.InMinute) (hnext : earlier.NextMinute later) :
    earlier.asOf.ms < later.asOf.ms := by
  obtain ⟨⟨-, hstarted⟩, -, hbarrier⟩ := hminute
  obtain ⟨⟨hlaterStarted, -⟩, -⟩ := hnextMinute
  unfold EvaluatorRun.NextMinute at hnext
  have hbefore := queueMetricBarrierAsOf_ms hearlier
  have hafter := queueMetricBarrierAsOf_ms hlater
  omega

/-- The run reads and keeps a sample of the queue, and what it observes is the sample's. -/
structure Samples (queue : AlertQueueName) (run : EvaluatorRun) (next : RuntimeTable)
    (sample : QueueMetricSample) (streak : Int) : Prop where
  sampledAt : sample.sampledAt = run.asOf
  nonempty : 0 < sample.backlogCount
  reported : ∀ record, run.input.queueProviders queue = .metrics record →
    record.backlogCount = some sample.backlogCount
  kept : ∃ revision since, KeepsSample next queue sample revision since streak ∧
    (queue, some (sampleObservation sample since streak)) ∈ run.sources

theorem ALERT_QUEUE_NAMES_complete (queue : AlertQueueName) : queue ∈ ALERT_QUEUE_NAMES := by
  cases queue <;> decide

/-- The source of the queue in a run whose sources are complete. -/
theorem step_source (hstep : EvaluatorStep table run next) :
    ∃ before after observation,
      before (ALERT_QUEUE_COMPONENTS queue) = table (ALERT_QUEUE_COMPONENTS queue) ∧
      collectQueueSource run.asOf run.input.queueProviders before queue = (some observation, after) ∧
      (queue, some observation) ∈ run.sources ∧
      next (ALERT_QUEUE_COMPONENTS queue) = after (ALERT_QUEUE_COMPONENTS queue) := by
  obtain ⟨-, hcollect, hcomplete⟩ := hstep
  have hnodup : ALERT_QUEUE_NAMES.Nodup := by decide
  obtain ⟨before, hbefore, hsource, hlast⟩ := collectQueueSources_lookup run.asOf
    run.input.queueProviders table (ALERT_QUEUE_NAMES_complete queue) hnodup
  rw [hcollect] at hsource hlast
  cases hcollected : collectQueueSource run.asOf run.input.queueProviders before queue with
  | mk found after =>
    rw [hcollected] at hsource hlast
    cases found with
    | none => exact absurd rfl (hcomplete _ hsource)
    | some observation => exact ⟨before, after, observation, hbefore, hcollected, hsource, hlast⟩

theorem KeepsSample.congr {other : RuntimeTable} {sample : QueueMetricSample} {revision streak : Int}
    {since : Option Timestamp} (hkeeps : KeepsSample table queue sample revision since streak)
    (hrow : other (ALERT_QUEUE_COMPONENTS queue) = table (ALERT_QUEUE_COMPONENTS queue)) :
    KeepsSample other queue sample revision since streak :=
  { hkeeps with row := hrow.trans hkeeps.row }

/-- The first sample of a backlog starts a streak. -/
theorem step_fresh (hfresh : Fresh queue table) (hstep : EvaluatorStep table run next)
    (hreports : run.Reports queue) : ∃ sample, Samples queue run next sample 1 := by
  obtain ⟨before, after, observation, hbefore, hsource, hmem, hnext⟩ := step_source hstep
  obtain ⟨record, count, hrecord, hcount, hpositive⟩ := hreports
  obtain ⟨sample, hat, hnonempty, hreported, hnone, hkeeps⟩ := collectQueueSource_keeps hsource (by
    intro other hother
    rw [hrecord, ProviderReading.metrics.injEq] at hother
    exact ⟨count, hother ▸ hcount, hpositive⟩)
  refine ⟨sample, hat, hnonempty, hreported, ?_⟩
  rcases hfresh with hunsampled | ⟨old, revision, since, streak, hold, hempty⟩
  · obtain ⟨since, hkept, rfl⟩ := hnone (hbefore.trans hunsampled)
    exact ⟨0, since, hkept.congr hnext, hmem⟩
  · rcases hkeeps old revision since streak (hold.congr hbefore) with rfl | ⟨-, hkept, hobserved⟩
    · exact absurd hempty (by omega)
    · have hone : nextStreak old streak sample = 1 := by
        unfold nextStreak
        rw [if_neg (by omega), if_neg fun hcontinues => absurd hcontinues.1 (by omega)]
      rw [hone] at hkept hobserved
      exact ⟨revision + 1, _, hkept.congr hnext, hobserved ▸ hmem⟩

/-- A later sample goes on with the streak if it comes exactly a minute later. -/
theorem step_samples {earlier : EvaluatorRun} {old : QueueMetricSample} {streak : Int}
    (hold : Samples queue earlier table old streak) (hstep : EvaluatorStep table run next)
    (hreports : run.Reports queue) (hlater : earlier.asOf.ms < run.asOf.ms) :
    ∃ sample, Samples queue run next sample (if earlier.ExactMinute run then streak + 1 else 1) := by
  obtain ⟨before, after, observation, hbefore, hsource, hmem, hnext⟩ := step_source hstep
  obtain ⟨record, count, hrecord, hcount, hpositive⟩ := hreports
  obtain ⟨sample, hat, hnonempty, hreported, -, hkeeps⟩ := collectQueueSource_keeps hsource (by
    intro other hother
    rw [hrecord, ProviderReading.metrics.injEq] at hother
    exact ⟨count, hother ▸ hcount, hpositive⟩)
  refine ⟨sample, hat, hnonempty, hreported, ?_⟩
  obtain ⟨holdAt, holdNonempty, -, revision, since, hkept, -⟩ := hold
  rcases hkeeps old revision since streak (hkept.congr hbefore) with rfl | ⟨-, hkept, hobserved⟩
  · rw [← holdAt, ← hat] at hlater
    omega
  · have hcontinues : Continues old sample ↔ earlier.ExactMinute run := by
      unfold Continues EvaluatorRun.ExactMinute SAMPLE_CADENCE_MILLISECONDS
      rw [hat, holdAt]
      exact and_iff_right holdNonempty
    have hnextStreak : nextStreak old streak sample = if earlier.ExactMinute run then streak + 1 else 1 := by
      unfold nextStreak
      rw [if_neg (by omega)]
      simp only [hcontinues]
    rw [hnextStreak] at hkept hobserved
    exact ⟨revision + 1, _, hkept.congr hnext, hobserved ▸ hmem⟩

/-- After every run but none, the row holds the last sample with the streak of exact minutes. -/
theorem runs_sample {runs : List EvaluatorRun} (htrace : Trace (Fresh queue) EvaluatorStep runs table)
    (hschedule : runs.IsChain EvaluatorRun.NextMinute) (hclock : ∀ run ∈ runs, run.InMinute)
    (hbacklog : ∀ run ∈ runs, run.Reports queue) :
    (runs = [] ∧ Fresh queue table) ∨ ∃ past run sample, runs = past ++ [run] ∧
      queueMetricBarrierAsOf run.input = .ok run.asOf ∧
      Samples queue run table sample (minuteStreak runs.reverse) := by
  induction htrace with
  | start hfresh => exact Or.inl ⟨rfl, hfresh⟩
  | @step runs table next run htrace hstep ih =>
    right
    have hrun : run ∈ runs ++ [run] := List.mem_append_right runs List.mem_cons_self
    obtain ⟨hpast, -, hlast⟩ := List.isChain_append.mp hschedule
    refine ⟨runs, run, ?_⟩
    rcases ih hpast (fun run hmem => hclock run (List.mem_append_left _ hmem))
        fun run hmem => hbacklog run (List.mem_append_left _ hmem) with
      ⟨rfl, hfresh⟩ | ⟨past, earlier, old, rfl, hbarrier, hold⟩
    · obtain ⟨sample, hsample⟩ := step_fresh hfresh hstep (hbacklog run hrun)
      exact ⟨sample, rfl, hstep.1, hsample⟩
    · have hearlier : earlier ∈ past ++ [earlier] ++ [run] := by simp
      have hnextMinute : earlier.NextMinute run := hlast earlier (by simp) run rfl
      have hlater := asOf_lt_of_nextMinute hbarrier hstep.1 (hclock earlier hearlier) (hclock run hrun) hnextMinute
      obtain ⟨sample, hsample⟩ := step_samples hold hstep (hbacklog run hrun) hlater
      refine ⟨sample, rfl, hstep.1, ?_⟩
      simp only [List.reverse_append, List.reverse_singleton, List.singleton_append] at hsample ⊢
      rw [minuteStreak]
      split at hsample
      · rename_i hexact
        rwa [if_pos hexact, Int.natCast_add]
      · rename_i hinexact
        rwa [if_neg hinexact]

end runs

/-- Under a backlog in every run, the streak after a run counts the runs up to it that were
exactly a minute apart. It counts all of them only if all were, and the run is critical from
the sixteenth of them on. -/
theorem sustainedBacklog_streak {queue : AlertQueueName} {past : List EvaluatorRun} {run : EvaluatorRun}
    {table : RuntimeTable} (htrace : Trace (Fresh queue) EvaluatorStep (past ++ [run]) table)
    (hschedule : (past ++ [run]).IsChain EvaluatorRun.NextMinute)
    (hclock : ∀ each ∈ past ++ [run], each.InMinute)
    (hbacklog : ∀ each ∈ past ++ [run], each.Reports queue) :
    ∃ row record depth observation evaluation,
      table (ALERT_QUEUE_COMPONENTS queue) = some row ∧
      row.consecutiveNonzeroSamples = some (minuteStreak (past ++ [run]).reverse : Int) ∧
      (row.consecutiveNonzeroSamples = some ((past ++ [run]).length : Int) ↔
        (past ++ [run]).IsChain EvaluatorRun.ExactMinute) ∧
      run.input.queueProviders queue = .metrics record ∧ record.backlogCount = some depth ∧
      (queue, some observation) ∈ run.sources ∧
      evaluateAlertRule observation.input = .ok evaluation ∧
      (evaluation.severity = .critical ↔ 10 ≤ depth ∨ 16 ≤ minuteStreak (past ++ [run]).reverse) := by
  rcases runs_sample htrace hschedule hclock hbacklog with ⟨hnil, -⟩ | ⟨before, last, sample, heq, -, hsample⟩
  · exact absurd hnil (List.append_ne_nil_of_right_ne_nil _ (List.cons_ne_nil _ _))
  · obtain ⟨rfl, hlast⟩ := List.append_inj' heq rfl
    rw [List.singleton_inj] at hlast
    subst hlast
    obtain ⟨record, count, hrecord, hcount, -⟩ := hbacklog run (List.mem_append_right _ List.mem_cons_self)
    obtain ⟨-, hnonempty, hreported, revision, since, hkept, hmem⟩ := hsample
    obtain ⟨evaluation, heval, hcritical⟩ := evaluateAlertRule_sample hkept.valid hkept.streak hnonempty
    refine ⟨_, record, sample.backlogCount, _, evaluation, hkept.row, rfl, ?_, hrecord, hreported record hrecord,
      hmem, heval, ?_⟩
    · have hlength := minuteStreak_eq_length_iff (past ++ [run]).reverse
      rw [List.length_reverse, List.isChain_reverse] at hlength
      rw [← hlength]
      show some (_ : Int) = some _ ↔ _
      rw [Option.some.injEq, Int.ofNat_inj]
    · rw [hcritical]
      omega

section schedule

/-- The metrics of a security queue with two messages, and of three empty ones. -/
def twoMessages (queue : AlertQueueName) : ProviderReading :=
  if queue = .securityEventsDlq then .metrics ⟨some 10, some 2, .date ⟨0, by decide⟩⟩
  else .metrics ⟨some 0, some 0, .undefined⟩

/-- A run at its scheduled minute whose clock shows two readings, the second one later. -/
def runAt (table : RuntimeTable) (scheduledTime : Int) (started settled : Timestamp) : EvaluatorRun where
  input := ⟨scheduledTime, started, settled, twoMessages⟩
  asOf := settled
  sources := (collectQueueSources settled twoMessages ALERT_QUEUE_NAMES table).1

def tableAfter (table : RuntimeTable) (settled : Timestamp) : RuntimeTable :=
  (collectQueueSources settled twoMessages ALERT_QUEUE_NAMES table).2

theorem step_runAt {table : RuntimeTable} {scheduledTime : Int} {started settled : Timestamp}
    (hbarrier : (queueMetricBarrierAsOf ⟨scheduledTime, started, settled, twoMessages⟩).toOption = some settled)
    (hcomplete : ∀ source ∈ (collectQueueSources settled twoMessages ALERT_QUEUE_NAMES table).1,
      source.2 ≠ none) :
    EvaluatorStep table (runAt table scheduledTime started settled) (tableAfter table settled) := by
  refine ⟨?_, rfl, hcomplete⟩
  show queueMetricBarrierAsOf ⟨scheduledTime, started, settled, twoMessages⟩ = .ok settled
  cases hasOf : queueMetricBarrierAsOf ⟨scheduledTime, started, settled, twoMessages⟩ with
  | error code =>
    rw [hasOf] at hbarrier
    cases hbarrier
  | ok asOf =>
    rw [hasOf] at hbarrier
    cases hbarrier
    rfl

theorem reports_runAt {table : RuntimeTable} {scheduledTime : Int} {started settled : Timestamp} :
    (runAt table scheduledTime started settled).Reports .securityEventsDlq :=
  ⟨_, 2, rfl, rfl, by decide⟩

/-- A first run, and the table that it leaves. -/
def firstRun : EvaluatorRun :=
  runAt (fun _ => none) 0 ⟨10, by decide⟩ ⟨50, by decide⟩

def firstTable : RuntimeTable :=
  tableAfter (fun _ => none) ⟨50, by decide⟩

/-- The run of the next minute, which settles exactly a minute later. -/
def exactRun : EvaluatorRun :=
  runAt firstTable 60000 ⟨60010, by decide⟩ ⟨60050, by decide⟩

/-- The run of the next minute, which settles a millisecond late. -/
def lateRun : EvaluatorRun :=
  runAt firstTable 60000 ⟨60010, by decide⟩ ⟨60051, by decide⟩

theorem firstRun_step : EvaluatorStep (fun _ => none) firstRun firstTable :=
  step_runAt (by set_option maxRecDepth 20000 in decide) (by decide +kernel)

theorem firstRun_trace :
    Trace (Fresh .securityEventsDlq) EvaluatorStep ([] ++ [firstRun]) firstTable :=
  have hfresh : Fresh .securityEventsDlq fun _ => none := Or.inl rfl
  .step (.start hfresh) firstRun_step

theorem sustainedBacklog_streak_exact :
    ∃ row record depth observation evaluation,
      tableAfter firstTable ⟨60050, by decide⟩ .securityDlq = some row ∧
      row.consecutiveNonzeroSamples = some (minuteStreak ([firstRun] ++ [exactRun]).reverse : Int) ∧
      (row.consecutiveNonzeroSamples = some (([firstRun] ++ [exactRun]).length : Int) ↔
        ([firstRun] ++ [exactRun]).IsChain EvaluatorRun.ExactMinute) ∧
      exactRun.input.queueProviders .securityEventsDlq = .metrics record ∧
      record.backlogCount = some depth ∧ (.securityEventsDlq, some observation) ∈ exactRun.sources ∧
      evaluateAlertRule observation.input = .ok evaluation ∧
      (evaluation.severity = .critical ↔
        10 ≤ depth ∨ 16 ≤ minuteStreak ([firstRun] ++ [exactRun]).reverse) :=
  sustainedBacklog_streak
    (.step firstRun_trace (step_runAt (by decide +kernel) (by decide +kernel)))
    (.cons_cons rfl (.singleton exactRun)) (by decide +kernel)
    (by
      intro run hmem
      rcases List.mem_cons.mp hmem with rfl | hmem
      · exact reports_runAt
      · exact List.mem_singleton.mp hmem ▸ reports_runAt)

/-- A millisecond of delay: the second run of a backlog counts as its first. -/
theorem sustainedBacklog_lateByOne :
    ¬ ∀ (queue : AlertQueueName) (runs : List EvaluatorRun) (table : RuntimeTable),
      Trace (Fresh queue) EvaluatorStep runs table → runs.IsChain EvaluatorRun.NextMinute →
      (∀ run ∈ runs, run.InMinute) → (∀ run ∈ runs, run.Reports queue) →
      ∀ row, table (ALERT_QUEUE_COMPONENTS queue) = some row →
        row.consecutiveNonzeroSamples = some (runs.length : Int) := by
  intro hclaim
  have htrace : Trace (Fresh .securityEventsDlq) EvaluatorStep ([firstRun] ++ [lateRun])
      (tableAfter firstTable ⟨60051, by decide⟩) :=
    .step firstRun_trace (step_runAt (by decide +kernel) (by decide +kernel))
  have hreports : ∀ run ∈ [firstRun] ++ [lateRun], run.Reports .securityEventsDlq := by
    intro run hmem
    rcases List.mem_cons.mp hmem with rfl | hmem
    · exact reports_runAt
    · exact List.mem_singleton.mp hmem ▸ reports_runAt
  have hstreak := hclaim _ _ _ htrace (.cons_cons rfl (.singleton lateRun)) (by decide +kernel) hreports
  have hone : ((tableAfter firstTable ⟨60051, by decide⟩ .securityDlq).bind
      (·.consecutiveNonzeroSamples)) = some 1 := by decide +kernel
  cases hrow : tableAfter firstTable ⟨60051, by decide⟩ .securityDlq with
  | none =>
    rw [hrow] at hone
    cases hone
  | some row =>
    rw [hrow] at hone
    have htwo := hstreak row hrow
    rw [Option.bind_some] at hone
    rw [hone] at htwo
    exact absurd htwo (by decide)

end schedule

end pgid.alert
