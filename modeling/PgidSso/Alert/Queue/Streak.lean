import PgidSso.Alert.Queue.Sample

open checked

namespace pgid.alert

theorem strftime_eq_some_iff {instant later : Timestamp} {seconds : Int} :
    strftime instant seconds = some later ↔
      later.ms = instant.ms + seconds * 1000 ∧ later.FourDigitYear := by
  unfold strftime
  cases hofMs : Timestamp.ofMs (instant.ms + seconds * 1000) with
  | ok found =>
    have hms := Timestamp.ofMs_eq_ok_iff.mp hofMs
    simp only [Option.ite_none_right_eq_some, Option.some.injEq]
    constructor
    · rintro ⟨hyear, rfl⟩
      exact ⟨hms, hyear⟩
    · rintro ⟨hlater, hyear⟩
      have heq : found = later := Timestamp.ext_ms (hms.trans hlater.symm)
      exact ⟨heq ▸ hyear, heq⟩
  | error message =>
    simp only [reduceCtorEq, false_iff, not_and]
    intro hlater
    rw [Timestamp.ofMs_eq_ok_iff.mpr hlater] at hofMs
    cases hofMs

/-- The samples that `parseSample` lets through. -/
structure QueueMetricSample.Valid (sample : QueueMetricSample) : Prop where
  bytes : 0 ≤ sample.backlogBytes ∧ sample.backlogBytes ≤ MAX_BACKLOG_BYTES
  count : 0 ≤ sample.backlogCount ∧ sample.backlogCount ≤ MAX_BACKLOG_COUNT
  age : 0 ≤ sample.oldestMessageAgeSeconds ∧
    sample.oldestMessageAgeSeconds ≤ MAX_OLDEST_MESSAGE_AGE_SECONDS
  empty : sample.backlogCount = 0 → sample.backlogBytes = 0 ∧ sample.oldestMessageAgeSeconds = 0
  year : sample.sampledAt.FourDigitYear

theorem boundedInteger_eq_ok_iff {value result maximum : Int}
    {code : AlertQueueSourceRepositoryErrorCode} :
    boundedInteger (some value) maximum code = .ok result ↔
      result = value ∧ 0 ≤ value ∧ value ≤ maximum := by
  unfold boundedInteger
  simp only [throwIf_bind_eq_ok_iff, pure_eq_ok_iff, not_or]
  constructor
  · rintro ⟨⟨hlow, hhigh⟩, rfl⟩
    exact ⟨rfl, by omega, by omega⟩
  · rintro ⟨rfl, hlow, hhigh⟩
    exact ⟨⟨by omega, by omega⟩, rfl⟩

theorem canonicalTimestamp_eq_ok_iff {value result : Timestamp}
    {code : AlertQueueSourceRepositoryErrorCode} :
    canonicalTimestamp value code = .ok result ↔ result = value ∧ value.FourDigitYear := by
  unfold canonicalTimestamp
  rw [throwIf_bind_eq_ok_iff, pure_eq_ok_iff, not_not, and_comm, eq_comm]

theorem parseSample_eq_ok_iff {value sample : QueueMetricSample} :
    parseSample value = .ok sample ↔ sample = value ∧ value.Valid := by
  unfold parseSample
  simp only [bind_eq_ok_iff, throwIf_eq_ok_iff, pure_eq_ok_iff, boundedInteger_eq_ok_iff,
    canonicalTimestamp_eq_ok_iff]
  constructor
  · rintro ⟨bytes, ⟨rfl, hbytes⟩, count, ⟨rfl, hcount⟩, age, ⟨rfl, hage⟩, -, hempty, instant, ⟨rfl, hyear⟩, rfl⟩
    refine ⟨rfl, hbytes, hcount, hage, fun hzero => ?_, hyear⟩
    by_contra hnot
    apply hempty
    exact ⟨hzero, by tauto⟩
  · rintro ⟨rfl, hvalid⟩
    refine ⟨_, ⟨rfl, hvalid.bytes⟩, _, ⟨rfl, hvalid.count⟩, _, ⟨rfl, hvalid.age⟩, (), ?_, _,
      ⟨rfl, hvalid.year⟩, rfl⟩
    rintro ⟨hzero, hnonzero⟩
    have hboth := hvalid.empty hzero
    tauto

/-- The streak of nonzero samples that a sample ends: none for an empty backlog, else as
many as there are minutes since its first sample, and one more. -/
inductive Streak (sample : QueueMetricSample) : Option Timestamp → Int → Prop
  | empty (hcount : sample.backlogCount = 0) : Streak sample none 0
  | nonzero {since : Timestamp} {streak : Int} (hcount : 0 < sample.backlogCount) (hlow : 1 ≤ streak)
      (hhigh : streak ≤ MAX_CONSECUTIVE_NONZERO_SAMPLES) (hyear : since.FourDigitYear)
      (helapsed : sample.sampledAt.ms - since.ms = (streak - 1) * SAMPLE_CADENCE_MILLISECONDS) :
      Streak sample (some since) streak

/-- The row that holds a sample and its streak. -/
def sampledRow (sample : QueueMetricSample) (revision : Int) (since : Option Timestamp) (streak : Int) :
    RuntimeStatusRow :=
  { excluded sample with revision, nonzeroSinceAt := since, consecutiveNonzeroSamples := some streak }

/-- A sample a minute after one of a nonempty backlog. -/
def Continues (old sample : QueueMetricSample) : Prop :=
  0 < old.backlogCount ∧ sample.sampledAt.ms = old.sampledAt.ms + SAMPLE_CADENCE_MILLISECONDS

instance (old sample : QueueMetricSample) : Decidable (Continues old sample) :=
  inferInstanceAs (Decidable (_ ∧ _))

/-- When the streak of a sample began, if it follows another. -/
def nextSince (old : QueueMetricSample) (since : Option Timestamp) (sample : QueueMetricSample) :
    Option Timestamp :=
  if sample.backlogCount = 0 then none
  else if Continues old sample then since
  else some sample.sampledAt

/-- How long the streak of a sample is, if it follows another. -/
def nextStreak (old : QueueMetricSample) (streak : Int) (sample : QueueMetricSample) : Int :=
  if sample.backlogCount = 0 then 0
  else if Continues old sample then streak + 1
  else 1

section streak

variable {old sample : QueueMetricSample} {revision streak : Int} {since : Option Timestamp}

theorem streak_bounds (hstreak : Streak sample since streak) :
    0 ≤ streak ∧ streak ≤ MAX_CONSECUTIVE_NONZERO_SAMPLES := by
  cases hstreak with
  | empty hcount => exact ⟨(Int.le_refl _), by decide⟩
  | nonzero hcount hlow hhigh hyear helapsed => exact ⟨by omega, hhigh⟩

theorem streak_first (hvalid : sample.Valid) :
    Streak sample (if sample.backlogCount > 0 then some sample.sampledAt else none)
      (if sample.backlogCount > 0 then 1 else 0) := by
  by_cases hcount : sample.backlogCount > 0
  · rw [if_pos hcount, if_pos hcount]
    exact .nonzero hcount (Int.le_refl _) (by decide) hvalid.year (by simp)
  · rw [if_neg hcount, if_neg hcount]
    exact .empty (by have := hvalid.count.1; omega)

theorem excluded_eq : excluded sample =
    sampledRow sample 0 (if sample.backlogCount > 0 then some sample.sampledAt else none)
      (if sample.backlogCount > 0 then 1 else 0) := rfl

/-- The streak goes on unless it has reached the maximum of the column. -/
theorem streak_next (hstreak : Streak old since streak) (hvalid : sample.Valid)
    (hroom : nextStreak old streak sample ≤ MAX_CONSECUTIVE_NONZERO_SAMPLES) :
    Streak sample (nextSince old since sample) (nextStreak old streak sample) := by
  unfold nextSince nextStreak at *
  by_cases hcount : sample.backlogCount = 0
  · rw [if_pos hcount, if_pos hcount]
    exact .empty hcount
  · have hpositive : 0 < sample.backlogCount := by
      have := hvalid.count.1
      omega
    rw [if_neg hcount] at hroom ⊢
    rw [if_neg hcount]
    by_cases hcontinues : Continues old sample
    · rw [if_pos hcontinues] at hroom ⊢
      rw [if_pos hcontinues]
      cases hstreak with
      | empty hzero => exact absurd hcontinues.1 (by omega)
      | nonzero hold hlow hhigh hyear helapsed =>
        have hlater := hcontinues.2
        refine .nonzero hpositive (by omega) hroom hyear ?_
        unfold SAMPLE_CADENCE_MILLISECONDS at *
        omega
    · rw [if_neg hcontinues, if_neg hcontinues]
      exact .nonzero hpositive (Int.le_refl _) (by decide) hvalid.year (by simp)

end streak

section rows

variable {old sample : QueueMetricSample} {revision streak : Int} {since : Option Timestamp}

theorem passes_canonicalCheck {instant : Option Timestamp} :
    sql.Passes (RuntimeStatusRow.canonicalCheck instant) ↔ ∀ value ∈ instant, value.FourDigitYear := by
  unfold RuntimeStatusRow.canonicalCheck
  rw [sql.passes_any_cons, sql.passes_any_cons, sql.passes_isNull, sql.passes_map]
  cases instant <;> simp

theorem passes_integerCheck {value maximum : Int} :
    sql.Passes (RuntimeStatusRow.integerCheck (some value) maximum) ↔ 0 ≤ value ∧ value ≤ maximum := by
  simp [RuntimeStatusRow.integerCheck]

/-- A row of a valid sample and its streak passes every `CHECK`. -/
theorem sampledRow_checked (hvalid : sample.Valid) (hlow : 0 ≤ revision) (hhigh : revision ≤ MAX_REVISION)
    (hstreak : Streak sample since streak) : (sampledRow sample revision since streak).Checked := by
  have hsafe : 0 ≤ MAX_SAFE_INTEGER := by decide
  have hrevision : revision ≤ MAX_SAFE_INTEGER := by
    unfold MAX_REVISION at hhigh
    unfold MAX_SAFE_INTEGER
    omega
  have hyear := hvalid.year
  have hbytes : _ ∧ sample.backlogBytes ≤ 1000000000000 := hvalid.bytes
  have hcount : _ ∧ sample.backlogCount ≤ 1000000000 := hvalid.count
  have hage : _ ∧ sample.oldestMessageAgeSeconds ≤ 1000000000 := hvalid.age
  have hbounds : _ ∧ streak ≤ 1000000 := streak_bounds hstreak
  have hself : sample.sampledAt ≤ sample.sampledAt := Timestamp.le_iff_ms.mpr (Int.le_refl _)
  have hcomponent : ALERT_QUEUE_COMPONENTS sample.queueName ∈ QUEUE_COMPONENTS := by
    cases sample.queueName <;> decide
  have hsince : ∀ value ∈ since, value.FourDigitYear ∧ value ≤ sample.sampledAt := by
    rintro value rfl
    cases hstreak with
    | nonzero hpositive hfirst hlast hsinceYear helapsed =>
      unfold SAMPLE_CADENCE_MILLISECONDS at helapsed
      exact ⟨hsinceYear, Timestamp.le_iff_ms.mpr (by omega)⟩
  have hmetric : sql.Passes (sampledRow sample revision since streak).metricCheck := by
    cases hstreak with
    | empty hzero =>
      simp [RuntimeStatusRow.metricCheck, sampledRow, excluded, hcomponent, hzero]
    | nonzero hpositive hfirst hlast hsinceYear helapsed =>
      simp [RuntimeStatusRow.metricCheck, sampledRow, excluded, hcomponent, hpositive, hfirst, hsince,
        hbounds.2]
  unfold RuntimeStatusRow.Checked RuntimeStatusRow.checks
  simp only [List.forall_mem_cons, passes_canonicalCheck]
  unfold sampledRow excluded at hmetric ⊢
  simp [passes_integerCheck, hlow, hrevision, hyear, hsafe, hbytes, hcount, hage, hbounds, hself, hmetric]
  exact fun value hvalue => (hsince value hvalue).1

theorem streak_le_of_checked (hchecked : (sampledRow sample revision since streak).Checked) :
    streak ≤ MAX_CONSECUTIVE_NONZERO_SAMPLES := by
  have hcheck : RuntimeStatusRow.integerCheck (some streak) 1000000 ∈
      (sampledRow sample revision since streak).checks := by
    simp [RuntimeStatusRow.checks, sampledRow]
  exact (passes_integerCheck.mp (hchecked _ hcheck)).2

theorem not_holds_initialGuard : ¬ sql.Holds (excluded sample).initialGuard := by
  by_cases hcount : 0 < sample.backlogCount
  · simp [RuntimeStatusRow.initialGuard, excluded, hcount]
  · simp [RuntimeStatusRow.initialGuard, excluded, hcount]

theorem holds_continuesStreak (hvalid : sample.Valid) :
    sql.Holds (continuesStreak (sampledRow old revision since streak) (excluded sample)) ↔
      Continues old sample := by
  have hyear := hvalid.year
  unfold continuesStreak Continues SAMPLE_CADENCE_MILLISECONDS
  simp [sampledRow, excluded, strftime_eq_some_iff, hyear]

/-- The row that an accepted sample leaves. -/
theorem sampleUpdate_sampledRow (hvalid : sample.Valid) (hqueue : sample.queueName = old.queueName) :
    sampleUpdate (sampledRow old revision since streak) (excluded sample) =
      sampledRow sample (revision + 1) (nextSince old since sample) (nextStreak old streak sample) := by
  have hzero : sql.Holds (sql.eq (excluded sample).backlogCount (some 0)) ↔ sample.backlogCount = 0 := by
    simp [excluded, eq_comm]
  unfold sampleUpdate nextSince nextStreak
  simp only [hzero, holds_continuesStreak hvalid]
  unfold sampledRow excluded
  simp only [hqueue, Option.map_some, RuntimeStatusRow.mk.injEq, true_and, and_true]
  split <;> [rfl; split <;> rfl]

theorem passes_metricTransition (revision : Int) (hstreak : Streak old since streak) (hvalid : sample.Valid)
    (hlater : old.sampledAt < sample.sampledAt) :
    sql.Passes (RuntimeStatusRow.metricTransition (sampledRow old revision since streak)
      (sampledRow sample (revision + 1) (nextSince old since sample) (nextStreak old streak sample))) := by
  have hcadence : ∀ later, strftime old.sampledAt 60 = some later →
      (sample.sampledAt = later ↔ sample.sampledAt.ms = old.sampledAt.ms + SAMPLE_CADENCE_MILLISECONDS) := by
    intro later hlaterAt
    rw [Timestamp.eq_iff_ms, (strftime_eq_some_iff.mp hlaterAt).1]
    rfl
  unfold RuntimeStatusRow.metricTransition nextSince nextStreak
  rw [sql.passes_any_cons, sql.passes_any_cons]
  refine Or.inr (Or.inl ?_)
  by_cases hcount : sample.backlogCount = 0
  · simp [sampledRow, excluded, hcount, hlater]
  · have hpositive : 0 < sample.backlogCount := by
      have := hvalid.count.1
      omega
    rw [if_neg hcount, if_neg hcount]
    by_cases hcontinues : Continues old sample
    · rw [if_pos hcontinues, if_pos hcontinues]
      cases hstreak with
      | empty hzero => exact absurd hcontinues.1 (by omega)
      | nonzero hold hlow hhigh hyear helapsed =>
        simp [sampledRow, excluded, hpositive, hlater, hold]
        left
        intro later hlaterAt
        exact (hcadence later hlaterAt).mpr hcontinues.2
    · rw [if_neg hcontinues, if_neg hcontinues]
      have hrestart : old.backlogCount = 0 ∨
          ∀ later, strftime old.sampledAt 60 = some later → ¬ sample.sampledAt = later := by
        cases hstreak with
        | empty hzero => exact Or.inl hzero
        | nonzero hold hlow hhigh hyear helapsed =>
          refine Or.inr fun later hlaterAt heq => hcontinues ⟨hold, ?_⟩
          exact (hcadence later hlaterAt).mp heq
      simp [sampledRow, excluded, hpositive, hlater]
      exact Or.inr hrestart

theorem not_holds_transitionGuard (hstreak : Streak old since streak) (hvalid : sample.Valid)
    (hqueue : sample.queueName = old.queueName) (hlater : old.sampledAt < sample.sampledAt) :
    ¬ sql.Holds (RuntimeStatusRow.transitionGuard (sampledRow old revision since streak)
      (sampledRow sample (revision + 1) (nextSince old since sample) (nextStreak old streak sample))) := by
  have hmetric := passes_metricTransition revision hstreak hvalid hlater
  have hnotBefore : ¬ sample.sampledAt < old.sampledAt := by
    rw [Timestamp.lt_iff_ms] at hlater ⊢
    omega
  have hnotUpTo : ¬ sample.sampledAt ≤ old.sampledAt := by
    rw [Timestamp.lt_iff_ms] at hlater
    rw [Timestamp.le_iff_ms]
    omega
  unfold RuntimeStatusRow.transitionGuard
  simp only [sql.holds_any_cons, sql.holds_not, hmetric]
  simp [sampledRow, excluded, RuntimeStatusRow.leaseTransition, RuntimeStatusRow.regresses,
    RuntimeStatusRow.precedesStart, hqueue, hnotBefore, hnotUpTo]

/-- Whether the row of an earlier sample accepts a later one. -/
theorem holds_acceptsSample :
    sql.Holds (acceptsSample (sampledRow old revision since streak) (excluded sample)) ↔
      revision < MAX_REVISION ∧ old.sampledAt < sample.sampledAt := by
  simp [acceptsSample, sampledRow, excluded]

end rows

/-- The table holds rows of samples and nothing else. -/
def RuntimeTable.Sampled (table : RuntimeTable) : Prop :=
  ∀ component row, table component = some row → ∃ sample revision since streak,
    component = ALERT_QUEUE_COMPONENTS sample.queueName ∧ sample.Valid ∧ 0 ≤ revision ∧
      revision ≤ MAX_REVISION ∧ Streak sample since streak ∧ row = sampledRow sample revision since streak

theorem ALERT_QUEUE_COMPONENTS_injective {left right : AlertQueueName}
    (heq : ALERT_QUEUE_COMPONENTS left = ALERT_QUEUE_COMPONENTS right) : left = right := by
  cases left <;> cases right <;> first | rfl | cases heq

section upsert

variable {table : RuntimeTable} {old sample : QueueMetricSample} {revision streak : Int}
  {since : Option Timestamp}

theorem upsert_of_none (hvalid : sample.Valid)
    (hnone : table (ALERT_QUEUE_COMPONENTS sample.queueName) = none) :
    ALERT_QUEUE_METRIC_SAMPLE_UPSERT sample table =
      .ok (Function.update table (ALERT_QUEUE_COMPONENTS sample.queueName) (some (excluded sample)), 1) := by
  have hchecked : (excluded sample).Checked :=
    sampledRow_checked hvalid (Int.le_refl 0) (by decide) (streak_first hvalid)
  have hcomponent : (excluded sample).component = ALERT_QUEUE_COMPONENTS sample.queueName := rfl
  unfold ALERT_QUEUE_METRIC_SAMPLE_UPSERT
  rw [throwIf_bind_of_not not_holds_initialGuard, throwIf_bind_of_not (not_not_intro hchecked),
    hcomponent, hnone]
  rfl

/-- What the upsert does to a row of an earlier sample of the queue. -/
theorem upsert_of_some (hvalid : sample.Valid) (hqueue : sample.queueName = old.queueName)
    (hlow : 0 ≤ revision) (hstreak : Streak old since streak)
    (hsome : table (ALERT_QUEUE_COMPONENTS sample.queueName) =
      some (sampledRow old revision since streak)) :
    ALERT_QUEUE_METRIC_SAMPLE_UPSERT sample table =
      if ¬ (revision < MAX_REVISION ∧ old.sampledAt < sample.sampledAt) then .ok (table, 0)
      else if nextStreak old streak sample ≤ MAX_CONSECUTIVE_NONZERO_SAMPLES then
        .ok (Function.update table (ALERT_QUEUE_COMPONENTS sample.queueName)
          (some (sampledRow sample (revision + 1) (nextSince old since sample)
            (nextStreak old streak sample))), 1)
      else .error .check := by
  have hchecked : (excluded sample).Checked :=
    sampledRow_checked hvalid (Int.le_refl 0) (by decide) (streak_first hvalid)
  have hcomponent : (excluded sample).component = ALERT_QUEUE_COMPONENTS sample.queueName := rfl
  unfold ALERT_QUEUE_METRIC_SAMPLE_UPSERT
  rw [throwIf_bind_of_not not_holds_initialGuard, throwIf_bind_of_not (not_not_intro hchecked),
    hcomponent, hsome]
  simp only [holds_acceptsSample]
  by_cases haccepts : revision < MAX_REVISION ∧ old.sampledAt < sample.sampledAt
  · rw [if_pos haccepts, if_neg (not_not_intro haccepts), sampleUpdate_sampledRow hvalid hqueue,
      throwIf_bind_of_not (not_holds_transitionGuard hstreak hvalid hqueue haccepts.2)]
    by_cases hroom : nextStreak old streak sample ≤ MAX_CONSECUTIVE_NONZERO_SAMPLES
    · have hnext := sampledRow_checked hvalid (show 0 ≤ revision + 1 by omega)
        (show revision + 1 ≤ MAX_REVISION by omega) (streak_next hstreak hvalid hroom)
      rw [if_pos hroom, throwIf_bind_of_not (not_not_intro hnext)]
      rfl
    · rw [if_neg hroom, throwIf_bind_of]
      exact fun hnext => hroom (streak_le_of_checked hnext)
  · rw [if_neg haccepts, if_pos haccepts]
    rfl

end upsert

end pgid.alert
