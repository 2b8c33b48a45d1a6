import PgidSso.Alert.Queue.Streak
import PgidSso.Library.Transition

open checked transition

namespace pgid.alert

/-- What the projection of the row of a sample is parsed to. -/
def sampleProjection (sample : QueueMetricSample) (revision : Int) (since : Option Timestamp)
    (streak : Int) : QueueMetricProjection where
  backlogBytes := sample.backlogBytes
  backlogCount := sample.backlogCount
  component := ALERT_QUEUE_COMPONENTS sample.queueName
  consecutiveNonzeroSamples := streak
  leaseExpiresAt := none
  leaseId := none
  metricSampledAt := sample.sampledAt
  nonzeroSinceAt := since
  oldestMessageAgeSeconds := sample.oldestMessageAgeSeconds
  revision
  updatedAt := sample.sampledAt

/-- The snapshot of the row of a sample. -/
def sampleSnapshot (sample : QueueMetricSample) (since : Option Timestamp) (streak : Int) :
    QueueDepthSnapshot where
  backlogBytes := some sample.backlogBytes
  backlogCount := some sample.backlogCount
  consecutiveNonzeroSamples := some streak
  nonzeroSinceAt := since
  oldestMessageTimestamp :=
    if sample.backlogCount = 0 then none
    else (Timestamp.ofMs (sample.sampledAt.ms - sample.oldestMessageAgeSeconds * 1000)).toOption
  sampledAt := some sample.sampledAt

section projection

variable {old sample : QueueMetricSample} {revision streak changed : Int} {since : Option Timestamp}

theorem projectedStreak_sampledRow (revision : Int) (hvalid : sample.Valid) (hstreak : Streak sample since streak) :
    projectedStreak (sampledRow sample revision since streak) sample.sampledAt sample.backlogCount
      sample.backlogBytes sample.oldestMessageAgeSeconds streak = .ok since := by
  unfold projectedStreak sampledRow
  cases hstreak with
  | empty hcount =>
    have hempty := hvalid.empty hcount
    rw [if_pos hcount, throwIf_bind_of_not (by simp [hempty])]
    rfl
  | nonzero hcount hlow hhigh hyear helapsed =>
    rw [if_neg (by omega)]
    simp only [throwIf_bind_of_not (show ¬ streak < 1 by omega),
      canonicalTimestamp_eq_ok_iff.mpr ⟨rfl, hyear⟩, ok_bind, throwIf_bind_of_not (not_not_intro helapsed)]
    rfl

/-- The row of a sample is readable. -/
theorem parseProjection_sampledRow (hvalid : sample.Valid) (hlow : 0 ≤ revision)
    (hhigh : revision ≤ MAX_REVISION) (hstreak : Streak sample since streak) :
    parseProjection (sampledRow sample revision since streak) (ALERT_QUEUE_COMPONENTS sample.queueName) =
      .ok (some (sampleProjection sample revision since streak)) := by
  have hnotAfter : ¬ sample.sampledAt > sample.sampledAt := by
    show ¬ sample.sampledAt.ms < sample.sampledAt.ms
    omega
  have hprojected := projectedStreak_sampledRow revision hvalid hstreak
  unfold parseProjection
  simp only [sampledRow, excluded, projectedLease] at hprojected ⊢
  simp only [throwIf_bind_of_not, ne_eq, not_true_eq_false, not_false_eq_true, ok_bind,
    boundedInteger_eq_ok_iff.mpr ⟨rfl, hlow, hhigh⟩, canonicalTimestamp_eq_ok_iff.mpr ⟨rfl, hvalid.year⟩,
    hnotAfter, boundedInteger_eq_ok_iff.mpr ⟨rfl, hvalid.bytes⟩,
    boundedInteger_eq_ok_iff.mpr ⟨rfl, hvalid.count⟩, boundedInteger_eq_ok_iff.mpr ⟨rfl, hvalid.age⟩,
    boundedInteger_eq_ok_iff.mpr ⟨rfl, streak_bounds hstreak⟩, hprojected]
  rfl

/-- When the oldest message of a sample was sent. -/
theorem sample_oldest_inRange (hvalid : sample.Valid) :
    -Timestamp.maximumMs ≤ sample.sampledAt.ms - sample.oldestMessageAgeSeconds * 1000 ∧
      sample.sampledAt.ms - sample.oldestMessageAgeSeconds * 1000 ≤ Timestamp.maximumMs := by
  have hyear := hvalid.year
  have hage := hvalid.age
  unfold Timestamp.FourDigitYear at hyear
  unfold MAX_OLDEST_MESSAGE_AGE_SECONDS at hage
  unfold Timestamp.maximumMs
  omega

theorem snapshotFromProjection_sample (hvalid : sample.Valid) :
    snapshotFromProjection (sampleProjection sample revision since streak) =
      .ok (sampleSnapshot sample since streak) := by
  unfold snapshotFromProjection sampleProjection sampleSnapshot
  simp only [Timestamp.ofMs_ok (sample_oldest_inRange hvalid)]
  split <;> rfl

theorem knownBacklog_of_elapsed {backlogBytes depth samples age : Int} {sampledAt since oldest : Timestamp}
    (hsamples : 1 ≤ samples) (hage : 0 ≤ age ∧ age ≤ MAX_EVIDENCE_VALUE)
    (helapsed : sampledAt.ms - since.ms = (samples - 1) * SAMPLE_CADENCE_MILLISECONDS)
    (holdest : oldest.ms = sampledAt.ms - age * 1000) :
    knownBacklog backlogBytes depth samples sampledAt since oldest =
      some { backlogBytes, consecutiveNonzeroSamples := samples - 1, depth, oldestMessageAgeSeconds := age } := by
  unfold SAMPLE_CADENCE_MILLISECONDS at helapsed
  have hseconds : (sampledAt.ms - oldest.ms) / 1000 = age := by omega
  have hminutes : (sampledAt.ms - since.ms) / 60000 = samples - 1 := by omega
  have hminimum : min samples (samples - 1) = samples - 1 := by omega
  unfold knownBacklog
  simp only [hseconds, hminutes, hminimum]
  rw [if_neg (by omega), if_neg (by omega), if_neg (by omega), if_neg (by omega)]

/-- A reader at the instant of the sample knows its snapshot, with one sample less than the
streak has. -/
theorem knownQueueSnapshot_sample (hvalid : sample.Valid) (hstreak : Streak sample since streak) :
    knownQueueSnapshot (sampleSnapshot sample since streak) sample.sampledAt =
      some { backlogBytes := sample.backlogBytes
             consecutiveNonzeroSamples := if sample.backlogCount = 0 then 0 else streak - 1
             depth := sample.backlogCount
             oldestMessageAgeSeconds := sample.oldestMessageAgeSeconds } := by
  unfold knownQueueSnapshot sampleSnapshot
  cases hstreak with
  | empty hcount =>
    have hempty := hvalid.empty hcount
    simp [hcount, hempty]
  | @nonzero since streak hcount hlow hhigh hyear helapsed =>
    have hnonzero : sample.backlogCount ≠ 0 := by omega
    simp only [hnonzero, Timestamp.ofMs_ok (sample_oldest_inRange hvalid), ne_eq, not_true_eq_false, if_false,
      if_neg (show ¬ streak < 1 by omega)]
    exact knownBacklog_of_elapsed hlow hvalid.age helapsed rfl

theorem projectionOwnsSample_iff (hqueue : sample.queueName = old.queueName) :
    projectionOwnsSample (sampleProjection old revision since streak) sample = true ↔ old = sample := by
  unfold projectionOwnsSample sampleProjection
  simp only [decide_eq_true_eq, true_and]
  constructor
  · rintro ⟨hat, -, hcount, hbytes, hage⟩
    cases old
    cases sample
    simp only [QueueMetricSample.mk.injEq] at *
    exact ⟨hbytes, hcount, hage, hqueue.symm, hat⟩
  · rintro rfl
    exact ⟨rfl, rfl, rfl, rfl, rfl⟩

/-- The answer of a call whose component holds the row of a sample. -/
theorem persistedResult_sampledRow (hvalid : old.Valid) (hlow : 0 ≤ revision)
    (hhigh : revision ≤ MAX_REVISION) (hstreak : Streak old since streak)
    (hqueue : sample.queueName = old.queueName) :
    persistedResult sample changed (some (sampledRow old revision since streak)) =
      if old = sample then
        .ok { outcome := if changed = 1 then .committed else .replayed
              snapshot := some (sampleSnapshot old since streak) }
      else if changed = 1 then .error .sourceInvalid
      else .ok { outcome := .rejected, snapshot := none } := by
  unfold persistedResult
  simp only [hqueue, parseProjection_sampledRow hvalid hlow hhigh hstreak, ok_bind, Option.filter_some, projectionOwnsSample_iff hqueue]
  by_cases hown : old = sample
  · rw [if_pos hown, if_pos hown]
    simp only [snapshotFromProjection_sample hvalid]
    rfl
  · rw [if_neg hown, if_neg hown]
    show (throwIf (changed = 1) _ >>= _) = _
    by_cases hchanged : changed = 1
    · rw [throwIf_bind_of hchanged, if_pos hchanged]
    · rw [throwIf_bind_of_not hchanged, if_neg hchanged]
      rfl

end projection

section call

variable {table : RuntimeTable} {sample : QueueMetricSample}

/-- The answers that leave the table as it is: an error, a rejection, or the snapshot of the
row that already holds the sample. -/
def LeavesTable (sample : QueueMetricSample)
    (result : Except AlertQueueSourceRepositoryErrorCode PersistQueueMetricSampleResult) : Prop :=
  ∀ answer, result = .ok answer → answer = ⟨.rejected, none⟩ ∨ ∃ since streak, sample.Valid ∧
    Streak sample since streak ∧ answer = ⟨.replayed, some (sampleSnapshot sample since streak)⟩

/-- What a call does to a table of sampled rows: it changes nothing, or it is the first
sample of its queue later than the row, and the row becomes the sample's. -/
theorem persistQueueMetricSample_cases (sample : QueueMetricSample) (hsampled : table.Sampled) :
    (∃ result, persistQueueMetricSample table sample = (result, table) ∧ LeavesTable sample result) ∨
    (∃ revision since streak, sample.Valid ∧ 0 ≤ revision ∧ revision ≤ MAX_REVISION ∧
      Streak sample since streak ∧
      (∀ row, table (ALERT_QUEUE_COMPONENTS sample.queueName) = some row →
        row.updatedAt < sample.sampledAt) ∧
      persistQueueMetricSample table sample =
        (.ok ⟨.committed, some (sampleSnapshot sample since streak)⟩,
          Function.update table (ALERT_QUEUE_COMPONENTS sample.queueName)
            (some (sampledRow sample revision since streak)))) := by
  unfold persistQueueMetricSample
  cases hparse : parseSample sample with
  | error code =>
    left
    exact ⟨_, rfl, fun answer hanswer => by cases hanswer⟩
  | ok parsed =>
    obtain ⟨rfl, hvalid⟩ := parseSample_eq_ok_iff.mp hparse
    simp only
    cases hrow : table (ALERT_QUEUE_COMPONENTS parsed.queueName) with
    | none =>
      right
      have hfirst := streak_first hvalid
      have hzero : (0 : Int) ≤ MAX_REVISION := by decide
      refine ⟨0, _, _, hvalid, Int.le_refl 0, hzero, hfirst, ?_, ?_⟩
      · rintro row hsome
        cases hsome
      · rw [upsert_of_none hvalid hrow]
        simp only [Function.update_self, excluded_eq,
          persistedResult_sampledRow hvalid (Int.le_refl 0) hzero hfirst rfl, if_true]
    | some row =>
      obtain ⟨old, revision, since, streak, hcomponent, hold, hlow, hhigh, hstreak, rfl⟩ :=
        hsampled _ _ hrow
      have hqueue := ALERT_QUEUE_COMPONENTS_injective hcomponent
      rw [upsert_of_some hvalid hqueue hlow hstreak hrow]
      by_cases haccepts : revision < MAX_REVISION ∧ old.sampledAt < parsed.sampledAt
      · rw [if_neg (not_not_intro haccepts)]
        by_cases hroom : nextStreak old streak parsed ≤ MAX_CONSECUTIVE_NONZERO_SAMPLES
        · right
          have hnext := streak_next hstreak hvalid hroom
          refine ⟨revision + 1, _, _, hvalid, by omega, by omega, hnext, ?_, ?_⟩
          · rintro row hsome
            cases hsome
            exact haccepts.2
          · rw [if_pos hroom]
            simp only [Function.update_self,
              persistedResult_sampledRow hvalid (show 0 ≤ revision + 1 by omega)
                (show revision + 1 ≤ MAX_REVISION by omega) hnext rfl, if_true]
        · left
          rw [if_neg hroom]
          exact ⟨_, rfl, fun answer hanswer => by cases hanswer⟩
      · left
        rw [if_pos haccepts]
        refine ⟨_, rfl, fun answer hanswer => ?_⟩
        rw [hrow, persistedResult_sampledRow hold hlow hhigh hstreak hqueue] at hanswer
        by_cases hown : old = parsed
        · subst hown
          rw [if_pos rfl, if_neg (by decide), Except.ok.injEq] at hanswer
          exact Or.inr ⟨since, streak, hvalid, hstreak, hanswer.symm⟩
        · rw [if_neg hown, if_neg (by decide), Except.ok.injEq] at hanswer
          exact Or.inl hanswer.symm

/-- Each call leaves a table of sampled rows. -/
theorem persistQueueMetricSample_sampled (sample : QueueMetricSample) (hsampled : table.Sampled) :
    (persistQueueMetricSample table sample).2.Sampled := by
  rcases persistQueueMetricSample_cases sample hsampled with
    ⟨result, heq, -⟩ | ⟨revision, since, streak, hvalid, hlow, hhigh, hstreak, -, heq⟩
  · rw [heq]
    exact hsampled
  · rw [heq]
    intro component row hrow
    by_cases hcomponent : component = ALERT_QUEUE_COMPONENTS sample.queueName
    · subst hcomponent
      simp only [Function.update_self, Option.some.injEq] at hrow
      exact ⟨sample, revision, since, streak, rfl, hvalid, hlow, hhigh, hstreak, hrow.symm⟩
    · simp only [Function.update_of_ne hcomponent] at hrow
      exact hsampled component row hrow

end call

/-- A call that was made, and its answer. -/
structure QueueMetricCall where
  sample : QueueMetricSample
  result : Except AlertQueueSourceRepositoryErrorCode PersistQueueMetricSampleResult

/-- Calls by any number of callers interleave: their transactions come one after another. -/
def QueueMetricStep (table : RuntimeTable) (call : QueueMetricCall) (next : RuntimeTable) : Prop :=
  persistQueueMetricSample table call.sample = (call.result, next)

theorem step_answered {table : RuntimeTable} {sample : QueueMetricSample} :
    QueueMetricStep table ⟨sample, (persistQueueMetricSample table sample).1⟩
      (persistQueueMetricSample table sample).2 := rfl

/-- The table before the first sample. -/
def RuntimeTable.Empty (table : RuntimeTable) : Prop :=
  ∀ component, table component = none

namespace QueueMetricCall

/-- The call was answered `committed`. -/
def Committed (call : QueueMetricCall) : Prop :=
  ∃ snapshot, call.result = .ok ⟨.committed, snapshot⟩

/-- A committed or replayed answer has a snapshot that is known when it was sampled, with a
streak of one sample less than it counts. -/
def Known (call : QueueMetricCall) : Prop :=
  ∀ answer, call.result = .ok answer → answer.outcome ≠ .rejected →
    ∃ snapshot known streak, answer.snapshot = some snapshot ∧
      knownQueueSnapshot snapshot call.sample.sampledAt = some known ∧
      snapshot.backlogCount = some call.sample.backlogCount ∧
      snapshot.consecutiveNonzeroSamples = some streak ∧
      known.consecutiveNonzeroSamples = if call.sample.backlogCount = 0 then 0 else streak - 1

/-- An earlier call and a later one of the same queue, both answered `committed`. -/
def Later (earlier later : QueueMetricCall) : Prop :=
  earlier.Committed → later.Committed → earlier.sample.queueName = later.sample.queueName →
    earlier.sample.sampledAt < later.sample.sampledAt

end QueueMetricCall

/-- The row can be read, passes every `CHECK`, and counts a sample for each minute since its
backlog was empty. -/
structure RuntimeStatusRow.Readable (row : RuntimeStatusRow) (queue : AlertQueueName) : Prop where
  parsed : ∃ projection, parseProjection row (ALERT_QUEUE_COMPONENTS queue) = .ok (some projection)
  checked : row.Checked
  streak : row.backlogCount ≠ some 0 → ∃ sampledAt since samples,
    row.metricSampledAt = some sampledAt ∧ row.nonzeroSinceAt = some since ∧
      row.consecutiveNonzeroSamples = some samples ∧
      since.ms = sampledAt.ms - (samples - 1) * SAMPLE_CADENCE_MILLISECONDS

/-- A row stays as it is or holds a later sample. -/
def RuntimeStatusRow.Advances (row : RuntimeStatusRow) (next : Option RuntimeStatusRow) : Prop :=
  next = some row ∨ ∃ changed before after, next = some changed ∧
    row.metricSampledAt = some before ∧ changed.metricSampledAt = some after ∧ before < after

section run

variable {table next : RuntimeTable} {past : List QueueMetricCall} {call : QueueMetricCall}

theorem sampledRow_readable {sample : QueueMetricSample} {revision streak : Int} {since : Option Timestamp}
    (hvalid : sample.Valid) (hlow : 0 ≤ revision) (hhigh : revision ≤ MAX_REVISION)
    (hstreak : Streak sample since streak) :
    (sampledRow sample revision since streak).Readable sample.queueName := by
  refine ⟨⟨_, parseProjection_sampledRow hvalid hlow hhigh hstreak⟩,
    sampledRow_checked hvalid hlow hhigh hstreak, fun hnonzero => ?_⟩
  cases hstreak with
  | empty hcount => exact absurd (congrArg some hcount) hnonzero
  | @nonzero since streak hcount hfirst hlast hyear helapsed =>
    exact ⟨sample.sampledAt, since, streak, rfl, rfl, rfl, by omega⟩

theorem sampledAt_of_sampled (hsampled : table.Sampled) {component : RuntimeComponent}
    {row : RuntimeStatusRow} (hrow : table component = some row) :
    row.metricSampledAt = some row.updatedAt := by
  obtain ⟨sample, revision, since, streak, -, -, -, -, -, rfl⟩ := hsampled component row hrow
  rfl

theorem step_known (hsampled : table.Sampled) (hstep : QueueMetricStep table call next) : call.Known := by
  intro answer hanswer houtcome
  unfold QueueMetricStep at hstep
  rcases persistQueueMetricSample_cases call.sample hsampled with
    ⟨result, heq, hleaves⟩ | ⟨revision, since, streak, hvalid, -, -, hstreak, -, heq⟩
  · rw [hstep, Prod.mk.injEq] at heq
    rcases hleaves answer (heq.1.symm.trans hanswer) with rfl | ⟨since, streak, hvalid, hstreak, rfl⟩
    · exact absurd rfl houtcome
    · exact ⟨_, _, streak, rfl, knownQueueSnapshot_sample hvalid hstreak, rfl, rfl, rfl⟩
  · rw [hstep, Prod.mk.injEq, hanswer, Except.ok.injEq] at heq
    obtain ⟨rfl, -⟩ := heq
    exact ⟨_, _, streak, rfl, knownQueueSnapshot_sample hvalid hstreak, rfl, rfl, rfl⟩

theorem step_advances (hsampled : table.Sampled) (hstep : QueueMetricStep table call next)
    {component : RuntimeComponent} {row : RuntimeStatusRow} (hrow : table component = some row) :
    row.Advances (next component) := by
  unfold QueueMetricStep at hstep
  rcases persistQueueMetricSample_cases call.sample hsampled with
    ⟨result, heq, -⟩ | ⟨revision, since, streak, -, -, -, -, hlater, heq⟩
  · rw [hstep, Prod.mk.injEq] at heq
    exact Or.inl (heq.2 ▸ hrow)
  · rw [hstep, Prod.mk.injEq] at heq
    obtain ⟨-, rfl⟩ := heq
    by_cases hcomponent : component = ALERT_QUEUE_COMPONENTS call.sample.queueName
    · subst hcomponent
      refine Or.inr ⟨_, row.updatedAt, call.sample.sampledAt, Function.update_self _ _ _,
        sampledAt_of_sampled hsampled hrow, rfl, hlater row hrow⟩
    · exact Or.inl ((Function.update_of_ne hcomponent _ _).trans hrow)

/-- A committed call leaves its row, and found an earlier one or none. -/
theorem step_committed (hsampled : table.Sampled) (hstep : QueueMetricStep table call next)
    (hcommitted : call.Committed) :
    (∃ row, next (ALERT_QUEUE_COMPONENTS call.sample.queueName) = some row ∧
      row.updatedAt = call.sample.sampledAt) ∧
    ∀ row, table (ALERT_QUEUE_COMPONENTS call.sample.queueName) = some row →
      row.updatedAt < call.sample.sampledAt := by
  obtain ⟨snapshot, hresult⟩ := hcommitted
  unfold QueueMetricStep at hstep
  rcases persistQueueMetricSample_cases call.sample hsampled with
    ⟨result, heq, hleaves⟩ | ⟨revision, since, streak, -, -, -, -, hlater, heq⟩
  · rw [hstep, Prod.mk.injEq] at heq
    rcases hleaves _ (heq.1.symm.trans hresult) with hrejected | ⟨_, _, -, -, hreplayed⟩
    · cases hrejected
    · cases hreplayed
  · rw [hstep, Prod.mk.injEq] at heq
    obtain ⟨-, rfl⟩ := heq
    exact ⟨⟨_, Function.update_self _ _ _, rfl⟩, hlater⟩

/-- No row is lost, and none goes back. -/
theorem updatedAt_le_of_advances {row : RuntimeStatusRow} {found : Option RuntimeStatusRow}
    (hadvances : row.Advances found) (hrow : row.metricSampledAt = some row.updatedAt)
    (hfound : ∀ changed, found = some changed → changed.metricSampledAt = some changed.updatedAt) :
    ∃ changed, found = some changed ∧ row.updatedAt ≤ changed.updatedAt := by
  rcases hadvances with rfl | ⟨changed, before, after, rfl, hbefore, hafter, hlater⟩
  · exact ⟨row, rfl, Int.le_refl _⟩
  · rw [hrow, Option.some.injEq] at hbefore
    rw [hfound changed rfl, Option.some.injEq] at hafter
    subst hbefore hafter
    exact ⟨changed, rfl, Int.le_of_lt hlater⟩

/-- What a run of calls keeps, with the rows it reached. -/
structure QueueMetricInvariant (past : List QueueMetricCall) (table : RuntimeTable) : Prop where
  sampled : table.Sampled
  later : past.Pairwise QueueMetricCall.Later
  reached : ∀ call ∈ past, call.Committed →
    ∃ row, table (ALERT_QUEUE_COMPONENTS call.sample.queueName) = some row ∧
      call.sample.sampledAt ≤ row.updatedAt
  known : ∀ call ∈ past, call.Known

theorem QueueMetricInvariant.step (hinv : QueueMetricInvariant past table)
    (hstep : QueueMetricStep table call next) : QueueMetricInvariant (past ++ [call]) next := by
  obtain ⟨hsampled, hlater, hreached, hknown⟩ := hinv
  have hnext : next.Sampled := by
    have hkept := persistQueueMetricSample_sampled call.sample hsampled
    rw [QueueMetricStep] at hstep
    rwa [hstep] at hkept
  refine ⟨hnext, ?_, ?_, ?_⟩
  · rw [List.pairwise_append]
    refine ⟨hlater, List.pairwise_singleton _ _, fun earlier hearlier last hlast => ?_⟩
    rw [List.mem_singleton] at hlast
    subst hlast
    intro hcommitted hnow hqueue
    obtain ⟨row, hrow, hle⟩ := hreached earlier hearlier hcommitted
    have hlt := (step_committed hsampled hstep hnow).2 row (hqueue ▸ hrow)
    exact Int.lt_of_le_of_lt hle hlt
  · intro earlier hearlier hcommitted
    rcases List.mem_append.mp hearlier with hpast | hlast
    · obtain ⟨row, hrow, hle⟩ := hreached earlier hpast hcommitted
      obtain ⟨changed, hchanged, hadvanced⟩ :=
        updatedAt_le_of_advances (step_advances hsampled hstep hrow) (sampledAt_of_sampled hsampled hrow)
          fun changed hchanged => sampledAt_of_sampled hnext hchanged
      exact ⟨changed, hchanged, Int.le_trans hle hadvanced⟩
    · rw [List.mem_singleton] at hlast
      subst hlast
      obtain ⟨row, hrow, hat⟩ := (step_committed hsampled hstep hcommitted).1
      exact ⟨row, hrow, hat ▸ Int.le_refl _⟩
  · intro earlier hearlier
    rcases List.mem_append.mp hearlier with hpast | hlast
    · exact hknown earlier hpast
    · rw [List.mem_singleton] at hlast
      subst hlast
      exact step_known hsampled hstep

theorem run_invariant (htrace : Trace RuntimeTable.Empty QueueMetricStep past table) :
    QueueMetricInvariant past table := by
  induction htrace with
  | start hempty =>
    refine ⟨fun component row hrow => ?_, List.Pairwise.nil, ?_, ?_⟩
    · rw [hempty component] at hrow
      cases hrow
    · exact fun call hcall => absurd hcall List.not_mem_nil
    · exact fun call hcall => absurd hcall List.not_mem_nil
  | step htrace hstep ih => exact ih.step hstep

end run

/-- What holds of the table and of the answers after some calls. -/
structure QueueMetricsSound (past : List QueueMetricCall) (table : RuntimeTable) : Prop where
  readable : ∀ component row, table component = some row →
    ∃ queue, component = ALERT_QUEUE_COMPONENTS queue ∧ row.Readable queue
  advances : ∀ call next, QueueMetricStep table call next →
    ∀ component row, table component = some row → row.Advances (next component)
  later : past.Pairwise QueueMetricCall.Later
  once : past.Pairwise fun earlier later => earlier.sample.queueName = later.sample.queueName →
    earlier.sample.sampledAt = later.sample.sampledAt → ¬ (earlier.Committed ∧ later.Committed)
  known : ∀ call ∈ past, call.Known

/-- After any interleaving of calls from an empty table, each row is readable and each
snapshot that was answered is known; samples of a queue commit in the order of time. -/
theorem persistQueueMetricSample_sound {past : List QueueMetricCall} {table : RuntimeTable}
    (htrace : Trace RuntimeTable.Empty QueueMetricStep past table) : QueueMetricsSound past table := by
  obtain ⟨hsampled, hlater, -, hknown⟩ := run_invariant htrace
  refine ⟨?_, ?_, hlater, ?_, hknown⟩
  · intro component row hrow
    obtain ⟨sample, revision, since, streak, hcomponent, hvalid, hlow, hhigh, hstreak, rfl⟩ :=
      hsampled component row hrow
    exact ⟨sample.queueName, hcomponent, sampledRow_readable hvalid hlow hhigh hstreak⟩
  · exact fun call next hstep component row hrow => step_advances hsampled hstep hrow
  · refine hlater.imp fun hpair hqueue hat hboth => ?_
    have hlt := Timestamp.lt_iff_ms.mp (hpair hboth.1 hboth.2 hqueue)
    rw [hat] at hlt
    exact absurd hlt (Int.lt_irrefl _)

/-- A sample of an empty table, the same one again, and the next one a minute later. -/
theorem persistQueueMetricSample_sound_minute :
    let sampledAt : Timestamp := ⟨0, by decide⟩
    let first : QueueMetricSample := ⟨10, 2, 5, .alertDeliveriesDlq, sampledAt⟩
    let second : QueueMetricSample := ⟨20, 3, 65, .alertDeliveriesDlq, ⟨60000, by decide⟩⟩
    let committed := persistQueueMetricSample (fun _ => none) first
    let replayed := persistQueueMetricSample committed.2 first
    let continued := persistQueueMetricSample replayed.2 second
    QueueMetricsSound [⟨first, committed.1⟩, ⟨first, replayed.1⟩, ⟨second, continued.1⟩] continued.2 :=
  persistQueueMetricSample_sound (.step (.step (.step (.start fun _ => rfl) step_answered) step_answered) step_answered)

end pgid.alert
