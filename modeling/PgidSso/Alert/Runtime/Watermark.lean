import PgidSso.Alert.Runtime.Proved

open checked

namespace pgid.alert

namespace EvaluatorRunRow

/-- The instants of a run, in their order. -/
structure Timed (run : EvaluatorRunRow) : Prop where
  written : run.startedAt ≤ run.updatedAt
  bound : ∀ asOf, run.asOf = some asOf → run.startedAt ≤ asOf ∧ asOf ≤ run.updatedAt
  succeeded : run.status = .succeeded → run.completedAt = some run.updatedAt ∧
    ∃ asOf, run.watermarkAt = some asOf ∧ run.startedAt ≤ asOf ∧ asOf < run.updatedAt

/-- A live run whose write binds it at most once is timed after the write, if it has not succeeded. -/
theorem Timed.follows {run later : EvaluatorRunRow} (htimed : run.Timed) (hfollows : run.Follows later)
    (hasOf : later.asOf = run.asOf ∨
      run.asOf = none ∧ ∃ asOf, later.asOf = some asOf ∧ run.startedAt ≤ asOf ∧ asOf ≤ later.updatedAt)
    (hstatus : later.status ≠ .succeeded) : later.Timed := by
  have hlater : run.updatedAt ≤ later.updatedAt := Int.le_of_lt hfollows.updatedAt
  refine ⟨?_, ?_, fun hsucceeded => absurd hsucceeded hstatus⟩
  · rw [hfollows.startedAt]
    exact Int.le_trans htimed.written hlater
  · intro asOf hfound
    rw [hfollows.startedAt]
    obtain hsame | ⟨-, bound, hbound, hstarted, hupdated⟩ := hasOf
    · obtain ⟨hstarted, hupdated⟩ := htimed.bound asOf (hsame.symm.trans hfound)
      exact ⟨hstarted, Int.le_trans hupdated hlater⟩
    · rw [hbound, Option.some.injEq] at hfound
      rw [← hfound]
      exact ⟨hstarted, hupdated⟩

/-- Each run starts no sooner than the ones before it were last written. -/
def Timeline (runs : List EvaluatorRunRow) : Prop :=
  (∀ run ∈ runs, run.Timed) ∧ runs.Pairwise fun earlier later => earlier.updatedAt ≤ later.startedAt

theorem Timeline.append {runs : List EvaluatorRunRow} {new : EvaluatorRunRow} (htimeline : Timeline runs)
    (hafter : ∀ run ∈ runs, run.updatedAt ≤ new.startedAt) (hnew : new.Timed) : Timeline (runs ++ [new]) := by
  refine ⟨?_, ?_⟩
  · intro run hrun
    obtain hearlier | hlast := List.mem_append.mp hrun
    · exact htimeline.1 run hearlier
    · rw [List.mem_singleton.mp hlast]
      exact hnew
  · rw [List.pairwise_append]
    refine ⟨htimeline.2, List.pairwise_singleton _ _, ?_⟩
    intro run hrun later hlater
    rw [List.mem_singleton.mp hlater]
    exact hafter run hrun

theorem Timeline.write {past : List EvaluatorRunRow} {old new : EvaluatorRunRow}
    (htimeline : Timeline (past ++ [old])) (hstarted : new.startedAt = old.startedAt) (hnew : new.Timed) :
    Timeline (past ++ [new]) := by
  obtain ⟨htimed, hpairs⟩ := htimeline
  rw [List.pairwise_append] at hpairs
  refine Timeline.append ⟨fun run hrun => htimed run (List.mem_append_left _ hrun), hpairs.1⟩ ?_ hnew
  intro run hrun
  rw [hstarted]
  exact hpairs.2.2 run hrun old (List.mem_singleton_self _)

end EvaluatorRunRow

namespace Ledger

open EvaluatorRunRow

variable {ledger next : Ledger}

/-- The runs that have succeeded, in their order. -/
def successes (ledger : Ledger) : List EvaluatorRunRow :=
  ledger.runs.filter fun run => run.status = .succeeded

theorem successes_append {runs : List EvaluatorRunRow} {new : EvaluatorRunRow} (hruns : next.runs = runs ++ [new]) :
    next.successes = runs.filter (fun run => run.status = .succeeded) ++
      if new.status = .succeeded then [new] else [] := by
  simp only [successes, hruns, List.filter_append, List.filter_cons, List.filter_nil, decide_eq_true_eq]

/-- The runtime row was written no sooner than every run that has ended, and shows the last watermark. -/
structure Watermarked (ledger : Ledger) : Prop where
  timeline : Timeline ledger.runs
  ended : ∀ row, ledger.runtime = some row → ∀ run ∈ ledger.runs, ¬ run.Live → run.updatedAt ≤ row.updatedAt
  watermark : ∀ row, ledger.runtime = some row → row.watermarkAt = ledger.successes.getLast?.bind (·.watermarkAt)

theorem Live.not_succeeded {run : EvaluatorRunRow} (hlive : run.Live) : run.status ≠ .succeeded := by
  intro hsucceeded
  obtain hrunning | hsealed := hlive
  · rw [hrunning] at hsucceeded
    cases hsucceeded
  · rw [hsealed] at hsucceeded
    cases hsucceeded

/-- A new run starts after all others have ended. -/
theorem Watermarked.acquire {row : RuntimeStatusRow} {new : EvaluatorRunRow} {freed : List EvaluatorRunRow}
    (hwatermarked : ledger.Watermarked) (hexclusive : ledger.Exclusive) (hrow : ledger.runtime = some row)
    (hacquirable : Acquirable row new) (hshape : ¬ ShapeGuard new) (hfreed : ledger.Frees new freed) :
    Ledger.Watermarked { ledger with runs := freed ++ [new], runtime := some (acquiredRuntime row new) } := by
  simp only [ShapeGuard, not_or, not_not, ne_eq] at hshape
  obtain ⟨hstatus, -, -, hlease, hasOf, -, -, -, hupdated⟩ := hshape
  have hbefore : row.updatedAt ≤ new.startedAt := Int.le_of_lt hacquirable.2.2.2.2.1
  have hrunning : new.status ≠ .succeeded := Live.not_succeeded (.inl hstatus)
  have hnew : new.Timed := by
    refine ⟨Int.le_of_eq (congrArg Timestamp.ms hupdated.symm), ?_, fun hsucceeded => absurd hsucceeded hrunning⟩
    intro asOf hfound
    rw [hasOf] at hfound
    cases hfound
  -- the runs before the new one: those of the ledger, the expired one abandoned
  have hearlier : Timeline freed ∧ (∀ run ∈ freed, run.updatedAt ≤ new.startedAt) ∧
      freed.filter (fun run => run.status = .succeeded) = ledger.successes := by
    obtain ⟨rfl, hnone⟩ | ⟨old, hold, -, hlive, hfollows, rfl⟩ := hfreed
    · refine ⟨hwatermarked.timeline, ?_, rfl⟩
      intro run hrun
      have hended : ¬ run.Live :=
        fun hlive => hnone run hrun (hexclusive.expired hrow hacquirable hrun hlive)
      exact Int.le_trans (hwatermarked.ended row hrow run hrun hended) hbefore
    · obtain ⟨past, hpast, hreplaced⟩ := hexclusive.replaceRun_eq hold hlive hfollows.id
      have hclosed := tenure.settled_append.mp (hpast ▸ hexclusive.settled)
      have hmem : ∀ run ∈ past, run ∈ ledger.runs := by
        intro run hrun
        rw [hpast]
        exact List.mem_append_left _ hrun
      have habandoned : (abandoned old new.startedAt).Timed :=
        (hwatermarked.timeline.1 old hold).follows hfollows (.inl rfl) (by rintro ⟨⟩)
      rw [hreplaced]
      refine ⟨?_, ?_, ?_⟩
      · exact Timeline.write (hpast ▸ hwatermarked.timeline) hfollows.startedAt habandoned
      · intro run hrun
        obtain hpastRun | hlast := List.mem_append.mp hrun
        · exact Int.le_trans (hwatermarked.ended row hrow run (hmem run hpastRun) (hclosed run hpastRun)) hbefore
        · rw [List.mem_singleton.mp hlast]
          exact Int.le_refl _
      · rw [successes_append hpast, if_neg (Live.not_succeeded hlive), List.append_nil, List.filter_append]
        exact List.append_nil _
  obtain ⟨htimeline, hended, hsuccesses⟩ := hearlier
  refine ⟨htimeline.append hended hnew, ?_, ?_⟩
  · intro acquired hacquired run hrun hclosed
    obtain rfl := Option.some.inj hacquired
    simp only [acquiredRuntime, hlease]
    obtain hpast | hlast := List.mem_append.mp hrun
    · exact hended run hpast
    · rw [List.mem_singleton.mp hlast] at hclosed
      exact absurd (Or.inl hstatus) hclosed
  · intro acquired hacquired
    obtain rfl := Option.some.inj hacquired
    rw [successes_append rfl, if_neg hrunning, List.append_nil, hsuccesses]
    exact hwatermarked.watermark row hrow

/-- A run that is written in its place, and its runtime row. -/
theorem Watermarked.write {past : List EvaluatorRunRow} {old new : EvaluatorRunRow} {row runtime : RuntimeStatusRow}
    (hwatermarked : ledger.Watermarked) (hexclusive : ledger.Exclusive) (hruns : ledger.runs = past ++ [old])
    (hnext : next.runs = past ++ [new]) (hlive : old.Live) (hrow : ledger.runtime = some row)
    (hruntime : next.runtime = some runtime) (hproceeds : row.Proceeds runtime) (hfollows : old.Follows new)
    (hnew : new.Timed) (hended : new.Live ∨ new.updatedAt ≤ runtime.updatedAt)
    (hwatermark : runtime.watermarkAt = if new.status = .succeeded then new.watermarkAt else row.watermarkAt) :
    next.Watermarked := by
  have hclosed := tenure.settled_append.mp (hruns ▸ hexclusive.settled)
  refine ⟨?_, ?_, ?_⟩
  · rw [hnext]
    exact Timeline.write (hruns ▸ hwatermarked.timeline) hfollows.startedAt hnew
  · intro written hwritten run hrun hnot
    rw [hruntime, Option.some.injEq] at hwritten
    rw [← hwritten]
    rw [hnext] at hrun
    obtain hpast | hlast := List.mem_append.mp hrun
    · have hmem : run ∈ ledger.runs := by
        rw [hruns]
        exact List.mem_append_left _ hpast
      exact Int.le_trans (hwatermarked.ended row hrow run hmem (hclosed run hpast)) hproceeds.updatedAt
    · rw [List.mem_singleton.mp hlast] at hnot ⊢
      obtain hstays | hended := hended
      · exact absurd hstays hnot
      · exact hended
  · intro written hwritten
    rw [hruntime, Option.some.injEq] at hwritten
    rw [← hwritten, hwatermark, hwatermarked.watermark row hrow, successes_append hruns,
      if_neg (Live.not_succeeded hlive), List.append_nil, successes_append hnext]
    split
    · rw [List.getLast?_append, List.getLast?_singleton]
      rfl
    · rw [List.append_nil]

/-- A run that ends with success was bound before its end. -/
theorem Completes.timed {row new : RuntimeStatusRow} {run : EvaluatorRunRow}
    (hcompletes : ledger.Completes row new run) (htimed : run.Timed) : (terminalized run new).Timed := by
  by_cases hstatus : (terminalized run new).status = .succeeded
  · have hlater : run.updatedAt < new.updatedAt := hcompletes.follows.updatedAt
    have hhealthy : new.status = .healthy := by
      simp only [terminalized] at hstatus
      split at hstatus
      · assumption
      · cases hstatus
    obtain ⟨-, hproves⟩ | ⟨hnot, -⟩ := hcompletes.proof
    · obtain ⟨-, -, hbound, hwatermark, -⟩ := hproves
      obtain ⟨asOf, hasOf⟩ := Option.ne_none_iff_exists'.mp hbound
      obtain ⟨hstarted, hupdated⟩ := htimed.bound asOf hasOf
      refine ⟨Int.le_trans htimed.written (Int.le_of_lt hlater), ?_, fun _ => ⟨rfl, asOf, ?_, hstarted, ?_⟩⟩
      · intro found hfound
        obtain ⟨hfoundStarted, hfoundUpdated⟩ := htimed.bound found hfound
        exact ⟨hfoundStarted, Int.le_trans hfoundUpdated (Int.le_of_lt hlater)⟩
      · simp only [terminalized, if_pos hhealthy]
        exact hwatermark.symm.trans hasOf
      · exact Int.lt_of_le_of_lt hupdated hlater
    · exact absurd hhealthy hnot
  · exact htimed.follows hcompletes.follows (.inl rfl) hstatus

theorem Move.watermarked (hmove : ledger.Move next) (hexclusive : ledger.Exclusive)
    (hwatermarked : ledger.Watermarked) : next.Watermarked := by
  cases hmove with
  | states states => exact ⟨hwatermarked.timeline, hwatermarked.ended, hwatermarked.watermark⟩
  | initializeRuntime row hnone hgeneration hlease hwatermark =>
    have hruns := hexclusive.unstarted hnone
    refine ⟨hwatermarked.timeline, ?_, ?_⟩
    · intro initial _ run hrun
      simp only [hruns] at hrun
      cases hrun
    · intro initial hinitial
      obtain rfl := Option.some.inj hinitial
      simp only [successes, hruns, hwatermark, List.filter_nil, List.getLast?_nil, Option.bind_none]
  | acquire row new freed hrow hacquirable hshape hconflict hfreed hproceeds =>
    exact hwatermarked.acquire hexclusive hrow hacquirable hshape hfreed
  | rewrite old new runtime hrewrites =>
    obtain ⟨past, hruns, hreplaced⟩ :=
      hexclusive.replaceRun_eq hrewrites.mem hrewrites.live hrewrites.follows.id
    obtain ⟨row, hrow, hproceeds, -, hwatermark⟩ := hrewrites.proceeds
    have hrunning := Live.not_succeeded hrewrites.stays
    have htimed := (hwatermarked.timeline.1 old hrewrites.mem).follows hrewrites.follows hrewrites.asOf hrunning
    refine hwatermarked.write hexclusive hruns hreplaced hrewrites.live hrow rfl hproceeds hrewrites.follows htimed
      (.inl hrewrites.stays) ?_
    rw [if_neg hrunning]
    exact hwatermark.symm
  | proveSource source hproves hfresh =>
    exact ⟨hwatermarked.timeline, hwatermarked.ended, hwatermarked.watermark⟩
  | proveDecision states decision hproves hfresh hchecked =>
    exact ⟨hwatermarked.timeline, hwatermarked.ended, hwatermarked.watermark⟩
  | complete row new run bootstrap hcompletes =>
    obtain ⟨past, hruns, hreplaced⟩ :=
      hexclusive.replaceRun_eq hcompletes.mem hcompletes.live hcompletes.follows.id
    have htimed := hcompletes.timed (hwatermarked.timeline.1 run hcompletes.mem)
    refine hwatermarked.write hexclusive hruns hreplaced hcompletes.live hcompletes.found rfl hcompletes.proceeds
      hcompletes.follows htimed (.inr (Int.le_refl _)) ?_
    by_cases hhealthy : new.status = .healthy
    · simp only [terminalized, if_pos hhealthy, if_true]
    · simp only [terminalized, if_neg hhealthy]
      exact hcompletes.watermark hhealthy

end Ledger

section runs

variable {sha256 : orchestration.Sha256} {database : RunDatabase}

theorem RunDatabase.Reachable.watermarked (hreachable : database.Reachable sha256) :
    database.ledger.Watermarked := by
  induction hreachable with
  | refl =>
    refine ⟨⟨by simp [RunDatabase.empty], List.Pairwise.nil⟩, ?_, ?_⟩
    · intro row hrow
      cases hrow
    · intro row hrow
      cases hrow
  | tail hpath hstep ih =>
    have hexclusive := RunDatabase.Reachable.exclusive hpath
    exact (hstep.moves hexclusive.distinct).watermarked hexclusive ih

/-- The earlier success was complete before the later run started, whose watermark is greater. -/
structure EvaluatorRunRow.SucceededBefore (earlier later : EvaluatorRunRow) : Prop where
  completed : ∃ completedAt, earlier.completedAt = some completedAt ∧ completedAt ≤ later.startedAt
  watermark : ∃ earlierAt laterAt, earlier.watermarkAt = some earlierAt ∧ later.watermarkAt = some laterAt ∧
    earlierAt < laterAt

/-- The later run was completed after the earlier one was, and has a greater watermark. -/
structure EvaluatorRunRow.CompletedAfter (earlier later : EvaluatorRunRow) : Prop where
  completed : ∃ earlierEnd laterEnd, earlier.completedAt = some earlierEnd ∧ later.completedAt = some laterEnd ∧
    earlierEnd < laterEnd
  watermark : ∃ earlierAt laterAt, earlier.watermarkAt = some earlierAt ∧ later.watermarkAt = some laterAt ∧
    earlierAt < laterAt

theorem RunDatabase.Reachable.successes (hreachable : database.Reachable sha256) :
    database.ledger.successes.Pairwise fun earlier later =>
      earlier.SucceededBefore later ∧ earlier.CompletedAfter later := by
  obtain ⟨⟨htimed, hpairs⟩, -, -⟩ := hreachable.watermarked
  have hsuccesses := hpairs.filter fun run => decide (run.status = .succeeded)
  refine hsuccesses.imp_of_mem ?_
  intro earlier later hearlier hlater hfollowing
  rw [List.mem_filter, decide_eq_true_eq] at hearlier hlater
  obtain ⟨hcompleted, earlierAt, hearlierAt, -, hbefore⟩ := (htimed earlier hearlier.1).succeeded hearlier.2
  obtain ⟨hend, laterAt, hlaterAt, hafter, hlast⟩ := (htimed later hlater.1).succeeded hlater.2
  have hrises : ∃ earlierAt laterAt, earlier.watermarkAt = some earlierAt ∧ later.watermarkAt = some laterAt ∧
      earlierAt < laterAt :=
    ⟨earlierAt, laterAt, hearlierAt, hlaterAt, Int.lt_of_lt_of_le (Int.lt_of_lt_of_le hbefore hfollowing) hafter⟩
  refine ⟨⟨⟨_, hcompleted, hfollowing⟩, hrises⟩, ⟨_, _, hcompleted, hend, ?_⟩, hrises⟩
  exact Int.lt_of_le_of_lt (Int.le_trans hfollowing hafter) hlast

/-- In every reachable database the watermarks of the runs that have succeeded rise in the order in which they were
completed, and the runtime row shows the last of them. -/
theorem alertEvaluatorRuns_watermarks (hreachable : database.Reachable sha256) :
    database.ledger.successes.Pairwise EvaluatorRunRow.SucceededBefore ∧
      ∀ row, database.ledger.runtime = some row →
        row.watermarkAt = database.ledger.successes.getLast?.bind (·.watermarkAt) :=
  ⟨hreachable.successes.imp And.left, hreachable.watermarked.watermark⟩

/-- The runtime row shows the watermark of the earlier run. -/
theorem alertEvaluatorRuns_watermarks_success :
    ∃ row, succeededDatabase.ledger.runtime = some row ∧ row.watermarkAt ≠ none ∧
      row.watermarkAt = succeededDatabase.ledger.successes.getLast?.bind (·.watermarkAt) := by
  obtain ⟨row, hrow, hshows⟩ := succeededDatabase_shows.1.2
  exact ⟨row, hrow, hshows, (alertEvaluatorRuns_watermarks succeededDatabase_reachable).2 row hrow⟩

/-- A healthy watermark is proved: in every reachable database each run that has succeeded has its proof, and the
watermarks of these runs rise with their completion. -/
theorem alertEvaluatorRuns_healthy (hreachable : database.Reachable sha256) :
    (∀ run ∈ database.ledger.runs, run.status = .succeeded →
        ∃ asOf completedAt, run.ProvedBy database.ledger asOf completedAt) ∧
      database.ledger.successes.Pairwise EvaluatorRunRow.CompletedAfter :=
  ⟨fun _ hrun hstatus => hreachable.provedBy hrun hstatus, hreachable.successes.imp And.right⟩

/-- The earlier run has succeeded, and is proved. -/
theorem alertEvaluatorRuns_healthy_success :
    ∃ run ∈ succeededDatabase.ledger.runs, run.status = .succeeded ∧
      ∃ asOf completedAt, run.ProvedBy succeededDatabase.ledger asOf completedAt := by
  have hrun : succeededRun ∈ succeededDatabase.ledger.runs := List.head_mem _
  have hstatus := succeededDatabase_shows.1.1
  exact ⟨succeededRun, hrun, hstatus,
    (alertEvaluatorRuns_healthy succeededDatabase_reachable).1 succeededRun hrun hstatus⟩

end runs

end pgid.alert
