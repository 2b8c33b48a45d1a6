import PgidSso.Alert.Runtime.Moves
import PgidSso.Library.Tenure

open checked

namespace pgid.alert

namespace Ledger

variable {ledger next : Ledger}

/-- The runs are numbered by their generations, and only the last may be live: the one whose lease the
runtime row holds. -/
structure Exclusive (ledger : Ledger) : Prop where
  distinct : ledger.Distinct
  settled : tenure.Settled EvaluatorRunRow.Live ledger.runs
  unstarted : ledger.runtime = none → ledger.runs = []
  numbered : ledger.runs.map (·.runtimeGeneration) =
    (List.range ledger.runs.length).map fun index : Nat => (index : Int) + 1
  generation : ∀ row, ledger.runtime = some row → row.generation = ledger.runs.length
  leased : ∀ row, ledger.runtime = some row → ∀ run ∈ ledger.runs, run.Live → run.LeasedBy row
  held : ∀ row, ledger.runtime = some row → row.leaseId ≠ none → ∃ run ∈ ledger.runs, run.Live

/-- The live run is the last one, and is written in its place. -/
theorem Exclusive.replaceRun_eq {old new : EvaluatorRunRow} (hexclusive : ledger.Exclusive)
    (hold : old ∈ ledger.runs) (hlive : old.Live) (hid : new.id = old.id) :
    ∃ past, ledger.runs = past ++ [old] ∧ (ledger.replaceRun new).runs = past ++ [new] := by
  obtain ⟨past, hruns⟩ := hexclusive.settled.eq_append hold hlive
  have hids := hexclusive.distinct.ids
  rw [hruns, List.map_append, List.nodup_append] at hids
  refine ⟨past, hruns, ?_⟩
  have hother : ∀ run ∈ past, (if run.id = new.id then new else run) = run := by
    intro run hrun
    rw [if_neg]
    rw [hid]
    exact hids.2.2 run.id (List.mem_map_of_mem hrun) old.id (List.mem_singleton_self _)
  simp only [replaceRun, hruns, List.map_append, List.map_cons, List.map_nil, if_pos hid.symm]
  rw [List.map_congr_left hother, List.map_id'']
  exact fun _ => rfl

/-- While the runtime row can be acquired, no run is live but the expired one that is to be abandoned. -/
theorem Exclusive.expired {row : RuntimeStatusRow} {run new : EvaluatorRunRow} (hexclusive : ledger.Exclusive)
    (hrow : ledger.runtime = some row) (hacquirable : Acquirable row new) (hrun : run ∈ ledger.runs)
    (hlive : run.Live) :
    run.runtimeGeneration = new.runtimeGeneration - 1 ∧ run.Live ∧ run.leaseExpiresAt ≤ new.startedAt := by
  obtain ⟨⟨hgeneration, -, hlease, hexpires⟩, -, -⟩ := hexclusive.leased row hrow run hrun hlive
  obtain ⟨hnumber, -, -, -, -, hfree⟩ := hacquirable
  refine ⟨hgeneration.symm.trans hnumber, hlive, ?_⟩
  obtain hnone | ⟨expiresAt, hexpiresAt, hle⟩ := hfree
  · rw [hnone] at hlease
    cases hlease
  · have hfound : row.leaseExpiresAt = some expiresAt := hexpiresAt
    rw [hfound, Option.some.injEq] at hexpires
    rw [← hexpires]
    exact hle

/-- The runs of a move are those of a log whose terms follow one another. -/
theorem Move.step (hmove : ledger.Move next) (hexclusive : ledger.Exclusive) :
    tenure.Step EvaluatorRunRow.Live EvaluatorRunRow.Follows ledger.runs next.runs := by
  cases hmove with
  | states states => exact .stay
  | initializeRuntime row hnone hgeneration hlease hwatermark => exact .stay
  | acquire row new freed hrow hacquirable hshape hconflict hfreed hproceeds =>
    obtain ⟨rfl, hnone⟩ | ⟨old, hold, -, hlive, hfollows, rfl⟩ := hfreed
    · exact .start fun run hrun hlive => hnone run hrun (hexclusive.expired hrow hacquirable hrun hlive)
    · obtain ⟨past, hruns, hreplaced⟩ := hexclusive.replaceRun_eq hold hlive hfollows.id
      have hclosed : ¬ (abandoned old new.startedAt).Live := by
        rintro (hstatus | hstatus) <;> cases hstatus
      rw [hruns, hreplaced, List.append_assoc]
      exact .takeover hlive hfollows hclosed
  | rewrite old new runtime hrewrites =>
    obtain ⟨past, hruns, hreplaced⟩ :=
      hexclusive.replaceRun_eq hrewrites.mem hrewrites.live hrewrites.follows.id
    simp only [hruns, hreplaced]
    exact .write hrewrites.live hrewrites.follows
  | proveSource source hproves hfresh => exact .stay
  | proveDecision states decision hproves hfresh hchecked => exact .stay
  | complete row new run bootstrap hcompletes =>
    obtain ⟨past, hruns, hreplaced⟩ :=
      hexclusive.replaceRun_eq hcompletes.mem hcompletes.live hcompletes.follows.id
    simp only [hruns, hreplaced]
    exact .write hcompletes.live hcompletes.follows

theorem terminalized_not_live {run : EvaluatorRunRow} {row : RuntimeStatusRow} : ¬ (terminalized run row).Live := by
  rintro (hstatus | hstatus)
  · simp only [terminalized] at hstatus
    split at hstatus <;> cases hstatus
  · simp only [terminalized] at hstatus
    split at hstatus <;> cases hstatus

/-- A run that is written in its place keeps the numbers. -/
theorem numbered_of_write {past : List EvaluatorRunRow} {old new : EvaluatorRunRow}
    (hexclusive : ledger.Exclusive) (hruns : ledger.runs = past ++ [old]) (hfollows : old.Follows new)
    (hnext : next.runs = past ++ [new]) :
    next.runs.length = ledger.runs.length ∧
      next.runs.map (·.runtimeGeneration) =
        (List.range next.runs.length).map fun index : Nat => (index : Int) + 1 := by
  have hlength : next.runs.length = ledger.runs.length := by
    simp only [hruns, hnext, List.length_append, List.length_singleton]
  have hgenerations : next.runs.map (·.runtimeGeneration) = ledger.runs.map (·.runtimeGeneration) := by
    simp only [hruns, hnext, List.map_append, List.map_cons, List.map_nil, hfollows.runtimeGeneration]
  refine ⟨hlength, ?_⟩
  rw [hgenerations, hlength]
  exact hexclusive.numbered

theorem Exclusive.acquire {row : RuntimeStatusRow} {new : EvaluatorRunRow} {freed : List EvaluatorRunRow}
    (hexclusive : ledger.Exclusive) (hrow : ledger.runtime = some row) (hacquirable : Acquirable row new)
    (hshape : ¬ ShapeGuard new) (hconflict : ¬ ledger.ConflictGuard new) (hfreed : ledger.Frees new freed)
    (hstep : tenure.Step EvaluatorRunRow.Live EvaluatorRunRow.Follows ledger.runs (freed ++ [new])) :
    Ledger.Exclusive { ledger with runs := freed ++ [new], runtime := some (acquiredRuntime row new) } := by
  simp only [ShapeGuard, not_or, not_not, ne_eq] at hshape
  obtain ⟨hstatus, -, hrevision, -⟩ := hshape
  have hsettled := hstep.settled hexclusive.settled
  have hclosed := tenure.settled_append.mp hsettled
  have hlive : new.Live := .inl hstatus
  have hkept : freed.map (·.runtimeGeneration) = ledger.runs.map (·.runtimeGeneration) := by
    obtain ⟨rfl, -⟩ | ⟨old, hold, -, hlive, hfollows, rfl⟩ := hfreed
    · rfl
    · obtain ⟨past, hruns, hreplaced⟩ := hexclusive.replaceRun_eq hold hlive hfollows.id
      simp only [hruns, hreplaced, List.map_append, List.map_cons, List.map_nil, hfollows.runtimeGeneration]
  have hlength : freed.length = ledger.runs.length := by
    have hlengths := congrArg List.length hkept
    rwa [List.length_map, List.length_map] at hlengths
  have hnumber : new.runtimeGeneration = (ledger.runs.length : Int) + 1 := by
    rw [← hexclusive.generation row hrow, hacquirable.1]
    omega
  refine ⟨?_, hsettled, fun hnone => absurd hnone (Option.some_ne_none _), ?_, ?_, ?_, ?_⟩
  · have happended := hexclusive.distinct.append hconflict
    obtain ⟨rfl, -⟩ | ⟨old, hold, -, -, hfollows, rfl⟩ := hfreed
    · exact happended.congr rfl
    · have hother : new.id ≠ (abandoned old new.startedAt).id :=
        fun hid => hconflict ⟨old, hold, .inl hid.symm⟩
      refine (happended.replaceRun (List.mem_append_left _ hold) hfollows.id hfollows.runtimeGeneration).congr ?_
      simp only [replaceRun, List.map_append, List.map_cons, List.map_nil, if_neg hother]
  · simp only [List.map_append, List.map_cons, List.map_nil, List.length_append, List.length_singleton, hkept,
      hlength, List.range_succ, hexclusive.numbered, hnumber]
  · intro acquired hacquired
    obtain rfl := Option.some.inj hacquired
    simp only [acquiredRuntime, List.length_append, List.length_singleton, hlength, hnumber]
    rfl
  · intro acquired hacquired run hrun hrunLive
    obtain rfl := Option.some.inj hacquired
    obtain hpast | hlast := List.mem_append.mp hrun
    · exact absurd hrunLive (hclosed run hpast)
    · rw [List.mem_singleton.mp hlast]
      exact ⟨⟨rfl, hrevision, rfl, rfl⟩, rfl, rfl⟩
  · intro acquired _ _
    exact ⟨new, List.mem_append_right _ (List.mem_singleton_self _), hlive⟩

theorem Move.exclusive (hmove : ledger.Move next) (hexclusive : ledger.Exclusive) : next.Exclusive := by
  have hstep := hmove.step hexclusive
  cases hmove with
  | states states => exact ⟨hexclusive.distinct.congr rfl, hexclusive.settled, hexclusive.unstarted,
      hexclusive.numbered, hexclusive.generation, hexclusive.leased, hexclusive.held⟩
  | initializeRuntime row hnone hgeneration hlease hwatermark =>
    have hruns := hexclusive.unstarted hnone
    refine ⟨hexclusive.distinct.congr rfl, hexclusive.settled,
      fun hnone => absurd hnone (Option.some_ne_none _), hexclusive.numbered, ?_, ?_, ?_⟩
    · intro initial hinitial
      obtain rfl := Option.some.inj hinitial
      simp only [hruns, hgeneration, List.length_nil]
      rfl
    · intro initial _ run hrun
      simp only [hruns] at hrun
      cases hrun
    · intro initial hinitial hheld
      obtain rfl := Option.some.inj hinitial
      exact absurd hlease hheld
  | acquire row new freed hrow hacquirable hshape hconflict hfreed hproceeds =>
    exact hexclusive.acquire hrow hacquirable hshape hconflict hfreed hstep
  | rewrite old new runtime hrewrites =>
    obtain ⟨past, hruns, hreplaced⟩ :=
      hexclusive.replaceRun_eq hrewrites.mem hrewrites.live hrewrites.follows.id
    have hsettled := hstep.settled hexclusive.settled
    obtain ⟨row, hrow, -, hgeneration, -⟩ := hrewrites.proceeds
    obtain ⟨hlength, hnumbered⟩ := numbered_of_write hexclusive hruns
      hrewrites.follows hreplaced
    refine ⟨(hexclusive.distinct.replaceRun hrewrites.mem hrewrites.follows.id
      hrewrites.follows.runtimeGeneration).congr rfl, hsettled,
      fun hnone => absurd hnone (Option.some_ne_none _), hnumbered, ?_, ?_, ?_⟩
    · intro written hwritten
      obtain rfl := Option.some.inj hwritten
      rw [← hgeneration, hexclusive.generation row hrow]
      exact congrArg Nat.cast hlength.symm
    · intro written hwritten run hrun hlive
      obtain rfl := Option.some.inj hwritten
      simp only [hreplaced] at hrun hsettled
      obtain hpast | hlast := List.mem_append.mp hrun
      · exact absurd hlive (tenure.settled_append.mp hsettled run hpast)
      · rw [List.mem_singleton.mp hlast]
        exact hrewrites.leased
    · intro written _ _
      refine ⟨new, ?_, hrewrites.stays⟩
      simp only [hreplaced]
      exact List.mem_append_right _ (List.mem_singleton_self _)
  | proveSource source hproves hfresh =>
    exact ⟨hexclusive.distinct.congr rfl, hexclusive.settled, hexclusive.unstarted, hexclusive.numbered,
      hexclusive.generation, hexclusive.leased, hexclusive.held⟩
  | proveDecision states decision hproves hfresh hchecked =>
    exact ⟨hexclusive.distinct.congr rfl, hexclusive.settled, hexclusive.unstarted, hexclusive.numbered,
      hexclusive.generation, hexclusive.leased, hexclusive.held⟩
  | complete row new run bootstrap hcompletes =>
    obtain ⟨past, hruns, hreplaced⟩ :=
      hexclusive.replaceRun_eq hcompletes.mem hcompletes.live hcompletes.follows.id
    have hsettled := hstep.settled hexclusive.settled
    obtain ⟨hlength, hnumbered⟩ := numbered_of_write hexclusive
      hruns hcompletes.follows hreplaced
    refine ⟨(hexclusive.distinct.replaceRun hcompletes.mem hcompletes.follows.id
      hcompletes.follows.runtimeGeneration).congr rfl, hsettled,
      fun hnone => absurd hnone (Option.some_ne_none _), hnumbered, ?_, ?_, ?_⟩
    · intro written hwritten
      obtain rfl := Option.some.inj hwritten
      rw [hcompletes.generation, hexclusive.generation row hcompletes.found]
      exact congrArg Nat.cast hlength.symm
    · intro written _ other hother hlive
      simp only [hreplaced] at hother hsettled
      obtain hpast | hlast := List.mem_append.mp hother
      · exact absurd hlive (tenure.settled_append.mp hsettled other hpast)
      · rw [List.mem_singleton.mp hlast] at hlive
        exact absurd hlive terminalized_not_live
    · intro written hwritten hheld
      obtain rfl := Option.some.inj hwritten
      exact absurd hcompletes.freed hheld

/-- The proofs of the sources and of the decisions are only added to, and the runtime row proceeds. -/
theorem Move.keeps (hmove : ledger.Move next) :
    ledger.sources <+: next.sources ∧ ledger.decisions <+: next.decisions ∧
      ∀ row, ledger.runtime = some row → ∃ later, next.runtime = some later ∧ row.Proceeds later := by
  have hstays : ∀ row, ledger.runtime = some row → ∃ later, ledger.runtime = some later ∧ row.Proceeds later :=
    fun row hrow => ⟨row, hrow, .refl⟩
  cases hmove with
  | states states => exact ⟨List.prefix_rfl, List.prefix_rfl, hstays⟩
  | initializeRuntime row hnone hgeneration hlease hwatermark =>
    refine ⟨List.prefix_rfl, List.prefix_rfl, ?_⟩
    intro earlier hearlier
    rw [hnone] at hearlier
    cases hearlier
  | acquire row new freed hrow hacquirable hshape hconflict hfreed hproceeds =>
    refine ⟨List.prefix_rfl, List.prefix_rfl, ?_⟩
    intro earlier hearlier
    rw [hrow, Option.some.injEq] at hearlier
    exact ⟨_, rfl, hearlier ▸ hproceeds⟩
  | rewrite old new runtime hrewrites =>
    obtain ⟨row, hrow, hproceeds, -⟩ := hrewrites.proceeds
    refine ⟨List.prefix_rfl, List.prefix_rfl, ?_⟩
    intro earlier hearlier
    rw [hrow, Option.some.injEq] at hearlier
    exact ⟨_, rfl, hearlier ▸ hproceeds⟩
  | proveSource source hproves hfresh => exact ⟨List.prefix_append _ _, List.prefix_rfl, hstays⟩
  | proveDecision states decision hproves hfresh hchecked =>
    exact ⟨List.prefix_rfl, List.prefix_append _ _, hstays⟩
  | complete row new run bootstrap hcompletes =>
    refine ⟨List.prefix_rfl, List.prefix_rfl, ?_⟩
    intro earlier hearlier
    rw [hcompletes.found, Option.some.injEq] at hearlier
    exact ⟨_, rfl, hearlier ▸ hcompletes.proceeds⟩

end Ledger

section runs

variable {sha256 : orchestration.Sha256} {database next : RunDatabase}

theorem RunStep.exclusive (hstep : RunStep sha256 database next) (hexclusive : database.ledger.Exclusive) :
    next.ledger.Exclusive :=
  (hstep.moves hexclusive.distinct).exclusive hexclusive

theorem RunStep.path_exclusive (hpath : Relation.ReflTransGen (RunStep sha256) database next)
    (hexclusive : database.ledger.Exclusive) : next.ledger.Exclusive := by
  induction hpath with
  | refl => exact hexclusive
  | tail _ hstep ih => exact hstep.exclusive ih

theorem RunDatabase.empty_exclusive : RunDatabase.empty.ledger.Exclusive := by
  refine ⟨⟨List.nodup_nil, List.nodup_nil⟩, tenure.Settled.nil, fun _ => rfl, rfl, ?_, ?_, ?_⟩
  · intro row hrow
    cases hrow
  · intro row hrow
    cases hrow
  · intro row hrow
    cases hrow

theorem RunDatabase.Reachable.exclusive (hreachable : database.Reachable sha256) : database.ledger.Exclusive :=
  RunStep.path_exclusive hreachable RunDatabase.empty_exclusive

/-- Only one run is live. -/
theorem Ledger.Exclusive.live_eq {ledger : Ledger} {run other : EvaluatorRunRow} (hexclusive : ledger.Exclusive)
    (hrun : run ∈ ledger.runs) (hother : other ∈ ledger.runs) (hlive : run.Live) (hotherLive : other.Live) :
    run = other := by
  obtain ⟨past, hruns⟩ := hexclusive.settled.eq_append hrun hlive
  obtain ⟨otherPast, hotherRuns⟩ := hexclusive.settled.eq_append hother hotherLive
  exact (List.append_inj' (hruns.symm.trans hotherRuns) rfl).2 |> List.singleton_inj.mp

/-- In every order of the workers' calls at most one run is live: the one whose generation, revision, lease
and expiry the runtime row holds. The generation counts the runs. -/
theorem alertEvaluatorRuns_exclusive (hreachable : database.Reachable sha256) :
    (∀ run ∈ database.ledger.runs, ∀ other ∈ database.ledger.runs, run.Live → other.Live → run = other) ∧
      database.ledger.Exclusive :=
  ⟨fun _ hrun _ hother => hreachable.exclusive.live_eq hrun hother, hreachable.exclusive⟩

/-- The earlier run is live, and alone. -/
theorem alertEvaluatorRuns_exclusive_acquired :
    (∃ run ∈ acquiredDatabase.ledger.runs, run.Live) ∧ acquiredDatabase.ledger.Exclusive :=
  ⟨⟨acquiredRun, List.head_mem _, by decide +kernel⟩, (alertEvaluatorRuns_exclusive acquiredDatabase_reachable).2⟩

theorem RunStep.path_runs (hpath : Relation.ReflTransGen (RunStep sha256) database next)
    (hexclusive : database.ledger.Exclusive) :
    Relation.ReflTransGen (tenure.Step EvaluatorRunRow.Live EvaluatorRunRow.Follows) database.ledger.runs
      next.ledger.runs := by
  induction hpath with
  | refl => exact .refl
  | tail hpath hstep ih =>
    have hmiddle := RunStep.path_exclusive hpath hexclusive
    exact ih.tail ((hstep.moves hmiddle.distinct).step hmiddle)

theorem RunStep.path_keeps (hpath : Relation.ReflTransGen (RunStep sha256) database next)
    (hexclusive : database.ledger.Exclusive) :
    database.ledger.sources <+: next.ledger.sources ∧ database.ledger.decisions <+: next.ledger.decisions ∧
      ∀ row, database.ledger.runtime = some row → ∃ later, next.ledger.runtime = some later ∧ row.Proceeds later := by
  induction hpath with
  | refl => exact ⟨List.prefix_rfl, List.prefix_rfl, fun row hrow => ⟨row, hrow, .refl⟩⟩
  | tail hpath hstep ih =>
    obtain ⟨hsources, hdecisions, hruntime⟩ := ih
    obtain ⟨hmoreSources, hmoreDecisions, hmoreRuntime⟩ :=
      (hstep.moves (RunStep.path_exclusive hpath hexclusive).distinct).keeps
    refine ⟨hsources.trans hmoreSources, hdecisions.trans hmoreDecisions, ?_⟩
    intro row hrow
    obtain ⟨middle, hmiddle, hfirst⟩ := hruntime row hrow
    obtain ⟨later, hlater, hsecond⟩ := hmoreRuntime middle hmiddle
    exact ⟨later, hlater, hfirst.trans hsecond⟩

/-- From any reachable database on, each run keeps its place, and a run that has ended is never written
again; the proofs are only added to, and the runtime row never goes back. -/
theorem alertEvaluatorRuns_kept (hreachable : database.Reachable sha256)
    (hpath : Relation.ReflTransGen (RunStep sha256) database next) :
    (∀ (index : Nat) (run : EvaluatorRunRow), database.ledger.runs[index]? = some run →
      ∃ later, next.ledger.runs[index]? = some later ∧ Relation.ReflTransGen EvaluatorRunRow.Follows run later ∧
        (¬ run.Live → later = run)) ∧
      database.ledger.sources <+: next.ledger.sources ∧ database.ledger.decisions <+: next.ledger.decisions ∧
      ∀ row, database.ledger.runtime = some row → ∃ later, next.ledger.runtime = some later ∧ row.Proceeds later := by
  have hexclusive := hreachable.exclusive
  exact ⟨fun index run hrun => tenure.path_getElem? (RunStep.path_runs hpath hexclusive) hrun,
    RunStep.path_keeps hpath hexclusive⟩

/-- A failure of the earlier run writes its row in its place. -/
theorem alertEvaluatorRuns_kept_failure :
    ∃ later, (earlierFailure.perform sha2.sha256 earlierFence acquiredDatabase .answered).2.ledger.runs[0]? =
        some later ∧
      Relation.ReflTransGen EvaluatorRunRow.Follows acquiredRun later := by
  have hrun : acquiredDatabase.ledger.runs[0]? = some acquiredRun := by
    rw [← List.head?_eq_getElem?]
    exact List.head?_eq_some_head _
  obtain ⟨later, hlater, hfollows, -⟩ := (alertEvaluatorRuns_kept acquiredDatabase_reachable
    (.single (.call earlierFailure earlierFence .answered))).1 0 acquiredRun hrun
  exact ⟨later, hlater, hfollows⟩

end runs

end pgid.alert
