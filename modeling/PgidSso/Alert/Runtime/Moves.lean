import PgidSso.Alert.Runtime.Protocol

open checked

namespace pgid.alert

/-- A run that runs no more keeps what it was sealed with. -/
def EvaluatorRunRow.KeepsPlan (run later : EvaluatorRunRow) : Prop :=
  run.status ≠ .running → later.status ≠ .running ∧ later.asOf = run.asOf ∧
    later.sourceManifestSha256 = run.sourceManifestSha256 ∧ later.decisionCount = run.decisionCount ∧
    later.decisionManifestSha256 = run.decisionManifestSha256

/-- What every write of a live run keeps of it. -/
structure EvaluatorRunRow.Follows (run later : EvaluatorRunRow) : Prop where
  id : later.id = run.id
  triggerScheduledAt : later.triggerScheduledAt = run.triggerScheduledAt
  runtimeGeneration : later.runtimeGeneration = run.runtimeGeneration
  leaseId : later.leaseId = run.leaseId
  startedAt : later.startedAt = run.startedAt
  updatedAt : run.updatedAt < later.updatedAt
  leaseRevision : run.leaseRevision ≤ later.leaseRevision
  leaseExpiresAt : run.leaseExpiresAt ≤ later.leaseExpiresAt
  lease : later.leaseRevision = run.leaseRevision →
    later.leaseUpdatedAt = run.leaseUpdatedAt ∧ later.leaseExpiresAt = run.leaseExpiresAt
  plan : run.KeepsPlan later

/-- The runtime row holds the lease of the run, and was written when the run was last renewed. -/
def EvaluatorRunRow.LeasedBy (run : EvaluatorRunRow) (runtime : RuntimeStatusRow) : Prop :=
  run.HeldBy runtime ∧ runtime.lastStartedAt = some run.startedAt ∧ runtime.updatedAt = run.leaseUpdatedAt

/-- What every update of the runtime row keeps going forward. -/
structure RuntimeStatusRow.Proceeds (row later : RuntimeStatusRow) : Prop where
  generation : row.generation ≤ later.generation
  revision : row.revision ≤ later.revision
  updatedAt : row.updatedAt ≤ later.updatedAt
  watermarkAt : ∀ watermarkAt, row.watermarkAt = some watermarkAt →
    ∃ next, later.watermarkAt = some next ∧ watermarkAt ≤ next

namespace RuntimeStatusRow

variable {row later last : RuntimeStatusRow}

theorem Proceeds.refl : row.Proceeds row :=
  ⟨Int.le_refl _, Int.le_refl _, Int.le_refl _, fun watermarkAt hrow => ⟨watermarkAt, hrow, Int.le_refl _⟩⟩

theorem Proceeds.trans (hfirst : row.Proceeds later) (hsecond : later.Proceeds last) : row.Proceeds last := by
  refine ⟨Int.le_trans hfirst.generation hsecond.generation, Int.le_trans hfirst.revision hsecond.revision,
    Int.le_trans hfirst.updatedAt hsecond.updatedAt, ?_⟩
  intro watermarkAt hrow
  obtain ⟨middle, hmiddle, hle⟩ := hfirst.watermarkAt watermarkAt hrow
  obtain ⟨next, hnext, hmore⟩ := hsecond.watermarkAt middle hmiddle
  exact ⟨next, hnext, Int.le_trans hle hmore⟩

theorem Proceeds.of_transition (hguard : ¬ sql.Holds (transitionGuard row later)) : row.Proceeds later := by
  obtain ⟨-, hrevision, hupdated, hgeneration⟩ := transition_le hguard
  refine ⟨hgeneration, by omega, Int.le_of_lt hupdated, ?_⟩
  intro watermarkAt hrow
  simp only [transitionGuard, sql.holds_any_cons, sql.holds_any_nil, or_false, not_or] at hguard
  exact le_of_not_regresses hguard.2.2.2.2.2.2.2.1 hrow

end RuntimeStatusRow

namespace Ledger

section writes

variable {ledger next : Ledger} {old new : EvaluatorRunRow}

theorem writeRun_transition (hwrite : ledger.writeRun old new = .ok next) :
    sql.Passes (sql.any [renews old new, binds old new, ledger.seals old new, ledger.succeeds old new,
      ledger.fails old new, ledger.abandons old new]) := by
  rw [writeRun, throwIf_bind_eq_ok_iff] at hwrite
  obtain ⟨hguard, -⟩ := hwrite
  simp only [runTransitionGuard, sql.holds_any_cons, sql.holds_any_nil, or_false, not_or, sql.holds_not,
    not_not] at hguard
  exact hguard.2.2.2.2.2.2.2.2.2

/-- A write renews the lease of the run, or leaves it. -/
theorem writeRun_lease (hwrite : ledger.writeRun old new = .ok next) :
    (new.status = old.status ∧ new.leaseRevision = old.leaseRevision + 1 ∧ old.leaseExpiresAt ≤ new.leaseExpiresAt) ∨
      (new.leaseRevision = old.leaseRevision ∧ new.leaseUpdatedAt = old.leaseUpdatedAt ∧
        new.leaseExpiresAt = old.leaseExpiresAt) := by
  have hcases := writeRun_transition hwrite
  have hsame : sql.Passes (new.sameLease old) → new.leaseRevision = old.leaseRevision ∧
      new.leaseUpdatedAt = old.leaseUpdatedAt ∧ new.leaseExpiresAt = old.leaseExpiresAt := by
    intro hsame
    simp only [EvaluatorRunRow.sameLease, sql.passes_all_cons, sql.passes_fact] at hsame
    exact ⟨hsame.1, hsame.2.1, hsame.2.2.1⟩
  simp only [sql.passes_any_cons, sql.passes_any_nil, or_false] at hcases
  obtain hrenews | hbinds | hseals | hsucceeds | hfails | habandons := hcases
  · simp only [renews, sql.passes_all_cons, sql.passes_fact, sql.passes_le, Option.mem_def, Option.some.injEq,
      forall_eq'] at hrenews
    exact .inl ⟨hrenews.2.1, hrenews.2.2.1, hrenews.2.2.2.2.1⟩
  · simp only [binds, sql.passes_all_cons] at hbinds
    exact .inr (hsame hbinds.2.2.1)
  · simp only [seals, sql.passes_all_cons] at hseals
    exact .inr (hsame hseals.2.2.1)
  · simp only [succeeds, sql.passes_all_cons] at hsucceeds
    exact .inr (hsame hsucceeds.2.2.1)
  · simp only [fails, sql.passes_all_cons] at hfails
    exact .inr (hsame hfails.2.2.1)
  · simp only [abandons, sql.passes_all_cons] at habandons
    exact .inr (hsame habandons.2.2.1)

/-- A run that is written was live, and keeps what `alert_evaluator_run_transition_guard` wants kept. -/
theorem writeRun_follows (hwrite : ledger.writeRun old new = .ok next) (hplan : old.KeepsPlan new) :
    old.Live ∧ old.Follows new ∧ new.Checked ∧ next = ledger.replaceRun new := by
  have hlease := writeRun_lease hwrite
  rw [writeRun, throwIf_bind_eq_ok_iff, throwIf_bind_eq_ok_iff, not_not] at hwrite
  obtain ⟨hguard, hchecked, heq⟩ := hwrite
  cases heq
  simp only [runTransitionGuard, sql.holds_any_cons, sql.holds_any_nil, or_false, not_or, sql.holds_fact, not_not,
    ne_eq, sql.holds_le, Option.mem_def, Option.some.injEq] at hguard
  obtain ⟨hid, htrigger, hgeneration, -, hleaseId, hstarted, -, hupdated, hlive, -⟩ := hguard
  have hlater : old.updatedAt < new.updatedAt :=
    Int.not_le.mp fun hle => hupdated ⟨_, rfl, _, rfl, hle⟩
  refine ⟨hlive, ⟨hid, htrigger, hgeneration, hleaseId, hstarted, hlater, ?_, ?_, ?_, hplan⟩, hchecked, rfl⟩
  · omega
  · obtain ⟨-, -, hexpires⟩ | ⟨-, -, hexpires⟩ := hlease
    · exact hexpires
    · exact Int.le_of_eq (congrArg Timestamp.ms hexpires.symm)
  · intro hrevision
    obtain ⟨-, hrenewed, -⟩ | ⟨-, hleased⟩ := hlease
    · omega
    · exact hleased

/-- A write of a bound run leaves its binding; an earlier one may bind it, after its start. -/
theorem writeRun_asOf (hwrite : ledger.writeRun old new = .ok next) (hstatus : new.status = .running) :
    new.asOf = old.asOf ∨
      old.asOf = none ∧ ∀ asOf, new.asOf = some asOf → old.startedAt ≤ asOf ∧ asOf ≤ new.updatedAt := by
  have hcases := writeRun_transition hwrite
  simp only [sql.passes_any_cons, sql.passes_any_nil, or_false, renews, binds, seals, succeeds, fails, abandons,
    sql.passes_all_cons, sql.passes_fact, hstatus, reduceCtorEq, false_and, and_false] at hcases
  obtain hrenews | hbinds := hcases
  · left
    have hasOf := hrenews.2.2.2.2.2.2.1
    rwa [sql.passes_is] at hasOf
  · obtain ⟨-, -, -, hnone, -, hstarted, hupdated, -⟩ := hbinds
    rw [sql.passes_isNull] at hnone
    refine .inr ⟨hnone, ?_⟩
    intro asOf hasOf
    simp only [hasOf, sql.passes_le, Option.mem_def, Option.some.injEq, forall_eq'] at hstarted hupdated
    exact ⟨hstarted, hupdated⟩

/-- A run that is sealed has no decisions yet. -/
theorem writeRun_seals (hwrite : ledger.writeRun old new = .ok next) (hold : old.status = .running)
    (hnew : new.status = .sealed) : ledger.decisionsOf old.id = [] := by
  have hcases := writeRun_transition hwrite
  simp only [sql.passes_any_cons, sql.passes_any_nil, or_false, renews, binds, seals, succeeds, fails, abandons,
    sql.passes_all_cons, sql.passes_fact, hold, hnew, reduceCtorEq, false_and, and_false, false_or] at hcases
  exact hcases.2.2.2.2.2.2.2.2.2.2.2.2.2.2.2.1

end writes

/-- A write of a live run that stays live, and the runtime row that holds its lease then. -/
structure Rewrites (ledger : Ledger) (old new : EvaluatorRunRow) (runtime : RuntimeStatusRow) : Prop where
  mem : old ∈ ledger.runs
  live : old.Live
  stays : new.Live
  follows : old.Follows new
  proceeds : ∃ row, ledger.runtime = some row ∧ row.Proceeds runtime ∧ row.generation = runtime.generation ∧
    row.watermarkAt = runtime.watermarkAt
  leased : new.LeasedBy runtime
  asOf : new.asOf = old.asOf ∨
    old.asOf = none ∧ ∃ asOf, new.asOf = some asOf ∧ old.startedAt ≤ asOf ∧ asOf ≤ new.updatedAt
  decisions : new.decisionCount = old.decisionCount ∨ ledger.decisionsOf old.id = []

/-- The runs that a new run is added to: the expired run before it has been abandoned. -/
def Frees (ledger : Ledger) (new : EvaluatorRunRow) (freed : List EvaluatorRunRow) : Prop :=
  (freed = ledger.runs ∧ ∀ run ∈ ledger.runs,
      ¬ (run.runtimeGeneration = new.runtimeGeneration - 1 ∧ run.Live ∧ run.leaseExpiresAt ≤ new.startedAt)) ∨
    ∃ old ∈ ledger.runs, old.runtimeGeneration = new.runtimeGeneration - 1 ∧ old.Live ∧
      old.Follows (abandoned old new.startedAt) ∧ freed = (ledger.replaceRun (abandoned old new.startedAt)).runs

/-- The run that the runtime row holds is proved to have ended. -/
structure Completes (ledger : Ledger) (row new : RuntimeStatusRow) (run : EvaluatorRunRow) : Prop where
  found : ledger.runtime = some row
  mem : run ∈ ledger.runs
  live : run.Live
  follows : run.Follows (terminalized run new)
  generation : new.generation = row.generation
  freed : new.leaseId = none
  proceeds : row.Proceeds new
  watermark : new.status ≠ .healthy → new.watermarkAt = row.watermarkAt
  proof : (new.status = .healthy ∧ ledger.ProvesSuccess row new run) ∨
    (new.status ≠ .healthy ∧ ledger.ProvesFailure row new run)

/-- What a statement of the protocol does to the ledger. -/
inductive Move (ledger : Ledger) : Ledger → Prop
  | states (states : List AlertStateCoordinates) : Move ledger { ledger with states }
  | initializeRuntime (row : RuntimeStatusRow) (hnone : ledger.runtime = none) (hgeneration : row.generation = 0)
    (hlease : row.leaseId = none) (hwatermark : row.watermarkAt = none) :
    Move ledger { ledger with runtime := some row }
  | acquire (row : RuntimeStatusRow) (new : EvaluatorRunRow) (freed : List EvaluatorRunRow)
    (hrow : ledger.runtime = some row) (hacquirable : Acquirable row new) (hshape : ¬ ShapeGuard new)
    (hconflict : ¬ ledger.ConflictGuard new) (hfreed : ledger.Frees new freed)
    (hproceeds : row.Proceeds (acquiredRuntime row new)) :
    Move ledger { ledger with runs := freed ++ [new], runtime := some (acquiredRuntime row new) }
  | rewrite (old new : EvaluatorRunRow) (runtime : RuntimeStatusRow) (hrewrites : ledger.Rewrites old new runtime) :
    Move ledger { ledger.replaceRun new with runtime := some runtime }
  | proveSource (source : EvaluatorSourceRow) (hproves : ledger.ProvesSource source)
    (hfresh : ¬ ∃ other ∈ ledger.sources, other.runId = source.runId ∧ other.sourceId = source.sourceId) :
    Move ledger { ledger with sources := ledger.sources ++ [source] }
  | proveDecision (states : List AlertStateCoordinates) (decision : EvaluatorDecisionRow)
    (hproves : Ledger.ProvesDecision { ledger with states } decision)
    (hfresh : ¬ ∃ other ∈ ledger.decisions, other.runId = decision.runId ∧
      (other.ordinal = decision.ordinal ∨ other.identitySha256 = decision.identitySha256))
    (hchecked : EvaluatorDecisionChecked decision) :
    Move ledger { ledger with states, decisions := ledger.decisions ++ [decision] }
  | complete (row new : RuntimeStatusRow) (run : EvaluatorRunRow) (bootstrap : Option EvaluatorBootstrapRow)
    (hcompletes : ledger.Completes row new run) :
    Move ledger { ledger.replaceRun (terminalized run new) with runtime := some new, bootstrap }

section statements

variable {ledger next : Ledger} {changes : Nat}

theorem Move.idle : ledger.Move ledger :=
  .states ledger.states

theorem initializeRuntime_moves {initializedAt : Timestamp}
    (hinserted : Ledger.initializeRuntime initializedAt ledger = .ok (next, changes)) : ledger.Move next := by
  unfold Ledger.initializeRuntime at hinserted
  split at hinserted
  · cases hinserted
    exact .idle
  · rename_i hnone
    simp only [throwIf_bind_eq_ok_iff] at hinserted
    cases hinserted.2.2
    exact .initializeRuntime _ hnone rfl rfl rfl

/-- The trigger of an insert abandons the expired run before the new one. -/
theorem abandonPredecessor_frees {new : EvaluatorRunRow} {freed : Ledger} (hfree : ¬ ledger.ConflictGuard new)
    (habandon : Ledger.abandonPredecessor new { ledger with runs := ledger.runs ++ [new] } = .ok (freed, changes)) :
    ∃ runs, ledger.Frees new runs ∧ freed = { ledger with runs := runs ++ [new] } := by
  unfold abandonPredecessor at habandon
  split at habandon
  · rename_i hnone
    cases habandon
    refine ⟨ledger.runs, .inl ⟨rfl, ?_⟩, rfl⟩
    intro run hrun
    have hnot := List.find?_eq_none.mp hnone run (List.mem_append_left _ hrun)
    simpa using hnot
  · rename_i run hfound
    obtain ⟨written, hwritten, heq⟩ := bind_eq_ok_iff.mp habandon
    cases heq
    obtain ⟨hlive, hfollows, -, rfl⟩ :=
      writeRun_follows hwritten fun _ => ⟨by rintro ⟨⟩, rfl, rfl, rfl, rfl⟩
    have hmatch := List.find?_some hfound
    rw [decide_eq_true_eq] at hmatch
    have hrun : run ∈ ledger.runs := by
      obtain hrun | hnew := List.mem_append.mp (List.mem_of_find?_eq_some hfound)
      · exact hrun
      · rw [List.mem_singleton.mp hnew] at hmatch
        omega
    have hother : new.id ≠ (abandoned run new.startedAt).id := by
      intro hid
      exact hfree ⟨run, hrun, .inl hid.symm⟩
    refine ⟨(ledger.replaceRun (abandoned run new.startedAt)).runs,
      .inr ⟨run, hrun, hmatch.1, hlive, hfollows, rfl⟩, ?_⟩
    simp only [replaceRun, List.map_append, List.map_cons, List.map_nil, if_neg hother]

/-- An insert of a run acquires the runtime row for it. -/
theorem insertRun_frees {new : EvaluatorRunRow} (hinsert : Ledger.insertRun new ledger = .ok (next, changes)) :
    ∃ row freed, ledger.runtime = some row ∧ Acquirable row new ∧ ¬ ShapeGuard new ∧ ¬ ledger.ConflictGuard new ∧
      ledger.Frees new freed ∧ row.Proceeds (acquiredRuntime row new) ∧
      next = { ledger with runs := freed ++ [new], runtime := some (acquiredRuntime row new) } := by
  simp only [Ledger.insertRun, throwIf_bind_eq_ok_iff] at hinsert
  obtain ⟨hshape, hconflict, -, hinsert⟩ := hinsert
  obtain ⟨⟨freed, abandoned⟩, habandon, hinsert⟩ := bind_eq_ok_iff.mp hinsert
  obtain ⟨acquired, hacquire, heq⟩ := bind_eq_ok_iff.mp hinsert
  cases heq
  obtain ⟨runs, hfrees, rfl⟩ := abandonPredecessor_frees hconflict habandon
  unfold acquireRuntime at hacquire
  cases hrow : ledger.runtime with
  | none =>
    simp only [hrow] at hacquire
    cases hacquire
  | some row =>
    simp only [hrow] at hacquire
    split at hacquire
    · rename_i hacquirable
      have hproceeds := RuntimeStatusRow.Proceeds.of_transition (writeRuntime_eq hacquire).1
      exact ⟨row, runs, rfl, hacquirable, hshape, hconflict, hfrees, hproceeds,
        writeRuntime_leased hacquire (Option.some_ne_none _)⟩
    · cases hacquire

theorem insertRun_moves {new : EvaluatorRunRow} (hinsert : Ledger.insertRun new ledger = .ok (next, changes)) :
    ledger.Move next := by
  obtain ⟨row, freed, hrow, hacquirable, hshape, hconflict, hfrees, hproceeds, rfl⟩ := insertRun_frees hinsert
  exact .acquire row new freed hrow hacquirable hshape hconflict hfrees hproceeds

/-- The ledger is as it was, or a live run has been written that stays live. -/
def Rewritten (ledger next : Ledger) : Prop :=
  next = ledger ∨ ∃ old new runtime, ledger.Rewrites old new runtime ∧
    next = { ledger.replaceRun new with runtime := some runtime }

theorem Rewritten.moves (hrewritten : ledger.Rewritten next) : ledger.Move next := by
  obtain rfl | ⟨old, new, runtime, hrewrites, rfl⟩ := hrewritten
  · exact .idle
  · exact .rewrite old new runtime hrewrites

/-- An update of a run that stays live is that of the run whose lease the runtime row holds. -/
theorem updateRun_rewrites {matching : EvaluatorRunRow → Bool} {change : EvaluatorRunRow → EvaluatorRunRow}
    (hupdate : Ledger.updateRun matching change ledger = .ok (next, changes))
    (hstays : ∀ run, matching run = true → run.Live → (change run).Live)
    (hkeeps : ∀ {run written}, matching run = true → ledger.writeRun run (change run) = .ok written →
      ((change run).asOf = run.asOf ∨
        run.asOf = none ∧ ∃ asOf, (change run).asOf = some asOf ∧ run.startedAt ≤ asOf ∧
          asOf ≤ (change run).updatedAt) ∧
      ((change run).decisionCount = run.decisionCount ∨ ledger.decisionsOf run.id = []) ∧
      run.KeepsPlan (change run)) : ledger.Rewritten next := by
  unfold Ledger.updateRun at hupdate
  split at hupdate
  · cases hupdate
    exact .inl rfl
  · rename_i old hfound
    have hmatch := List.find?_some hfound
    have hmem := List.mem_of_find?_eq_some hfound
    obtain ⟨written, hwritten, hupdate⟩ := bind_eq_ok_iff.mp hupdate
    obtain ⟨hasOf, hdecisions, hplan⟩ := hkeeps hmatch hwritten
    obtain ⟨hlive, hfollows, -, rfl⟩ := writeRun_follows hwritten hplan
    have hlease := writeRun_lease hwritten
    have hnew := hstays old hmatch hlive
    right
    split at hupdate
    · obtain ⟨renewed, hrenewed, hupdate⟩ := bind_eq_ok_iff.mp hupdate
      rw [throwIf_bind_eq_ok_iff] at hupdate
      cases hupdate.2
      unfold renewRuntime at hrenewed
      cases hrow : ledger.runtime with
      | none =>
        simp only [replaceRun, hrow] at hrenewed
        cases hrenewed
      | some row =>
        simp only [replaceRun, hrow] at hrenewed
        split at hrenewed
        · rename_i hrenewable
          obtain ⟨⟨hgeneration, -, hleaseId, -⟩, hstarted, -, -, -⟩ := hrenewable
          have hproceeds := RuntimeStatusRow.Proceeds.of_transition (writeRuntime_eq hrenewed).1
          have hheld : (renewedRuntime row (change old)).leaseId ≠ none := by
            rw [renewedRuntime, hleaseId]
            exact Option.some_ne_none _
          rw [writeRuntime_leased hrenewed hheld]
          refine ⟨old, change old, renewedRuntime row (change old),
            ⟨hmem, hlive, hnew, hfollows, ⟨row, hrow, hproceeds, rfl, rfl⟩, ⟨⟨?_, rfl, ?_, rfl⟩, ?_, rfl⟩, hasOf,
              hdecisions⟩, rfl⟩
          · exact hgeneration.trans hfollows.runtimeGeneration.symm
          · rw [hfollows.leaseId]
            exact hleaseId
          · rw [hfollows.startedAt]
            exact hstarted
        · cases hrenewed
    · rename_i hrenews
      rw [throwIf_bind_eq_ok_iff] at hupdate
      obtain ⟨hguard, heq⟩ := hupdate
      cases heq
      have hrevision : (change old).leaseRevision = old.leaseRevision := by
        obtain ⟨hstatus, hrevision, -⟩ | ⟨hrevision, -⟩ := hlease
        · exact absurd ⟨hstatus, hnew, hrevision⟩ hrenews
        · exact hrevision
      simp only [metadataGuard, sql.holds_all_cons, sql.holds_all_nil, sql.holds_fact, sql.holds_any_cons,
        sql.holds_any_nil, hnew, hrevision, true_and, and_true, or_false, not_or, not_not] at hguard
      obtain ⟨runtime, hruntime, hheld, hstarted, hupdated⟩ := hguard.2
      have hsame : { ledger.replaceRun (change old) with runtime := some runtime } =
          ledger.replaceRun (change old) := by
        have hfound : ledger.runtime = some runtime := hruntime
        rw [replaceRun, hfound]
      refine ⟨old, change old, runtime, ?_, hsame.symm⟩
      exact ⟨hmem, hlive, hnew, hfollows, ⟨runtime, hruntime, .refl, rfl, rfl⟩, ⟨hheld, hstarted, hupdated⟩, hasOf,
          hdecisions⟩

theorem insertSource_moves {source : EvaluatorSourceRow} (hinsert : Ledger.insertSource source ledger = .ok next) :
    ledger.Move next := by
  simp only [Ledger.insertSource, throwIf_bind_eq_ok_iff, not_not] at hinsert
  obtain ⟨hproves, hfresh, -, heq⟩ := hinsert
  cases heq
  exact .proveSource source hproves hfresh

theorem insertDecision_moves {states : List AlertStateCoordinates} {decision : EvaluatorDecisionRow}
    (hinsert : Ledger.insertDecision decision { ledger with states } = .ok next) : ledger.Move next := by
  simp only [Ledger.insertDecision, throwIf_bind_eq_ok_iff, not_not] at hinsert
  obtain ⟨hproves, hfresh, hchecked, -, heq⟩ := hinsert
  cases heq
  exact .proveDecision states decision hproves hfresh hchecked

/-- A runtime row that gives up its lease has completed the run of that lease. -/
theorem writeRuntime_completes {row new : RuntimeStatusRow} (hdistinct : ledger.Distinct)
    (hrow : ledger.runtime = some row) (hlease : row.leaseId ≠ none) (hfreed : new.leaseId = none)
    (hgeneration : new.generation = row.generation)
    (hwatermark : new.status ≠ .healthy → new.watermarkAt = row.watermarkAt)
    (hwrite : ledger.writeRuntime row new = .ok next) :
    ∃ run, ledger.Completes row new run ∧
      next = { ledger.replaceRun (terminalized run new) with runtime := some new } := by
  have hproceeds := RuntimeStatusRow.Proceeds.of_transition (writeRuntime_eq hwrite).1
  simp only [writeRuntime, throwIf_bind_eq_ok_iff] at hwrite
  obtain ⟨-, -, -, hproof, -, hwrite⟩ := hwrite
  rw [if_pos ⟨hlease, hfreed⟩, terminalize] at hwrite
  split at hwrite
  · cases hwrite
  · rename_i run hfound
    have hmem : run ∈ ledger.runs := List.mem_of_find?_eq_some hfound
    have hmatch := List.find?_some hfound
    rw [decide_eq_true_eq] at hmatch
    have hplan : run.KeepsPlan (terminalized run new) := by
      refine fun _ => ⟨?_, rfl, rfl, rfl, rfl⟩
      simp only [terminalized]
      split <;> rintro ⟨⟩
    obtain ⟨hlive, hfollows, -, rfl⟩ := writeRun_follows hwrite hplan
    -- the guard and the trigger find the same run, by its generation
    have hsame : ∀ {other : EvaluatorRunRow}, other ∈ ledger.runs → other.HeldBy row → other = run :=
      fun hother hheld => hdistinct.eq_of_generation hother hmem (hheld.1.symm.trans hmatch.1.symm)
    refine ⟨run, ⟨hrow, hmem, hlive, hfollows, hgeneration, hfreed, hproceeds, hwatermark, ?_⟩, rfl⟩
    simp only [TerminalGuard, hlease, hfreed, ne_eq, not_false_eq_true, true_and, not_not] at hproof
    obtain ⟨hhealthy, other, hother, hproves⟩ | ⟨other, hother, hproves⟩ := hproof
    · rw [hsame hother hproves.2.1.1] at hproves
      exact .inl ⟨hhealthy, hproves⟩
    · rw [hsame hother hproves.2.1.1] at hproves
      refine .inr ⟨?_, hproves⟩
      intro hhealthy
      obtain ⟨hstatus, -⟩ | ⟨hstatus, -⟩ | ⟨hstatus, -⟩ := hproves.2.2.2 <;> rw [hhealthy] at hstatus <;>
        cases hstatus

end statements

end Ledger

namespace evaluator

open Ledger

variable {ledger next : Ledger} {changes : Nat} {delivery : sql.Delivery}

theorem terminalStatement_moves {fence : AlertEvaluatorRunFence} {change : RuntimeStatusRow → RuntimeStatusRow}
    (hdistinct : ledger.Distinct) (hterminal : terminalStatement fence change ledger = .ok (next, changes))
    (hfreed : ∀ row, (change row).leaseId = none)
    (hgeneration : ∀ row, (change row).generation = row.generation)
    (hwatermark : ∀ row, (change row).status ≠ .healthy → (change row).watermarkAt = row.watermarkAt) :
    (next = ledger ∧ changes = 0) ∨ ∃ row run, ledger.Completes row (change row) run ∧
      row.generation = fence.runtimeGeneration ∧
      next = { ledger.replaceRun (terminalized run (change row)) with runtime := some (change row) } := by
  obtain hidle | ⟨row, hrow, hfence, hlease, -, -, hwrite⟩ := terminalStatement_cases hterminal
  · exact .inl hidle
  · have hheld : row.leaseId ≠ none := by
      rw [hlease]
      exact Option.some_ne_none _
    obtain ⟨run, hcompletes, hnext⟩ :=
      writeRuntime_completes hdistinct hrow hheld (hfreed row) (hgeneration row) (hwatermark row) hwrite
    exact .inr ⟨row, run, hcompletes, hfence, hnext⟩

theorem renewStatement_rewrites {fence : AlertEvaluatorRunFence} {renewedAt expiresAt : Timestamp}
    (hrenew : renewStatement fence renewedAt expiresAt ledger = .ok (next, changes)) : ledger.Rewritten next := by
  refine updateRun_rewrites hrenew (fun _ _ hlive => hlive) ?_
  intro run written hmatch hwrite
  exact ⟨.inl rfl, .inl rfl, fun hsealed => ⟨hsealed, rfl, rfl, rfl, rfl⟩⟩

theorem sealPlan_rewrites {fence : AlertEvaluatorRunFence} {asOf updatedAt sealedAt : Timestamp}
    {partialSourceCount decisionCount : Int} {sourceDigest decisionDigest : String}
    (hseal : (EvaluatorStatement.sealPlan fence asOf updatedAt sealedAt partialSourceCount decisionCount sourceDigest
      decisionDigest).run ledger = .ok (next, changes)) : ledger.Rewritten next := by
  refine updateRun_rewrites hseal (fun _ _ _ => .inr rfl) ?_
  intro run written hmatch hwrite
  have hrunning : run.status = .running := (of_decide_eq_true hmatch).2.2.2.2.2.2.1
  exact ⟨.inl rfl, .inr (writeRun_seals hwrite hrunning rfl), fun hsealed => absurd hrunning hsealed⟩

theorem bindStatement_rewrites {fence : AlertEvaluatorRunFence} {asOf boundAt : Timestamp}
    (hbind : bindStatement fence asOf boundAt ledger = .ok (next, changes)) : ledger.Rewritten next := by
  refine updateRun_rewrites hbind (fun _ _ hlive => hlive) ?_
  intro run written hmatch hwrite
  obtain ⟨-, -, -, -, -, -, hrunning, hnone⟩ := of_decide_eq_true hmatch
  obtain hsame | ⟨-, hbound⟩ := writeRun_asOf hwrite hrunning
  · rw [hnone] at hsame
    cases hsame
  · exact ⟨.inr ⟨hnone, asOf, rfl, hbound asOf rfl⟩, .inl rfl, fun hsealed => absurd hrunning hsealed⟩

/-- A success completes the run that its fence names, or does nothing. -/
theorem recordSuccess_completes {fence : AlertEvaluatorRunFence} {completedAt asOf : Timestamp}
    (hdistinct : ledger.Distinct)
    (hrun : (EvaluatorStatement.recordSuccess fence completedAt asOf).run ledger = .ok (next, changes)) :
    next = ledger ∨ ∃ row run bootstrap,
      ledger.Completes row (succeededRuntime fence completedAt asOf row) run ∧
      row.generation = fence.runtimeGeneration ∧
      next = { ledger.replaceRun (terminalized run (succeededRuntime fence completedAt asOf row)) with
        runtime := some (succeededRuntime fence completedAt asOf row), bootstrap } := by
  obtain ⟨⟨terminal, terminalChanges⟩, hterminal, hbatch⟩ := bind_eq_ok_iff.mp hrun
  obtain ⟨inserted, hinserted, heq⟩ := bind_eq_ok_iff.mp hbatch
  cases heq
  obtain ⟨rfl, rfl⟩ | ⟨row, run, hcompletes, hfence, rfl⟩ :=
    terminalStatement_moves hdistinct hterminal (fun _ => rfl) (fun _ => rfl) fun _ hnot => absurd rfl hnot
  · rw [bootstrapStatement_idle] at hinserted
    cases hinserted
    exact .inl rfl
  · obtain rfl | ⟨bootstrap, rfl⟩ := bootstrapStatement_cases hinserted
    · exact .inr ⟨row, run, _, hcompletes, hfence, rfl⟩
    · exact .inr ⟨row, run, _, hcompletes, hfence, rfl⟩

theorem EvaluatorStatement.run_moves {statement : EvaluatorStatement} (hdistinct : ledger.Distinct)
    (hrun : statement.run ledger = .ok (next, changes)) : ledger.Move next := by
  cases statement with
  | recordSource source =>
    obtain ⟨inserted, hinserted, heq⟩ := bind_eq_ok_iff.mp hrun
    cases heq
    exact insertSource_moves hinserted
  | renew fence renewedAt expiresAt => exact (renewStatement_rewrites hrun).moves
  | sealPlan fence asOf updatedAt sealedAt partialSourceCount decisionCount sourceDigest decisionDigest =>
    exact (sealPlan_rewrites hrun).moves
  | recordDecision states decision =>
    obtain ⟨inserted, hinserted, heq⟩ := bind_eq_ok_iff.mp hrun
    cases heq
    exact insertDecision_moves hinserted
  | recordSuccess fence completedAt asOf =>
    obtain rfl | ⟨row, run, bootstrap, hcompletes, -, rfl⟩ := recordSuccess_completes hdistinct hrun
    · exact .idle
    · exact .complete row _ run bootstrap hcompletes
  | recordFailure fence completedAt status errorCode =>
    obtain ⟨rfl, -⟩ | ⟨row, run, hcompletes, -, rfl⟩ :=
      terminalStatement_moves hdistinct hrun (fun _ => rfl) (fun _ => rfl) fun _ _ => rfl
    · exact .idle
    · exact .complete row _ run _ hcompletes

/-- A statement that is sent moves the ledger when it does where it succeeds. -/
theorem send_moves {statement : Ledger → Except LedgerAbort (Ledger × Nat)}
    (hmoves : ∀ {next changes}, statement ledger = .ok (next, changes) → ledger.Move next) :
    ledger.Move (delivery.send statement ledger).2 :=
  delivery.send_invariant .idle hmoves

end evaluator

section steps

open evaluator

variable {sha256 : orchestration.Sha256} {database next : RunDatabase} {delivery : sql.Delivery}

theorem RunStatement.run_moves {statement : RunStatement} {changes : Nat} (hdistinct : database.ledger.Distinct)
    (hrun : statement.run database = .ok (next, changes)) : database.ledger.Move next.ledger := by
  cases statement with
  | insert run => exact Ledger.insertRun_moves (RunDatabase.onLedger_eq_ok hrun).1
  | bind fence asOf boundAt => exact (bindStatement_rewrites (RunDatabase.onLedger_eq_ok hrun).1).moves
  | decide absence row =>
    obtain rfl | hdecision := decisionStatement_eq_ok hrun
    · exact .idle
    · exact EvaluatorStatement.run_moves hdistinct hdecision
  | later statement => exact EvaluatorStatement.run_moves hdistinct (RunDatabase.onLedger_eq_ok hrun).1

theorem RunDatabase.sending_moves {offer : Option RunStatement} (hdistinct : database.ledger.Distinct) :
    database.ledger.Move (database.sending delivery offer).ledger :=
  @RunDatabase.sending_invariant _ _ (fun next => database.ledger.Move next.ledger) _ .idle fun _ hrun =>
    RunStatement.run_moves hdistinct hrun

theorem OutsideStep.moves (hstep : OutsideStep database next) : database.ledger.Move next.ledger := by
  cases hstep with
  | initializeRuntime initializedAt delivery => exact send_moves Ledger.initializeRuntime_moves
  | apply states stateNames happlied hinsert => exact Ledger.insertDecision_moves hinsert
  | writeStates states stateNames => exact .states states

/-- Every step of the protocol is one move of the ledger. -/
theorem RunStep.moves (hstep : RunStep sha256 database next) (hdistinct : database.ledger.Distinct) :
    database.ledger.Move next.ledger := by
  cases hstep with
  | outside houtside => exact houtside.moves
  | acquire scheduledAt startedAt leaseDurationSeconds runId leaseId delivery =>
    rw [acquireAlertEvaluatorRun_offer]
    exact RunDatabase.sending_moves hdistinct
  | call call fence delivery =>
    rw [RunCall.perform_offer]
    exact RunDatabase.sending_moves hdistinct
  | late statement delivery => exact @RunDatabase.sending_moves _ delivery (some statement) hdistinct

end steps

end pgid.alert
