import PgidSso.Alert.Runtime.History

open checked

namespace pgid.alert

open evaluator

/-- The fence is that of a run that is live. -/
def Ledger.Holds (ledger : Ledger) (fence : AlertEvaluatorRunFence) : Prop :=
  ∃ run ∈ ledger.runs, run.Live ∧ fenceFromRun run = fence

instance (ledger : Ledger) (fence : AlertEvaluatorRunFence) : Decidable (ledger.Holds fence) :=
  inferInstanceAs (Decidable (∃ run ∈ ledger.runs, _))

section fences

variable {sha256 : orchestration.Sha256} {database earlier : RunDatabase} {past : List RunDatabase}
  {run later : EvaluatorRunRow} {fence : AlertEvaluatorRunFence}

theorem EvaluatorRunRow.Follows.sameFence (hfollows : run.Follows later) (hrevision : later.leaseRevision = run.leaseRevision) :
    fenceFromRun later = fenceFromRun run := by
  obtain ⟨hupdatedAt, hexpiresAt⟩ := hfollows.lease hrevision
  rw [fenceFromRun, fenceFromRun, hrevision, hupdatedAt, hexpiresAt, hfollows.id, hfollows.leaseId,
    hfollows.runtimeGeneration, hfollows.startedAt]

/-- The fence of a run changes with its revision only. -/
theorem EvaluatorRunRow.Follows.path_fence (hpath : Relation.ReflTransGen EvaluatorRunRow.Follows run later) :
    run.leaseRevision ≤ later.leaseRevision ∧
      (later.leaseRevision = run.leaseRevision → fenceFromRun later = fenceFromRun run) := by
  induction hpath with
  | refl => exact ⟨Int.le_refl _, fun _ => rfl⟩
  | tail _ hfollows ih =>
    obtain ⟨hle, hfence⟩ := ih
    have hstep := hfollows.leaseRevision
    refine ⟨hle.trans hstep, ?_⟩
    intro hrevision
    have hmiddle := hfence (by omega)
    exact (hfollows.sameFence (by omega)).trans hmiddle

/-- A fence that was that of a live run, and has its revision, is still its fence. -/
theorem RunHistory.holds (hhistory : RunHistory sha256 (database :: past)) (hearlier : earlier ∈ past)
    (hheld : earlier.ledger.Holds fence) (hfences : database.ledger.Fences fence) : database.ledger.Holds fence := by
  obtain ⟨hreachable, hpath⟩ := hhistory.path_from (List.mem_cons_of_mem _ hearlier)
  obtain ⟨run, hrun, -, rfl⟩ := hheld
  obtain ⟨later, hlater, hfollows⟩ := RunStep.path_run hpath hreachable.exclusive hrun
  obtain ⟨live, hmem, hlive, hid, -, hrevision⟩ := hfences
  have hsame : live = later := hhistory.reachable.exclusive.distinct.eq_of_id hmem hlater
    (hid.trans (EvaluatorRunRow.Follows.path hfollows).1.symm)
  subst hsame
  exact ⟨live, hmem, hlive, (EvaluatorRunRow.Follows.path_fence hfollows).2 hrevision⟩

/-- A live run holds the lease of the runtime row. -/
theorem Ledger.Exclusive.heldBy {ledger : Ledger} (hexclusive : ledger.Exclusive) (hrun : run ∈ ledger.runs)
    (hlive : run.Live) : ∃ row, ledger.runtime = some row ∧ run.HeldBy row := by
  cases hrow : ledger.runtime with
  | none =>
    rw [hexclusive.unstarted hrow] at hrun
    cases hrun
  | some row => exact ⟨row, rfl, (hexclusive.leased row hrow run hrun hlive).1⟩

end fences

section exclusion

variable {sha256 : orchestration.Sha256} {database earlier : RunDatabase} {past : List RunDatabase}

/-- What has become of the runtime row and of the runs that have ended: the generation has risen by one for each run
that was acquired. -/
structure Ledger.Advanced (ledger later : Ledger) : Prop where
  runtime : ∀ row, ledger.runtime = some row → ∃ next, later.runtime = some next ∧
    row.generation ≤ next.generation ∧ row.revision ≤ next.revision ∧
    next.generation = row.generation + (later.runs.length - ledger.runs.length : Int)
  terminal : ∀ (index : Nat) (run : EvaluatorRunRow), ledger.runs[index]? = some run → ¬ run.Live →
    later.runs[index]? = some run

theorem RunHistory.advanced (hhistory : RunHistory sha256 (database :: past)) (hearlier : earlier ∈ past) :
    earlier.ledger.Advanced database.ledger := by
  obtain ⟨hreachable, hpath⟩ := hhistory.path_from (List.mem_cons_of_mem _ hearlier)
  have hbefore := hreachable.exclusive
  have hafter := hhistory.reachable.exclusive
  refine ⟨?_, ?_⟩
  · intro row hrow
    obtain ⟨next, hnext, hproceeds⟩ := (RunStep.path_keeps hpath hbefore).2.2 row hrow
    refine ⟨next, hnext, hproceeds.generation, hproceeds.revision, ?_⟩
    rw [hafter.generation next hnext, hbefore.generation row hrow]
    omega
  · intro index run hrun hended
    obtain ⟨later, hlater, -, hsame⟩ := tenure.path_getElem? (RunStep.path_runs hpath hbefore) hrun
    rw [hlater, hsame hended]

end exclusion

end pgid.alert
