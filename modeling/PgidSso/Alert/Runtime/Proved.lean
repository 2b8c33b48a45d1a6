import PgidSso.Alert.Runtime.Exclusive
import PgidSso.Alert.Runtime.Harmless

open checked

namespace pgid.alert

namespace Ledger

variable {ledger next : Ledger}

/-- What proves a run that has succeeded: nine complete sources and all its decisions, recorded before it
was completed, and completed before its lease expired. -/
structure Proved (ledger : Ledger) (run : EvaluatorRunRow) : Prop where
  sources : (ledger.sourcesOf run.id).length = 9
  complete : ∀ source ∈ ledger.sourcesOf run.id, source.status = .complete
  decisions : run.decisionCount = some ((ledger.decisionsOf run.id).length : Int)
  unsuppressed : ∀ decision ∈ ledger.decisionsOf run.id, decision.disposition ≠ .suppressedPartial
  completed : ∃ completedAt, run.completedAt = some completedAt ∧ completedAt < run.leaseExpiresAt ∧
    (∀ source ∈ ledger.sourcesOf run.id, source.recordedAt < completedAt) ∧
    ∀ decision ∈ ledger.decisionsOf run.id, decision.recordedAt < completedAt
  watermark : run.watermarkAt = run.asOf ∧ run.asOf ≠ none

/-- Each proof is that of a run, at its instant, recorded once, and each success is proved. -/
structure Evident (ledger : Ledger) : Prop where
  sourceRun : ∀ source ∈ ledger.sources, source.asOf ≤ source.recordedAt ∧ ∃ run ∈ ledger.runs,
    run.id = source.runId ∧ run.runtimeGeneration = source.runtimeGeneration ∧ run.asOf = some source.asOf
  sourceIds : ∀ runId, ((ledger.sourcesOf runId).map (·.sourceId)).Nodup
  decisionRun : ∀ decision ∈ ledger.decisions, 0 ≤ decision.ordinal ∧ ∃ run ∈ ledger.runs,
    run.id = decision.runId ∧ run.runtimeGeneration = decision.runtimeGeneration ∧ run.asOf = some decision.asOf ∧
    ∃ count, run.decisionCount = some count ∧ decision.ordinal < count
  ordinals : ∀ runId, ((ledger.decisionsOf runId).map (·.ordinal)).Nodup
  identities : ∀ runId, ((ledger.decisionsOf runId).map (·.identitySha256)).Nodup
  proved : ∀ run ∈ ledger.runs, run.status = .succeeded → ledger.Proved run

theorem mem_sourcesOf {runId : String} {source : EvaluatorSourceRow} :
    source ∈ ledger.sourcesOf runId ↔ source ∈ ledger.sources ∧ source.runId = runId := by
  rw [sourcesOf, List.mem_filter, decide_eq_true_eq]

theorem mem_decisionsOf {runId : String} {decision : EvaluatorDecisionRow} :
    decision ∈ ledger.decisionsOf runId ↔ decision ∈ ledger.decisions ∧ decision.runId = runId := by
  rw [decisionsOf, List.mem_filter, decide_eq_true_eq]

theorem sourcesOf_append (source : EvaluatorSourceRow) (runId : String) :
    Ledger.sourcesOf { ledger with sources := ledger.sources ++ [source] } runId =
      ledger.sourcesOf runId ++ if source.runId = runId then [source] else [] := by
  simp only [sourcesOf, List.filter_append, List.filter_cons, List.filter_nil, decide_eq_true_eq]

theorem decisionsOf_append (states : List AlertStateCoordinates) (decision : EvaluatorDecisionRow) (runId : String) :
    Ledger.decisionsOf { ledger with states, decisions := ledger.decisions ++ [decision] } runId =
      ledger.decisionsOf runId ++ if decision.runId = runId then [decision] else [] := by
  simp only [decisionsOf, List.filter_append, List.filter_cons, List.filter_nil, decide_eq_true_eq]

/-- A success stays proved while its proofs do. -/
theorem Proved.congr {run : EvaluatorRunRow} (hproved : ledger.Proved run)
    (hsources : next.sourcesOf run.id = ledger.sourcesOf run.id)
    (hdecisions : next.decisionsOf run.id = ledger.decisionsOf run.id) : next.Proved run := by
  obtain ⟨hnine, hcomplete, hcount, hunsuppressed, hcompleted, hwatermark⟩ := hproved
  refine ⟨?_, ?_, ?_, ?_, ?_, hwatermark⟩
  · rwa [hsources]
  · rwa [hsources]
  · rwa [hdecisions]
  · rwa [hdecisions]
  · rwa [hsources, hdecisions]

/-- A run that the trigger has completed with success is proved. -/
theorem Completes.proved {row new : RuntimeStatusRow} {run : EvaluatorRunRow}
    {bootstrap : Option EvaluatorBootstrapRow} (hcompletes : ledger.Completes row new run)
    (hstatus : (terminalized run new).status = .succeeded) :
    Ledger.Proved { ledger.replaceRun (terminalized run new) with runtime := some new, bootstrap }
      (terminalized run new) := by
  have hhealthy : new.status = .healthy := by
    simp only [terminalized] at hstatus
    split at hstatus
    · assumption
    · cases hstatus
  obtain ⟨-, hproves⟩ | ⟨hnot, -⟩ := hcompletes.proof
  · obtain ⟨-, ⟨hheld, -, -, ⟨expiresAt, hexpires, hbefore⟩, -, hsources, hdecisions⟩, hasOf, hwatermark, -, -, -,
      hnine, hcomplete, hcount, hunsuppressed⟩ := hproves
    refine ⟨hnine, hcomplete, hcount, hunsuppressed, ⟨new.updatedAt, rfl, ?_, hsources, hdecisions⟩, ?_, hasOf⟩
    · have hsame : row.leaseExpiresAt = some expiresAt := hexpires
      rw [hheld.2.2.2, Option.some.injEq] at hsame
      have hlease : (terminalized run new).leaseExpiresAt = expiresAt := hsame
      rw [hlease]
      exact hbefore
    · simp only [terminalized, if_pos hhealthy]
      exact hwatermark.symm
  · exact absurd hhealthy hnot

/-- What the proofs of a run need of the run that takes its place. -/
structure Keeps (ledger : Ledger) (run later : EvaluatorRunRow) : Prop where
  id : later.id = run.id
  runtimeGeneration : later.runtimeGeneration = run.runtimeGeneration
  asOf : ∀ asOf, run.asOf = some asOf → later.asOf = some asOf
  decisionCount : later.decisionCount = run.decisionCount ∨ ledger.decisionsOf run.id = []

theorem Keeps.refl {run : EvaluatorRunRow} : ledger.Keeps run run :=
  ⟨rfl, rfl, fun _ hasOf => hasOf, .inl rfl⟩

/-- Where every run has one that takes its place, the proofs stay those of runs. -/
theorem Evident.carry (hevident : ledger.Evident) (hsources : next.sources = ledger.sources)
    (hdecisions : next.decisions = ledger.decisions)
    (hkept : ∀ run ∈ ledger.runs, ∃ later ∈ next.runs, ledger.Keeps run later)
    (hproved : ∀ run ∈ next.runs, run.status = .succeeded → run ∈ ledger.runs ∨ next.Proved run) : next.Evident := by
  have hsourcesOf : ∀ runId, next.sourcesOf runId = ledger.sourcesOf runId := by
    intro runId
    rw [sourcesOf, sourcesOf, hsources]
  have hdecisionsOf : ∀ runId, next.decisionsOf runId = ledger.decisionsOf runId := by
    intro runId
    rw [decisionsOf, decisionsOf, hdecisions]
  refine ⟨?_, ?_, ?_, ?_, ?_, ?_⟩
  · intro source hsource
    rw [hsources] at hsource
    obtain ⟨hrecorded, run, hrun, hid, hgeneration, hasOf⟩ := hevident.sourceRun source hsource
    obtain ⟨later, hlater, hkeeps⟩ := hkept run hrun
    exact ⟨hrecorded, later, hlater, hkeeps.id.trans hid, hkeeps.runtimeGeneration.trans hgeneration,
      hkeeps.asOf _ hasOf⟩
  · intro runId
    rw [hsourcesOf]
    exact hevident.sourceIds runId
  · intro decision hdecision
    rw [hdecisions] at hdecision
    obtain ⟨hordinal, run, hrun, hid, hgeneration, hasOf, count, hcount, hless⟩ :=
      hevident.decisionRun decision hdecision
    obtain ⟨later, hlater, hkeeps⟩ := hkept run hrun
    refine ⟨hordinal, later, hlater, hkeeps.id.trans hid, hkeeps.runtimeGeneration.trans hgeneration,
      hkeeps.asOf _ hasOf, count, ?_, hless⟩
    obtain hsame | hnone := hkeeps.decisionCount
    · exact hsame.trans hcount
    · have hmem : decision ∈ ledger.decisionsOf run.id := mem_decisionsOf.mpr ⟨hdecision, hid.symm⟩
      rw [hnone] at hmem
      cases hmem
  · intro runId
    rw [hdecisionsOf]
    exact hevident.ordinals runId
  · intro runId
    rw [hdecisionsOf]
    exact hevident.identities runId
  · intro run hrun hstatus
    obtain hearlier | hnow := hproved run hrun hstatus
    · exact (hevident.proved run hearlier hstatus).congr (hsourcesOf run.id) (hdecisionsOf run.id)
    · exact hnow

/-- A live run that is written in its place takes its place. -/
theorem Evident.write {past : List EvaluatorRunRow} {old new : EvaluatorRunRow} (hevident : ledger.Evident)
    (hruns : ledger.runs = past ++ [old]) (hnext : next.runs = past ++ [new]) (hkeeps : ledger.Keeps old new)
    (hsources : next.sources = ledger.sources) (hdecisions : next.decisions = ledger.decisions)
    (hproved : new.status = .succeeded → next.Proved new) : next.Evident := by
  refine hevident.carry hsources hdecisions ?_ ?_
  · intro run hrun
    rw [hruns] at hrun
    rw [hnext]
    obtain hpast | hlast := List.mem_append.mp hrun
    · exact ⟨run, List.mem_append_left _ hpast, .refl⟩
    · rw [List.mem_singleton.mp hlast]
      exact ⟨new, List.mem_append_right _ (List.mem_singleton_self _), hkeeps⟩
  · intro run hrun hstatus
    rw [hnext] at hrun
    obtain hpast | hlast := List.mem_append.mp hrun
    · rw [hruns]
      exact .inl (List.mem_append_left _ hpast)
    · rw [List.mem_singleton.mp hlast] at hstatus ⊢
      exact .inr (hproved hstatus)

/-- The expired run that is abandoned for a new one keeps what it has proved. -/
theorem Evident.acquire {new : EvaluatorRunRow} {freed : List EvaluatorRunRow} (hevident : ledger.Evident)
    (hexclusive : ledger.Exclusive) (hshape : ¬ ShapeGuard new) (hfreed : ledger.Frees new freed)
    (hruns : next.runs = freed ++ [new]) (hsources : next.sources = ledger.sources)
    (hdecisions : next.decisions = ledger.decisions) : next.Evident := by
  have hrunning : new.status ≠ .succeeded := by
    intro hsucceeded
    simp only [ShapeGuard, hsucceeded, ne_eq, reduceCtorEq, not_false_eq_true, true_or, not_true_eq_false] at hshape
  refine hevident.carry hsources hdecisions ?_ ?_
  · intro run hrun
    rw [hruns]
    obtain ⟨rfl, -⟩ | ⟨old, hold, -, hlive, hfollows, rfl⟩ := hfreed
    · exact ⟨run, List.mem_append_left _ hrun, .refl⟩
    · obtain ⟨past, hpast, hreplaced⟩ := hexclusive.replaceRun_eq hold hlive hfollows.id
      rw [hpast] at hrun
      rw [hreplaced]
      obtain hearlier | hlast := List.mem_append.mp hrun
      · exact ⟨run, List.mem_append_left _ (List.mem_append_left _ hearlier), .refl⟩
      · rw [List.mem_singleton.mp hlast]
        exact ⟨_, List.mem_append_left _ (List.mem_append_right _ (List.mem_singleton_self _)), rfl, rfl,
          fun _ hasOf => hasOf, .inl rfl⟩
  · intro run hrun hstatus
    left
    rw [hruns] at hrun
    obtain hkept | hlast := List.mem_append.mp hrun
    · obtain ⟨rfl, -⟩ | ⟨old, hold, -, hlive, hfollows, rfl⟩ := hfreed
      · exact hkept
      · obtain ⟨past, hpast, hreplaced⟩ := hexclusive.replaceRun_eq hold hlive hfollows.id
        rw [hreplaced] at hkept
        rw [hpast]
        obtain hearlier | habandoned := List.mem_append.mp hkept
        · exact List.mem_append_left _ hearlier
        · rw [List.mem_singleton.mp habandoned] at hstatus
          cases hstatus
    · rw [List.mem_singleton.mp hlast] at hstatus
      exact absurd hstatus hrunning

/-- A source is recorded for a run that is running still, once. -/
theorem Evident.proveSource {source : EvaluatorSourceRow} (hevident : ledger.Evident) (hdistinct : ledger.Distinct)
    (hproves : ledger.ProvesSource source)
    (hfresh : ¬ ∃ other ∈ ledger.sources, other.runId = source.runId ∧ other.sourceId = source.sourceId) :
    Ledger.Evident { ledger with sources := ledger.sources ++ [source] } := by
  obtain ⟨run, hrun, runtime, hruntime, hid, hrunning, hasOf, hgeneration, -, hrecorded, -⟩ := hproves
  refine ⟨?_, ?_, hevident.decisionRun, hevident.ordinals, hevident.identities, ?_⟩
  · intro other hother
    obtain hearlier | hlast := List.mem_append.mp hother
    · exact hevident.sourceRun other hearlier
    · rw [List.mem_singleton.mp hlast]
      exact ⟨hrecorded, run, hrun, hid, hgeneration, hasOf⟩
  · intro runId
    rw [sourcesOf_append, List.map_append]
    split
    · rename_i hsame
      rw [List.map_singleton, List.nodup_append]
      refine ⟨hevident.sourceIds runId, List.nodup_singleton _, ?_⟩
      intro sourceId hsourceId added hadded hequal
      rw [List.mem_singleton.mp hadded] at hequal
      obtain ⟨other, hother, hotherId⟩ := List.mem_map.mp hsourceId
      obtain ⟨hmem, hotherRun⟩ := mem_sourcesOf.mp hother
      exact hfresh ⟨other, hmem, hotherRun.trans hsame.symm, hotherId.trans hequal⟩
    · rw [List.map_nil, List.append_nil]
      exact hevident.sourceIds runId
  · intro succeeded hsucceeded hstatus
    refine (hevident.proved succeeded hsucceeded hstatus).congr ?_ rfl
    rw [sourcesOf_append, if_neg, List.append_nil]
    intro hsame
    rw [hdistinct.eq_of_id hsucceeded hrun (hsame.symm.trans hid.symm), hrunning] at hstatus
    cases hstatus

/-- A decision is recorded for a run that is sealed still, once. -/
theorem Evident.proveDecision {states : List AlertStateCoordinates} {decision : EvaluatorDecisionRow}
    (hevident : ledger.Evident) (hdistinct : ledger.Distinct)
    (hproves : Ledger.ProvesDecision { ledger with states } decision)
    (hfresh : ¬ ∃ other ∈ ledger.decisions, other.runId = decision.runId ∧
      (other.ordinal = decision.ordinal ∨ other.identitySha256 = decision.identitySha256))
    (hchecked : EvaluatorDecisionChecked decision) :
    Ledger.Evident { ledger with states, decisions := ledger.decisions ++ [decision] } := by
  obtain ⟨⟨run, hrun, runtime, hruntime, hid, hsealed, hasOf, hgeneration, -, hcount, -⟩, -, -⟩ := hproves
  have hfreshIn : ∀ runId, decision.runId = runId → ∀ other ∈ ledger.decisionsOf runId,
      other.ordinal ≠ decision.ordinal ∧ other.identitySha256 ≠ decision.identitySha256 := by
    intro runId hsame other hother
    obtain ⟨hmem, hotherRun⟩ := mem_decisionsOf.mp hother
    constructor
    · intro hequal
      exact hfresh ⟨other, hmem, hotherRun.trans hsame.symm, .inl hequal⟩
    · intro hequal
      exact hfresh ⟨other, hmem, hotherRun.trans hsame.symm, .inr hequal⟩
  refine ⟨hevident.sourceRun, hevident.sourceIds, ?_, ?_, ?_, ?_⟩
  · intro other hother
    obtain hearlier | hlast := List.mem_append.mp hother
    · exact hevident.decisionRun other hearlier
    · rw [List.mem_singleton.mp hlast]
      obtain ⟨count, hfound, hless⟩ := hcount
      exact ⟨hchecked.1.1, run, hrun, hid, hgeneration, hasOf, count, hfound, hless⟩
  · intro runId
    rw [decisionsOf_append, List.map_append]
    split
    · rename_i hsame
      rw [List.map_singleton, List.nodup_append]
      refine ⟨hevident.ordinals runId, List.nodup_singleton _, ?_⟩
      intro ordinal hordinal added hadded hequal
      rw [List.mem_singleton.mp hadded] at hequal
      obtain ⟨other, hother, hotherOrdinal⟩ := List.mem_map.mp hordinal
      exact (hfreshIn runId hsame other hother).1 (hotherOrdinal.trans hequal)
    · rw [List.map_nil, List.append_nil]
      exact hevident.ordinals runId
  · intro runId
    rw [decisionsOf_append, List.map_append]
    split
    · rename_i hsame
      rw [List.map_singleton, List.nodup_append]
      refine ⟨hevident.identities runId, List.nodup_singleton _, ?_⟩
      intro identity hidentity added hadded hequal
      rw [List.mem_singleton.mp hadded] at hequal
      obtain ⟨other, hother, hotherIdentity⟩ := List.mem_map.mp hidentity
      exact (hfreshIn runId hsame other hother).2 (hotherIdentity.trans hequal)
    · rw [List.map_nil, List.append_nil]
      exact hevident.identities runId
  · intro succeeded hsucceeded hstatus
    refine (hevident.proved succeeded hsucceeded hstatus).congr rfl ?_
    rw [decisionsOf_append, if_neg, List.append_nil]
    intro hsame
    rw [hdistinct.eq_of_id hsucceeded hrun (hsame.symm.trans hid.symm), hsealed] at hstatus
    cases hstatus

theorem Move.evident (hmove : ledger.Move next) (hexclusive : ledger.Exclusive) (hevident : ledger.Evident) :
    next.Evident := by
  have hsame : ∀ {ledger next : Ledger}, ledger.Evident → next.runs = ledger.runs → next.sources = ledger.sources →
      next.decisions = ledger.decisions → next.Evident := by
    intro ledger next hevident hruns hsources hdecisions
    refine hevident.carry hsources hdecisions ?_ ?_
    · intro run hrun
      rw [hruns]
      exact ⟨run, hrun, .refl⟩
    · intro run hrun _
      rw [hruns] at hrun
      exact .inl hrun
  cases hmove with
  | states states => exact hsame hevident rfl rfl rfl
  | initializeRuntime row hnone hgeneration hlease hwatermark => exact hsame hevident rfl rfl rfl
  | acquire row new freed hrow hacquirable hshape hconflict hfreed hproceeds =>
    exact hevident.acquire hexclusive hshape hfreed rfl rfl rfl
  | rewrite old new runtime hrewrites =>
    obtain ⟨past, hruns, hreplaced⟩ :=
      hexclusive.replaceRun_eq hrewrites.mem hrewrites.live hrewrites.follows.id
    have hkeeps : ledger.Keeps old new := by
      refine ⟨hrewrites.follows.id, hrewrites.follows.runtimeGeneration, ?_, hrewrites.decisions⟩
      intro asOf hasOf
      obtain hkept | ⟨hnone, -⟩ := hrewrites.asOf
      · exact hkept.trans hasOf
      · rw [hnone] at hasOf
        cases hasOf
    refine hevident.write hruns hreplaced hkeeps rfl rfl ?_
    intro hstatus
    obtain hstays | hstays := hrewrites.stays <;> rw [hstays] at hstatus <;> cases hstatus
  | proveSource source hproves hfresh => exact hevident.proveSource hexclusive.distinct hproves hfresh
  | proveDecision states decision hproves hfresh hchecked =>
    exact hevident.proveDecision hexclusive.distinct hproves hfresh hchecked
  | complete row new run bootstrap hcompletes =>
    obtain ⟨past, hruns, hreplaced⟩ :=
      hexclusive.replaceRun_eq hcompletes.mem hcompletes.live hcompletes.follows.id
    exact hevident.write hruns hreplaced
      ⟨hcompletes.follows.id, hcompletes.follows.runtimeGeneration, fun _ hasOf => hasOf, .inl rfl⟩ rfl rfl
      hcompletes.proved

end Ledger

section runs

open orchestration (ALERT_EVALUATOR_SOURCE_IDS)

variable {sha256 : orchestration.Sha256} {database next : RunDatabase}

theorem RunDatabase.Reachable.evident (hreachable : database.Reachable sha256) : database.ledger.Evident := by
  induction hreachable with
  | refl => exact ⟨by simp [RunDatabase.empty], fun _ => List.nodup_nil, by simp [RunDatabase.empty],
      fun _ => List.nodup_nil, fun _ => List.nodup_nil, by simp [RunDatabase.empty]⟩
  | tail hpath hstep ih =>
    have hexclusive := RunDatabase.Reachable.exclusive hpath
    exact (hstep.moves hexclusive.distinct).evident hexclusive ih

/-- Distinct numbers below their count are all the numbers below it. -/
theorem perm_range_of_nodup {numbers : List Int} (hnodup : numbers.Nodup)
    (hbounds : ∀ number ∈ numbers, 0 ≤ number ∧ number < numbers.length) :
    numbers.Perm ((List.range numbers.length).map fun index : Nat => (index : Int)) := by
  refine (List.subperm_of_subset hnodup ?_).perm_of_length_le ?_
  · intro number hnumber
    obtain ⟨hlow, hhigh⟩ := hbounds number hnumber
    obtain ⟨index, rfl⟩ := Int.eq_ofNat_of_zero_le hlow
    exact List.mem_map.mpr ⟨index, List.mem_range.mpr (by omega), rfl⟩
  · rw [List.length_map, List.length_range]

/-- The proof of a run that has succeeded: all nine sources, complete, and as many decisions as it has planned,
numbered from zero and of distinct identities, none suppressed; all of them at the instant that is its watermark and
under its generation, recorded before its end, which came before its lease expired. -/
structure EvaluatorRunRow.ProvedBy (run : EvaluatorRunRow) (ledger : Ledger) (asOf completedAt : Timestamp) : Prop where
  bound : run.asOf = some asOf
  watermark : run.watermarkAt = some asOf
  completed : run.completedAt = some completedAt
  leased : completedAt < run.leaseExpiresAt
  sourceIds : ((ledger.sourcesOf run.id).map (·.sourceId)).Perm ALERT_EVALUATOR_SOURCE_IDS
  sources : ∀ source ∈ ledger.sourcesOf run.id, source.status = .complete ∧ source.asOf = asOf ∧
    source.runtimeGeneration = run.runtimeGeneration ∧ asOf ≤ source.recordedAt ∧ source.recordedAt < completedAt
  decisionCount : run.decisionCount = some ((ledger.decisionsOf run.id).length : Int)
  ordinals : ((ledger.decisionsOf run.id).map (·.ordinal)).Perm
    ((List.range (ledger.decisionsOf run.id).length).map fun index : Nat => (index : Int))
  identities : ((ledger.decisionsOf run.id).map (·.identitySha256)).Nodup
  decisions : ∀ decision ∈ ledger.decisionsOf run.id, decision.disposition ≠ .suppressedPartial ∧
    decision.asOf = asOf ∧ decision.runtimeGeneration = run.runtimeGeneration ∧ decision.recordedAt < completedAt

theorem RunDatabase.Reachable.provedBy (hreachable : database.Reachable sha256) {run : EvaluatorRunRow}
    (hrun : run ∈ database.ledger.runs) (hstatus : run.status = .succeeded) :
    ∃ asOf completedAt, run.ProvedBy database.ledger asOf completedAt := by
  have hevident := hreachable.evident
  have hdistinct := hreachable.exclusive.distinct
  obtain ⟨hnine, hcomplete, hcount, hunsuppressed, ⟨completedAt, hcompleted, hbefore, hsourcesBefore,
    hdecisionsBefore⟩, hwatermark, hbound⟩ := hevident.proved run hrun hstatus
  obtain ⟨asOf, hasOf⟩ := Option.ne_none_iff_exists'.mp hbound
  refine ⟨asOf, completedAt, hasOf, hwatermark.trans hasOf, hcompleted, hbefore, ?_, ?_, hcount, ?_,
    hevident.identities run.id, ?_⟩
  · refine (List.subperm_of_subset (hevident.sourceIds run.id) ?_).perm_of_length_le ?_
    · intro sourceId _
      cases sourceId <;> decide
    · rw [List.length_map, hnine]
      rfl
  · intro source hsource
    obtain ⟨hmem, hid⟩ := Ledger.mem_sourcesOf.mp hsource
    obtain ⟨hrecorded, other, hother, hotherId, hgeneration, hotherAsOf⟩ := hevident.sourceRun source hmem
    rw [hdistinct.eq_of_id hother hrun (hotherId.trans hid)] at hgeneration hotherAsOf
    rw [hasOf, Option.some.injEq] at hotherAsOf
    exact ⟨hcomplete source hsource, hotherAsOf.symm, hgeneration.symm, hotherAsOf ▸ hrecorded,
      hsourcesBefore source hsource⟩
  · have hlength : ((database.ledger.decisionsOf run.id).map (·.ordinal)).length =
        (database.ledger.decisionsOf run.id).length := List.length_map _
    have hperm := perm_range_of_nodup (hevident.ordinals run.id) ?_
    · rwa [hlength] at hperm
    · intro ordinal hordinal
      rw [hlength]
      obtain ⟨decision, hdecision, rfl⟩ := List.mem_map.mp hordinal
      obtain ⟨hmem, hid⟩ := Ledger.mem_decisionsOf.mp hdecision
      obtain ⟨hlow, other, hother, hotherId, -, -, count, hfound, hless⟩ := hevident.decisionRun decision hmem
      rw [hdistinct.eq_of_id hother hrun (hotherId.trans hid), hcount, Option.some.injEq] at hfound
      exact ⟨hlow, hfound ▸ hless⟩
  · intro decision hdecision
    obtain ⟨hmem, hid⟩ := Ledger.mem_decisionsOf.mp hdecision
    obtain ⟨-, other, hother, hotherId, hgeneration, hotherAsOf, -⟩ := hevident.decisionRun decision hmem
    rw [hdistinct.eq_of_id hother hrun (hotherId.trans hid)] at hgeneration hotherAsOf
    rw [hasOf, Option.some.injEq] at hotherAsOf
    exact ⟨hunsuppressed decision hdecision, hotherAsOf.symm, hgeneration.symm, hdecisionsBefore decision hdecision⟩

/-- In every reachable database a run that has succeeded is proved: by all nine sources, complete, and by as many
decisions as it has planned, numbered from zero and of distinct identities, none suppressed; all of them at the
instant that is its watermark and under its generation, recorded before its end, which came before its lease
expired. -/
theorem alertEvaluatorRuns_proved (hreachable : database.Reachable sha256) {run : EvaluatorRunRow}
    (hrun : run ∈ database.ledger.runs) (hstatus : run.status = .succeeded) :
    ∃ asOf completedAt, run.asOf = some asOf ∧ run.watermarkAt = some asOf ∧ run.completedAt = some completedAt ∧
      completedAt < run.leaseExpiresAt ∧
      ((database.ledger.sourcesOf run.id).map (·.sourceId)).Perm ALERT_EVALUATOR_SOURCE_IDS ∧
      (∀ source ∈ database.ledger.sourcesOf run.id, source.status = .complete ∧ source.asOf = asOf ∧
        source.runtimeGeneration = run.runtimeGeneration ∧ asOf ≤ source.recordedAt ∧
        source.recordedAt < completedAt) ∧
      run.decisionCount = some ((database.ledger.decisionsOf run.id).length : Int) ∧
      ((database.ledger.decisionsOf run.id).map (·.ordinal)).Perm
        ((List.range (database.ledger.decisionsOf run.id).length).map fun index : Nat => (index : Int)) ∧
      ((database.ledger.decisionsOf run.id).map (·.identitySha256)).Nodup ∧
      ∀ decision ∈ database.ledger.decisionsOf run.id, decision.disposition ≠ .suppressedPartial ∧
        decision.asOf = asOf ∧ decision.runtimeGeneration = run.runtimeGeneration ∧
        decision.recordedAt < completedAt := by
  obtain ⟨asOf, completedAt, hproved⟩ := hreachable.provedBy hrun hstatus
  exact ⟨asOf, completedAt, hproved.bound, hproved.watermark, hproved.completed, hproved.leased, hproved.sourceIds,
    hproved.sources, hproved.decisionCount, hproved.ordinals, hproved.identities, hproved.decisions⟩

/-- The earlier run has succeeded, and its nine sources are complete. -/
theorem alertEvaluatorRuns_proved_success :
    ∃ run ∈ succeededDatabase.ledger.runs,
      ((succeededDatabase.ledger.sourcesOf run.id).map (·.sourceId)).Perm ALERT_EVALUATOR_SOURCE_IDS := by
  have hrun : succeededRun ∈ succeededDatabase.ledger.runs := List.head_mem _
  obtain ⟨asOf, completedAt, -, -, -, -, hsources, -⟩ :=
    alertEvaluatorRuns_proved succeededDatabase_reachable hrun succeededDatabase_shows.1.1
  exact ⟨succeededRun, hrun, hsources⟩

end runs

end pgid.alert
