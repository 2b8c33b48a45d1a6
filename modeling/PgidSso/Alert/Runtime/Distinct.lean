import PgidSso.Alert.Runtime.Calls
import PgidSso.Alert.Runtime.Sentinel

open checked

namespace pgid.alert

namespace Ledger

/-- No two runs share an id or a generation. -/
structure Distinct (ledger : Ledger) : Prop where
  ids : (ledger.runs.map (·.id)).Nodup
  generations : (ledger.runs.map (·.runtimeGeneration)).Nodup

/-- A success has left the sentinel. -/
def SuccessLeft (ledger : Ledger) : Prop :=
  ∀ row, ledger.runtime = some row → row.lastSuccessAt ≠ none → ledger.bootstrap ≠ none

section runs

variable {ledger next : Ledger} {run new old : EvaluatorRunRow}

theorem Distinct.eq_of_id {other : EvaluatorRunRow} (hdistinct : ledger.Distinct) (hrun : run ∈ ledger.runs)
    (hother : other ∈ ledger.runs) (hid : run.id = other.id) : run = other :=
  List.inj_on_of_nodup_map hdistinct.ids hrun hother hid

theorem Distinct.eq_of_generation {other : EvaluatorRunRow} (hdistinct : ledger.Distinct)
    (hrun : run ∈ ledger.runs) (hother : other ∈ ledger.runs)
    (hgeneration : run.runtimeGeneration = other.runtimeGeneration) : run = other :=
  List.inj_on_of_nodup_map hdistinct.generations hrun hother hgeneration

/-- Each run is found under its id. -/
theorem Distinct.readRunById (hdistinct : ledger.Distinct) (hrun : run ∈ ledger.runs) :
    evaluator.readRunById ledger run.id = some run := by
  rw [evaluator.readRunById]
  cases hfound : ledger.runs.find? fun other => decide (other.id = run.id) with
  | none => exact absurd (decide_eq_true rfl) (List.find?_eq_none.mp hfound run hrun)
  | some found =>
    have hid : found.id = run.id := by simpa using List.find?_some hfound
    rw [hdistinct.eq_of_id (List.mem_of_find?_eq_some hfound) hrun hid]

theorem readRunById_eq_some {runId : String} (hread : evaluator.readRunById ledger runId = some run) :
    run ∈ ledger.runs ∧ run.id = runId :=
  ⟨List.mem_of_find?_eq_some hread, by simpa using List.find?_some hread⟩

/-- A run that is written keeps its id and its generation. -/
theorem writeRun_eq_ok (hwrite : ledger.writeRun old new = .ok next) :
    new.id = old.id ∧ new.runtimeGeneration = old.runtimeGeneration ∧ next = ledger.replaceRun new := by
  rw [writeRun, throwIf_bind_eq_ok_iff, throwIf_bind_eq_ok_iff] at hwrite
  obtain ⟨hguard, -, heq⟩ := hwrite
  cases heq
  simp only [runTransitionGuard, sql.holds_any_cons, sql.holds_fact, not_or, not_not] at hguard
  exact ⟨hguard.1, hguard.2.2.1, rfl⟩

/-- The run that replaces another one is found in its place. -/
theorem Distinct.readRunById_replaceRun (hdistinct : ledger.Distinct) (hold : old ∈ ledger.runs)
    (hid : new.id = old.id) : evaluator.readRunById (ledger.replaceRun new) old.id = some new := by
  have hread := hdistinct.readRunById hold
  rw [evaluator.readRunById] at hread ⊢
  have hsame : ((fun other : EvaluatorRunRow => decide (other.id = old.id)) ∘
      fun run => if run.id = new.id then new else run) = fun other => decide (other.id = old.id) := by
    funext other
    simp only [Function.comp_apply]
    by_cases hother : other.id = new.id
    · rw [if_pos hother, hid, hother, hid]
    · rw [if_neg hother]
  rw [replaceRun, List.find?_map, hsame, hread, Option.map_some, if_pos hid.symm]

theorem Distinct.replaceRun (hdistinct : ledger.Distinct) (hold : old ∈ ledger.runs) (hid : new.id = old.id)
    (hgeneration : new.runtimeGeneration = old.runtimeGeneration) : (ledger.replaceRun new).Distinct := by
  constructor
  · have hids : (ledger.replaceRun new).runs.map (·.id) = ledger.runs.map (·.id) := by
      rw [Ledger.replaceRun, List.map_map]
      apply List.map_congr_left
      intro run _
      simp only [Function.comp_apply]
      split
      · rename_i hmatch
        exact hmatch.symm
      · rfl
    rw [hids]
    exact hdistinct.ids
  · have hgenerations : (ledger.replaceRun new).runs.map (·.runtimeGeneration) =
        ledger.runs.map (·.runtimeGeneration) := by
      rw [Ledger.replaceRun, List.map_map]
      apply List.map_congr_left
      intro run hrun
      simp only [Function.comp_apply]
      split
      · rename_i hmatch
        rw [hdistinct.eq_of_id hrun hold (hmatch.trans hid), hgeneration]
      · rfl
    rw [hgenerations]
    exact hdistinct.generations

theorem Distinct.writeRun (hdistinct : ledger.Distinct) (hold : old ∈ ledger.runs)
    (hwrite : ledger.writeRun old new = .ok next) : next.Distinct := by
  obtain ⟨hid, hgeneration, rfl⟩ := writeRun_eq_ok hwrite
  exact hdistinct.replaceRun hold hid hgeneration

theorem Distinct.congr (hdistinct : ledger.Distinct) (hruns : next.runs = ledger.runs) : next.Distinct :=
  ⟨hruns ▸ hdistinct.ids, hruns ▸ hdistinct.generations⟩

end runs

section runtime

variable {ledger next : Ledger} {old new : RuntimeStatusRow}

/-- A runtime row that is written with a lease leaves the runs. -/
theorem writeRuntime_leased (hwrite : ledger.writeRuntime old new = .ok next) (hlease : new.leaseId ≠ none) :
    next = { ledger with runtime := some new } := by
  simp only [writeRuntime, throwIf_bind_eq_ok_iff] at hwrite
  obtain ⟨-, -, -, -, -, hwrite⟩ := hwrite
  rw [if_neg (fun hterminal => hlease hterminal.2)] at hwrite
  cases hwrite
  rfl

/-- A runtime row that gives its lease up has completed the run of that lease. -/
theorem writeRuntime_freed (hwrite : ledger.writeRuntime old new = .ok next) (hold : old.leaseId ≠ none)
    (hlease : new.leaseId = none) :
    ∃ run ∈ ledger.runs, run.runtimeGeneration = old.generation ∧ run.Live ∧
      (terminalized run new).id = run.id ∧
      next = Ledger.replaceRun { ledger with runtime := some new } (terminalized run new) := by
  simp only [writeRuntime, throwIf_bind_eq_ok_iff] at hwrite
  obtain ⟨-, -, -, -, -, hwrite⟩ := hwrite
  rw [if_pos ⟨hold, hlease⟩, terminalize] at hwrite
  split at hwrite
  · cases hwrite
  · rename_i run hfound
    have hmatch := List.find?_some hfound
    rw [decide_eq_true_eq] at hmatch
    obtain ⟨hid, -, heq⟩ := writeRun_eq_ok hwrite
    exact ⟨run, List.mem_of_find?_eq_some hfound, hmatch.1, hmatch.2.2.2, hid, heq⟩

theorem Distinct.writeRuntime (hdistinct : ledger.Distinct) (hwrite : ledger.writeRuntime old new = .ok next) :
    next.Distinct := by
  by_cases hterminal : old.leaseId ≠ none ∧ new.leaseId = none
  · obtain ⟨run, hrun, -, -, hid, rfl⟩ := writeRuntime_freed hwrite hterminal.1 hterminal.2
    have hwritten : Ledger.Distinct { ledger with runtime := some new } := hdistinct.congr rfl
    exact hwritten.replaceRun hrun hid rfl
  · simp only [Ledger.writeRuntime, throwIf_bind_eq_ok_iff] at hwrite
    obtain ⟨-, -, -, -, -, hwrite⟩ := hwrite
    rw [if_neg hterminal] at hwrite
    cases hwrite
    exact hdistinct.congr rfl

/-- A row that was not written by a success keeps what the one before it has left. -/
theorem SuccessLeft.writeRuntime (hleft : ledger.SuccessLeft) (hold : ledger.runtime = some old)
    (hwrite : ledger.writeRuntime old new = .ok next) (hsame : new.lastSuccessAt = old.lastSuccessAt) :
    next.SuccessLeft := by
  obtain ⟨-, -, hrow, hbootstrap⟩ := writeRuntime_eq hwrite
  intro row hfound hsuccess
  rw [hrow, Option.some.injEq] at hfound
  subst hfound
  rw [hbootstrap]
  exact hleft old hold (hsame ▸ hsuccess)

theorem SuccessLeft.congr (hleft : ledger.SuccessLeft) (hsame : ledger.SameRuntime next) : next.SuccessLeft := by
  intro row hrow hsuccess
  rw [hsame.2]
  exact hleft row (hsame.1 ▸ hrow) hsuccess

end runtime

/-- What every statement of the evaluator keeps of its ledger. -/
structure Regular (ledger : Ledger) : Prop where
  distinct : ledger.Distinct
  successLeft : ledger.SuccessLeft

section statements

variable {ledger next : Ledger} {changes : Nat}

theorem Distinct.abandonPredecessor {new : EvaluatorRunRow} (hdistinct : ledger.Distinct)
    (habandon : ledger.abandonPredecessor new = .ok (next, changes)) : next.Distinct := by
  unfold Ledger.abandonPredecessor at habandon
  split at habandon
  · cases habandon
    exact hdistinct
  · rename_i run hfound
    obtain ⟨written, hwritten, heq⟩ := bind_eq_ok_iff.mp habandon
    cases heq
    exact hdistinct.writeRun (List.mem_of_find?_eq_some hfound) hwritten

theorem Distinct.append {new : EvaluatorRunRow} (hdistinct : ledger.Distinct)
    (hfree : ¬ ledger.ConflictGuard new) : Ledger.Distinct { ledger with runs := ledger.runs ++ [new] } := by
  have hnone : ∀ run ∈ ledger.runs, run.id ≠ new.id ∧ run.runtimeGeneration ≠ new.runtimeGeneration :=
    fun run hrun => ⟨fun hid => hfree ⟨run, hrun, .inl hid⟩,
      fun hgeneration => hfree ⟨run, hrun, .inr (.inr hgeneration)⟩⟩
  constructor
  · simp only [List.map_append, List.map_cons, List.map_nil]
    refine List.nodup_append.mpr ⟨hdistinct.ids, List.nodup_singleton _, ?_⟩
    intro id hid other hother
    obtain ⟨run, hrun, rfl⟩ := List.mem_map.mp hid
    rw [List.mem_singleton.mp hother]
    exact (hnone run hrun).1
  · simp only [List.map_append, List.map_cons, List.map_nil]
    refine List.nodup_append.mpr ⟨hdistinct.generations, List.nodup_singleton _, ?_⟩
    intro generation hgeneration other hother
    obtain ⟨run, hrun, rfl⟩ := List.mem_map.mp hgeneration
    rw [List.mem_singleton.mp hother]
    exact (hnone run hrun).2

theorem Regular.insertRun {new : EvaluatorRunRow} (hregular : ledger.Regular)
    (hinsert : Ledger.insertRun new ledger = .ok (next, changes)) : next.Regular := by
  simp only [Ledger.insertRun, throwIf_bind_eq_ok_iff] at hinsert
  obtain ⟨-, hfree, -, hinsert⟩ := hinsert
  obtain ⟨⟨freed, abandoned⟩, habandon, hinsert⟩ := bind_eq_ok_iff.mp hinsert
  obtain ⟨acquired, hacquire, heq⟩ := bind_eq_ok_iff.mp hinsert
  cases heq
  have hinserted : ledger.SameRuntime { ledger with runs := ledger.runs ++ [new] } := ⟨rfl, rfl⟩
  have hdistinct := (hregular.distinct.append hfree).abandonPredecessor habandon
  have hleft := hregular.successLeft.congr (hinserted.trans (abandonPredecessor_same habandon))
  unfold acquireRuntime at hacquire
  cases hrow : freed.runtime with
  | none =>
    rw [hrow] at hacquire
    cases hacquire
  | some row =>
    simp only [hrow] at hacquire
    split at hacquire
    · exact ⟨hdistinct.writeRuntime hacquire, hleft.writeRuntime hrow hacquire rfl⟩
    · cases hacquire

theorem Regular.initializeRuntime {initializedAt : Timestamp} (hregular : ledger.Regular)
    (hinserted : Ledger.initializeRuntime initializedAt ledger = .ok (next, changes)) : next.Regular := by
  unfold Ledger.initializeRuntime at hinserted
  split at hinserted
  · cases hinserted
    exact hregular
  · simp only [throwIf_bind_eq_ok_iff] at hinserted
    cases hinserted.2.2
    refine ⟨hregular.distinct.congr rfl, ?_⟩
    intro row hrow hsuccess
    obtain rfl := Option.some.inj hrow
    exact absurd rfl hsuccess

/-- What an update of a run does: nothing, or it replaces the run and may renew the runtime row. -/
theorem updateRun_cases {matching : EvaluatorRunRow → Bool} {change : EvaluatorRunRow → EvaluatorRunRow}
    (hupdate : updateRun matching change ledger = .ok (next, changes)) :
    (next = ledger ∧ changes = 0) ∨
      ∃ old, ledger.runs.find? matching = some old ∧ (change old).id = old.id ∧
        (change old).runtimeGeneration = old.runtimeGeneration ∧
        changes = (if Renews old (change old) then 2 else 1) ∧
        (next = ledger.replaceRun (change old) ∨
          ∃ row, ledger.runtime = some row ∧
            next = { ledger.replaceRun (change old) with runtime := some (renewedRuntime row (change old)) }) := by
  unfold updateRun at hupdate
  split at hupdate
  · cases hupdate
    exact .inl ⟨rfl, rfl⟩
  · rename_i old hfound
    obtain ⟨written, hwritten, hupdate⟩ := bind_eq_ok_iff.mp hupdate
    obtain ⟨hid, hgeneration, rfl⟩ := writeRun_eq_ok hwritten
    refine .inr ⟨old, hfound, hid, hgeneration, ?_⟩
    split at hupdate
    · rename_i hrenews
      obtain ⟨renewed, hrenewed, hupdate⟩ := bind_eq_ok_iff.mp hupdate
      rw [throwIf_bind_eq_ok_iff] at hupdate
      cases hupdate.2
      refine ⟨(if_pos hrenews).symm, .inr ?_⟩
      unfold renewRuntime at hrenewed
      cases hrow : ledger.runtime with
      | none =>
        simp only [replaceRun, hrow] at hrenewed
        cases hrenewed
      | some row =>
        simp only [replaceRun, hrow] at hrenewed
        split at hrenewed
        · rename_i hrenewable
          have hlease : (renewedRuntime row (change old)).leaseId ≠ none := by
            rw [renewedRuntime, hrenewable.1.2.2.1]
            exact Option.some_ne_none _
          exact ⟨row, rfl, writeRuntime_leased hrenewed hlease⟩
        · cases hrenewed
    · rename_i hrenews
      rw [throwIf_bind_eq_ok_iff] at hupdate
      cases hupdate.2
      exact ⟨(if_neg hrenews).symm, .inl rfl⟩

theorem Regular.updateRun {matching : EvaluatorRunRow → Bool} {change : EvaluatorRunRow → EvaluatorRunRow}
    (hregular : ledger.Regular) (hupdate : Ledger.updateRun matching change ledger = .ok (next, changes)) :
    next.Regular := by
  obtain ⟨rfl, -⟩ | ⟨old, hfound, hid, hgeneration, -, hnext⟩ := updateRun_cases hupdate
  · exact hregular
  · have hreplaced := hregular.distinct.replaceRun (List.mem_of_find?_eq_some hfound) hid hgeneration
    obtain rfl | ⟨row, hrow, rfl⟩ := hnext
    · exact ⟨hreplaced, hregular.successLeft.congr ⟨rfl, rfl⟩⟩
    · refine ⟨hreplaced.congr rfl, ?_⟩
      intro renewed hrenewed hsuccess
      obtain rfl := Option.some.inj hrenewed
      exact hregular.successLeft row hrow hsuccess

end statements

end Ledger

namespace evaluator

open Ledger

variable {ledger next : Ledger} {changes : Nat} {fence : AlertEvaluatorRunFence}

/-- What an update of the runtime row by its fence does: nothing, or it writes the row that the fence
names. -/
theorem terminalStatement_cases {change : RuntimeStatusRow → RuntimeStatusRow}
    (hterminal : terminalStatement fence change ledger = .ok (next, changes)) :
    (next = ledger ∧ changes = 0) ∨
      ∃ row, ledger.runtime = some row ∧ row.generation = fence.runtimeGeneration ∧
        row.leaseId = some fence.leaseId ∧ row.lastStartedAt = some fence.startedAt ∧ changes = 2 ∧
        ledger.writeRuntime row (change row) = .ok next := by
  unfold terminalStatement at hterminal
  split at hterminal
  · cases hterminal
    exact .inl ⟨rfl, rfl⟩
  · rename_i row hrow
    split at hterminal
    · rename_i hfence
      obtain ⟨written, hwritten, heq⟩ := bind_eq_ok_iff.mp hterminal
      cases heq
      exact .inr ⟨row, hrow, hfence.1, hfence.2.2.1, hfence.2.2.2.2.1, rfl, hwritten⟩
    · cases hterminal
      exact .inl ⟨rfl, rfl⟩

/-- The second statement of a success leaves the runs and the runtime row. -/
theorem bootstrapStatement_cases {completedAt asOf : Timestamp} {terminalChanges : Nat}
    (hbootstrap : bootstrapStatement fence completedAt asOf terminalChanges ledger = .ok next) :
    next = ledger ∨ ∃ row, next = { ledger with bootstrap := some row } := by
  unfold bootstrapStatement at hbootstrap
  split at hbootstrap
  · cases hbootstrap
    exact .inl rfl
  · split at hbootstrap
    · simp only [Ledger.insertBootstrap, throwIf_bind_eq_ok_iff] at hbootstrap
      cases hbootstrap.2.2
      exact .inr ⟨_, rfl⟩
    · cases hbootstrap
      exact .inl rfl

/-- The second statement of a success does nothing where the first has done nothing. -/
theorem bootstrapStatement_idle {fence : AlertEvaluatorRunFence} {completedAt asOf : Timestamp} :
    bootstrapStatement fence completedAt asOf 0 ledger = .ok ledger := by
  unfold bootstrapStatement
  split
  · rfl
  · rw [if_neg fun hfirst => hfirst.2 rfl]
    rfl

/-- After a success the sentinel is there. -/
theorem bootstrapStatement_left {completedAt asOf : Timestamp} {row : RuntimeStatusRow}
    (hrow : ledger.runtime = some (succeededRuntime fence completedAt asOf row))
    (hgeneration : row.generation = fence.runtimeGeneration)
    (hbootstrap : bootstrapStatement fence completedAt asOf 2 ledger = .ok next) : next.bootstrap ≠ none := by
  unfold bootstrapStatement at hbootstrap
  simp only [hrow] at hbootstrap
  split at hbootstrap
  · simp only [Ledger.insertBootstrap, throwIf_bind_eq_ok_iff] at hbootstrap
    cases hbootstrap.2.2
    exact Option.some_ne_none _
  · rename_i hfirst
    cases hbootstrap
    intro hnone
    exact hfirst ⟨⟨rfl, hgeneration, rfl, rfl, rfl, rfl, hnone⟩, by decide⟩

/-- Every statement of a run keeps the ledger regular. -/
theorem EvaluatorStatement.run_regular {statement : EvaluatorStatement} (hregular : ledger.Regular)
    (hrun : statement.run ledger = .ok (next, changes)) : next.Regular := by
  cases statement with
  | recordSource source =>
    obtain ⟨inserted, hinserted, heq⟩ := bind_eq_ok_iff.mp hrun
    cases heq
    simp only [Ledger.insertSource, throwIf_bind_eq_ok_iff] at hinserted
    cases hinserted.2.2.2
    exact ⟨hregular.distinct.congr rfl, hregular.successLeft.congr ⟨rfl, rfl⟩⟩
  | renew fence renewedAt expiresAt => exact hregular.updateRun hrun
  | sealPlan fence asOf updatedAt sealedAt partialSourceCount decisionCount sourceDigest decisionDigest =>
    exact hregular.updateRun hrun
  | recordDecision states decision =>
    obtain ⟨inserted, hinserted, heq⟩ := bind_eq_ok_iff.mp hrun
    cases heq
    simp only [Ledger.insertDecision, throwIf_bind_eq_ok_iff] at hinserted
    cases hinserted.2.2.2.2
    exact ⟨hregular.distinct.congr rfl, hregular.successLeft.congr ⟨rfl, rfl⟩⟩
  | recordSuccess fence completedAt asOf =>
    obtain ⟨⟨terminal, terminalChanges⟩, hterminal, hrun⟩ := bind_eq_ok_iff.mp hrun
    obtain ⟨inserted, hinserted, heq⟩ := bind_eq_ok_iff.mp hrun
    cases heq
    obtain ⟨rfl, -⟩ | ⟨row, hrow, hgeneration, -, -, hchanges, hwrite⟩ := terminalStatement_cases hterminal
    · obtain rfl | ⟨bootstrap, rfl⟩ := bootstrapStatement_cases hinserted
      · exact hregular
      · exact ⟨hregular.distinct.congr rfl, fun _ _ _ => Option.some_ne_none _⟩
    · obtain ⟨-, -, hwritten, -⟩ := writeRuntime_eq hwrite
      have hdistinct := hregular.distinct.writeRuntime hwrite
      rw [hchanges] at hinserted
      refine ⟨?_, fun _ _ _ => bootstrapStatement_left hwritten hgeneration hinserted⟩
      obtain rfl | ⟨bootstrap, rfl⟩ := bootstrapStatement_cases hinserted
      · exact hdistinct
      · exact hdistinct.congr rfl
  | recordFailure fence completedAt status errorCode =>
    obtain ⟨rfl, -⟩ | ⟨row, hrow, -, -, -, -, hwrite⟩ := terminalStatement_cases hrun
    · exact hregular
    · exact ⟨hregular.distinct.writeRuntime hwrite, hregular.successLeft.writeRuntime hrow hwrite rfl⟩

end evaluator

end pgid.alert
