import Mathlib.Data.List.Induction
import Mathlib.Data.List.Nodup
import Mathlib.Logic.Function.Basic

/-! Systems whose steps interleave, the events that their steps record, and the
invariants that relate a state to the events before it. -/

namespace transition

variable {σ ε κ : Type}

/-- The events of some steps from a starting state, oldest first, and the state reached. -/
inductive Trace (Start : σ → Prop) (Step : σ → ε → σ → Prop) : List ε → σ → Prop
  | start {state : σ} (hstart : Start state) : Trace Start Step [] state
  | step {past : List ε} {state next : σ} {event : ε} (htrace : Trace Start Step past state)
      (hstep : Step state event next) : Trace Start Step (past ++ [event]) next

/-- A property of each event, seen from the events before it. -/
def Each (P : List ε → ε → Prop) (past : List ε) : Prop :=
  ∀ before event after, past = before ++ event :: after → P before event

theorem each_nil {P : List ε → ε → Prop} : Each P [] := by
  intro before event after hsplit
  exact absurd hsplit (List.append_ne_nil_of_right_ne_nil before (List.cons_ne_nil event after)).symm

theorem each_snoc {P : List ε → ε → Prop} {past : List ε} {event : ε} :
    Each P (past ++ [event]) ↔ Each P past ∧ P past event := by
  constructor
  · intro heach
    refine ⟨?_, heach past event [] rfl⟩
    rintro before earlier after rfl
    apply heach before earlier (after ++ [event])
    rw [List.append_assoc, List.cons_append]
  · rintro ⟨heach, hlast⟩ before found after hsplit
    rcases List.eq_nil_or_concat after with rfl | ⟨init, last, rfl⟩
    · obtain ⟨rfl, heq⟩ := List.append_inj' hsplit rfl
      rw [List.singleton_inj] at heq
      exact heq ▸ hlast
    · rw [List.concat_eq_append, ← List.cons_append, ← List.append_assoc] at hsplit
      obtain ⟨rfl, -⟩ := List.append_inj' hsplit rfl
      exact heach before found init rfl

/-- What holds at the start and is kept by every step holds of every state reached. -/
theorem Trace.invariant {Start : σ → Prop} {Step : σ → ε → σ → Prop} {Inv : List ε → σ → Prop}
    (hstart : ∀ {state}, Start state → Inv [] state)
    (hstep : ∀ {past state event next}, Inv past state → Step state event next →
      Inv (past ++ [event]) next)
    {past : List ε} {state : σ} (htrace : Trace Start Step past state) : Inv past state := by
  induction htrace with
  | start hfirst => exact hstart hfirst
  | step _ hnext ih => exact hstep ih hnext

/-- What each step establishes of its event from an invariant holds of every event. -/
theorem Trace.each {Start : σ → Prop} {Step : σ → ε → σ → Prop} {Inv : List ε → σ → Prop}
    {P : List ε → ε → Prop} (hinv : ∀ {past state}, Trace Start Step past state → Inv past state)
    (hevent : ∀ {past state event next}, Inv past state → Step state event next → P past event)
    {past : List ε} {state : σ} (htrace : Trace Start Step past state) : Each P past := by
  induction htrace with
  | start => exact each_nil
  | step hbefore hnext ih => exact each_snoc.mpr ⟨ih, hevent (hinv hbefore) hnext⟩

theorem Trace.mono {Start : σ → Prop} {Step Wider : σ → ε → σ → Prop}
    (hstep : ∀ {state event next}, Step state event next → Wider state event next) {past : List ε}
    {state : σ} (htrace : Trace Start Step past state) : Trace Start Wider past state := by
  induction htrace with
  | start hfirst => exact .start hfirst
  | step _ hnext ih => exact .step ih (hstep hnext)

/-- The events of some actions in turn and the state reached; an action that cannot be
taken is skipped. -/
def replay {α : Type} (perform : σ → α → Option (ε × σ)) (initial : σ) (actions : List α) : List ε × σ :=
  actions.foldl
    (fun reached action =>
      match perform reached.2 action with
      | none => reached
      | some (event, next) => (reached.1 ++ [event], next)) ([], initial)

/-- Actions in turn that are allowed in every state make a trace. -/
theorem replay_trace_of_allowed {α : Type} {Start : σ → Prop} {Allowed : σ → α → Prop}
    {perform : σ → α → Option (ε × σ)} {initial : σ} (hinitial : Start initial) {actions : List α}
    (hallowed : ∀ action ∈ actions, ∀ state, Allowed state action) :
    Trace Start (fun state event next => ∃ action, Allowed state action ∧ perform state action = some (event, next))
      (replay perform initial actions).1 (replay perform initial actions).2 := by
  rw [replay]
  induction actions using List.reverseRec with
  | nil => exact .start hinitial
  | append_singleton actions action ih =>
    obtain ⟨hearlier, hlast⟩ := List.forall_mem_append.mp hallowed
    rw [List.foldl_append, List.foldl_cons, List.foldl_nil]
    split
    · exact ih hearlier
    · rename_i event next hperform
      exact .step (ih hearlier) ⟨action, hlast action List.mem_cons_self _, hperform⟩

theorem replay_trace {α : Type} {Start : σ → Prop} {perform : σ → α → Option (ε × σ)} {initial : σ}
    (hinitial : Start initial) (actions : List α) :
    Trace Start (fun state event next => ∃ action, perform state action = some (event, next))
      (replay perform initial actions).1 (replay perform initial actions).2 := by
  have hallowed : ∀ action ∈ actions, ∀ _ : σ, True := fun _ _ _ => trivial
  refine Trace.mono ?_ (replay_trace_of_allowed hinitial hallowed)
  exact fun ⟨action, _, hperform⟩ => ⟨action, hperform⟩

/-- A system whose steps record the action that they take. -/
def labelled {α : Type} (perform : σ → α → Option σ) (state : σ) (action : α) : Option (α × σ) :=
  (perform state action).map fun next => (action, next)

theorem replay_labelled_trace {α : Type} {Start : σ → Prop} {perform : σ → α → Option σ} {initial : σ}
    (hinitial : Start initial) (actions : List α) :
    Trace Start (fun state action next => perform state action = some next)
      (replay (labelled perform) initial actions).1 (replay (labelled perform) initial actions).2 := by
  refine Trace.mono ?_ (replay_trace hinitial actions)
  rintro state event next ⟨action, hperform⟩
  obtain ⟨reached, hreached, heq⟩ := Option.map_eq_some_iff.mp hperform
  cases heq
  exact hreached

/-- A kind of events whose keys are new each time has each key at most once. -/
theorem nodup_of_each {key : ε → Option κ} {past : List ε}
    (hfresh : Each (fun before event => ∀ k, key event = some k → k ∉ before.filterMap key) past) :
    (past.filterMap key).Nodup := by
  induction past using List.reverseRec with
  | nil => exact List.nodup_nil
  | append_singleton past event ih =>
    obtain ⟨hpast, hlast⟩ := each_snoc.mp hfresh
    rw [List.filterMap_append]
    cases hkey : key event with
    | none => simpa [hkey] using ih hpast
    | some k =>
      have hnew := hlast k hkey
      rw [List.filterMap_cons_some hkey, List.filterMap_nil, List.nodup_append]
      refine ⟨ih hpast, List.nodup_singleton k, ?_⟩
      rintro other hmem found hfound rfl
      rw [List.mem_singleton] at hfound
      exact hnew (hfound ▸ hmem)

/-- Events of a kind whose keys are all different are one event when they have one key. -/
theorem eq_of_key {key : ε → Option κ} {past : List ε} (hnodup : (past.filterMap key).Nodup)
    {left right : ε} {k : κ} (hleft : left ∈ past) (hright : right ∈ past) (hleftKey : key left = some k)
    (hrightKey : key right = some k) : left = right := by
  induction past with
  | nil => exact absurd hleft List.not_mem_nil
  | cons event past ih =>
    have hlater : ∀ other ∈ past, key other = some k → key event ≠ some k := by
      intro other hother hotherKey heventKey
      rw [List.filterMap_cons_some heventKey, List.nodup_cons] at hnodup
      exact hnodup.1 (List.mem_filterMap.mpr ⟨other, hother, hotherKey⟩)
    have hpast : (past.filterMap key).Nodup :=
      hnodup.sublist ((List.sublist_cons_self event past).filterMap key)
    rcases List.mem_cons.mp hleft with hleftHead | hleftTail
    · rcases List.mem_cons.mp hright with hrightHead | hrightTail
      · rw [hleftHead, hrightHead]
      · exact absurd (hleftHead ▸ hleftKey) (hlater right hrightTail hrightKey)
    · rcases List.mem_cons.mp hright with hrightHead | hrightTail
      · exact absurd (hrightHead ▸ hrightKey) (hlater left hleftTail hleftKey)
      · exact ih hpast hleftTail hrightTail

/-- The phase of a call after one call has moved to a phase. -/
theorem update_eq_some [DecidableEq κ] {τ : Type} {calls : κ → Option τ} {call other : κ} {phase found : τ}
    (hfound : Function.update calls call (some phase) other = some found) :
    (other = call ∧ found = phase) ∨ (other ≠ call ∧ calls other = some found) := by
  rw [Function.update_apply] at hfound
  split at hfound
  · rename_i heq
    exact .inl ⟨heq, (Option.some.inj hfound).symm⟩
  · rename_i hne
    exact .inr ⟨hne, hfound⟩

end transition
