import Mathlib.Logic.Relation

/-! Terms that follow one another: a list to which terms are added at its end, and of which
only the last may be open. A closed term is never written again. -/

namespace tenure

variable {R : Type} {Open : R → Prop} {Follows : R → R → Prop} {terms next : List R} {term : R}

/-- Every term but the last is closed. -/
def Settled (Open : R → Prop) (terms : List R) : Prop :=
  ∀ term ∈ terms.dropLast, ¬ Open term

/-- One step: nothing, a write of the open term, a first term after closed ones, or a new term that
closes the open one. -/
inductive Step (Open : R → Prop) (Follows : R → R → Prop) : List R → List R → Prop
  | stay {terms : List R} : Step Open Follows terms terms
  | write {past : List R} {term written : R} (hopen : Open term) (hfollows : Follows term written) :
    Step Open Follows (past ++ [term]) (past ++ [written])
  | start {terms : List R} {new : R} (hclosed : ∀ term ∈ terms, ¬ Open term) :
    Step Open Follows terms (terms ++ [new])
  | takeover {past : List R} {term closed new : R} (hopen : Open term) (hfollows : Follows term closed)
      (hclosed : ¬ Open closed) :
    Step Open Follows (past ++ [term]) (past ++ [closed, new])

theorem settled_append : Settled Open (terms ++ [term]) ↔ ∀ earlier ∈ terms, ¬ Open earlier := by
  rw [Settled, List.dropLast_concat]

theorem Settled.nil : Settled Open ([] : List R) := by
  intro term hterm
  cases hterm

/-- An open term is the last one. -/
theorem Settled.eq_append (hsettled : Settled Open terms) (hterm : term ∈ terms) (hopen : Open term) :
    ∃ past, terms = past ++ [term] := by
  have hne : terms ≠ [] := List.ne_nil_of_mem hterm
  have hsplit := List.dropLast_concat_getLast hne
  rw [← hsplit, List.mem_append, List.mem_singleton] at hterm
  obtain hpast | hlast := hterm
  · exact absurd hopen (hsettled term hpast)
  · exact ⟨terms.dropLast, by rw [hlast, hsplit]⟩

theorem Step.settled (hstep : Step Open Follows terms next) (hsettled : Settled Open terms) :
    Settled Open next := by
  cases hstep with
  | stay => exact hsettled
  | write hopen hfollows =>
    rw [settled_append] at hsettled ⊢
    exact hsettled
  | start hclosed => exact settled_append.mpr hclosed
  | takeover hopen hfollows hclosed =>
    rename_i past term closed new
    rw [settled_append] at hsettled
    have hlist : past ++ [closed, new] = (past ++ [closed]) ++ [new] := by simp
    rw [hlist, settled_append]
    intro earlier hearlier
    obtain hpast | hlast := List.mem_append.mp hearlier
    · exact hsettled earlier hpast
    · rw [List.mem_singleton.mp hlast]
      exact hclosed

theorem getElem?_singleton {index : Nat} {last : R} (hterm : [last][index]? = some term) :
    index = 0 ∧ last = term := by
  rw [List.getElem?_singleton] at hterm
  split at hterm
  · rename_i hzero
    exact ⟨hzero, Option.some.inj hterm⟩
  · cases hterm

/-- A step keeps what is closed in its place, and writes only what follows. -/
theorem Step.getElem? (hstep : Step Open Follows terms next) {index : Nat} (hterm : terms[index]? = some term) :
    ∃ later, next[index]? = some later ∧ (later = term ∨ Open term ∧ Follows term later) := by
  cases hstep with
  | stay => exact ⟨term, hterm, .inl rfl⟩
  | write hopen hfollows =>
    rename_i past last written
    rw [List.getElem?_append] at hterm ⊢
    split at hterm
    · rename_i hindex
      rw [if_pos hindex]
      exact ⟨term, hterm, .inl rfl⟩
    · rename_i hindex
      rw [if_neg hindex]
      obtain ⟨hzero, rfl⟩ := getElem?_singleton hterm
      rw [hzero]
      exact ⟨written, rfl, .inr ⟨hopen, hfollows⟩⟩
  | start hclosed =>
    refine ⟨term, ?_, .inl rfl⟩
    rw [List.getElem?_append_left (List.getElem?_eq_some_iff.mp hterm).1]
    exact hterm
  | takeover hopen hfollows hclosed =>
    rename_i past last closed new
    rw [List.getElem?_append] at hterm ⊢
    split at hterm
    · rename_i hindex
      rw [if_pos hindex]
      exact ⟨term, hterm, .inl rfl⟩
    · rename_i hindex
      rw [if_neg hindex]
      obtain ⟨hzero, rfl⟩ := getElem?_singleton hterm
      rw [hzero]
      exact ⟨closed, rfl, .inr ⟨hopen, hfollows⟩⟩

/-- Along a path each term stays in its place: what is closed as it was, what is open as what follows it. -/
theorem path_getElem? (hpath : Relation.ReflTransGen (Step Open Follows) terms next) {index : Nat}
    (hterm : terms[index]? = some term) :
    ∃ later, next[index]? = some later ∧ Relation.ReflTransGen Follows term later ∧ (¬ Open term → later = term) := by
  induction hpath with
  | refl => exact ⟨term, hterm, .refl, fun _ => rfl⟩
  | tail _ hstep ih =>
    obtain ⟨middle, hmiddle, hfollows, hsame⟩ := ih
    obtain ⟨later, hlater, heq | ⟨hopen, hnext⟩⟩ := hstep.getElem? hmiddle
    · rw [heq] at hlater
      exact ⟨middle, hlater, hfollows, hsame⟩
    · refine ⟨later, hlater, hfollows.tail hnext, ?_⟩
      intro hclosed
      rw [hsame hclosed] at hopen
      exact absurd hopen hclosed

end tenure
