import Mathlib.Data.List.Basic
import Mathlib.Data.List.Perm.Basic
import Mathlib.Data.List.Nodup

/-! A set with reserved elements that is filled up to a bound in a given order. -/

namespace reserve

variable {α : Type} [DecidableEq α]

/-- `retained.add(value)`. -/
def add (retained : List α) (value : α) : List α :=
  if value ∈ retained then retained else retained ++ [value]

/-- `for (const value of work) { if (retained.size >= bound) break; retained.add(value); }` -/
def fill (bound : Nat) : List α → List α → List α
  | retained, [] => retained
  | retained, value :: work =>
    if bound ≤ retained.length then retained else fill bound (add retained value) work

section add

variable {retained values : List α}

theorem nodup_foldl_add (hretained : retained.Nodup) : (values.foldl add retained).Nodup := by
  induction values generalizing retained with
  | nil => exact hretained
  | cons value values ih =>
    rw [List.foldl_cons]
    apply ih
    rw [add]
    split
    · exact hretained
    · rename_i hfresh
      rw [← List.concat_eq_append]
      exact hretained.concat hfresh

theorem mem_foldl_add {other : α} : other ∈ values.foldl add retained ↔ other ∈ retained ∨ other ∈ values := by
  induction values generalizing retained with
  | nil => simp
  | cons value values ih =>
    rw [List.foldl_cons, ih, add, List.mem_cons]
    split
    · rename_i hmem
      constructor
      · rintro (hretained | hvalues)
        · exact .inl hretained
        · exact .inr (.inr hvalues)
      · rintro (hretained | rfl | hvalues)
        · exact .inl hretained
        · exact .inl hmem
        · exact .inr hvalues
    · rw [List.mem_append, List.mem_singleton, or_assoc]

/-- A set of values has no more of them than there are. -/
theorem length_foldl_add_le : (values.foldl add retained).length ≤ retained.length + values.length := by
  induction values generalizing retained with
  | nil => exact Nat.le_refl _
  | cons value values ih =>
    have hstep : (add retained value).length ≤ retained.length + 1 := by
      rw [add]
      split
      · omega
      · exact Nat.le_of_eq (List.length_append ..)
    have hrest : (values.foldl add (add retained value)).length ≤ (add retained value).length + values.length := ih
    rw [List.foldl_cons, List.length_cons]
    omega

end add

section fill

variable {bound : Nat} {retained work : List α}

/-- The set is filled by the first of the values that are not in it yet. -/
theorem fill_eq (hwork : work.Nodup) :
    fill bound retained work =
      retained ++ (work.filter fun value => value ∉ retained).take (bound - retained.length) := by
  induction work generalizing retained with
  | nil => simp [fill]
  | cons value work ih =>
    obtain ⟨hvalue, hwork⟩ := List.nodup_cons.mp hwork
    rw [fill]
    split
    · rename_i hfull
      rw [Nat.sub_eq_zero_of_le hfull, List.take_zero, List.append_nil]
    · rename_i hroom
      rw [ih hwork, add]
      by_cases hmem : value ∈ retained
      · rw [if_pos hmem, List.filter_cons_of_neg (by simpa using hmem)]
      · have hsame : (work.filter fun other => other ∉ retained ++ [value]) = work.filter fun other => other ∉ retained := by
          apply List.filter_congr
          intro other hother
          have hne : other ≠ value := by
            rintro rfl
            exact hvalue hother
          simp only [List.mem_append, List.mem_singleton, hne, or_false]
        have hcount : bound - retained.length = (bound - (retained.length + 1)) + 1 := by omega
        rw [if_neg hmem, hsame, List.length_append, List.length_singleton,
          List.filter_cons_of_pos (by simpa using hmem), hcount, List.take_succ_cons, List.append_assoc,
          List.singleton_append]

theorem nodup_fill (hretained : retained.Nodup) (hwork : work.Nodup) : (fill bound retained work).Nodup := by
  rw [fill_eq hwork, List.nodup_append]
  refine ⟨hretained, (hwork.filter _).sublist (List.take_sublist _ _), ?_⟩
  rintro value hvalue other hother rfl
  exact of_decide_eq_true (List.mem_filter.mp (List.mem_of_mem_take hother)).2 hvalue

theorem mem_fill_of_retained {value : α} (hwork : work.Nodup) (hvalue : value ∈ retained) :
    value ∈ fill bound retained work := by
  rw [fill_eq hwork]
  exact List.mem_append_left _ hvalue

theorem mem_of_mem_fill {value : α} (hwork : work.Nodup) (hvalue : value ∈ fill bound retained work) :
    value ∈ retained ∨ value ∈ work := by
  rw [fill_eq hwork, List.mem_append] at hvalue
  rcases hvalue with hretained | htaken
  · exact .inl hretained
  · exact .inr (List.mem_of_mem_filter (List.mem_of_mem_take htaken))

/-- Of a list that contains a set, as many values are in the set as it has. -/
theorem length_filter_mem {values : List α} (hvalues : values.Nodup) (hretained : retained.Nodup)
    (hsubset : retained ⊆ values) : (values.filter fun value => decide (value ∈ retained)).length = retained.length := by
  apply List.Perm.length_eq
  rw [List.perm_ext_iff_of_nodup (hvalues.filter _) hretained]
  intro value
  rw [List.mem_filter, decide_eq_true_eq]
  exact and_iff_right_of_imp fun hvalue => hsubset hvalue

/-- The bound is reached unless all values are taken. -/
theorem length_fill (hretained : retained.Nodup) (hwork : work.Nodup) (hsubset : retained ⊆ work)
    (hbound : retained.length ≤ bound) : (fill bound retained work).length = min work.length bound := by
  have hsplit := List.length_eq_length_filter_add (l := work) fun value => decide (value ∈ retained)
  have hreserved := length_filter_mem hwork hretained hsubset
  have hrest : (work.filter fun value => !decide (value ∈ retained)) = work.filter fun value => value ∉ retained := by
    apply List.filter_congr
    intro value _
    simp
  rw [hreserved, hrest] at hsplit
  rw [fill_eq hwork, List.length_append, List.length_take]
  omega

/-- No value that is not reserved is left out for a later one. -/
theorem fill_in_order {R : α → α → Prop} (hwork : work.Nodup) (hordered : work.Pairwise R) {kept left : α}
    (hkept : kept ∈ fill bound retained work) (hfree : kept ∉ retained) (hleft : left ∈ work)
    (hout : left ∉ fill bound retained work) : R kept left := by
  rw [fill_eq hwork, List.mem_append] at hkept hout
  rw [not_or] at hout
  have hwaiting : left ∈ work.filter fun value => value ∉ retained :=
    List.mem_filter.mpr ⟨hleft, decide_eq_true hout.1⟩
  rw [← List.take_append_drop (bound - retained.length) (work.filter fun value => value ∉ retained),
    List.mem_append] at hwaiting
  have hpairwise := hordered.sublist (List.filter_sublist (p := fun value => decide (value ∉ retained)))
  rw [← List.take_append_drop (bound - retained.length) (work.filter fun value => value ∉ retained),
    List.pairwise_append] at hpairwise
  exact hpairwise.2.2 kept (hkept.resolve_left hfree) left (hwaiting.resolve_left hout.2)

end fill

end reserve
