import Mathlib.Data.List.Lex
import Mathlib.Data.Prod.Lex

/-! Functions that compare two values by the sign of an integer, as sorting takes them. -/

namespace comparator

variable {α κ ι : Type}

/-- `values.toSorted(compare)`. -/
def sortedBy (compare : α → α → Int) (values : List α) : List α :=
  values.mergeSort fun left right => compare left right ≤ 0

/-- The comparison is that of a key in a linear order. -/
structure Compares [LinearOrder κ] (compare : α → α → Int) (key : α → κ) : Prop where
  neg : ∀ left right, compare left right < 0 ↔ key left < key right
  swap : ∀ left right, compare right left = -compare left right

namespace Compares

variable [LinearOrder κ] [LinearOrder ι] {compare later : α → α → Int} {key : α → κ} {laterKey : α → ι}
  {left right : α} {values others : List α}

theorem pos (hcompare : Compares compare key) : 0 < compare left right ↔ key right < key left := by
  rw [← hcompare.neg right left, hcompare.swap left right]
  omega

theorem le (hcompare : Compares compare key) : compare left right ≤ 0 ↔ key left ≤ key right := by
  rw [← not_lt, hcompare.pos, not_lt]

theorem zero (hcompare : Compares compare key) : compare left right = 0 ↔ key left = key right := by
  have hswap : 0 ≤ compare left right ↔ key right ≤ key left := by
    have hreverse : compare right left ≤ 0 ↔ key right ≤ key left := hcompare.le
    rw [← hreverse, hcompare.swap left right]
    omega
  rw [le_antisymm_iff, le_antisymm_iff, hcompare.le, hswap]

/-- One comparison, and another one where it does not decide. -/
theorem thenBy (hcompare : Compares compare key) (hlater : Compares later laterKey) :
    Compares (fun left right => if compare left right ≠ 0 then compare left right else later left right)
      fun value => toLex (key value, laterKey value) := by
  refine ⟨?_, ?_⟩
  · intro left right
    rw [Prod.Lex.toLex_lt_toLex]
    dsimp only
    split
    · rename_i hdecided
      have hne : key left ≠ key right := fun hsame => hdecided (hcompare.zero.mpr hsame)
      rw [hcompare.neg, or_iff_left (fun hboth => hne hboth.1)]
    · rename_i hundecided
      have hsame : key left = key right := hcompare.zero.mp (of_not_not hundecided)
      rw [hlater.neg, hsame]
      simp only [lt_self_iff_false, true_and, false_or]
  · intro left right
    by_cases hsame : compare left right = 0
    · have hswapped : compare right left = 0 := by
        rw [hcompare.swap, hsame]
        rfl
      rw [if_neg (not_not_intro hswapped), if_neg (not_not_intro hsame), hlater.swap]
    · have hswapped : compare right left ≠ 0 := by
        rw [hcompare.swap left right]
        omega
      rw [if_pos hswapped, if_pos hsame, hcompare.swap]

/-- The same comparison of parts of the values. -/
theorem comp {β : Type} (hcompare : Compares compare key) (part : β → α) :
    Compares (fun left right => compare (part left) (part right)) fun value => key (part value) :=
  ⟨fun left right => hcompare.neg (part left) (part right), fun left right => hcompare.swap (part left) (part right)⟩

theorem pairwise_sortedBy (hcompare : Compares compare key) (values : List α) :
    (sortedBy compare values).Pairwise fun left right => compare left right ≤ 0 := by
  have htrans : ∀ first second third : α, decide (compare first second ≤ 0) = true →
      decide (compare second third ≤ 0) = true → decide (compare first third ≤ 0) = true := by
    intro first second third hfirst hsecond
    simp only [decide_eq_true_eq, hcompare.le] at hfirst hsecond ⊢
    exact le_trans hfirst hsecond
  have htotal : ∀ first second : α,
      (decide (compare first second ≤ 0) || decide (compare second first ≤ 0)) = true := by
    intro first second
    simp only [Bool.or_eq_true, decide_eq_true_eq, hcompare.le]
    exact le_total _ _
  exact (List.pairwise_mergeSort htrans htotal values).imp of_decide_eq_true

/-- The same values in any order are sorted alike when their keys are distinct. -/
theorem sortedBy_eq_of_perm (hcompare : Compares compare key)
    (hkey : ∀ left ∈ values, ∀ right ∈ values, key left = key right → left = right) (hperm : values.Perm others) :
    sortedBy compare values = sortedBy compare others := by
  have hvalues : (sortedBy compare values).Perm values := List.mergeSort_perm values _
  have hothers : (sortedBy compare others).Perm others := List.mergeSort_perm others _
  refine List.Perm.eq_of_pairwise ?_ (hcompare.pairwise_sortedBy values) (hcompare.pairwise_sortedBy others)
    (hvalues.trans (hperm.trans hothers.symm))
  intro left right hleft hright hle hge
  refine hkey left (hvalues.mem_iff.mp hleft) right (hperm.mem_iff.mpr (hothers.mem_iff.mp hright)) ?_
  exact le_antisymm (hcompare.le.mp hle) (hcompare.le.mp hge)

end Compares

theorem mem_sortedBy {compare : α → α → Int} {values : List α} {value : α} :
    value ∈ sortedBy compare values ↔ value ∈ values :=
  (List.mergeSort_perm values _).mem_iff

/-- The difference of two ranks. -/
theorem compares_difference (rank : α → Nat) : Compares (fun left right => (rank left : Int) - rank right) rank := by
  refine ⟨?_, ?_⟩
  · intro left right
    omega
  · intro left right
    omega

end comparator
