import Mathlib

/-! The rows of a table by the value of a key: `GROUP BY key ORDER BY key`. -/

namespace sql

variable {ρ κ : Type} [DecidableEq κ]

/-- The rows under one value of the key. -/
def group (key : ρ → κ) (rows : List ρ) (value : κ) : List ρ :=
  rows.filter fun row => key row = value

/-- The values of the key in their order, each with its rows. -/
def groups (precedes : κ → κ → Bool) (key : ρ → κ) (rows : List ρ) : List (κ × List ρ) :=
  ((rows.map key).dedup.mergeSort precedes).map fun value => (value, group key rows value)

section lemmas

variable {precedes : κ → κ → Bool} {key : ρ → κ} {rows : List ρ}

theorem groups_keys : (groups precedes key rows).map Prod.fst = (rows.map key).dedup.mergeSort precedes := by
  rw [groups, List.map_map]
  exact List.map_id _

theorem groups_keys_nodup : ((groups precedes key rows).map Prod.fst).Nodup := by
  rw [groups_keys]
  exact (List.mergeSort_perm _ _).nodup_iff.mpr (List.nodup_dedup _)

theorem mem_groups_keys {value : κ} :
    value ∈ (groups precedes key rows).map Prod.fst ↔ ∃ row ∈ rows, key row = value := by
  rw [groups_keys, (List.mergeSort_perm _ _).mem_iff, List.mem_dedup, List.mem_map]

theorem mem_groups {value : κ} {members : List ρ} (hmem : (value, members) ∈ groups precedes key rows) :
    members = group key rows value := by
  obtain ⟨other, -, heq⟩ := List.mem_map.mp hmem
  cases heq
  rfl

theorem mem_group {value : κ} {row : ρ} : row ∈ group key rows value ↔ row ∈ rows ∧ key row = value := by
  rw [group, List.mem_filter, decide_eq_true_eq]

/-- A group has a row. -/
theorem groups_ne_nil {value : κ} {members : List ρ} (hmem : (value, members) ∈ groups precedes key rows) :
    members ≠ [] := by
  obtain ⟨row, hrow, hkey⟩ := mem_groups_keys.mp (List.mem_map_of_mem (f := Prod.fst) hmem)
  rw [mem_groups hmem]
  exact List.ne_nil_of_mem (mem_group.mpr ⟨hrow, hkey⟩)

/-- Every row stands in a group. -/
theorem exists_group (precedes : κ → κ → Bool) (key : ρ → κ) {row : ρ} (hrow : row ∈ rows) :
    ∃ members, (key row, members) ∈ groups precedes key rows ∧ row ∈ members := by
  have hkey : key row ∈ (groups precedes key rows).map Prod.fst := mem_groups_keys.mpr ⟨row, hrow, rfl⟩
  obtain ⟨⟨value, members⟩, hmem, hvalue⟩ := List.mem_map.mp hkey
  simp only at hvalue
  subst hvalue
  refine ⟨members, hmem, ?_⟩
  rw [mem_groups hmem]
  exact mem_group.mpr ⟨hrow, rfl⟩

/-- One of distinct values is counted once. -/
theorem sum_single {values : List κ} (hnodup : values.Nodup) {value : κ} (hmem : value ∈ values) (amount : Int) :
    (values.map fun other => if value = other then amount else 0).sum = amount := by
  induction values with
  | nil => cases hmem
  | cons first values ih =>
    obtain ⟨hfresh, hnodup⟩ := List.nodup_cons.mp hnodup
    rw [List.map_cons, List.sum_cons]
    by_cases heq : value = first
    · subst heq
      have hzero : ∀ other ∈ values, (if value = other then amount else 0) = 0 := by
        intro other hother
        rw [if_neg]
        rintro rfl
        exact hfresh hother
      rw [if_pos rfl, List.map_congr_left hzero, List.map_const', List.sum_replicate]
      simp
    · obtain rfl | hrest := List.mem_cons.mp hmem
      · exact absurd rfl heq
      · rw [if_neg heq, ih hnodup hrest, Int.zero_add]

/-- What is counted under each value of the key adds up to what is counted in the table. -/
theorem sum_group {values : List κ} (hnodup : values.Nodup) (hall : ∀ row ∈ rows, key row ∈ values)
    (selected : ρ → Bool) :
    (values.map fun value => ((group key rows value).countP selected : Int)).sum = rows.countP selected := by
  induction rows with
  | nil =>
    have hzero : ∀ value ∈ values, ((group key [] value).countP selected : Int) = 0 := fun _ _ => rfl
    rw [List.map_congr_left hzero, List.map_const', List.sum_replicate]
    simp
  | cons row rows ih =>
    obtain ⟨hhead, htail⟩ := List.forall_mem_cons.mp hall
    have hsplit : ∀ value ∈ values, ((group key (row :: rows) value).countP selected : Int) =
        (if key row = value then (if selected row then 1 else 0) else 0) +
          (group key rows value).countP selected := by
      intro value _
      by_cases hkey : key row = value
      · rw [group, List.filter_cons, if_pos (by simpa using hkey), List.countP_cons, if_pos hkey, group]
        split
        · push_cast
          omega
        · push_cast
          omega
      · rw [group, List.filter_cons, if_neg (by simpa using hkey), if_neg hkey, group, Int.zero_add]
    rw [List.map_congr_left hsplit, List.sum_map_add, sum_single hnodup hhead, ih htail, List.countP_cons]
    split
    · push_cast
      omega
    · push_cast
      omega

/-- What is counted in each group adds up to what is counted in the table. -/
theorem sum_groups (precedes : κ → κ → Bool) (key : ρ → κ) (rows : List ρ) (selected : ρ → Bool) :
    ((groups precedes key rows).map fun found => (found.2.countP selected : Int)).sum = rows.countP selected := by
  rw [groups, List.map_map]
  apply sum_group
  · exact (List.mergeSort_perm _ _).nodup_iff.mpr (List.nodup_dedup _)
  · intro row hrow
    rw [(List.mergeSort_perm _ _).mem_iff, List.mem_dedup]
    exact List.mem_map_of_mem hrow

end lemmas

end sql
