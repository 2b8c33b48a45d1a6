import Mathlib.Data.List.Forall2
import Mathlib.Data.List.Nodup

/-! Tables as lists of rows: updates of the rows that match a condition, and keys. -/

namespace table

variable {ρ κ : Type}

/-- `UPDATE … SET change WHERE matching`. -/
def update (matching : ρ → Prop) [DecidablePred matching] (change : ρ → ρ) (rows : List ρ) : List ρ :=
  rows.map fun row => if matching row then change row else row

/-- The rows that an update changes, as they were. -/
def matched (matching : ρ → Prop) [DecidablePred matching] (rows : List ρ) : List ρ :=
  rows.filter fun row => matching row

/-- `DELETE WHERE matching`. -/
def delete (matching : ρ → Prop) [DecidablePred matching] (rows : List ρ) : List ρ :=
  rows.filter fun row => ¬ matching row

section lemmas

variable {matching : ρ → Prop} [DecidablePred matching] {change : ρ → ρ} {rows : List ρ} {row : ρ}

theorem mem_update : row ∈ update matching change rows ↔
    (∃ old ∈ rows, matching old ∧ row = change old) ∨ (row ∈ rows ∧ ¬ matching row) := by
  rw [update, List.mem_map]
  constructor
  · rintro ⟨old, hold, rfl⟩
    by_cases hmatch : matching old
    · exact .inl ⟨old, hold, hmatch, if_pos hmatch⟩
    · rw [if_neg hmatch]
      exact .inr ⟨hold, hmatch⟩
  · rintro (⟨old, hold, hmatch, rfl⟩ | ⟨hrow, hmatch⟩)
    · exact ⟨old, hold, if_pos hmatch⟩
    · exact ⟨row, hrow, if_neg hmatch⟩

@[simp] theorem mem_matched : row ∈ matched matching rows ↔ row ∈ rows ∧ matching row := by
  simp [matched]

@[simp] theorem mem_delete : row ∈ delete matching rows ↔ row ∈ rows ∧ ¬ matching row := by
  simp [delete]

theorem matched_eq_nil_iff : matched matching rows = [] ↔ ∀ row ∈ rows, ¬ matching row := by
  simp [matched]

theorem matched_of_none (hnone : ∀ row ∈ rows, ¬ matching row) : matched matching rows = [] :=
  matched_eq_nil_iff.mpr hnone

/-- Conditions that agree on the rows of a table select the same rows. -/
theorem matched_congr {other : ρ → Prop} [DecidablePred other]
    (hiff : ∀ row ∈ rows, matching row ↔ other row) : matched matching rows = matched other rows := by
  apply List.filter_congr
  intro row hmem
  rw [decide_eq_decide]
  exact hiff row hmem

theorem update_congr {other : ρ → Prop} [DecidablePred other]
    (hiff : ∀ row ∈ rows, matching row ↔ other row) :
    update matching change rows = update other change rows := by
  apply List.map_congr_left
  intro row hmem
  by_cases hmatch : matching row
  · rw [if_pos hmatch, if_pos ((hiff row hmem).mp hmatch)]
  · rw [if_neg hmatch, if_neg fun hother => hmatch ((hiff row hmem).mpr hother)]

theorem delete_congr {other : ρ → Prop} [DecidablePred other]
    (hiff : ∀ row ∈ rows, matching row ↔ other row) : delete matching rows = delete other rows := by
  apply List.filter_congr
  intro row hmem
  rw [decide_eq_decide]
  exact not_congr (hiff row hmem)

theorem update_of_none (hnone : ∀ row ∈ rows, ¬ matching row) : update matching change rows = rows := by
  rw [update]
  conv_rhs => rw [← List.map_id rows]
  apply List.map_congr_left
  intro row hmem
  rw [if_neg (hnone row hmem)]
  rfl

theorem delete_of_none (hnone : ∀ row ∈ rows, ¬ matching row) : delete matching rows = rows := by
  rw [delete, List.filter_eq_self]
  intro row hmem
  exact decide_eq_true (hnone row hmem)

/-- An update of rows that another condition never selects, before or after. -/
theorem matched_update_of_disjoint {selected : ρ → Prop} [DecidablePred selected]
    (hdisjoint : ∀ row ∈ rows, matching row → ¬ selected row ∧ ¬ selected (change row)) :
    matched selected (update matching change rows) = matched selected rows := by
  rw [matched, matched, update]
  induction rows with
  | nil => rfl
  | cons row rows ih =>
    obtain ⟨hhead, htail⟩ := List.forall_mem_cons.mp hdisjoint
    rw [List.map_cons, List.filter_cons, List.filter_cons, ih htail]
    by_cases hmatch : matching row
    · obtain ⟨hbefore, hafter⟩ := hhead hmatch
      rw [if_pos hmatch, decide_eq_false hbefore, decide_eq_false hafter]
      rfl
    · rw [if_neg hmatch]

theorem matched_append {others : List ρ} :
    matched matching (rows ++ others) = matched matching rows ++ matched matching others :=
  List.filter_append ..

/-- A condition that implies a value of a unique key selects at most one row. -/
theorem matched_eq_singleton {key : ρ → κ} (hunique : (rows.map key).Nodup) (hrow : row ∈ rows)
    (hmatch : matching row) (hkey : ∀ other ∈ rows, matching other → key other = key row) :
    matched matching rows = [row] := by
  have hnodup : (matched matching rows).Nodup := (List.Nodup.of_map key hunique).filter _
  have hall : ∀ other ∈ matched matching rows, other = row := by
    intro other hother
    obtain ⟨hmem, hselected⟩ := mem_matched.mp hother
    exact List.inj_on_of_nodup_map hunique hmem hrow (hkey other hmem hselected)
  have hself : row ∈ matched matching rows := mem_matched.mpr ⟨hrow, hmatch⟩
  cases hfound : matched matching rows with
  | nil => exact absurd (hfound ▸ hself) List.not_mem_nil
  | cons first rest =>
    rw [hfound] at hall hnodup
    have hfirst := hall first List.mem_cons_self
    have hrest : rest = [] := by
      rw [List.eq_nil_iff_forall_not_mem]
      intro other hother
      have hother' := hall other (List.mem_cons_of_mem first hother)
      exact (List.nodup_cons.mp hnodup).1 (hfirst ▸ hother' ▸ hother)
    rw [hfirst, hrest]

/-- An update that leaves the keys alone leaves the list of keys alone. -/
theorem map_update {key : ρ → κ} (hkey : ∀ row ∈ rows, matching row → key (change row) = key row) :
    (update matching change rows).map key = rows.map key := by
  rw [update, List.map_map]
  apply List.map_congr_left
  intro row hmem
  rw [Function.comp_apply]
  split
  · rename_i hmatch
    exact hkey row hmem hmatch
  · rfl

theorem change_mem_update (hrow : row ∈ rows) (hmatch : matching row) :
    change row ∈ update matching change rows :=
  mem_update.mpr (.inl ⟨row, hrow, hmatch, rfl⟩)

theorem mem_update_of_not (hrow : row ∈ rows) (hmatch : ¬ matching row) :
    row ∈ update matching change rows :=
  mem_update.mpr (.inr ⟨hrow, hmatch⟩)

/-- An update that changes a row under its key changes the table. -/
theorem update_ne_self {key : ρ → κ} (hunique : (rows.map key).Nodup) (hrow : row ∈ rows)
    (hmatch : matching row) (hkey : key (change row) = key row) (hchange : change row ≠ row) :
    update matching change rows ≠ rows := by
  intro hsame
  have hmem : change row ∈ rows := by
    rw [← hsame]
    exact change_mem_update hrow hmatch
  exact hchange (List.inj_on_of_nodup_map hunique hmem hrow hkey)

theorem nodup_map_update {key : ρ → κ} (hunique : (rows.map key).Nodup)
    (hkey : ∀ row, key (change row) = key row) : ((update matching change rows).map key).Nodup := by
  rw [map_update fun row _ _ => hkey row]
  exact hunique

/-- A new row under a key that no row has. -/
theorem nodup_map_append {key : ρ → κ} (hunique : (rows.map key).Nodup)
    (hnew : ∀ other ∈ rows, key other ≠ key row) : ((rows ++ [row]).map key).Nodup := by
  rw [List.map_append, List.map_singleton, List.nodup_append]
  refine ⟨hunique, List.nodup_singleton _, ?_⟩
  intro found hfound last hlast heq
  obtain ⟨other, hother, rfl⟩ := List.mem_map.mp hfound
  exact hnew other hother (heq.trans (List.mem_singleton.mp hlast))

theorem nodup_map_delete {key : ρ → κ} (hunique : (rows.map key).Nodup) :
    ((delete matching rows).map key).Nodup :=
  hunique.sublist ((List.filter_sublist).map key)

/-- Rows with one key are one row. -/
theorem eq_of_key {key : ρ → κ} (hunique : (rows.map key).Nodup) {left right : ρ}
    (hleft : left ∈ rows) (hright : right ∈ rows) (hkey : key left = key right) : left = right :=
  List.inj_on_of_nodup_map hunique hleft hright hkey

/-- Of two rows that a condition selects, one has another key than a given one. -/
theorem exists_other_key {key : ρ → κ} (hunique : (rows.map key).Nodup) (k : κ)
    (hmany : 1 < (matched matching rows).length) : ∃ other ∈ rows, matching other ∧ key other ≠ k := by
  have hsub : List.Sublist (matched matching rows) rows := List.filter_sublist
  have hkeys : ((matched matching rows).map key).Nodup := hunique.sublist (hsub.map key)
  by_contra hnone
  have hall : ∀ other ∈ matched matching rows, key other = k := by
    intro other hother
    obtain ⟨hmem, hmatch⟩ := mem_matched.mp hother
    by_contra hne
    exact hnone ⟨other, hmem, hmatch, hne⟩
  match hfound : matched matching rows with
  | [] | [_] => simp [hfound] at hmany
  | first :: second :: rest =>
    rw [hfound] at hall hkeys
    have hfirst := hall first List.mem_cons_self
    have hsecond := hall second (List.mem_cons_of_mem first List.mem_cons_self)
    have hne := (List.nodup_cons.mp hkeys).1
    apply hne
    rw [hfirst, ← hsecond]
    exact List.mem_cons_self

/-- Rows that a condition selects are one row when it selects no two. -/
theorem eq_of_length_le_one (hone : (matched matching rows).length ≤ 1) {other : ρ} (hrow : row ∈ rows)
    (hmatch : matching row) (hother : other ∈ rows) (hotherMatch : matching other) : row = other := by
  have hmem : row ∈ matched matching rows := mem_matched.mpr ⟨hrow, hmatch⟩
  have hotherMem : other ∈ matched matching rows := mem_matched.mpr ⟨hother, hotherMatch⟩
  match hfound : matched matching rows with
  | [] => simp [hfound] at hmem
  | [only] =>
    rw [hfound, List.mem_singleton] at hmem hotherMem
    rw [hmem, hotherMem]
  | _ :: _ :: _ => simp [hfound] at hone

end lemmas

/-! Rows that correspond one to one. -/

section correspondence

variable {τ : Type} {Related : ρ → τ → Prop} {lefts : List ρ} {rights : List τ}

theorem related_of_mem_left (hrelated : List.Forall₂ Related lefts rights) {left : ρ} (hleft : left ∈ lefts) :
    ∃ right ∈ rights, Related left right := by
  induction hrelated with
  | nil => exact absurd hleft List.not_mem_nil
  | cons hfirst _ ih =>
    rcases List.mem_cons.mp hleft with rfl | hrest
    · exact ⟨_, List.mem_cons_self, hfirst⟩
    · obtain ⟨right, hright, hholds⟩ := ih hrest
      exact ⟨right, List.mem_cons_of_mem _ hright, hholds⟩

theorem related_of_mem_right (hrelated : List.Forall₂ Related lefts rights) {right : τ}
    (hright : right ∈ rights) : ∃ left ∈ lefts, Related left right := by
  induction hrelated with
  | nil => exact absurd hright List.not_mem_nil
  | cons hfirst _ ih =>
    rcases List.mem_cons.mp hright with rfl | hrest
    · exact ⟨_, List.mem_cons_self, hfirst⟩
    · obtain ⟨left, hleft, hholds⟩ := ih hrest
      exact ⟨left, List.mem_cons_of_mem _ hleft, hholds⟩

/-- Related rows that have one key have the same lists of keys. -/
theorem map_eq_of_related {leftKey : ρ → κ} {rightKey : τ → κ}
    (hkey : ∀ left right, Related left right → leftKey left = rightKey right)
    (hrelated : List.Forall₂ Related lefts rights) : lefts.map leftKey = rights.map rightKey := by
  induction hrelated with
  | nil => rfl
  | cons hfirst _ ih => rw [List.map_cons, List.map_cons, hkey _ _ hfirst, ih]

end correspondence

end table
