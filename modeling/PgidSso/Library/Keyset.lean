import Mathlib.Data.List.Perm.Basic

/-! Keyset pagination: a page is the rows after a cursor in the order of the listing, and
the cursor of the next page is the key of its last row. -/

namespace keyset

variable {α κ : Type}

/-- The order of a listing, as a total order of the keys. -/
structure Order (κ : Type) where
  le : κ → κ → Bool
  total : ∀ left right, (le left right || le right left) = true
  trans : ∀ {first second third}, le first second = true → le second third = true → le first third = true
  antisymm : ∀ {left right}, le left right = true → le right left = true → left = right

/-- The left key stands before the right one. -/
def Order.Before (order : Order κ) (left right : κ) : Prop :=
  order.le left right = true ∧ left ≠ right

theorem Order.not_le_of_before {order : Order κ} {left right : κ} (hbefore : order.Before left right) :
    order.le right left = false := by
  cases hle : order.le right left with
  | false => rfl
  | true => exact absurd (order.antisymm hbefore.1 hle) hbefore.2

theorem Order.le_refl (order : Order κ) (key : κ) : order.le key key = true := by
  simpa using order.total key key

/-- A page and the cursor of the next one. -/
structure Page (α κ : Type) where
  rows : List α
  next : Option κ
  deriving DecidableEq

variable (order : Order κ) (key : α → κ)

/-- The rows after the cursor, in the order of the listing, up to a limit. -/
def select (rows : List α) (cursor : Option κ) (limit : Nat) : List α :=
  ((rows.filter fun row => cursor.all fun last => !order.le (key row) last).mergeSort
    fun left right => order.le (key left) (key right)).take limit

/-- One row more than the page shows tells whether there is a next page. -/
def page (size : Nat) (rows : List α) (cursor : Option κ) : Page α κ :=
  let found := select order key rows cursor (size + 1)
  let more := size < found.length
  let shown := if more then found.take size else found
  ⟨shown, if more then shown.getLast?.map key else none⟩

/-- The rows of the pages from a cursor on, each read from the table as it then is. -/
def follow (size : Nat) (tables : Nat → List α) : Nat → Nat → Option κ → Option (List α)
  | 0, _, _ => none
  | fuel + 1, request, cursor =>
    let found := page order key size (tables request) cursor
    match found.next with
    | none => some found.rows
    | some next => (follow size tables fuel (request + 1) (some next)).map (found.rows ++ ·)

/-- The rows are in the order of the listing, and no key stands twice. -/
def Listed (rows : List α) : Prop :=
  rows.Pairwise fun left right => order.Before (key left) (key right)

variable {order key}

theorem page_of_more {size : Nat} {rows : List α} {cursor : Option κ}
    (hmore : size < (select order key rows cursor (size + 1)).length) :
    page order key size rows cursor =
      ⟨(select order key rows cursor (size + 1)).take size,
        ((select order key rows cursor (size + 1)).take size).getLast?.map key⟩ := by
  simp only [page]
  rw [if_pos hmore, if_pos hmore]

theorem page_of_last {size : Nat} {rows : List α} {cursor : Option κ}
    (hlast : ¬ size < (select order key rows cursor (size + 1)).length) :
    page order key size rows cursor = ⟨select order key rows cursor (size + 1), none⟩ := by
  simp only [page]
  rw [if_neg hlast, if_neg hlast]

theorem listed_le {rows : List α} (hlisted : Listed order key rows) :
    rows.Pairwise fun left right => order.le (key left) (key right) = true :=
  List.Pairwise.imp (fun hbefore => hbefore.1) hlisted

/-- A key stands for one row of a listing. -/
theorem eq_of_key {rows : List α} (hlisted : Listed order key rows) {left right : α} (hleft : left ∈ rows)
    (hright : right ∈ rows) (hkey : key left = key right) : left = right := by
  induction rows with
  | nil => cases hleft
  | cons row rows ih =>
    obtain ⟨hhead, htail⟩ := List.pairwise_cons.mp hlisted
    obtain rfl | hleftTail := List.mem_cons.mp hleft
    · obtain rfl | hrightTail := List.mem_cons.mp hright
      · rfl
      · exact absurd hkey (hhead right hrightTail).2
    · obtain rfl | hrightTail := List.mem_cons.mp hright
      · exact absurd hkey.symm (hhead left hleftTail).2
      · exact ih htail hleftTail hrightTail

/-- Sorting finds the listing. -/
theorem mergeSort_eq_of_perm {rows listing : List α} (hlisted : Listed order key listing)
    (hperm : rows.Perm listing) :
    (rows.mergeSort fun left right => order.le (key left) (key right)) = listing := by
  have hsorted : (rows.mergeSort fun left right => order.le (key left) (key right)).Pairwise
      fun left right => order.le (key left) (key right) = true := by
    apply List.pairwise_mergeSort
    · exact fun _ _ _ hfirst hsecond => order.trans hfirst hsecond
    · exact fun left right => order.total (key left) (key right)
  have hsame := (List.mergeSort_perm rows fun left right => order.le (key left) (key right)).trans hperm
  refine List.Perm.eq_of_pairwise ?_ hsorted (listed_le hlisted) hsame
  intro left right hleft hright hle hge
  exact eq_of_key hlisted (hsame.mem_iff.mp hleft) hright (order.antisymm hle hge)

section pages

variable {size : Nat} {shown rest : List α}

/-- The cursor after the rows that the pages before have shown. -/
def cursorAfter (key : α → κ) (shown : List α) : Option κ :=
  shown.getLast?.map key

/-- Of a listing the rows after the cursor are those that have not been shown. -/
theorem filter_listing (hlisted : Listed order key (shown ++ rest)) :
    ((shown ++ rest).filter fun row => (cursorAfter key shown).all fun last => !order.le (key row) last) = rest := by
  obtain hempty | ⟨earlier, last, rfl⟩ := List.eq_nil_or_concat shown
  · subst hempty
    simp [cursorAfter]
  · rw [List.concat_eq_append] at hlisted ⊢
    obtain ⟨hbefore, -, hafter⟩ := List.pairwise_append.mp hlisted
    have hlast : last ∈ earlier ++ [last] := List.mem_append_right earlier List.mem_cons_self
    have hshown : ∀ row ∈ earlier ++ [last], order.le (key row) (key last) = true := by
      intro row hrow
      obtain hrow | hrow := List.mem_append.mp hrow
      · exact ((List.pairwise_append.mp hbefore).2.2 row hrow last List.mem_cons_self).1
      · rw [List.mem_singleton.mp hrow]
        exact order.le_refl (key last)
    rw [List.filter_append, List.filter_eq_nil_iff.mpr, List.nil_append, List.filter_eq_self.mpr]
    · intro row hrow
      simp [cursorAfter, Order.not_le_of_before (hafter last hlast row hrow)]
    · intro row hrow
      simp [cursorAfter, hshown row hrow]

/-- Rows that stand before everything that has been shown are not after the cursor. -/
theorem filter_earlier {added : List α} (hshown : shown ≠ [])
    (hadded : ∀ row ∈ added, ∀ listed ∈ shown, order.Before (key row) (key listed)) :
    (added.filter fun row => (cursorAfter key shown).all fun last => !order.le (key row) last) = [] := by
  obtain hempty | ⟨earlier, last, rfl⟩ := List.eq_nil_or_concat shown
  · exact absurd hempty hshown
  · rw [List.concat_eq_append] at hadded ⊢
    rw [List.filter_eq_nil_iff]
    intro row hrow
    have hbefore := hadded row hrow last (List.mem_append_right earlier List.mem_cons_self)
    simp [cursorAfter, hbefore.1]

/-- A table whose rows after the cursor are the rest of the listing shows the next part
of it. -/
theorem page_eq (hlisted : Listed order key rest) {table : List α} {cursor : Option κ}
    (htable : (table.filter fun row => cursor.all fun last => !order.le (key row) last).Perm rest) :
    page order key size table cursor =
      ⟨rest.take size, if size < rest.length then cursorAfter key (rest.take size) else none⟩ := by
  have hselect : select order key table cursor (size + 1) = rest.take (size + 1) := by
    rw [select, mergeSort_eq_of_perm hlisted htable]
  have hmore : size < (select order key table cursor (size + 1)).length ↔ size < rest.length := by
    rw [hselect, List.length_take]
    omega
  by_cases hlong : size < rest.length
  · rw [page_of_more (hmore.mpr hlong), if_pos hlong, hselect, List.take_take, Nat.min_eq_left (Nat.le_succ size),
      cursorAfter]
  · rw [page_of_last (fun hlonger => hlong (hmore.mp hlonger)), if_neg hlong, hselect,
      List.take_of_length_le (by omega), List.take_of_length_le (by omega)]

/-- The pages show the rest of the listing, and then there is no next page. -/
theorem follow_eq (hsize : 0 < size) {listing : List α} (hlisted : Listed order key listing)
    {tables : Nat → List α} (hfirst : (tables 0).Perm listing)
    (htables : ∀ request, ∃ added, (tables request).Perm (added ++ listing) ∧
      ∀ row ∈ added, ∀ listed ∈ listing, order.Before (key row) (key listed))
    {fuel request : Nat} (hlisting : listing = shown ++ rest) (hstart : shown = [] → request = 0)
    (hfuel : rest.length < fuel) :
    follow order key size tables fuel request (cursorAfter key shown) = some rest := by
  induction fuel generalizing request shown rest with
  | zero => omega
  | succ fuel ih =>
    have hrest : Listed order key rest := (List.pairwise_append.mp (hlisting ▸ hlisted)).2.1
    have htable : ((tables request).filter fun row =>
        (cursorAfter key shown).all fun last => !order.le (key row) last).Perm rest := by
      by_cases hshown : shown = []
      · rw [hstart hshown]
        apply (hfirst.filter _).trans
        rw [hlisting, filter_listing (hlisting ▸ hlisted)]
      · obtain ⟨added, hperm, hadded⟩ := htables request
        apply (hperm.filter _).trans
        rw [List.filter_append, filter_earlier hshown, hlisting, filter_listing (hlisting ▸ hlisted), List.nil_append]
        intro row hrow listed hmem
        exact hadded row hrow listed (hlisting ▸ List.mem_append_left rest hmem)
    rw [follow, page_eq hrest htable]
    by_cases hlong : size < rest.length
    · have hshown : rest.take size ≠ [] := by
        intro hempty
        have hlength := congrArg List.length hempty
        rw [List.length_take, List.length_nil] at hlength
        omega
      have hcursor : cursorAfter key (rest.take size) = cursorAfter key (shown ++ rest.take size) := by
        rw [cursorAfter, cursorAfter, List.getLast?_append_of_ne_nil _ hshown]
      have hsplit : listing = (shown ++ rest.take size) ++ rest.drop size := by
        rw [List.append_assoc, List.take_append_drop, hlisting]
      have hnext : follow order key size tables fuel (request + 1) (cursorAfter key (shown ++ rest.take size)) =
          some (rest.drop size) :=
        ih hsplit (fun hempty => absurd (List.append_eq_nil_iff.mp hempty).2 hshown)
          (by rw [List.length_drop]; omega)
      obtain ⟨next, hsome⟩ : ∃ next, cursorAfter key (shown ++ rest.take size) = some next := by
        rw [← hcursor, cursorAfter, List.getLast?_eq_some_getLast hshown]
        exact ⟨_, rfl⟩
      rw [hsome] at hnext
      simp only [if_pos hlong, hcursor, hsome, hnext, Option.map_some, List.take_append_drop]
    · simp only [if_neg hlong]
      rw [List.take_of_length_le (by omega)]

end pages

end keyset
