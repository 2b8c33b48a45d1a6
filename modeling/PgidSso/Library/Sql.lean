import PgidSso.Library.Checked

/-! Three-valued conditions, guarded row updates and batches of statements. A `CHECK`
passes unless it is false; a `WHERE` or a trigger's `WHEN` holds only if it is true. -/

open checked

namespace sql

/-- The value of a condition; `none` is `NULL`. -/
abbrev Truth := Option Bool

namespace Truth

def and (left right : Truth) : Truth :=
  match left, right with
  | some false, _ => some false
  | _, some false => some false
  | some true, right => right
  | none, _ => none

def or (left right : Truth) : Truth :=
  match left, right with
  | some true, _ => some true
  | _, some true => some true
  | some false, right => right
  | none, _ => none

end Truth

/-- The conjunction of the conditions. -/
def all : List Truth → Truth
  | [] => some true
  | condition :: conditions => condition.and (all conditions)

/-- The disjunction of the conditions. -/
def any : List Truth → Truth
  | [] => some false
  | condition :: conditions => condition.or (any conditions)

def not (condition : Truth) : Truth :=
  condition.map fun value => !value

/-- The condition is true. -/
def Holds (condition : Truth) : Prop :=
  condition = some true

/-- The condition is not false. -/
def Passes (condition : Truth) : Prop :=
  condition ≠ some false

instance (condition : Truth) : Decidable (Holds condition) :=
  inferInstanceAs (Decidable (condition = some true))

instance (condition : Truth) : Decidable (Passes condition) :=
  inferInstanceAs (Decidable (condition ≠ some false))

section operators

variable {α : Type}

/-- A comparison with `NULL` is `NULL`. -/
def compare (R : α → α → Prop) [DecidableRel R] (left right : Option α) : Truth :=
  match left, right with
  | some left, some right => some (decide (R left right))
  | _, _ => none

/-- `left = right`. -/
def eq [DecidableEq α] (left right : Option α) : Truth :=
  compare (fun left right => left = right) left right

/-- `left <> right`. -/
def ne [DecidableEq α] (left right : Option α) : Truth :=
  compare (fun left right => left ≠ right) left right

/-- `left <= right`. -/
def le [LE α] [DecidableLE α] (left right : Option α) : Truth :=
  compare (fun left right => left ≤ right) left right

/-- `left < right`. -/
def lt [LT α] [DecidableLT α] (left right : Option α) : Truth :=
  compare (fun left right => left < right) left right

/-- `left IS right`. -/
def is [DecidableEq α] (left right : Option α) : Truth :=
  some (decide (left = right))

/-- `left IS NOT right`. -/
def isNot [DecidableEq α] (left right : Option α) : Truth :=
  some (decide (left ≠ right))

def isNull (value : Option α) : Truth :=
  some value.isNone

def isNotNull (value : Option α) : Truth :=
  some value.isSome

/-- `value IN (…)`. -/
def within [DecidableEq α] (value : Option α) (values : List α) : Truth :=
  value.map fun value => decide (value ∈ values)

/-- `value BETWEEN low AND high`. -/
def between [LE α] [DecidableLE α] (value : Option α) (low high : α) : Truth :=
  value.map fun value => decide (low ≤ value ∧ value ≤ high)

/-- A condition that no operand can make `NULL`. -/
def fact (condition : Prop) [Decidable condition] : Truth :=
  some (decide condition)

end operators

section truth

variable {α : Type} {condition left right : Truth} {conditions : List Truth}

@[simp] theorem holds_and : Holds (left.and right) ↔ Holds left ∧ Holds right := by
  rcases left with _ | _ | _ <;> rcases right with _ | _ | _ <;> simp [Holds, Truth.and]

@[simp] theorem holds_or : Holds (left.or right) ↔ Holds left ∨ Holds right := by
  rcases left with _ | _ | _ <;> rcases right with _ | _ | _ <;> simp [Holds, Truth.or]

@[simp] theorem passes_and : Passes (left.and right) ↔ Passes left ∧ Passes right := by
  rcases left with _ | _ | _ <;> rcases right with _ | _ | _ <;> simp [Passes, Truth.and]

@[simp] theorem passes_or : Passes (left.or right) ↔ Passes left ∨ Passes right := by
  rcases left with _ | _ | _ <;> rcases right with _ | _ | _ <;> simp [Passes, Truth.or]

@[simp] theorem holds_all_nil : Holds (all []) := rfl

@[simp] theorem holds_all_cons :
    Holds (all (condition :: conditions)) ↔ Holds condition ∧ Holds (all conditions) :=
  holds_and

@[simp] theorem passes_all_nil : Passes (all []) := by
  simp [all, Passes]

@[simp] theorem passes_all_cons :
    Passes (all (condition :: conditions)) ↔ Passes condition ∧ Passes (all conditions) :=
  passes_and

@[simp] theorem holds_any_nil : ¬ Holds (any []) := by
  simp [any, Holds]

@[simp] theorem holds_any_cons :
    Holds (any (condition :: conditions)) ↔ Holds condition ∨ Holds (any conditions) :=
  holds_or

theorem holds_any_iff : Holds (any conditions) ↔ ∃ condition ∈ conditions, Holds condition := by
  induction conditions with
  | nil => simp
  | cons first rest ih => simp [ih]

@[simp] theorem passes_any_nil : ¬ Passes (any []) := by
  simp [any, Passes]

@[simp] theorem passes_any_cons :
    Passes (any (condition :: conditions)) ↔ Passes condition ∨ Passes (any conditions) :=
  passes_or

@[simp] theorem holds_not : Holds (not condition) ↔ ¬ Passes condition := by
  rcases condition with _ | _ | _ <;> simp [Holds, Passes, not]

theorem Truth.false_and : Truth.and (some false) condition = some false := by
  cases condition <;> rfl

theorem Truth.true_and : Truth.and (some true) condition = condition := by
  rcases condition with _ | _ | _ <;> rfl

theorem Truth.and_false : Truth.and condition (some false) = some false := by
  rcases condition with _ | _ | _ <;> rfl

theorem Truth.none_and_none_and :
    Truth.and none (Truth.and none condition) = Truth.and none condition := by
  rcases condition with _ | _ | _ <;> rfl

theorem Truth.true_or : Truth.or (some true) condition = some true := by
  cases condition <;> rfl

theorem Truth.or_true : Truth.or condition (some true) = some true := by
  rcases condition with _ | _ | _ <;> rfl

theorem Truth.false_or : Truth.or (some false) condition = condition := by
  rcases condition with _ | _ | _ <;> rfl

theorem Truth.or_false : condition.or (some false) = condition := by
  rcases condition with _ | _ | _ <;> rfl

theorem Truth.none_or_none_or :
    Truth.or none (Truth.or none condition) = Truth.or none condition := by
  rcases condition with _ | _ | _ <;> rfl

/-- What is known of the left condition is known of the right one. -/
def Truth.Refines (left right : Truth) : Prop :=
  ∀ value, left = some value → right = some value

theorem refines_rfl : condition.Refines condition :=
  fun _ hvalue => hvalue

theorem refines_and {other next : Truth} (hleft : left.Refines right) (hother : other.Refines next) :
    (left.and other).Refines (right.and next) := by
  intro value hvalue
  cases value with
  | true =>
    obtain ⟨htrue, hrest⟩ := holds_and.mp hvalue
    exact holds_and.mpr ⟨hleft true htrue, hother true hrest⟩
  | false =>
    apply Decidable.byContradiction
    intro hpasses
    obtain ⟨hfirst, hsecond⟩ := passes_and.mp hpasses
    exact passes_and.mpr ⟨fun hfalse => hfirst (hleft false hfalse), fun hfalse => hsecond (hother false hfalse)⟩
      hvalue

theorem refines_or {other next : Truth} (hleft : left.Refines right) (hother : other.Refines next) :
    (left.or other).Refines (right.or next) := by
  intro value hvalue
  cases value with
  | true =>
    rcases holds_or.mp hvalue with htrue | htrue
    · exact holds_or.mpr (.inl (hleft true htrue))
    · exact holds_or.mpr (.inr (hother true htrue))
  | false =>
    apply Decidable.byContradiction
    intro hpasses
    rcases passes_or.mp hpasses with hfirst | hsecond
    · exact passes_or.mpr (.inl fun hfalse => hfirst (hleft false hfalse)) hvalue
    · exact passes_or.mpr (.inr fun hfalse => hsecond (hother false hfalse)) hvalue

@[simp] theorem holds_compare {R : α → α → Prop} [DecidableRel R] {x y : Option α} :
    Holds (compare R x y) ↔ ∃ left ∈ x, ∃ right ∈ y, R left right := by
  cases x <;> cases y <;> simp [compare, Holds]

@[simp] theorem passes_compare {R : α → α → Prop} [DecidableRel R] {x y : Option α} :
    Passes (compare R x y) ↔ ∀ left ∈ x, ∀ right ∈ y, R left right := by
  cases x <;> cases y <;> simp [compare, Passes]

@[simp] theorem holds_eq [DecidableEq α] {x y : Option α} :
    Holds (eq x y) ↔ ∃ value, x = some value ∧ y = some value := by
  simp only [eq, holds_compare, Option.mem_def]
  constructor
  · rintro ⟨left, hleft, right, hright, rfl⟩
    exact ⟨left, hleft, hright⟩
  · rintro ⟨value, hx, hy⟩
    exact ⟨value, hx, value, hy, rfl⟩

@[simp] theorem passes_eq [DecidableEq α] {x y : Option α} :
    Passes (eq x y) ↔ ∀ left ∈ x, ∀ right ∈ y, left = right :=
  passes_compare

@[simp] theorem holds_ne [DecidableEq α] {x y : Option α} :
    Holds (ne x y) ↔ ∃ left ∈ x, ∃ right ∈ y, left ≠ right :=
  holds_compare

@[simp] theorem passes_ne [DecidableEq α] {x y : Option α} :
    Passes (ne x y) ↔ ∀ left ∈ x, ∀ right ∈ y, left ≠ right :=
  passes_compare

@[simp] theorem holds_le [LE α] [DecidableLE α] {x y : Option α} :
    Holds (le x y) ↔ ∃ left ∈ x, ∃ right ∈ y, left ≤ right :=
  holds_compare

@[simp] theorem passes_le [LE α] [DecidableLE α] {x y : Option α} :
    Passes (le x y) ↔ ∀ left ∈ x, ∀ right ∈ y, left ≤ right :=
  passes_compare

@[simp] theorem holds_lt [LT α] [DecidableLT α] {x y : Option α} :
    Holds (lt x y) ↔ ∃ left ∈ x, ∃ right ∈ y, left < right :=
  holds_compare

@[simp] theorem passes_lt [LT α] [DecidableLT α] {x y : Option α} :
    Passes (lt x y) ↔ ∀ left ∈ x, ∀ right ∈ y, left < right :=
  passes_compare

@[simp] theorem holds_fact {condition : Prop} [Decidable condition] :
    Holds (fact condition) ↔ condition := by
  simp [Holds, fact]

@[simp] theorem passes_fact {condition : Prop} [Decidable condition] :
    Passes (fact condition) ↔ condition := by
  simp [Passes, fact]

@[simp] theorem passes_is [DecidableEq α] {x y : Option α} : Passes (is x y) ↔ x = y :=
  passes_fact

@[simp] theorem holds_isNot [DecidableEq α] {x y : Option α} : Holds (isNot x y) ↔ x ≠ y :=
  holds_fact

@[simp] theorem passes_isNot [DecidableEq α] {x y : Option α} : Passes (isNot x y) ↔ x ≠ y :=
  passes_fact

@[simp] theorem holds_isNull {x : Option α} : Holds (isNull x) ↔ x = none := by
  cases x <;> simp [Holds, isNull]

@[simp] theorem passes_isNull {x : Option α} : Passes (isNull x) ↔ x = none := by
  cases x <;> simp [Passes, isNull]

@[simp] theorem holds_isNotNull {x : Option α} : Holds (isNotNull x) ↔ x ≠ none := by
  cases x <;> simp [Holds, isNotNull]

@[simp] theorem passes_isNotNull {x : Option α} : Passes (isNotNull x) ↔ x ≠ none := by
  cases x <;> simp [Passes, isNotNull]

@[simp] theorem passes_within [DecidableEq α] {x : Option α} {values : List α} :
    Passes (within x values) ↔ ∀ value ∈ x, value ∈ values := by
  cases x <;> simp [Passes, within]

theorem passes_map {x : Option α} {P : α → Prop} [DecidablePred P] :
    Passes (x.map fun value => decide (P value)) ↔ ∀ value ∈ x, P value := by
  cases x <;> simp [Passes]

@[simp] theorem passes_between [LE α] [DecidableLE α] {x : Option α} {low high : α} :
    Passes (between x low high) ↔ ∀ value ∈ x, low ≤ value ∧ value ≤ high := by
  cases x <;> simp [Passes, between]

end truth

section rows

variable {ρ ε : Type}

end rows

section batches

variable {δ ε : Type}

end batches

section deliveries

variable {δ ε : Type}

/-- What becomes of a statement that is sent: its answer arrives, or only the answer is
lost, or the statement is. -/
inductive Delivery
  | answered
  | answerLost
  | requestLost
  deriving DecidableEq, Repr

/-- The number of changed rows, if an answer arrives that is no error, and the database. -/
def Delivery.send (statement : δ → Except ε (δ × Nat)) (database : δ) : Delivery → Option Nat × δ
  | .answered =>
    match statement database with
    | .ok (next, changes) => (some changes, next)
    | .error _ => (none, database)
  | .answerLost =>
    match statement database with
    | .ok (next, _) => (none, next)
    | .error _ => (none, database)
  | .requestLost => (none, database)

/-- A statement that is sent has no effect, or its own. -/
theorem Delivery.send_effect (delivery : Delivery) (statement : δ → Except ε (δ × Nat)) (database : δ) :
    (delivery.send statement database).2 = database ∨
      ∃ changes, statement database = .ok ((delivery.send statement database).2, changes) := by
  cases hstatement : statement database with
  | error abort =>
    left
    cases delivery <;> simp only [Delivery.send, hstatement]
  | ok result =>
    obtain ⟨next, changes⟩ := result
    cases delivery with
    | answered => exact Or.inr ⟨changes, by simp only [Delivery.send, hstatement]⟩
    | answerLost => exact Or.inr ⟨changes, by simp only [Delivery.send, hstatement]⟩
    | requestLost => exact Or.inl rfl

/-- What holds before a statement and is kept by it holds after it is sent. -/
theorem Delivery.send_invariant {Inv : δ → Prop} {statement : δ → Except ε (δ × Nat)} {database : δ}
    (delivery : Delivery) (hbefore : Inv database)
    (hkeeps : ∀ {next changes}, statement database = .ok (next, changes) → Inv next) :
    Inv (delivery.send statement database).2 := by
  rcases delivery.send_effect statement database with heq | ⟨changes, hstatement⟩
  · rwa [heq]
  · exact hkeeps hstatement

/-- A statement whose sending has an effect has it whether it is answered or not. -/
theorem Delivery.send_changed {delivery : Delivery} {statement : δ → Except ε (δ × Nat)} {database : δ}
    (hchanged : (delivery.send statement database).2 ≠ database) :
    ∃ next changes, (delivery.send statement database).2 = next ∧ statement database = .ok (next, changes) ∧
      Delivery.answered.send statement database = (some changes, next) ∧
      (delivery.send statement database = (some changes, next) ∨ delivery.send statement database = (none, next)) := by
  cases hstatement : statement database with
  | error abort => cases delivery <;> simp [Delivery.send, hstatement] at hchanged
  | ok result =>
    obtain ⟨next, changes⟩ := result
    have hanswered : Delivery.answered.send statement database = (some changes, next) := by
      simp only [Delivery.send, hstatement]
    cases delivery with
    | answered =>
      refine ⟨next, changes, ?_, rfl, hanswered, .inl hanswered⟩
      rw [hanswered]
    | answerLost =>
      have hlost : Delivery.answerLost.send statement database = (none, next) := by
        simp only [Delivery.send, hstatement]
      refine ⟨next, changes, ?_, rfl, hanswered, .inr hlost⟩
      rw [hlost]
    | requestLost => exact absurd rfl hchanged

/-- A statement that changes no row changes none, whether it is answered or not. -/
theorem Delivery.send_idle {statement : δ → Except ε (δ × Nat)} {database : δ} (delivery : Delivery)
    (hidle : statement database = .ok (database, 0)) :
    ∃ answer, delivery.send statement database = (answer, database) ∧ ∀ changes ∈ answer, changes = 0 := by
  cases delivery with
  | answered => exact ⟨some 0, by simp only [Delivery.send, hidle], by simp⟩
  | answerLost => exact ⟨none, by simp only [Delivery.send, hidle], by simp⟩
  | requestLost => exact ⟨none, rfl, by simp⟩

end deliveries

end sql
