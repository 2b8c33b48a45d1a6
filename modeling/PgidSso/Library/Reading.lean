import Mathlib.Data.List.Basic

/-! Computations that index a list: their value, and whether an index was past the end, where
an array of ECMAScript has `undefined`. -/

structure Reading (α : Type) where
  value : α
  past : Bool

namespace Reading

variable {α β : Type}

instance : Monad Reading where
  pure value := { value, past := false }
  bind reading next :=
    { value := (next reading.value).value, past := reading.past || (next reading.value).past }

@[simp] theorem value_pure (value : α) : (pure value : Reading α).value = value := rfl

@[simp] theorem past_pure (value : α) : (pure value : Reading α).past = false := rfl

@[simp] theorem value_bind (reading : Reading α) (next : α → Reading β) :
    (reading >>= next).value = (next reading.value).value := rfl

@[simp] theorem past_bind (reading : Reading α) (next : α → Reading β) :
    (reading >>= next).past = (reading.past || (next reading.value).past) := rfl

/-- `values[index]`. -/
def get (values : List α) (index : Nat) : Reading (Option α) where
  value := values[index]?
  past := decide (values.length ≤ index)

@[simp] theorem value_get (values : List α) (index : Nat) : (get values index).value = values[index]? := rfl

theorem past_get {values : List α} {index : Nat} (hindex : index < values.length) :
    (get values index).past = false :=
  decide_eq_false (Nat.not_le.mpr hindex)

/-- `first && rest`. -/
def and (first rest : Reading Bool) : Reading Bool := do
  if ← first then rest else return false

theorem value_and (first rest : Reading Bool) : (and first rest).value = (first.value && rest.value) := by
  rw [and, value_bind]
  cases first.value <;> rfl

theorem past_and {first rest : Reading Bool} (hfirst : first.past = false)
    (hrest : first.value = true → rest.past = false) : (and first rest).past = false := by
  rw [and, past_bind, hfirst, Bool.false_or]
  cases hvalue : first.value with
  | false => rfl
  | true => exact hrest hvalue

end Reading
