import PgidSso.Library.Text

/-! Patterns of a fixed length, one class of characters for each place. -/

namespace Text

/-- The text has a character of each class, and no more. -/
def fits : List (UInt16 → Bool) → Text → Bool
  | [], [] => true
  | class_ :: pattern, code :: rest => class_ code && fits pattern rest
  | _, _ => false

/-- One character. -/
def exactly (char : Char) (code : UInt16) : Bool :=
  code = unit char

/-- `[0-9]` -/
def isDigit (code : UInt16) : Bool :=
  unit '0' ≤ code ∧ code ≤ unit '9'

/-- `[0-9a-f]` -/
def isHex (code : UInt16) : Bool :=
  isDigit code || (unit 'a' ≤ code ∧ code ≤ unit 'f')

section fits

variable {pattern : List (UInt16 → Bool)} {text : Text}

theorem length_of_fits (hfits : fits pattern text = true) : text.length = pattern.length := by
  induction pattern generalizing text with
  | nil =>
    cases text with
    | nil => rfl
    | cons code rest => cases hfits
  | cons first pattern ih =>
    cases text with
    | nil => cases hfits
    | cons code rest =>
      rw [fits, Bool.and_eq_true] at hfits
      rw [List.length_cons, List.length_cons, ih hfits.2]

/-- What every class of the pattern guarantees holds of every character. -/
theorem forall_of_fits {P : UInt16 → Prop} (hpattern : ∀ first ∈ pattern, ∀ code, first code = true → P code)
    (hfits : fits pattern text = true) : ∀ code ∈ text, P code := by
  induction pattern generalizing text with
  | nil =>
    cases text with
    | nil => exact fun code hcode => absurd hcode List.not_mem_nil
    | cons code rest => cases hfits
  | cons first pattern ih =>
    cases text with
    | nil => cases hfits
    | cons code rest =>
      obtain ⟨hfirst, hlater⟩ := List.forall_mem_cons.mp hpattern
      rw [fits, Bool.and_eq_true] at hfits
      exact List.forall_mem_cons.mpr ⟨hfirst code hfits.1, ih hlater hfits.2⟩

end fits

end Text
