/-! Instants of the ECMAScript time range, and the part of it that a four-digit
calendar year can write. -/

/-- The largest distance from the epoch, in milliseconds, that a `Date` holds. -/
def Timestamp.maximumMs : Int := 8640000000000000

/-- A canonical UTC timestamp text, as the instant it denotes. The texts that
`new Date(value).toISOString() === value` accepts are the instants of this range. -/
structure Timestamp where
  ms : Int
  inRange : -Timestamp.maximumMs ≤ ms ∧ ms ≤ Timestamp.maximumMs
  deriving DecidableEq

namespace Timestamp

theorem ext_ms {left right : Timestamp} (hms : left.ms = right.ms) : left = right := by
  cases left
  cases right
  simp only at hms
  subst hms
  rfl

theorem eq_iff_ms {left right : Timestamp} : left = right ↔ left.ms = right.ms :=
  ⟨fun heq => heq ▸ rfl, ext_ms⟩

instance : LE Timestamp := ⟨fun left right => left.ms ≤ right.ms⟩

instance : LT Timestamp := ⟨fun left right => left.ms < right.ms⟩

theorem le_iff_ms {left right : Timestamp} : left ≤ right ↔ left.ms ≤ right.ms := Iff.rfl

theorem lt_iff_ms {left right : Timestamp} : left < right ↔ left.ms < right.ms := Iff.rfl

instance (left right : Timestamp) : Decidable (left ≤ right) :=
  inferInstanceAs (Decidable (left.ms ≤ right.ms))

instance (left right : Timestamp) : Decidable (left < right) :=
  inferInstanceAs (Decidable (left.ms < right.ms))

/-- `new Date(ms).toISOString()`: instants outside the range have no text. -/
def ofMs (ms : Int) : Except String Timestamp :=
  if hrange : -maximumMs ≤ ms ∧ ms ≤ maximumMs then .ok ⟨ms, hrange⟩
  else .error "Invalid time value"

theorem ofMs_eq_ok_iff {ms : Int} {instant : Timestamp} :
    ofMs ms = .ok instant ↔ instant.ms = ms := by
  unfold ofMs
  split
  · rename_i hrange
    simp only [Except.ok.injEq, eq_iff_ms, eq_comm]
  · rename_i hrange
    simp only [reduceCtorEq, false_iff]
    rintro rfl
    exact hrange instant.inRange

theorem ofMs_ok {ms : Int} (hrange : -maximumMs ≤ ms ∧ ms ≤ maximumMs) :
    ofMs ms = .ok ⟨ms, hrange⟩ :=
  ofMs_eq_ok_iff.mpr rfl

/-- Instants whose ISO text has the 24 characters of a four-digit year. -/
def FourDigitYear (instant : Timestamp) : Prop :=
  -62167219200000 ≤ instant.ms ∧ instant.ms ≤ 253402300799999

instance (instant : Timestamp) : Decidable instant.FourDigitYear :=
  inferInstanceAs (Decidable (_ ∧ _))

end Timestamp
