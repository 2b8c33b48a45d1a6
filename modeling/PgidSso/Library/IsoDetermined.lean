import PgidSso.Library.Iso
import PgidSso.Library.JsonDetermined

/-! An instant is determined by the text that `toISOString` writes of it. -/

namespace Timestamp

section calendar

/-- The days from the epoch to a day of the calendar. -/
def daysBefore (date : CalendarDay) : Int :=
  let year := if date.month ≤ 2 then date.year - 1 else date.year
  let era := year / 400
  let yearOfEra := year - era * 400
  let monthIndex := if date.month ≤ 2 then date.month + 9 else date.month - 3
  let dayOfYear := (153 * monthIndex + 2) / 5 + date.day - 1
  era * 146097 + (365 * yearOfEra + yearOfEra / 4 - yearOfEra / 100 + dayOfYear) - 719468

variable {dayOfEra yearOfEra : Int}

theorem yearOfEra_bounds (hlow : 0 ≤ dayOfEra) (hhigh : dayOfEra < 146097)
    (hyear : yearOfEra = (dayOfEra - dayOfEra / 1460 + dayOfEra / 36524 - dayOfEra / 146096) / 365) :
    0 ≤ yearOfEra ∧ yearOfEra ≤ 399 := by
  omega

theorem dayOfYear_bounds (hlow : 0 ≤ dayOfEra) (hhigh : dayOfEra < 146097)
    (hyear : yearOfEra = (dayOfEra - dayOfEra / 1460 + dayOfEra / 36524 - dayOfEra / 146096) / 365) :
    0 ≤ dayOfEra - (365 * yearOfEra + yearOfEra / 4 - yearOfEra / 100) ∧
      dayOfEra - (365 * yearOfEra + yearOfEra / 4 - yearOfEra / 100) ≤ 366 := by
  have hfours : yearOfEra / 4 ≤ dayOfEra / 1460 := by omega
  have hcenturies : dayOfEra / 36524 - dayOfEra / 146096 ≤ yearOfEra / 100 := by
    have hcases : dayOfEra / 36524 = 0 ∨ dayOfEra / 36524 = 1 ∨ dayOfEra / 36524 = 2 ∨ dayOfEra / 36524 = 3 ∨
        dayOfEra / 36524 = 4 := by omega
    rcases hcases with hcentury | hcentury | hcentury | hcentury | hcentury <;> omega
  exact ⟨by omega, by omega⟩

/-- What is needed of a day of the calendar to write it with fixed widths. -/
structure CalendarDay.Bounded (date : CalendarDay) (days : Int) : Prop where
  month : 1 ≤ date.month ∧ date.month ≤ 12
  day : 1 ≤ date.day ∧ date.day ≤ 99
  days : daysBefore date = days

theorem calendarDay_bounded (days : Int) : (calendarDay days).Bounded days := by
  obtain ⟨era, hera⟩ : ∃ era, era = (days + 719468) / 146097 := ⟨_, rfl⟩
  obtain ⟨dayOfEra, hday⟩ : ∃ dayOfEra, dayOfEra = days + 719468 - era * 146097 := ⟨_, rfl⟩
  obtain ⟨yearOfEra, hyear⟩ : ∃ yearOfEra,
      yearOfEra = (dayOfEra - dayOfEra / 1460 + dayOfEra / 36524 - dayOfEra / 146096) / 365 := ⟨_, rfl⟩
  obtain ⟨dayOfYear, hofYear⟩ : ∃ dayOfYear,
      dayOfYear = dayOfEra - (365 * yearOfEra + yearOfEra / 4 - yearOfEra / 100) := ⟨_, rfl⟩
  obtain ⟨monthIndex, hmonth⟩ : ∃ monthIndex, monthIndex = (5 * dayOfYear + 2) / 153 := ⟨_, rfl⟩
  have hlow : 0 ≤ dayOfEra := by omega
  have hhigh : dayOfEra < 146097 := by omega
  obtain ⟨hfirst, hlast⟩ := yearOfEra_bounds hlow hhigh hyear
  obtain ⟨hnew, hold⟩ := dayOfYear_bounds hlow hhigh hyear
  rw [← hofYear] at hnew hold
  have hindex : 0 ≤ monthIndex ∧ monthIndex ≤ 11 := by omega
  have hdate : calendarDay days =
      { year := yearOfEra + era * 400 +
          if (if monthIndex < 10 then monthIndex + 3 else monthIndex - 9) ≤ 2 then 1 else 0
        month := if monthIndex < 10 then monthIndex + 3 else monthIndex - 9
        day := dayOfYear - (153 * monthIndex + 2) / 5 + 1 } := by
    rw [hmonth, hofYear, hyear, hday, hera]
    rfl
  clear hyear
  rw [hdate]
  refine ⟨?_, ?_, ?_⟩
  · dsimp only
    split <;> omega
  · dsimp only
    omega
  · have hyearBack : ∀ month : Int, (if month ≤ 2 then yearOfEra + era * 400 + (if month ≤ 2 then 1 else 0) - 1
        else yearOfEra + era * 400 + if month ≤ 2 then 1 else 0) = yearOfEra + era * 400 := by
      intro month
      split <;> omega
    have hmonthBack : (if (if monthIndex < 10 then monthIndex + 3 else monthIndex - 9) ≤ 2
        then (if monthIndex < 10 then monthIndex + 3 else monthIndex - 9) + 9
        else (if monthIndex < 10 then monthIndex + 3 else monthIndex - 9) - 3) = monthIndex := by
      split <;> split at * <;> omega
    have heraBack : (yearOfEra + era * 400) / 400 = era := by omega
    have hofEra : yearOfEra + era * 400 - era * 400 = yearOfEra := by omega
    simp only [daysBefore, hyearBack, hmonthBack, heraBack, hofEra]
    omega

end calendar

section fields

variable {width : Nat} {left right : Int}

theorem digitsValue_replicate_zero (count : Nat) (text : Text) :
    json.digitsValue (List.replicate count (Text.unit '0') ++ text) = json.digitsValue text := by
  induction count with
  | zero => rfl
  | succ count ih =>
    rw [List.replicate_succ, List.cons_append, json.digitsValue, List.foldl_cons]
    exact ih

/-- A number is determined by its text with leading zeros. -/
theorem padded_inj (hleft : 0 ≤ left) (hright : 0 ≤ right) (hsame : padded width left = padded width right) :
    left = right := by
  have hvalue := congrArg json.digitsValue hsame
  rw [padded, padded, Text.padStart, Text.padStart, digitsValue_replicate_zero, digitsValue_replicate_zero,
    json.digitsValue_decimal, json.digitsValue_decimal] at hvalue
  omega

theorem length_padded (hwidth : 0 < width) (hleft : left.toNat < 10 ^ width) : (padded width left).length = width := by
  have hdigits : (Text.decimal left.toNat).length ≤ width := by
    rw [Text.decimal, List.length_map]
    exact (Nat.length_toDigits_le_iff (by decide) hwidth).mpr hleft
  rw [padded, Text.padStart, List.length_append, List.length_replicate]
  omega

theorem isDigit_padded : ∀ code ∈ padded width left, json.isDigit code = true := by
  intro code hcode
  rw [padded, Text.padStart, List.mem_append] at hcode
  rcases hcode with hzero | hdigit
  · rw [List.eq_of_mem_replicate hzero]
    decide
  · exact json.decimal_digits _ code hdigit

/-- A sign is no digit. -/
theorem sign_ne_padded {sign : Text} {code : UInt16} (hcode : code ∈ sign.head?) (hsign : json.isDigit code = false)
    {rest : Text} : sign ++ rest ≠ padded width left := by
  intro hsame
  have hmem : code ∈ padded width left := by
    rw [← hsame]
    exact List.mem_append_left rest (List.mem_of_mem_head? hcode)
  rw [isDigit_padded code hmem] at hsign
  cases hsign

theorem yearText_inj (hsame : yearText left = yearText right) : left = right := by
  have hminus : Text.unit '-' ∈ (Text.of "-").head? := rfl
  have hplus : Text.unit '+' ∈ (Text.of "+").head? := rfl
  unfold yearText at hsame
  split at hsame
  · split at hsame
    · have hyears := padded_inj (by omega) (by omega) (List.append_cancel_left hsame)
      omega
    split at hsame
    · exact absurd hsame (sign_ne_padded hminus (by decide))
    · exact absurd (List.cons.inj hsame).1 (by decide)
  split at hsame
  · split at hsame
    · exact absurd hsame.symm (sign_ne_padded hminus (by decide))
    split at hsame
    · exact padded_inj (by omega) (by omega) hsame
    · exact absurd hsame.symm (sign_ne_padded hplus (by decide))
  · split at hsame
    · exact absurd (List.cons.inj hsame).1 (by decide)
    split at hsame
    · exact absurd hsame (sign_ne_padded hplus (by decide))
    · exact padded_inj (by omega) (by omega) (List.append_cancel_left hsame)

end fields

/-- A field with a fixed width, after what comes before it and its separator. -/
theorem field_inj {width : Nat} {left right : Int} {before other : Text} {separator : String} (hwidth : 0 < width)
    (hleft : 0 ≤ left ∧ left.toNat < 10 ^ width) (hright : 0 ≤ right ∧ right.toNat < 10 ^ width)
    (hsame : before ++ Text.of separator ++ padded width left = other ++ Text.of separator ++ padded width right) :
    before = other ∧ left = right := by
  have hlength : (padded width left).length = (padded width right).length := by
    rw [length_padded hwidth hleft.2, length_padded hwidth hright.2]
  obtain ⟨hbefore, hfield⟩ := List.append_inj' hsame hlength
  exact ⟨List.append_cancel_right hbefore, padded_inj hleft.1 hright.1 hfield⟩

theorem iso_inj {left right : Timestamp} (hsame : left.iso = right.iso) : left = right := by
  obtain ⟨hmonth, hday, hdays⟩ := calendarDay_bounded (left.ms / 86400000)
  obtain ⟨hmonth', hday', hdays'⟩ := calendarDay_bounded (right.ms / 86400000)
  have hsame := List.append_cancel_right hsame
  obtain ⟨hsame, hmilliseconds⟩ := field_inj (by decide) (by omega) (by omega) hsame
  obtain ⟨hsame, hseconds⟩ := field_inj (by decide) (by omega) (by omega) hsame
  obtain ⟨hsame, hminutes⟩ := field_inj (by decide) (by omega) (by omega) hsame
  obtain ⟨hsame, hhours⟩ := field_inj (by decide) (by omega) (by omega) hsame
  obtain ⟨hsame, hdayOfMonth⟩ := field_inj (by decide) (by omega) (by omega) hsame
  obtain ⟨hsame, hmonthOfYear⟩ := field_inj (by decide) (by omega) (by omega) hsame
  have hdate : calendarDay (left.ms / 86400000) = calendarDay (right.ms / 86400000) := by
    rw [CalendarDay.mk.injEq]
    exact ⟨yearText_inj hsame, hmonthOfYear, hdayOfMonth⟩
  rw [hdate, hdays'] at hdays
  apply Timestamp.ext_ms
  omega

end Timestamp
