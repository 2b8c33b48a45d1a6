import PgidSso.Library.Text
import PgidSso.Library.Timestamp

/-! The text that `toISOString` writes of an instant. -/

namespace Timestamp

/-- A day of the proleptic Gregorian calendar. -/
structure CalendarDay where
  year : Int
  month : Int
  day : Int
  deriving DecidableEq

/-- The day that is so many days after the epoch. A year is counted from March on, so that
a leap day is the last one of its year. -/
def calendarDay (days : Int) : CalendarDay :=
  let shifted := days + 719468
  let era := shifted / 146097
  let dayOfEra := shifted - era * 146097
  let yearOfEra := (dayOfEra - dayOfEra / 1460 + dayOfEra / 36524 - dayOfEra / 146096) / 365
  let dayOfYear := dayOfEra - (365 * yearOfEra + yearOfEra / 4 - yearOfEra / 100)
  let monthIndex := (5 * dayOfYear + 2) / 153
  let month := if monthIndex < 10 then monthIndex + 3 else monthIndex - 9
  { year := yearOfEra + era * 400 + if month ≤ 2 then 1 else 0
    month
    day := dayOfYear - (153 * monthIndex + 2) / 5 + 1 }

/-- A number with leading zeros. -/
def padded (width : Nat) (value : Int) : Text :=
  Text.padStart width (Text.decimal value.toNat)

/-- A year that four digits cannot write has a sign and six of them. -/
def yearText (year : Int) : Text :=
  if year < 0 then Text.of "-" ++ padded 6 (-year)
  else if year ≤ 9999 then padded 4 year
  else Text.of "+" ++ padded 6 year

/-- `new Date(ms).toISOString()`. -/
def iso (instant : Timestamp) : Text :=
  let date := calendarDay (instant.ms / 86400000)
  yearText date.year ++ Text.of "-" ++ padded 2 date.month ++ Text.of "-" ++ padded 2 date.day ++
    Text.of "T" ++ padded 2 (instant.ms / 3600000 % 24) ++ Text.of ":" ++
    padded 2 (instant.ms / 60000 % 60) ++ Text.of ":" ++ padded 2 (instant.ms / 1000 % 60) ++
    Text.of "." ++ padded 3 (instant.ms % 1000) ++ Text.of "Z"

example : iso ⟨951868799999, by decide⟩ = Text.of "2000-02-29T23:59:59.999Z" := by decide

end Timestamp
