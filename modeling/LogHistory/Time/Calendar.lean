import LogHistory.Time.Instant
import LogHistory.Text.Numeral

/-!
# Dates and times of day

Instants are shown by the Gregorian calendar in UTC, carried back before its introduction. Days are
counted in eras of 400 years, which all have 146097 days, and within an era in years that start in
March, so that the leap day comes last.

A year outside 0 to 9999 has a sign and at least four digits. The fraction of a second has 0, 3, 6
or 9 digits, the fewest that lose nothing. In a leap second the seconds show as 60 or above.
-/

namespace LogHistory

/-- A day of the calendar. -/
structure Date where
  /-- The year, with 0 for the year before the year 1. -/
  year : Int
  /-- The month, from 1. -/
  month : Nat
  /-- The day of the month, from 1. -/
  day : Nat
  deriving DecidableEq, Repr

namespace Date

/-- The date so many days after 1970-01-01. -/
def ofDays (days : Int) : Date :=
  let fromMarch := days + 719468
  let era := fromMarch / 146097
  let dayOfEra := (fromMarch % 146097).toNat
  let yearOfEra :=
    (dayOfEra - dayOfEra / 1460 + dayOfEra / 36524 - dayOfEra / 146096) / 365
  let dayOfYear := dayOfEra - (365 * yearOfEra + yearOfEra / 4 - yearOfEra / 100)
  let monthFromMarch := (5 * dayOfYear + 2) / 153
  let day := dayOfYear - (153 * monthFromMarch + 2) / 5 + 1
  let month := if monthFromMarch < 10 then monthFromMarch + 3 else monthFromMarch - 9
  ⟨era * 400 + yearOfEra + (if month ≤ 2 then 1 else 0), month, day⟩

/-- The year as it is shown. -/
def yearText (year : Int) : String :=
  if 0 ≤ year ∧ year ≤ 9999 then Numeral.padded 4 year.toNat
  else (if year < 0 then "-" else "+") ++ Numeral.padded 4 year.natAbs

/-- Year, month and day with hyphens between them. -/
def text (d : Date) : String :=
  yearText d.year ++ "-" ++ Numeral.padded 2 d.month ++ "-" ++ Numeral.padded 2 d.day

end Date

namespace Instant

/-- The seconds since midnight. -/
def secondOfDay (t : Instant) : Nat := (t.secs % 86400).toNat

/-- The day the instant lies in. -/
def date (t : Instant) : Date := Date.ofDays (t.secs / 86400)

/-- The fraction of a second with the fewest digits out of 0, 3, 6 and 9. -/
def fractionText (nanos : Nat) : String :=
  if nanos = 0 then ""
  else if nanos % 1000000 = 0 then "." ++ Numeral.padded 3 (nanos / 1000000)
  else if nanos % 1000 = 0 then "." ++ Numeral.padded 6 (nanos / 1000)
  else "." ++ Numeral.padded 9 nanos

/-- Hours, minutes and seconds with colons between them, and the fraction of the second. -/
def timeText (t : Instant) : String :=
  let s := t.secondOfDay
  let carry := if t.isLeap then 1 else 0
  Numeral.padded 2 (s / 3600) ++ ":" ++ Numeral.padded 2 (s / 60 % 60) ++ ":"
    ++ Numeral.padded 2 (s % 60 + carry) ++ fractionText (t.nanos - carry * 1000000000)

/-- The instant as messages show it. -/
def text (t : Instant) : String := t.date.text ++ " " ++ t.timeText ++ " UTC"

/-- The instant in the form of RFC 3339. -/
def rfc3339 (t : Instant) : String := t.date.text ++ "T" ++ t.timeText ++ "Z"

end Instant

end LogHistory
