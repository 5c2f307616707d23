/-!
# The proleptic Gregorian calendar

Days are counted from 1970-01-01.  A year is counted from March on, so that the
leap day is its last day; a day number then splits into cycles of 400, 100, 4
and 1 years, of which the last one of 100 or 1 years may be a day longer.
-/

namespace TriggerLedger

/-- A date of the calendar. -/
structure Date where
  year : Int
  month : Nat
  day : Nat
  deriving DecidableEq, Repr

namespace Date

/-- Whether a year has a leap day. -/
def isLeap (year : Int) : Bool :=
  year % 4 == 0 && (year % 100 != 0 || year % 400 == 0)

/-- The number of days of a month. -/
def monthLength (year : Int) (month : Nat) : Nat :=
  match month with
  | 2 => if isLeap year then 29 else 28
  | 4 | 6 | 9 | 11 => 30
  | _ => 31

/-- Whether a date is in the calendar. -/
def isValid (date : Date) : Bool :=
  1 ≤ date.month && date.month ≤ 12 && 1 ≤ date.day && date.day ≤ monthLength date.year date.month

/-- The days from 0000-03-01 to 1970-01-01. -/
def epochOffset : Int := 719468

/-- The days of a March-based year before one of its months, March being month zero. -/
def daysBeforeMonth (month : Int) : Int := (153 * month + 2) / 5

/-- The days from 0000-03-01 to the start of a March-based year. -/
def daysBeforeYear (year : Int) : Int :=
  365 * year + year / 4 - year / 100 + year / 400

/-- The number of days from 1970-01-01 to a date. -/
def toDayNumber (date : Date) : Int :=
  let marchYear := if date.month ≤ 2 then date.year - 1 else date.year
  let marchMonth : Int := if date.month ≤ 2 then date.month + 9 else date.month - 3
  daysBeforeYear marchYear + daysBeforeMonth marchMonth + (date.day - 1) - epochOffset

/-- The March-based year of a day counted from 0000-03-01, and the day within it. -/
def splitYear (days : Int) : Int × Int :=
  let era := days / 146097
  let inEra := days % 146097
  let century := min (inEra / 36524) 3
  let inCentury := inEra - century * 36524
  let cycle := inCentury / 1461
  let inCycle := inCentury - cycle * 1461
  let single := min (inCycle / 365) 3
  (400 * era + 100 * century + 4 * cycle + single, inCycle - single * 365)

/-- The date of a day number. -/
def ofDayNumber (number : Int) : Date :=
  let (marchYear, inYear) := splitYear (number + epochOffset)
  let marchMonth := (5 * inYear + 2) / 153
  let day := inYear - daysBeforeMonth marchMonth + 1
  if marchMonth < 10 then ⟨marchYear, (marchMonth + 3).toNat, day.toNat⟩
  else ⟨marchYear + 1, (marchMonth - 9).toNat, day.toNat⟩

end Date
end TriggerLedger
