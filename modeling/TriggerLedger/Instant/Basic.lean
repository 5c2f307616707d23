import TriggerLedger.Instant.Calendar
import TriggerLedger.Number.Power
/-!
# Instants and spans

An instant is a whole number of nanoseconds from the start of 1970 in UTC, and a
span is the distance of two instants.  Instants lie in the calendar years from
-262143 to 262142; a clock that is moved further stops at the bound.
-/

namespace TriggerLedger

/-- A distance in time. -/
structure Span where
  nanoseconds : Int
  deriving DecidableEq, Repr

/-- A point in time. -/
structure Instant where
  nanoseconds : Int
  deriving DecidableEq, Repr

namespace Span

/-- The nanoseconds of a millisecond. -/
def nanosPerMilli : Int := 1000000

/-- The milliseconds of a day. -/
def millisPerDay : Int := 86400000

def ofMillis (milliseconds : Int) : Span := ⟨milliseconds * nanosPerMilli⟩

/-- The whole milliseconds of a span, rounded toward zero. -/
def millis (span : Span) : Int := span.nanoseconds.tdiv nanosPerMilli

/-- The whole days of a span, rounded toward zero. -/
def wholeDays (span : Span) : Int := span.millis.tdiv millisPerDay

/-- The most milliseconds a span may have, either way. -/
def maxMillis : Int := half64 - 1

def longest : Span := ofMillis maxMillis

/-- A number of units of so many milliseconds, if it is not too long for a span. -/
def ofUnits? (unit count : Int) : Option Span :=
  let milliseconds := count * unit
  if -maxMillis ≤ milliseconds ∧ milliseconds ≤ maxMillis then some (ofMillis milliseconds)
  else none

/-- A span of days, if it is not too long. -/
def ofDays? (days : Int) : Option Span := ofUnits? millisPerDay days

end Span

namespace Instant

/-- The nanoseconds of a second. -/
def nanosPerSecond : Int := 1000000000

/-- The seconds of a day. -/
def secondsPerDay : Int := 86400

/-- The nanoseconds of a day. -/
def nanosPerDay : Int := secondsPerDay * nanosPerSecond

/-- The first year of the calendar. -/
def firstYear : Int := -262143

/-- The last year of the calendar. -/
def lastYear : Int := 262142

/-- The first instant of the calendar. -/
def earliest : Instant := ⟨Date.toDayNumber ⟨firstYear, 1, 1⟩ * nanosPerDay⟩

/-- The last instant of the calendar. -/
def latest : Instant := ⟨(Date.toDayNumber ⟨lastYear, 12, 31⟩ + 1) * nanosPerDay - 1⟩

/-- Whether an instant lies in the calendar. -/
def inCalendar (instant : Instant) : Bool :=
  earliest.nanoseconds ≤ instant.nanoseconds && instant.nanoseconds ≤ latest.nanoseconds

/-- An instant that is so many milliseconds after the start of 1970. -/
def ofMillis (milliseconds : Int) : Instant := ⟨milliseconds * Span.nanosPerMilli⟩

instance : LE Instant := ⟨fun first second => first.nanoseconds ≤ second.nanoseconds⟩

instance : LT Instant := ⟨fun first second => first.nanoseconds < second.nanoseconds⟩

instance (first second : Instant) : Decidable (first ≤ second) :=
  inferInstanceAs (Decidable (first.nanoseconds ≤ second.nanoseconds))

instance (first second : Instant) : Decidable (first < second) :=
  inferInstanceAs (Decidable (first.nanoseconds < second.nanoseconds))

/-- The span from one instant to a later one; negative if it is earlier. -/
def since (later earlier : Instant) : Span := ⟨later.nanoseconds - earlier.nanoseconds⟩

/-- The whole milliseconds from one instant to a later one, rounded toward zero. -/
def millisSince (later earlier : Instant) : Int := (later.since earlier).millis

/-- The instant a span later, if it is in the calendar. -/
def add? (instant : Instant) (span : Span) : Option Instant :=
  let sum : Instant := ⟨instant.nanoseconds + span.nanoseconds⟩
  if sum.inCalendar then some sum else none

/-- The instant a span earlier, if it is in the calendar. -/
def sub? (instant : Instant) (span : Span) : Option Instant :=
  instant.add? ⟨-span.nanoseconds⟩

/-- Move a clock by a span; it stops at the bounds of the calendar. -/
def advance (now : Instant) (span : Span) : Instant :=
  (now.add? span).getD (if span.nanoseconds < 0 then earliest else latest)

/-- The date of an instant. -/
def date (instant : Instant) : Date :=
  Date.ofDayNumber (instant.nanoseconds / nanosPerDay)

/-- The nanoseconds since midnight. -/
def nanosOfDay (instant : Instant) : Nat :=
  (instant.nanoseconds % nanosPerDay).toNat

/-- The hour of the day. -/
def hour (instant : Instant) : Nat := instant.nanosOfDay / 3600000000000

/-- The minute of the hour. -/
def minute (instant : Instant) : Nat := instant.nanosOfDay / 60000000000 % 60

/-- The second of the minute. -/
def second (instant : Instant) : Nat := instant.nanosOfDay / 1000000000 % 60

/-- The nanoseconds of the second. -/
def nanosOfSecond (instant : Instant) : Nat := instant.nanosOfDay % 1000000000

end Instant
end TriggerLedger
