import TriggerLedger.Command.Failure
/-!
# Looking back

Commands look back by a number of days or by a duration such as `30d`, `24h` or
`90m`; a number alone counts days.
-/

namespace TriggerLedger.Command

def daysSpan (days : Int) : Except Failure Span :=
  match Span.ofDays? days with
  | some span => .ok span
  | none => .error (.invalidState (.daysRange days))

/-- The instant a span before now. -/
def cutoffBefore (now : Instant) (span : Span) : Except Failure Instant :=
  match now.sub? span with
  | some cutoff => .ok cutoff
  | none => .error (.invalidState (.lookBack span))

/-- Read one or more decimal digits. -/
def readMagnitude (digits : List Char) : Option Nat :=
  if digits.isEmpty || !digits.all Char.isDigit then none else some (Text.digitsValue digits)

/-- Read an integer of 64 bits, with an optional sign. -/
def readInteger (text : List Char) : Option Int :=
  let value : Option Int :=
    match text with
    | '-' :: digits => (readMagnitude digits).map fun magnitude => -(magnitude : Int)
    | '+' :: digits => (readMagnitude digits).map fun magnitude => (magnitude : Int)
    | digits => (readMagnitude digits).map fun magnitude => (magnitude : Int)
  value.filter fun value => -(half64 : Int) ≤ value && value < (half64 : Int)

/-- The milliseconds of the unit that a duration ends with, and what comes before it. -/
def splitUnit (text : List Char) : Int × List Char :=
  match text.reverse with
  | 'd' :: reversed => (86400000, reversed.reverse)
  | 'h' :: reversed => (3600000, reversed.reverse)
  | 'm' :: reversed => (60000, reversed.reverse)
  | _ => (86400000, text)

/-- The span of an empty duration: seven days. -/
def defaultSpan : Span := .ofMillis (7 * Span.millisPerDay)

def parseDuration (text : String) : Except Failure Span :=
  let trimmed := Text.trim text
  if trimmed.isEmpty then .ok defaultSpan
  else
    let (unit, digits) := splitUnit trimmed.toList
    match readInteger digits with
    | none => .error (.invalidState (.duration trimmed))
    | some count =>
      match Span.ofUnits? unit count with
      | none => .error (.invalidState (.durationRange trimmed))
      | some span => .ok span

end TriggerLedger.Command
