import TriggerLedger.Instant.Basic
import TriggerLedger.Json.Codec
import TriggerLedger.Text.Blank
/-!
# Timestamps

An instant is written as an RFC 3339 timestamp in UTC with no more fraction
digits than it needs, in groups of three.  Reading is more liberal: numbers may
be short, the date and the time may be separated by a blank, white space may
stand around most parts, and any offset from UTC is accepted.
-/

namespace TriggerLedger.Instant

/-- The text of a year: four digits, or a sign and at least four digits outside 0 to 9999. -/
def yearText (year : Int) : String :=
  if 0 ≤ year ∧ year ≤ 9999 then Text.zeroPadded 4 year.toNat
  else (if year < 0 then "-" else "+") ++ Text.zeroPadded 4 year.natAbs

/-- The text of a date. -/
def dateText (instant : Instant) : String :=
  let date := instant.date
  yearText date.year ++ "-" ++ Text.zeroPadded 2 date.month ++ "-" ++ Text.zeroPadded 2 date.day

/-- The hour and the minute. -/
def hourMinuteText (instant : Instant) : String :=
  Text.zeroPadded 2 instant.hour ++ ":" ++ Text.zeroPadded 2 instant.minute

/-- The time of day to the second. -/
def timeText (instant : Instant) : String :=
  instant.hourMinuteText ++ ":" ++ Text.zeroPadded 2 instant.second

/-- The fraction of a second, with 0, 3, 6 or 9 digits. -/
def fractionText (nanoseconds : Nat) : String :=
  if nanoseconds = 0 then ""
  else if nanoseconds % 1000000 = 0 then "." ++ Text.zeroPadded 3 (nanoseconds / 1000000)
  else if nanoseconds % 1000 = 0 then "." ++ Text.zeroPadded 6 (nanoseconds / 1000)
  else "." ++ Text.zeroPadded 9 nanoseconds

/-- The timestamp of an instant. -/
def timestamp (instant : Instant) : String :=
  instant.dateText ++ "T" ++ instant.timeText ++ fractionText instant.nanosOfSecond ++ "Z"

/-- The timestamp without fraction of a second. -/
def shortTimestamp (instant : Instant) : String :=
  instant.dateText ++ "T" ++ instant.timeText ++ "Z"

/-- Read between one and `width` digits, after white space. -/
def readNumber (width : Nat) (text : List Char) : Option (Nat × List Char) :=
  let text := Text.trimStart text
  let digits := (text.take width).takeWhile Char.isDigit
  if digits.isEmpty then none else some (Text.digitsValue digits, text.drop digits.length)

/-- Read one or more digits without white space. -/
def readDigits (text : List Char) : Option (Nat × List Char) :=
  match text.span Char.isDigit with
  | ([], _) => none
  | (digits, rest) => some (Text.digitsValue digits, rest)

/-- Read a year: at most four digits, or a sign and any number of digits. -/
def readYear (text : List Char) : Option (Int × List Char) :=
  match Text.trimStart text with
  | '-' :: rest => (readDigits rest).map fun (year, rest) => (-(year : Int), rest)
  | '+' :: rest => (readDigits rest).map fun (year, rest) => ((year : Int), rest)
  | text => (readNumber 4 text).map fun (year, rest) => ((year : Int), rest)

/-- Read a separator, after white space. -/
def readMark (mark : Char) (text : List Char) : Option (List Char) :=
  match Text.trimStart text with
  | c :: rest => if c = mark then some rest else none
  | [] => none

/-- Read a date of the calendar. -/
def readDate (text : List Char) : Option (Date × List Char) := do
  let (year, text) ← readYear text
  let text ← readMark '-' text
  let (month, text) ← readNumber 2 text
  let text ← readMark '-' text
  let (day, text) ← readNumber 2 text
  let date : Date := ⟨year, month, day⟩
  if date.isValid ∧ firstYear ≤ year ∧ year ≤ lastYear then return (date, text) else none

/-- Read the mark between date and time. -/
def readTimeMark : List Char → Option (List Char)
  | 't' :: rest | 'T' :: rest | ' ' :: rest => some rest
  | _ => none

/-- Read a fraction of a second in nanoseconds; digits after the ninth are dropped. -/
def readFraction : List Char → Option (Nat × List Char)
  | '.' :: rest =>
    match rest.span Char.isDigit with
    | ([], _) => none
    | (digits, rest) =>
      let kept := digits.take 9
      some (Text.digitsValue kept * tenPow (9 - kept.length), rest)
  | text => some (0, text)

/-- Read a time of day in nanoseconds; a sixtieth second ends the minute. -/
def readTime (text : List Char) : Option (Nat × List Char) := do
  let (hour, text) ← readNumber 2 text
  let text ← readMark ':' text
  let (minute, text) ← readNumber 2 text
  let text ← readMark ':' text
  let (second, text) ← readNumber 2 text
  let (fraction, text) ← readFraction text
  if hour < 24 ∧ minute < 60 ∧ second ≤ 60 then
    return (((hour * 60 + minute) * 60 + second) * 1000000000 + fraction, text)
  else none

def readTwoDigits : List Char → Option (Nat × List Char)
  | a :: b :: rest =>
    if a.isDigit && b.isDigit then some (Text.digitsValue [a, b], rest) else none
  | _ => none

/-- Read the size of an offset in seconds: hours and minutes, parted by colons or blanks. -/
def readOffsetSize (text : List Char) : Option (Nat × List Char) := do
  let (hours, text) ← readTwoDigits text
  let text := text.dropWhile fun c => c == ':' || Text.isBlank c
  let (minutes, text) ← readTwoDigits text
  if minutes < 60 ∧ hours < 24 then return (hours * 3600 + minutes * 60, text) else none

/-- Read an offset from UTC in seconds. -/
def readOffset : List Char → Option (Int × List Char)
  | 'Z' :: rest | 'z' :: rest => some (0, rest)
  | '+' :: rest => (readOffsetSize rest).map fun (size, rest) => ((size : Int), rest)
  | '-' :: rest => (readOffsetSize rest).map fun (size, rest) => (-(size : Int), rest)
  | '−' :: rest => (readOffsetSize rest).map fun (size, rest) => (-(size : Int), rest)
  | a :: b :: c :: rest =>
    if [a, b, c].map Char.toUpper = ['U', 'T', 'C'] then some (0, rest) else none
  | _ => none

def readTimestamp (text : List Char) : Option Instant := do
  let (date, text) ← readDate text
  let text ← readTimeMark text
  let (nanoseconds, text) ← readTime text
  let (offset, text) ← readOffset (Text.trimStart text)
  if (Text.trimStart text).isEmpty then
    let instant : Instant :=
      ⟨date.toDayNumber * nanosPerDay + nanoseconds - offset * nanosPerSecond⟩
    if instant.inCalendar then return instant else none
  else none

def codec : Json.Codec Instant where
  encode instant := .string instant.timestamp
  decode
    | _, .text raw =>
      match Json.Literal.unescape raw with
      | some characters =>
        match readTimestamp characters with
        | some instant => .ok instant
        | none => .error .malformed
      | none => .error .malformed
    | _, node => node.refuse "an RFC 3339 formatted date and time string"

end TriggerLedger.Instant
