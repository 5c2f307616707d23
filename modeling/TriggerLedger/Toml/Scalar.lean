import TriggerLedger.Binary64.Basic
import TriggerLedger.Instant.Calendar
import TriggerLedger.Json.Literal
import TriggerLedger.Text.Blank
import TriggerLedger.Toml.Basic
/-!
# Numbers, truth values and times of TOML

A scalar without quotes is a run of letters, digits and a few marks.  Underscores
may stand between the digits of a number.  Of a date or a time only the form and
the ranges matter.
-/

namespace TriggerLedger.Toml

/-- Whether a character may stand in a scalar without quotes. -/
def isScalarChar (c : Char) : Bool :=
  c.isAlphanum || c == '_' || c == '+' || c == '-' || c == '.' || c == ':'

/-- The digits of a run in which underscores stand between digits only. -/
def plainDigits? (isDigit : Char → Bool) : List Char → Option (List Char)
  | [] => none
  | [c] => if isDigit c then some [c] else none
  | c :: '_' :: rest => if isDigit c then (plainDigits? isDigit rest).map (c :: ·) else none
  | c :: rest => if isDigit c then (plainDigits? isDigit rest).map (c :: ·) else none

/-- The value of digits to a base. -/
def baseValue (base : Nat) (digits : List Char) : Nat :=
  digits.foldl (fun value digit => value * base + (Json.Literal.hexDigit? digit).getD 0) 0

/-- Whether a character is a digit to a base up to sixteen. -/
def isBaseDigit (base : Nat) (c : Char) : Bool :=
  match Json.Literal.hexDigit? c with
  | some value => value < base
  | none => false

/-- An integer that fits 128 bits, signed or not. -/
def wide? (value : Int) : Option Int :=
  if -(twoPow 127 : Int) ≤ value ∧ value < (twoPow 128 : Int) then some value else none

/-- Split off a sign; also whether it is a minus. -/
def splitSign : List Char → Bool × List Char
  | '-' :: rest => (true, rest)
  | '+' :: rest => (false, rest)
  | text => (false, text)

/-- The digits of a decimal integer: no zero in front of others. -/
def decimalDigits? (text : List Char) : Option (List Char) :=
  (plainDigits? Char.isDigit text).filter fun digits =>
    digits.length == 1 || digits.head? != some '0'

/-- The value of an integer. -/
def integer? (text : List Char) : Option Int :=
  match text with
  | '0' :: 'x' :: digits =>
    (plainDigits? (isBaseDigit 16) digits).bind fun digits => wide? (baseValue 16 digits)
  | '0' :: 'o' :: digits =>
    (plainDigits? (isBaseDigit 8) digits).bind fun digits => wide? (baseValue 8 digits)
  | '0' :: 'b' :: digits =>
    (plainDigits? (isBaseDigit 2) digits).bind fun digits => wide? (baseValue 2 digits)
  | text =>
    let (negative, digits) := splitSign text
    (decimalDigits? digits).bind fun digits =>
      let magnitude : Int := Text.digitsValue digits
      wide? (if negative then -magnitude else magnitude)

/-- Whether a significand times a power of ten stays below the overflow of binary64. -/
def isFiniteDecimal (digits : List Char) (exponent : Int) : Bool :=
  let significand := Text.digitsValue digits
  let order := exponent + (Nat.toDigits 10 significand).length
  significand == 0 || order < 308 ||
    (order ≤ 310 &&
      (Binary64.nearest? false (significand * tenPow exponent.toNat * Binary64.one)
        (tenPow (-exponent).toNat)).isSome)

/-- The digits and the value of an optional exponent. -/
def exponent? : List Char → Option Int
  | [] => some 0
  | mark :: rest =>
    if mark = 'e' ∨ mark = 'E' then
      let (negative, digits) := splitSign rest
      (plainDigits? Char.isDigit digits).map fun digits =>
        let magnitude : Int := Text.digitsValue digits
        if negative then -magnitude else magnitude
    else none

/-- Whether a run is a floating-point number that does not overflow. -/
def isReal (text : List Char) : Bool :=
  let unsigned := (splitSign text).2
  if unsigned = ['i', 'n', 'f'] ∨ unsigned = ['n', 'a', 'n'] then true
  else
    let isMark (c : Char) : Bool := c == '.' || c == 'e' || c == 'E'
    let (whole, rest) := unsigned.span fun c => !isMark c
    match decimalDigits? whole, rest with
    | some whole, '.' :: rest =>
      let (fraction, rest) := rest.span fun c => !isMark c
      match plainDigits? Char.isDigit fraction, exponent? rest with
      | some fraction, some exponent =>
        isFiniteDecimal (whole ++ fraction) (exponent - fraction.length)
      | _, _ => false
    | some whole, mark :: rest =>
      match exponent? (mark :: rest) with
      | some exponent => isFiniteDecimal whole exponent
      | none => false
    | _, _ => false

/-- Read a number of exactly so many digits. -/
def readFixed (width : Nat) (text : List Char) : Option (Nat × List Char) :=
  let digits := text.take width
  if digits.length = width ∧ digits.all Char.isDigit then
    some (Text.digitsValue digits, text.drop width)
  else none

def readChar (mark : Char) : List Char → Option (List Char)
  | c :: rest => if c = mark then some rest else none
  | [] => none

/-- What follows a date of the calendar. -/
def afterDate (text : List Char) : Option (List Char) := do
  let (year, text) ← readFixed 4 text
  let text ← readChar '-' text
  let (month, text) ← readFixed 2 text
  let text ← readChar '-' text
  let (day, text) ← readFixed 2 text
  if Date.isValid ⟨year, month, day⟩ then return text else none

/-- What follows optional seconds with an optional fraction. -/
def afterSeconds : List Char → Option (List Char)
  | ':' :: rest => do
    let (second, rest) ← readFixed 2 rest
    if 60 < second then none
    else
      match rest with
      | '.' :: rest =>
        match rest.span Char.isDigit with
        | ([], _) => none
        | (_, rest) => return rest
      | rest => return rest
  | text => some text

/-- What follows hours and minutes. -/
def afterHourMinute (text : List Char) : Option (List Char) := do
  let (hour, text) ← readFixed 2 text
  let text ← readChar ':' text
  let (minute, text) ← readFixed 2 text
  if hour < 24 ∧ minute < 60 then return text else none

/-- Whether a run is an offset from UTC or nothing. -/
def isOffset : List Char → Bool
  | [] => true
  | [c] => c == 'Z' || c == 'z'
  | c :: rest => (c == '+' || c == '-') && afterHourMinute rest == some []

/-- Whether a run is a date, a time, or both with an optional offset. -/
def isMoment (text : List Char) : Bool :=
  match afterDate text with
  | some [] => true
  | some (mark :: rest) =>
    (mark == 'T' || mark == 't' || mark == ' ') &&
      match (afterHourMinute rest).bind afterSeconds with
      | some rest => isOffset rest
      | none => false
  | none => (afterHourMinute text).bind afterSeconds == some []

/-- The value of a run. -/
def scalar? (text : List Char) : Option Toml :=
  if text = ['t', 'r', 'u', 'e'] then some (.flag true)
  else if text = ['f', 'a', 'l', 's', 'e'] then some (.flag false)
  else
    match integer? text with
    | some value => some (.integer value)
    | none =>
      if isReal text then some .real else if isMoment text then some .moment else none

/-- Split off the run of a scalar; a date and its time may be parted by one blank. -/
def spanScalar (text : List Char) : List Char × List Char :=
  let (run, rest) := text.span isScalarChar
  match rest with
  | ' ' :: c :: more =>
    if c.isDigit && afterDate run == some [] then
      let (time, rest) := (c :: more).span isScalarChar
      (run ++ ' ' :: time, rest)
    else (run, rest)
  | rest => (run, rest)

/-- Read a scalar without quotes. -/
def readScalar (text : List Char) : Option (Toml × List Char) :=
  let (run, rest) := spanScalar text
  (scalar? run).map fun value => (value, rest)

end TriggerLedger.Toml
