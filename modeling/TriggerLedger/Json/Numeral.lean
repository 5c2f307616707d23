import TriggerLedger.Binary64.Basic
import TriggerLedger.Text.Blank
/-!
# Numerals

A numeral is kept as it is written.  Its value is a natural number or a negative
integer when it is written without fraction and exponent and fits 64 bits, and a
binary64 value otherwise; `-0` is the negative zero of the latter.
-/

namespace TriggerLedger.Json

/-- A number as it is written. -/
structure Numeral where
  /-- Whether a minus sign comes first. -/
  negative : Bool
  /-- The digits before the point. -/
  whole : List Char
  /-- The digits after the point; none when there is no point. -/
  fraction : List Char
  /-- The exponent, with whether its sign is minus. -/
  exponent : Option (Bool × List Char)
  deriving DecidableEq

/-- The value of a numeral. -/
inductive Number where
  /-- A natural number below `2 ^ 64`. -/
  | natural (value : Nat)
  /-- A negative integer from `-2 ^ 63` on. -/
  | negative (value : Int)
  /-- Any other number, rounded. -/
  | real (value : Binary64)
  deriving DecidableEq

namespace Numeral

/-- Split off the leading decimal digits. -/
def spanDigits (text : List Char) : List Char × List Char :=
  text.span Char.isDigit

/-- Split off a fraction: a point must have digits after it. -/
def lexFraction : List Char → Option (List Char × List Char)
  | '.' :: rest =>
    match spanDigits rest with
    | ([], _) => none
    | split => some split
  | text => some ([], text)

/-- The digits of an exponent whose sign has been read. -/
def lexExponentDigits (negative : Bool) (text : List Char) :
    Option (Option (Bool × List Char) × List Char) :=
  match spanDigits text with
  | ([], _) => none
  | (digits, rest) => some (some (negative, digits), rest)

/-- Split off an exponent after its mark, with an optional sign. -/
def lexExponent : List Char → Option (Option (Bool × List Char) × List Char)
  | 'e' :: rest | 'E' :: rest =>
    match rest with
    | '+' :: rest => lexExponentDigits false rest
    | '-' :: rest => lexExponentDigits true rest
    | rest => lexExponentDigits false rest
  | text => some (none, text)

/-- Split off the digits before the point: at least one, and no zero in front of others. -/
def lexWhole (text : List Char) : Option (List Char × List Char) :=
  match spanDigits text with
  | ([], _) => none
  | ('0' :: _ :: _, _) => none
  | split => some split

/-- Split off an unsigned numeral. -/
def lexUnsigned (negative : Bool) (text : List Char) : Option (Numeral × List Char) := do
  let (whole, text) ← lexWhole text
  let (fraction, text) ← lexFraction text
  let (exponent, text) ← lexExponent text
  return (⟨negative, whole, fraction, exponent⟩, text)

def lex : List Char → Option (Numeral × List Char)
  | '-' :: rest => lexUnsigned true rest
  | text => lexUnsigned false text

/-- The largest significand kept: further digits only count as places. -/
def significandLimit : Nat := word64 - 1

/-- Take digits into a significand while it stays within the limit; also the digits left over. -/
def accumulate (significand : Nat) : List Char → Nat × List Char
  | [] => (significand, [])
  | digit :: rest =>
    let next := significand * 10 + (digit.toNat - '0'.toNat)
    if next ≤ significandLimit then accumulate next rest else (significand, digit :: rest)

/-- The largest exponent that is taken into account. -/
def exponentLimit : Nat := 2147483647

/-- A rounded value: a written exponent beyond the limit leaves only zero or an overflow. -/
def realValue? (numeral : Numeral) : Option Binary64 :=
  let (significand, dropped) := accumulate 0 numeral.whole
  let (significand, unread) := accumulate significand numeral.fraction
  let places : Int := (dropped.length : Int) - ((numeral.fraction.length : Int) - unread.length)
  match numeral.exponent with
  | none => Binary64.ofDecimal? numeral.negative significand places
  | some (negative, digits) =>
    let written := Text.digitsValue digits
    if exponentLimit < written then
      if significand = 0 ∨ negative then some (Binary64.zero numeral.negative) else none
    else
      Binary64.ofDecimal? numeral.negative significand
        (if negative then places - written else places + written)

/-- Whether a numeral has neither fraction nor exponent. -/
def isWhole (numeral : Numeral) : Bool :=
  numeral.fraction.isEmpty && numeral.exponent.isNone

/-- The value of a numeral, unless it overflows. -/
def value? (numeral : Numeral) : Option Number :=
  let magnitude := Text.digitsValue numeral.whole
  if numeral.isWhole && magnitude < word64 then
    if !numeral.negative then some (.natural magnitude)
    else if magnitude ≠ 0 ∧ magnitude ≤ half64 then some (.negative (-(magnitude : Int)))
    else (Binary64.nearest? true (magnitude * Binary64.one) 1).map .real
  else numeral.realValue?.map .real

end Numeral
end TriggerLedger.Json
