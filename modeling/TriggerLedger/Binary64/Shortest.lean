import TriggerLedger.Binary64.Basic
/-!
# Shortest decimal text

The text of a value has the fewest digits that still name it: a grid of decimal
numbers is tried digit by digit, and the first grid with a point among the reals
that round to the value gives the digits, the nearer of two points winning.
-/

namespace TriggerLedger.Binary64

/-- The reals that round to a value, in quarters of a unit. -/
structure Basin where
  /-- The lower end. -/
  lower : Nat
  /-- The value itself. -/
  centre : Nat
  /-- The upper end. -/
  upper : Nat
  /-- Whether the ends belong to the basin. -/
  closed : Bool

/-- Quarters of a unit that make one. -/
def quartersPerOne : Nat := 4 * one

/-- The basin of a magnitude; below a power of two the spacing is halved. -/
def basin (value : Binary64) : Basin :=
  let gap := twoPow (spacing value.rank)
  let centre := 4 * value.units
  let halved := significand value.rank == hiddenUnit && spacing value.rank != 0
  { lower := centre - (if halved then gap else 2 * gap)
    centre
    upper := centre + 2 * gap
    closed := significand value.rank % 2 == 0 }

/-- Whether the point `grid / scale` ones lies in the basin, `scale` and `unit` being its fraction. -/
def Basin.holds (basin : Basin) (point scale unit : Nat) : Bool :=
  let lower := basin.lower * scale
  let upper := basin.upper * scale
  let position := point * unit
  if basin.closed then lower ≤ position && position ≤ upper
  else lower < position && position < upper

/-- Search the least `exponent` from `candidate` on with `10 ^ exponent * value` at least one. -/
def negativeExponent (centre : Nat) : Nat → Nat → Nat
  | 0, candidate => candidate
  | fuel + 1, candidate =>
    if quartersPerOne ≤ centre * tenPow candidate then candidate
    else negativeExponent centre fuel (candidate + 1)

/-- The exponent of the leading decimal digit of a magnitude other than zero. -/
def decimalExponent (centre : Nat) : Int :=
  if quartersPerOne ≤ centre then
    ((toString (centre / quartersPerOne)).length : Int) - 1
  else
    -(negativeExponent centre 330 1 : Nat)

/-- The best point of the grid with `count` digits, if one lies in the basin. -/
def gridPoint? (basin : Basin) (exponent : Int) (count : Nat) : Option Nat :=
  let shift : Int := (count : Int) - 1 - exponent
  let scale := tenPow shift.toNat
  let unit := quartersPerOne * tenPow (-shift).toNat
  let below := basin.centre * scale / unit
  let above := below + 1
  let toBelow := basin.centre * scale - below * unit
  let toAbove := above * unit - basin.centre * scale
  match basin.holds below scale unit, basin.holds above scale unit with
  | true, true =>
    some (if toBelow < toAbove || (toBelow == toAbove && below % 2 == 0) then below else above)
  | true, false => some below
  | false, true => some above
  | false, false => none

/-- The first grid of at most `count + fuel` digits with a point in the basin. -/
def shortestFrom (basin : Basin) (exponent : Int) : Nat → Nat → Nat × Nat
  | 0, count => (basin.centre, count)
  | fuel + 1, count =>
    match gridPoint? basin exponent count with
    | some point => (point, count)
    | none => shortestFrom basin exponent fuel (count + 1)

/-- Decimal digits `d.ddd…` with the exponent of the leading one. -/
structure Digits where
  /-- The significant digits, without zeros at the end. -/
  digits : List Char
  /-- The power of ten of the first digit. -/
  exponent : Int

/-- Drop zeros at the end, but keep one digit. -/
def dropFinalZeros (digits : List Char) : List Char :=
  match (digits.reverse.dropWhile (· == '0')).reverse with
  | [] => ['0']
  | kept => kept

/-- The shortest digits of a magnitude other than zero. -/
def shortest (value : Binary64) : Digits :=
  let basin := value.basin
  let exponent := decimalExponent basin.centre
  let (point, count) := shortestFrom basin exponent 17 1
  let digits := (toString point).toList
  { digits := dropFinalZeros digits
    exponent := exponent + ((digits.length : Int) - count) }

/-- Positional text of digits whose exponent is moderate, with at least one fraction digit. -/
def Digits.positional (number : Digits) : List Char :=
  if number.exponent < 0 then
    '0' :: '.' :: List.replicate ((-number.exponent).toNat - 1) '0' ++ number.digits
  else
    let places := number.exponent.toNat + 1
    let whole := number.digits.take places
    let fraction := number.digits.drop places
    whole ++ List.replicate (places - whole.length) '0' ++ '.' ::
      (if fraction.isEmpty then ['0'] else fraction)

/-- Scientific text: one digit before the point and a signed exponent. -/
def Digits.scientific (number : Digits) : List Char :=
  let lead := number.digits.take 1
  let fraction := number.digits.drop 1
  let sign := if number.exponent < 0 then '-' else '+'
  lead ++ (if fraction.isEmpty then [] else '.' :: fraction) ++
    'e' :: sign :: (toString number.exponent.natAbs).toList

/-- The text of a value: positional from `1e-5` up to `1e16`, scientific outside. -/
def render (value : Binary64) : List Char :=
  let sign := if value.negative then ['-'] else []
  if value.rank = 0 then sign ++ ['0', '.', '0']
  else
    let number := value.shortest
    sign ++ (if -5 ≤ number.exponent ∧ number.exponent < 16 then number.positional
      else number.scientific)

end TriggerLedger.Binary64
