import TriggerLedger.Number.Power
/-!
# Finite binary64 values

A finite value is its sign and its rank among the magnitudes in increasing
order.  The magnitude of a value is an integer multiple of `2 ^ (-1074)`, so
every operation rounds a quotient of naturals to the nearest rank, ties to the
even one.
-/

namespace TriggerLedger

/-- Divide and round to the nearest natural number, a tie going to the even one. -/
def roundHalfEven (numerator denominator : Nat) : Nat :=
  let quotient := numerator / denominator
  let remainder := numerator % denominator
  if 2 * remainder < denominator then quotient
  else if denominator < 2 * remainder then quotient + 1
  else quotient + quotient % 2

/-- The number of magnitudes from one power of two to the next. -/
def Binary64.hiddenUnit : Nat := 4503599627370496

/-- The rank of the smallest magnitude that overflows, `2047` times as much. -/
def Binary64.overflowRank : Nat := 9218868437227405312

/-- A finite binary64 value. -/
structure Binary64 where
  /-- Whether the sign bit is set. -/
  negative : Bool
  /-- The position of the magnitude among all finite magnitudes. -/
  rank : Nat
  /-- The rank of the smallest overflowing magnitude is not reached. -/
  finite : rank < Binary64.overflowRank
  deriving DecidableEq

namespace Binary64

/-- Magnitudes are counted in units of `2 ^ (-1074)`: this many units make one. -/
def one : Nat := twoPow 1074

/-- The exponent of the spacing between a magnitude and the next one. -/
def spacing (rank : Nat) : Nat := rank / hiddenUnit - 1

/-- The integer significand of a magnitude. -/
def significand (rank : Nat) : Nat :=
  if rank < hiddenUnit then rank else hiddenUnit + rank % hiddenUnit

/-- The magnitude in units of `2 ^ (-1074)`. -/
def units (value : Binary64) : Nat :=
  significand value.rank * twoPow (spacing value.rank)

/-- The rank nearest to `numerator / denominator` units, ties to the even significand. -/
def nearestRank (numerator denominator : Nat) : Nat :=
  let shift := (numerator / denominator).log2 - 52
  shift * hiddenUnit + roundHalfEven numerator (denominator * twoPow shift)

/-- The value nearest to `numerator / denominator` units, unless it overflows. -/
def nearest? (negative : Bool) (numerator denominator : Nat) : Option Binary64 :=
  let rank := nearestRank numerator denominator
  if finite : rank < overflowRank then some ⟨negative, rank, finite⟩ else none

/-- Positive or negative zero. -/
def zero (negative : Bool) : Binary64 := ⟨negative, 0, by decide⟩

/-- The value nearest to an integer, unless it overflows. -/
def ofInt? (value : Int) : Option Binary64 :=
  nearest? (decide (value < 0)) (value.natAbs * one) 1

/-- The rounded product, unless it overflows. -/
def mul? (left right : Binary64) : Option Binary64 :=
  nearest? (left.negative != right.negative) (left.units * right.units) one

/-- The rounded quotient by a value other than zero, unless it overflows. -/
def div? (left right : Binary64) : Option Binary64 :=
  nearest? (left.negative != right.negative) (left.units * one) right.units

/-- Multiply by the value nearest to a power of ten, unless it overflows. -/
def mulTenPower? (value : Binary64) (exponent : Nat) : Option Binary64 :=
  (nearest? false (tenPow exponent * one) 1).bind value.mul?

/-- Divide by the value nearest to a power of ten. -/
def divTenPower? (value : Binary64) (exponent : Nat) : Option Binary64 :=
  (nearest? false (tenPow exponent * one) 1).bind value.div?

/-- The largest power of ten that is a finite value. -/
def largestTenExponent : Nat := 308

/-- Divide `count` times by the largest finite power of ten; zero stays as it is. -/
def divLargest? : Nat → Binary64 → Option Binary64
  | 0, value => some value
  | count + 1, value =>
    if value.rank = 0 then some value
    else (value.divTenPower? largestTenExponent).bind (divLargest? count)

/-- Divide by `10 ^ exponent`, in steps of at most the largest finite power of ten. -/
def scaleDown? (value : Binary64) (exponent : Nat) : Option Binary64 :=
  let steps := (exponent - 1) / largestTenExponent
  (divLargest? steps value).bind fun smaller =>
    smaller.divTenPower? (if smaller.rank = 0 then 0 else exponent - steps * largestTenExponent)

/-- Multiply by `10 ^ exponent`, unless it overflows; zero stays zero. -/
def scaleUp? (value : Binary64) (exponent : Nat) : Option Binary64 :=
  if exponent ≤ largestTenExponent then value.mulTenPower? exponent
  else if value.rank = 0 then some value
  else none

/-- The value read from a significand and a power of ten: both are rounded first. -/
def ofDecimal? (negative : Bool) (digits : Nat) (exponent : Int) : Option Binary64 :=
  match nearest? negative (digits * one) 1 with
  | none => none
  | some value =>
    if 0 ≤ exponent then value.scaleUp? exponent.toNat else value.scaleDown? (-exponent).toNat

end Binary64
end TriggerLedger
