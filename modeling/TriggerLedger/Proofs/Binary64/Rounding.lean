import Mathlib.Data.Nat.Log
import Mathlib.Algebra.Order.Field.Rat
import Mathlib.Tactic.FieldSimp
import Mathlib.Tactic.Linarith
import Mathlib.Tactic.Positivity
import TriggerLedger.Binary64.Basic
/-!
# Rounding to binary64

A quotient is rounded to a multiple of the spacing of its magnitude, so it is off by at
most half of the spacing, and it stays below every bound that is itself such a multiple.
-/

namespace TriggerLedger

section RoundHalfEven

variable {numerator denominator bound : Nat}

/-- A rounded quotient is at most half a unit away from the exact one. -/
theorem roundHalfEven_near (numerator : Nat) (positive : 0 < denominator) :
    2 * numerator ≤ 2 * (denominator * roundHalfEven numerator denominator) + denominator ∧
      2 * (denominator * roundHalfEven numerator denominator) ≤ 2 * numerator + denominator := by
  have whole := Nat.div_add_mod numerator denominator
  have small := Nat.mod_lt numerator positive
  rw [roundHalfEven]
  split
  case isTrue => omega
  case isFalse =>
    split
    case isTrue =>
      rw [Nat.mul_add, Nat.mul_one]
      omega
    case isFalse =>
      have half : 2 * (numerator % denominator) = denominator := by omega
      rw [Nat.mul_add]
      rcases Nat.mod_two_eq_zero_or_one (numerator / denominator) with even | odd
      · rw [even, Nat.mul_zero]
        omega
      · rw [odd, Nat.mul_one]
        omega

theorem roundHalfEven_le (positive : 0 < denominator) (le : numerator ≤ denominator * bound) :
    roundHalfEven numerator denominator ≤ bound := by
  have near := (roundHalfEven_near numerator positive).2
  by_contra above
  have next : denominator * (bound + 1) ≤ denominator * roundHalfEven numerator denominator :=
    Nat.mul_le_mul_left _ (by omega)
  rw [Nat.mul_add, Nat.mul_one] at next
  omega

theorem le_roundHalfEven (positive : 0 < denominator) (le : denominator * bound ≤ numerator) :
    bound ≤ roundHalfEven numerator denominator := by
  have near := (roundHalfEven_near numerator positive).1
  by_contra below
  have next : denominator * (roundHalfEven numerator denominator + 1) ≤ denominator * bound :=
    Nat.mul_le_mul_left _ (by omega)
  rw [Nat.mul_add, Nat.mul_one] at next
  omega

end RoundHalfEven

theorem twoPow_pos (exponent : Nat) : 0 < twoPow exponent := Nat.two_pow_pos exponent

theorem twoPow_add (first second : Nat) :
    twoPow (first + second) = twoPow first * twoPow second :=
  Nat.pow_add 2 first second

theorem twoPow_le {first second : Nat} (order : first ≤ second) : twoPow first ≤ twoPow second :=
  Nat.pow_le_pow_right Nat.zero_lt_two order

theorem twoPow_lt {first second : Nat} (order : first < second) : twoPow first < twoPow second :=
  Nat.pow_lt_pow_right Nat.one_lt_two order

theorem twoPow_dvd {first second : Nat} (order : first ≤ second) : twoPow first ∣ twoPow second :=
  Nat.pow_dvd_pow 2 order

namespace Binary64

/-- The units of a significand at a spacing, with the significand that is about to carry. -/
theorem units_rank {shift rounded : Nat} (few : rounded ≤ 2 * hiddenUnit)
    (normal : shift = 0 ∨ hiddenUnit ≤ rounded) :
    significand (shift * hiddenUnit + rounded) *
        twoPow (spacing (shift * hiddenUnit + rounded)) = rounded * twoPow shift := by
  have unit : 0 < hiddenUnit := by decide
  rcases Nat.lt_or_ge rounded hiddenUnit with subnormal | large
  · obtain rfl : shift = 0 := normal.resolve_right (by omega)
    have rank : 0 * hiddenUnit + rounded = rounded := by omega
    rw [rank, significand, if_pos subnormal, spacing, Nat.div_eq_of_lt subnormal]
  · have high : ¬ shift * hiddenUnit + rounded < hiddenUnit := by omega
    rw [significand, if_neg high, spacing]
    rcases Nat.lt_or_eq_of_le few with below | carry
    · have split : shift * hiddenUnit + rounded =
          (rounded - hiddenUnit) + hiddenUnit * (shift + 1) := by
        rw [Nat.mul_add, Nat.mul_comm hiddenUnit shift]
        omega
      have rest : rounded - hiddenUnit < hiddenUnit := by omega
      rw [split, Nat.add_mul_div_left _ _ unit, Nat.add_mul_mod_self_left, Nat.mod_eq_of_lt rest,
        Nat.div_eq_of_lt rest, Nat.zero_add, Nat.add_sub_cancel, Nat.add_sub_cancel' large]
    · have split : shift * hiddenUnit + rounded = 0 + hiddenUnit * (shift + 2) := by
        rw [Nat.mul_add, Nat.mul_comm hiddenUnit shift]
        omega
      rw [split, Nat.add_mul_div_left _ _ unit, Nat.add_mul_mod_self_left, Nat.zero_mod,
        Nat.zero_div, Nat.zero_add, carry, (by omega : shift + 2 - 1 = 1 + shift), twoPow_add,
        Nat.add_zero, ← Nat.mul_assoc, Nat.mul_comm hiddenUnit]
      rfl

variable {negative : Bool} {numerator denominator bound : Nat} {value : Binary64}

/-- The exponent of the spacing to which a quotient is rounded. -/
def roundingShift (numerator denominator : Nat) : Nat := (numerator / denominator).log2 - 52

theorem lt_twoPow_log2 (number : Nat) : number < twoPow (number.log2 + 1) := Nat.lt_log2_self

theorem twoPow_log2_le {number : Nat} (positive : number ≠ 0) : twoPow number.log2 ≤ number :=
  Nat.log2_self_le positive

theorem lt_of_roundingShift (positive : 0 < denominator) :
    numerator < denominator * twoPow (roundingShift numerator denominator) * (2 * hiddenUnit) := by
  have quotient : numerator / denominator <
      twoPow (roundingShift numerator denominator + 53) := by
    refine Nat.lt_of_lt_of_le (lt_twoPow_log2 _) (twoPow_le ?_)
    rw [roundingShift]
    omega
  have scaled := (Nat.div_lt_iff_lt_mul positive).mp quotient
  rw [twoPow_add, (rfl : twoPow 53 = 2 * hiddenUnit)] at scaled
  rwa [Nat.mul_comm denominator, Nat.mul_right_comm]

/-- Where the spacing is not the smallest, the significand has all its digits. -/
theorem le_of_roundingShift (positive : 0 < denominator)
    (coarse : roundingShift numerator denominator ≠ 0) :
    denominator * twoPow (roundingShift numerator denominator) * hiddenUnit ≤ numerator := by
  have large : roundingShift numerator denominator + 52 = (numerator / denominator).log2 := by
    rw [roundingShift] at coarse ⊢
    omega
  have some : numerator / denominator ≠ 0 := by
    intro zero
    rw [roundingShift, zero] at coarse
    exact coarse rfl
  have quotient := twoPow_log2_le some
  rw [← large, twoPow_add, (rfl : twoPow 52 = hiddenUnit), Nat.le_div_iff_mul_le positive] at quotient
  rwa [Nat.mul_comm denominator, Nat.mul_right_comm]

theorem roundingShift_le {exponent : Nat} (positive : 0 < denominator)
    (lt : numerator < denominator * twoPow (exponent + 53)) :
    roundingShift numerator denominator ≤ exponent := by
  rw [roundingShift]
  by_cases zero : numerator / denominator = 0
  · rw [zero]
    exact Nat.zero_le exponent
  · have quotient : numerator / denominator < twoPow (exponent + 53) := by
      rwa [Nat.div_lt_iff_lt_mul positive, Nat.mul_comm]
    have log : (numerator / denominator).log2 < exponent + 53 := (Nat.log2_lt zero).mpr quotient
    omega

theorem units_of_nearest? (positive : 0 < denominator)
    (found : nearest? negative numerator denominator = some value) :
    value.units =
      roundHalfEven numerator (denominator * twoPow (roundingShift numerator denominator)) *
        twoPow (roundingShift numerator denominator) := by
  simp only [nearest?] at found
  split at found
  case isTrue =>
    obtain rfl := Option.some.inj found
    have scaled := Nat.mul_pos positive (twoPow_pos (roundingShift numerator denominator))
    refine units_rank ?_ ?_
    · exact roundHalfEven_le scaled (Nat.le_of_lt (lt_of_roundingShift positive))
    · by_cases fine : roundingShift numerator denominator = 0
      · exact .inl fine
      · exact .inr (le_roundHalfEven scaled (le_of_roundingShift positive fine))
  case isFalse => cases found

/-- The nearest value is at most half of its spacing away. -/
theorem nearest?_near (positive : 0 < denominator)
    (found : nearest? negative numerator denominator = some value) :
    let spacing := twoPow (roundingShift numerator denominator)
    2 * numerator ≤ 2 * (denominator * value.units) + denominator * spacing ∧
      2 * (denominator * value.units) ≤ 2 * numerator + denominator * spacing := by
  intro spacing
  have near := roundHalfEven_near numerator
    (Nat.mul_pos positive (twoPow_pos (roundingShift numerator denominator)))
  rwa [units_of_nearest? positive found, Nat.mul_comm (roundHalfEven _ _),
    ← Nat.mul_assoc denominator]

/-- The nearest value does not exceed a bound on the quotient that is a multiple of the spacing. -/
theorem nearest?_le (positive : 0 < denominator)
    (found : nearest? negative numerator denominator = some value)
    (multiple : twoPow (roundingShift numerator denominator) ∣ bound)
    (le : numerator ≤ denominator * bound) : value.units ≤ bound := by
  obtain ⟨count, rfl⟩ := multiple
  rw [units_of_nearest? positive found, Nat.mul_comm]
  refine Nat.mul_le_mul_left _ (roundHalfEven_le (Nat.mul_pos positive (twoPow_pos _)) ?_)
  rwa [Nat.mul_assoc]

theorem le_nearest? (positive : 0 < denominator)
    (found : nearest? negative numerator denominator = some value)
    (multiple : twoPow (roundingShift numerator denominator) ∣ bound)
    (le : denominator * bound ≤ numerator) : bound ≤ value.units := by
  obtain ⟨count, rfl⟩ := multiple
  rw [units_of_nearest? positive found, Nat.mul_comm _ (twoPow _)]
  refine Nat.mul_le_mul_left _ (le_roundHalfEven (Nat.mul_pos positive (twoPow_pos _)) ?_)
  rwa [Nat.mul_assoc]

/-- Quotients of up to `2 ^ 2000` units do not overflow. -/
theorem exists_nearest? (negative : Bool) (positive : 0 < denominator)
    (lt : numerator < denominator * twoPow 2000) :
    ∃ value, nearest? negative numerator denominator = some value ∧ value.negative = negative := by
  have shift : roundingShift numerator denominator ≤ 1947 := roundingShift_le positive lt
  have scaled := Nat.mul_pos positive (twoPow_pos (roundingShift numerator denominator))
  have rounded := roundHalfEven_le scaled (Nat.le_of_lt (lt_of_roundingShift positive))
  have finite : nearestRank numerator denominator < overflowRank := by
    change roundingShift numerator denominator * hiddenUnit + roundHalfEven numerator
      (denominator * twoPow (roundingShift numerator denominator)) < overflowRank
    have high : roundingShift numerator denominator * hiddenUnit ≤ 1947 * hiddenUnit :=
      Nat.mul_le_mul_right _ shift
    have room : 1947 * hiddenUnit + 2 * hiddenUnit < overflowRank := by decide
    omega
  exact ⟨⟨negative, _, finite⟩, by rw [nearest?, dif_pos finite], rfl⟩

theorem one_eq : one = twoPow 1074 := rfl

theorem one_pos : 0 < one := twoPow_pos 1074

theorem one_lt_twoPow {exponent : Nat} (large : 1074 < exponent) : one < twoPow exponent :=
  twoPow_lt large

/-- A natural number of at most 53 bits is a value. -/
theorem exists_ofInt? {number : Nat} (few : number < twoPow 53) :
    ∃ value, ofInt? number = some value ∧ value.negative = false ∧ value.units = number * one := by
  have lt : number * one < 1 * twoPow (1074 + 53) := by
    have scaled := Nat.mul_lt_mul_of_pos_right few one_pos
    rwa [Nat.one_mul, twoPow_add, Nat.mul_comm (twoPow 1074), ← one_eq]
  have positive : ¬ (number : Int) < 0 := by omega
  have shift : roundingShift (number * one) 1 ≤ 1074 := roundingShift_le Nat.zero_lt_one lt
  obtain ⟨value, found, sign⟩ := exists_nearest? false Nat.zero_lt_one
    (Nat.lt_of_lt_of_le lt (Nat.mul_le_mul_left 1 (twoPow_le (by decide))))
  refine ⟨value, ?_, sign, ?_⟩
  · rw [ofInt?, decide_eq_false positive, Int.natAbs_natCast]
    exact found
  · have multiple := Nat.dvd_mul_left_of_dvd (twoPow_dvd shift) number
    have exactly : 1 * (number * one) = number * one := Nat.one_mul _
    exact Nat.le_antisymm (nearest?_le Nat.zero_lt_one found multiple exactly.ge)
      (le_nearest? Nat.zero_lt_one found multiple exactly.le)

/-- The number that a value stands for. -/
def toRat (value : Binary64) : Rat :=
  if value.negative then -(value.units / one) else value.units / one

theorem toRat_of_not_negative (sign : value.negative = false) :
    value.toRat = value.units / one := by
  rw [toRat, sign, if_neg Bool.false_ne_true]

/-- Half a spacing, counted in a scale of so many spacings. -/
theorem abs_scaled_sub_le {units numerator denominator spacing count : Rat}
    (denominatorPos : 0 < denominator) (spacingPos : 0 < spacing) (countPos : 0 < count)
    (low : 2 * numerator ≤ 2 * (denominator * units) + denominator * spacing)
    (high : 2 * (denominator * units) ≤ 2 * numerator + denominator * spacing) :
    |units / (spacing * count) - numerator / (denominator * (spacing * count))| ≤
      1 / (2 * count) := by
  have difference : units / (spacing * count) - numerator / (denominator * (spacing * count)) =
      (denominator * units - numerator) / (denominator * spacing) / count := by
    field_simp
  have half : 1 / (2 * count) = 1 / 2 / count := by
    field_simp
  have scalePos : 0 < denominator * spacing := mul_pos denominatorPos spacingPos
  rw [difference, half, abs_div, abs_of_pos countPos, div_le_div_iff_of_pos_right countPos,
    abs_div, abs_of_pos scalePos, div_le_iff₀ scalePos, abs_le]
  constructor <;> linarith

/-- A quotient below a power of two has a nearest value that keeps the first 53 digits and does not
exceed an integral bound. -/
theorem exists_nearest?_of_lt {exponent digits : Nat} (positive : 0 < denominator)
    (lt : numerator < denominator * twoPow (exponent + 53)) (scale : exponent + digits = 1074) :
    ∃ value, nearest? false numerator denominator = some value ∧ value.negative = false ∧
      (∀ bound, one ∣ bound → numerator ≤ denominator * bound → value.units ≤ bound) ∧
      |value.toRat - numerator / (denominator * one)| ≤ 1 / (2 * twoPow digits) := by
  have large : twoPow (exponent + 53) ≤ twoPow 2000 := twoPow_le (by omega)
  obtain ⟨value, found, sign⟩ := exists_nearest? false positive
    (Nat.lt_of_lt_of_le lt (Nat.mul_le_mul_left denominator large))
  have fine := roundingShift_le positive lt
  refine ⟨value, found, sign, fun bound integral => ?_, ?_⟩
  · exact nearest?_le positive found (Nat.dvd_trans (twoPow_dvd (by omega)) integral)
  · obtain ⟨low, high⟩ := nearest?_near positive found
    have spacing : denominator * twoPow (roundingShift numerator denominator) ≤
        denominator * twoPow exponent :=
      Nat.mul_le_mul_left _ (twoPow_le fine)
    have units : (one : Rat) = twoPow exponent * twoPow digits := by
      rw [one_eq, ← scale, twoPow_add, Nat.cast_mul]
    rw [toRat_of_not_negative sign, units]
    refine abs_scaled_sub_le (Nat.cast_pos.mpr positive) (Nat.cast_pos.mpr (twoPow_pos exponent))
      (Nat.cast_pos.mpr (twoPow_pos digits)) ?_ ?_
    · exact_mod_cast Nat.le_trans low (Nat.add_le_add_left spacing _)
    · exact_mod_cast Nat.le_trans high (Nat.add_le_add_left spacing _)

end Binary64
end TriggerLedger
