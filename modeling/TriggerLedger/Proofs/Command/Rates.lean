import TriggerLedger.Command.Stats
import TriggerLedger.Proofs.Binary64.Rounding
/-!
# Acceptance rates

The acceptance rate is rounded twice, once as a share and once as a percentage.  Both
times a bound is a value itself, so the rate lies between zero and one hundred, and what
is lost is far less than the tenth that is printed last.
-/

namespace TriggerLedger

namespace Binary64

variable {left right : Binary64} {part whole : Nat}

theorem one_ne_zero_rat : (one : Rat) ≠ 0 := Nat.cast_ne_zero.mpr one_pos.ne'

/-- The rounded share of a part. -/
theorem exists_div?_of_part (order : part ≤ whole) (positive : 0 < whole)
    (leftSign : left.negative = false) (rightSign : right.negative = false)
    (leftUnits : left.units = part * one) (rightUnits : right.units = whole * one) :
    ∃ share, left.div? right = some share ∧ share.negative = false ∧ share.units ≤ one ∧
      |share.toRat - part / whole| ≤ 1 / (2 * twoPow 52) := by
  have denominator : 0 < whole * one := Nat.mul_pos positive one_pos
  have le : part * one * one ≤ whole * one * one :=
    Nat.mul_le_mul_right one (Nat.mul_le_mul_right one order)
  have lt : part * one * one < whole * one * twoPow (1022 + 53) :=
    Nat.lt_of_le_of_lt le
      (Nat.mul_lt_mul_of_pos_left (one_lt_twoPow (by decide)) denominator)
  obtain ⟨share, found, sign, bounded, near⟩ := exists_nearest?_of_lt denominator lt
    (rfl : 1022 + 52 = 1074)
  refine ⟨share, ?_, sign, bounded one (Nat.dvd_refl one) le, ?_⟩
  · rw [div?, leftSign, rightSign, leftUnits, rightUnits]
    exact found
  · rwa [Nat.cast_mul, Nat.cast_mul, Nat.cast_mul, mul_div_mul_right _ _ one_ne_zero_rat,
      mul_div_mul_right _ _ one_ne_zero_rat] at near

theorem exists_hundred : ∃ hundred, ofInt? 100 = some hundred ∧ hundred.negative = false ∧
    hundred.units = 100 * one := by
  have found := exists_ofInt? (by decide : 100 < twoPow 53)
  rwa [Nat.cast_ofNat] at found

/-- The rounded percentage of a share. -/
theorem exists_mul?_hundred (leftSign : left.negative = false) (rightSign : right.negative = false)
    (share : left.units ≤ one) (rightUnits : right.units = 100 * one) :
    ∃ percentage, left.mul? right = some percentage ∧ percentage.negative = false ∧
      percentage.units ≤ 100 * one ∧
      |percentage.toRat - 100 * left.toRat| ≤ 1 / (2 * twoPow 46) := by
  have le : left.units * (100 * one) ≤ one * (100 * one) := Nat.mul_le_mul_right _ share
  have hundred : 100 * one < twoPow (1028 + 53) := by
    rw [(by decide : 1028 + 53 = 7 + 1074), twoPow_add, ← one_eq]
    exact Nat.mul_lt_mul_of_pos_right (by decide) one_pos
  have lt : left.units * (100 * one) < one * twoPow (1028 + 53) :=
    Nat.lt_of_le_of_lt le (Nat.mul_lt_mul_of_pos_left hundred one_pos)
  obtain ⟨percentage, found, sign, bounded, near⟩ := exists_nearest?_of_lt one_pos lt
    (rfl : 1028 + 46 = 1074)
  refine ⟨percentage, ?_, sign, bounded _ (Nat.dvd_mul_left one 100) le, ?_⟩
  · rw [mul?, leftSign, rightSign, rightUnits]
    exact found
  · have exactly : ((left.units * (100 * one) : Nat) : Rat) / (one * one) = 100 * left.toRat := by
      rw [toRat_of_not_negative leftSign, Nat.cast_mul, Nat.cast_mul, ← mul_assoc,
        mul_div_mul_right _ _ one_ne_zero_rat, mul_comm, Nat.cast_ofNat, mul_div_assoc]
    rwa [exactly] at near

/-- A value is the percentage of a part up to what is lost by rounding, and its printed tenths are
the nearest ones; of nothing it is zero. -/
structure IsPercentage (value : Binary64) (part whole : Nat) : Prop where
  zero : whole = 0 → value = .zero false
  nonneg : 0 ≤ value.toRat
  le : value.toRat ≤ 100
  near : |value.toRat - 100 * (part / whole)| ≤ 1 / 2 ^ 45
  printed : ∃ count : Nat, count ≤ 1000 ∧ Command.tenths value = s!"{count / 10}.{count % 10}" ∧
    |(count / 10 : Rat) - 100 * (part / whole)| ≤ 1 / 20 + 1 / 2 ^ 45

/-- The tenths that are printed are within half a tenth. -/
theorem exists_tenths {value : Binary64} (sign : value.negative = false)
    (le : value.units ≤ 100 * one) :
    ∃ count : Nat, count ≤ 1000 ∧ Command.tenths value = s!"{count / 10}.{count % 10}" ∧
      |(count / 10 : Rat) - value.toRat| ≤ 1 / 20 := by
  refine ⟨roundHalfEven (value.units * 10) one, roundHalfEven_le one_pos ?_, rfl, ?_⟩
  · rw [Nat.mul_comm one]
    omega
  · obtain ⟨low, high⟩ := roundHalfEven_near (value.units * 10) one_pos
    generalize roundHalfEven (value.units * 10) one = count at low high
    have near : |(count / (1 * 10) : Rat) - (value.units * 10) / (one * (1 * 10))| ≤
        1 / (2 * 10) := by
      refine abs_scaled_sub_le (Nat.cast_pos.mpr one_pos) zero_lt_one (by norm_num) ?_ ?_
      · rw [mul_one]
        exact_mod_cast low
      · rw [mul_one]
        exact_mod_cast high
    rwa [one_mul, mul_div_mul_right _ _ (by norm_num), ← toRat_of_not_negative sign,
      (by norm_num : (2 * 10 : Rat) = 20)] at near

theorem units_zero (negative : Bool) : (zero negative).units = 0 := Nat.zero_mul _

theorem isPercentage_of_near {value : Binary64} (sign : value.negative = false)
    (le : value.units ≤ 100 * one) (zero : whole = 0 → value = .zero false)
    (near : |value.toRat - 100 * (part / whole)| ≤ 1 / 2 ^ 45) :
    value.IsPercentage part whole where
  zero := zero
  near := near
  nonneg := by
    rw [toRat_of_not_negative sign]
    exact div_nonneg (Nat.cast_nonneg _) (Nat.cast_nonneg _)
  le := by
    rw [toRat_of_not_negative sign, div_le_iff₀ (Nat.cast_pos.mpr one_pos)]
    exact_mod_cast le
  printed := by
    obtain ⟨count, few, text, close⟩ := exists_tenths sign le
    refine ⟨count, few, text, ?_⟩
    exact (abs_sub_le _ value.toRat _).trans (add_le_add close near)

theorem isPercentage_zero (part : Nat) : (zero false).IsPercentage part 0 := by
  refine isPercentage_of_near rfl ?_ (fun _ => rfl) ?_
  · rw [units_zero]
    exact Nat.zero_le _
  · rw [toRat_of_not_negative rfl, units_zero, Nat.cast_zero, zero_div, div_zero, mul_zero,
      sub_zero, abs_zero]
    positivity

end Binary64

namespace Command.Tally

open Binary64

/-- The acceptance rate is the percentage of accepted sessions among those the user judged. -/
theorem isPercentage_acceptanceRate {tally : Tally} (few : tally.accept + tally.reject < word32) :
    tally.acceptanceRate.IsPercentage tally.accept (tally.accept + tally.reject) := by
  by_cases none : tally.accept + tally.reject = 0
  · have rate : tally.acceptanceRate = .zero false := by
      rw [acceptanceRate, if_pos none]
    rw [rate, none]
    exact isPercentage_zero tally.accept
  · have wide : word32 < twoPow 53 := by decide
    obtain ⟨accept, isAccept, acceptSign, acceptUnits⟩ :=
      exists_ofInt? (by omega : tally.accept < twoPow 53)
    obtain ⟨judged, isJudged, judgedSign, judgedUnits⟩ :=
      exists_ofInt? (by omega : tally.accept + tally.reject < twoPow 53)
    obtain ⟨hundred, isHundred, hundredSign, hundredUnits⟩ := exists_hundred
    obtain ⟨share, isShare, shareSign, shareLe, shareNear⟩ :=
      exists_div?_of_part (Nat.le_add_right _ _) (Nat.pos_of_ne_zero none) acceptSign judgedSign
        acceptUnits judgedUnits
    obtain ⟨rate, isRate, rateSign, rateLe, rateNear⟩ :=
      exists_mul?_hundred shareSign hundredSign shareLe hundredUnits
    have chain : ((ofInt? tally.accept).bind fun accept =>
        (ofInt? (tally.accept + tally.reject : Nat)).bind fun judged =>
          (accept.div? judged).bind fun share => (ofInt? 100).bind share.mul?) = some rate := by
      refine Option.bind_eq_some_iff.mpr ⟨accept, isAccept, ?_⟩
      refine Option.bind_eq_some_iff.mpr ⟨judged, isJudged, ?_⟩
      refine Option.bind_eq_some_iff.mpr ⟨share, isShare, ?_⟩
      exact Option.bind_eq_some_iff.mpr ⟨hundred, isHundred, isRate⟩
    have found : tally.acceptanceRate = rate := by
      rw [acceptanceRate, if_neg none]
      exact congrArg (fun result => Option.getD result (.zero false)) chain
    rw [found]
    refine isPercentage_of_near rateSign rateLe (fun zero => absurd zero none) ?_
    -- The error of the share counts a hundredfold.
    have scaled : |100 * share.toRat - 100 * (tally.accept / (tally.accept + tally.reject : Nat))| ≤
        100 * (1 / (2 * twoPow 52)) := by
      rw [← mul_sub, abs_mul, abs_of_pos (by norm_num : (0 : Rat) < 100)]
      exact mul_le_mul_of_nonneg_left shareNear (by norm_num)
    have sum : (1 / (2 * twoPow 46) + 100 * (1 / (2 * twoPow 52)) : Rat) ≤ 1 / 2 ^ 45 := by
      norm_num [twoPow]
    exact (abs_sub_le _ _ _).trans ((add_le_add rateNear scaled).trans sum)

end Command.Tally
end TriggerLedger
