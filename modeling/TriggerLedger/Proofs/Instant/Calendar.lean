import Mathlib.Tactic.IntervalCases
import TriggerLedger.Instant.Basic
/-!
# Dates of day numbers

Every day number has a date of the calendar, and the date has the day number.
-/

namespace TriggerLedger.Date

/-- A day lies in the March-based year it is split into, whose last day is a leap day. -/
theorem splitYear_spec (days : Int) :
    daysBeforeYear (splitYear days).1 + (splitYear days).2 = days ∧
      0 ≤ (splitYear days).2 ∧ (splitYear days).2 ≤ 365 ∧
      ((splitYear days).2 = 365 → isLeap ((splitYear days).1 + 1) = true) := by
  simp only [splitYear, daysBeforeYear, isLeap, Bool.and_eq_true, Bool.or_eq_true, beq_iff_eq,
    bne_iff_ne]
  generalize eraEq : days / 146097 = era
  generalize inEraEq : days % 146097 = inEra
  generalize centuryEq : min (inEra / 36524) 3 = century
  generalize inCenturyEq : inEra - century * 36524 = inCentury
  generalize cycleEq : inCentury / 1461 = cycle
  generalize inCycleEq : inCentury - cycle * 1461 = inCycle
  generalize singleEq : min (inCycle / 365) 3 = single
  have whole : days = 146097 * era + inEra ∧ 0 ≤ inEra ∧ inEra < 146097 := by omega
  have centuryBound : 0 ≤ century ∧ century ≤ 3 ∧ 0 ≤ inCentury ∧
      (inCentury < 36524 ∨ inCentury = 36524 ∧ century = 3) := by omega
  have cycleBound : 0 ≤ cycle ∧ cycle ≤ 24 ∧ 0 ≤ inCycle ∧ inCycle ≤ 1460 ∧
      (inCycle = 1460 → cycle = 24 → century = 3) := by omega
  have singleBound : 0 ≤ single ∧ single ≤ 3 ∧ 0 ≤ inCycle - single * 365 ∧
      inCycle - single * 365 ≤ 365 ∧
      (inCycle - single * 365 = 365 → single = 3 ∧ inCycle = 1460) := by omega
  generalize yearEq : 400 * era + 100 * century + 4 * cycle + single = year
  have quotients : year / 4 = 100 * era + 25 * century + cycle ∧
      year / 100 = 4 * era + century ∧ year / 400 = era := by omega
  refine ⟨by omega, singleBound.2.2.1, singleBound.2.2.2.1, ?_⟩
  intro last
  omega

/-- The month of a day of a March-based year, counted from March, and the days before it. -/
theorem month_spec {inYear : Int} (low : 0 ≤ inYear) (high : inYear ≤ 365) :
    0 ≤ (5 * inYear + 2) / 153 ∧ (5 * inYear + 2) / 153 ≤ 11 ∧
      daysBeforeMonth ((5 * inYear + 2) / 153) ≤ inYear := by
  simp only [daysBeforeMonth]
  omega

/-- The date of a day number has that day number. -/
theorem toDayNumber_ofDayNumber (number : Int) : (ofDayNumber number).toDayNumber = number := by
  obtain ⟨days, low, high, -⟩ := splitYear_spec (number + epochOffset)
  obtain ⟨monthLow, monthHigh, dayLow⟩ := month_spec low high
  simp only [ofDayNumber]
  generalize splitYear (number + epochOffset) = split at *
  obtain ⟨marchYear, inYear⟩ := split
  dsimp only at *
  generalize (5 * inYear + 2) / 153 = marchMonth at *
  by_cases early : marchMonth < 10
  · have late : ¬ (marchMonth + 3).toNat ≤ 2 := by omega
    have month : ((marchMonth + 3).toNat : Int) - 3 = marchMonth := by omega
    have day : ((inYear - daysBeforeMonth marchMonth + 1).toNat : Int) =
        inYear - daysBeforeMonth marchMonth + 1 := by omega
    simp only [early, if_true, toDayNumber, late, if_false, month, day]
    omega
  · have next : (marchMonth - 9).toNat ≤ 2 := by omega
    have month : ((marchMonth - 9).toNat : Int) + 9 = marchMonth := by omega
    have day : ((inYear - daysBeforeMonth marchMonth + 1).toNat : Int) =
        inYear - daysBeforeMonth marchMonth + 1 := by omega
    simp only [early, if_false, toDayNumber, next, if_true, month, day, Int.add_sub_cancel]
    omega

theorem isValid_ofDayNumber (number : Int) : (ofDayNumber number).isValid = true := by
  obtain ⟨-, low, high, leap⟩ := splitYear_spec (number + epochOffset)
  obtain ⟨monthLow, monthHigh, dayLow⟩ := month_spec low high
  simp only [ofDayNumber]
  generalize splitYear (number + epochOffset) = split at *
  obtain ⟨marchYear, inYear⟩ := split
  simp only [daysBeforeMonth] at *
  generalize monthEq : (5 * inYear + 2) / 153 = marchMonth at *
  interval_cases marchMonth
  all_goals
    simp only [isValid, monthLength, Int.reduceLT, if_true, if_false, Bool.and_eq_true,
      decide_eq_true_eq, Int.reduceAdd, Int.reduceSub, Int.reduceToNat]
    try omega
  -- Only in February does the length of the month depend on the year.
  split <;> simp_all <;> omega

/-- Every year has at least 365 days. -/
theorem daysBeforeYear_add_le {first last : Int} (le : first ≤ last) :
    daysBeforeYear first + 365 * (last - first) ≤ daysBeforeYear last := by
  have centuries (year : Int) : year / 100 = year / 4 / 25 := by omega
  simp only [daysBeforeYear, centuries]
  omega

theorem toDayNumber_firstDay (year : Int) :
    toDayNumber ⟨year, 1, 1⟩ = daysBeforeYear (year - 1) + 306 - epochOffset := by
  simp [toDayNumber, daysBeforeMonth]

theorem toDayNumber_lastDay (year : Int) :
    toDayNumber ⟨year, 12, 31⟩ = daysBeforeYear year + 305 - epochOffset := by
  simp [toDayNumber, daysBeforeMonth]
  omega

/-- The dates from the first day of one year to the last day of another lie in those years. -/
theorem year_ofDayNumber {number firstYear lastYear : Int}
    (low : toDayNumber ⟨firstYear, 1, 1⟩ ≤ number)
    (high : number ≤ toDayNumber ⟨lastYear, 12, 31⟩) :
    firstYear ≤ (ofDayNumber number).year ∧ (ofDayNumber number).year ≤ lastYear := by
  obtain ⟨days, inYearLow, inYearHigh, -⟩ := splitYear_spec (number + epochOffset)
  rw [toDayNumber_firstDay] at low
  rw [toDayNumber_lastDay] at high
  simp only [ofDayNumber]
  generalize splitYear (number + epochOffset) = split at *
  obtain ⟨marchYear, inYear⟩ := split
  have below (le : marchYear ≤ firstYear - 1) := daysBeforeYear_add_le le
  have above (le : lastYear ≤ marchYear) := daysBeforeYear_add_le le
  -- A day from January on belongs to the year after its March-based one.
  split
  case isTrue early =>
    dsimp only at *
    constructor
    · by_contra earlier
      have gap := below (by omega)
      omega
    · by_contra later
      have gap := above (by omega)
      omega
  case isFalse late =>
    dsimp only at *
    constructor
    · by_contra earlier
      have gap := below (by omega)
      omega
    · by_contra later
      have gap := above (by omega)
      omega

end TriggerLedger.Date
