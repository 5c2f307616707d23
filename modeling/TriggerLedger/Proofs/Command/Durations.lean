import Mathlib.Algebra.Order.Ring.Int
import Mathlib.Data.List.Basic
import TriggerLedger.Command.Clean
import TriggerLedger.Proofs.Command.DurationGrammar
/-!
# Durations

A duration has the sign that it is written with: only one that begins with a minus is
negative, whatever its unit.
-/

namespace TriggerLedger.Command

/-- An integer has the sign that it is written with. -/
theorem WritesInteger.neg_iff {text : List Char} {value : Int} (written : WritesInteger text value) :
    value < 0 ↔ text.head? = some '-' ∧ value ≠ 0 := by
  obtain ⟨sign, factor, digits, known, -, areDigits, rfl, rfl⟩ := written
  have notNegative : 0 ≤ ((Nat.ofDigitChars 10 digits 0 : Nat) : Int) := Int.natCast_nonneg _
  simp only [signs, List.mem_cons, Prod.mk.injEq, List.not_mem_nil, or_false] at known
  obtain ⟨rfl, rfl⟩ | ⟨rfl, rfl⟩ | ⟨rfl, rfl⟩ := known
  · refine iff_of_false (by omega) ?_
    rintro ⟨minus, -⟩
    exact absurd (areDigits '-' (List.mem_of_head? minus)) (by decide)
  · exact iff_of_false (by omega) (by simp)
  · simp only [List.cons_append, List.head?_cons, true_and]
    omega

theorem unit_pos {letter : List Char} {unit : Int} (known : (letter, unit) ∈ unitLetters) :
    0 < unit := by
  have all : ∀ entry ∈ unitLetters, 0 < entry.2 := by decide
  exact all _ known

/-- A number of units is a span of the same sign. -/
theorem sign_ofMillis {unit : Int} (positive : 0 < unit) (count : Int) :
    ((Span.ofMillis (count * unit)).nanoseconds < 0 ↔ count < 0) ∧
      ((Span.ofMillis (count * unit)).nanoseconds = 0 ↔ count = 0) := by
  have scale : 0 < unit * Span.nanosPerMilli := Int.mul_pos positive (by decide)
  have product : (Span.ofMillis (count * unit)).nanoseconds =
      count * (unit * Span.nanosPerMilli) := Int.mul_assoc count unit Span.nanosPerMilli
  rw [product]
  constructor
  · simpa only [Int.zero_mul] using Int.mul_lt_mul_right (b := count) (c := 0) scale
  · simp only [Int.mul_eq_zero, scale.ne', or_false]

theorem Denotes.neg_iff {text : String} {span : Span} (denotes : Denotes text span) :
    span.nanoseconds < 0 ↔ text.toList.head? = some '-' ∧ span.nanoseconds ≠ 0 := by
  cases denotes with
  | empty => exact iff_of_false (by decide) (by simp)
  | units written fits short =>
      obtain ⟨integer, letter, written, known, whole⟩ := written
      obtain ⟨negative, zero⟩ := sign_ofMillis (unit_pos known) _
      -- Taking the unit off the end leaves the sign at the beginning.
      have sign : text.toList.head? = integer.head? := by
        rw [whole, List.head?_append_of_ne_nil _ written.ne_nil]
      rw [negative, ne_eq, zero, written.neg_iff, sign]

theorem parseDuration_neg_iff {text : String} {span : Span}
    (parsed : parseDuration text = .ok span) :
    span.nanoseconds < 0 ↔
      (Text.trim text).toList.head? = some '-' ∧ span.nanoseconds ≠ 0 :=
  (parseDuration_eq_ok_iff.mp parsed).neg_iff

theorem nonneg_of_daysSpan {days : Nat} {span : Span} (accepted : daysSpan days = .ok span) :
    0 ≤ span.nanoseconds := by
  rw [daysSpan, Span.ofDays?, ofUnits?_eq] at accepted
  by_cases short : IsSpanLength (days * Span.millisPerDay)
  · simp only [if_pos short, Except.ok.injEq] at accepted
    subst accepted
    have negative := (sign_ofMillis (by decide : 0 < Span.millisPerDay) days).1
    omega
  · simp only [if_neg short, reduceCtorEq] at accepted

/-- Cleaning looks forward only if it is told a duration with a minus, and one that is not zero. -/
theorem cleanSpan_neg_iff {retentionDays : Nat} {before : Option String} {span : Span}
    (accepted : cleanSpan retentionDays before false = .ok span) :
    span.nanoseconds < 0 ↔
      (∃ text ∈ before, (Text.trim text).toList.head? = some '-') ∧ span.nanoseconds ≠ 0 := by
  cases before with
  | none =>
      simp only [cleanSpan, Bool.false_eq_true, if_false] at accepted
      exact iff_of_false (Int.not_lt.mpr (nonneg_of_daysSpan accepted)) (by simp)
  | some text =>
      simp only [cleanSpan, Bool.false_eq_true, if_false] at accepted
      simpa using parseDuration_neg_iff accepted

end TriggerLedger.Command
