import TriggerLedger.Proofs.Instant.Timestamp
/-!
# Clocks that are moved

A clock that is moved by a span stands at the exact sum, to the nanosecond, unless that
lies beyond the calendar: then it stands at the bound.
-/

namespace TriggerLedger.Instant

variable {now : Instant} {span : Span}

theorem earliest_le_latest : earliest.nanoseconds ≤ latest.nanoseconds := by decide

/-- A clock in the calendar is moved to the instant of the calendar that is nearest to the sum. -/
theorem nanoseconds_advance_eq_clamp (inside : now.inCalendar = true) (span : Span) :
    (now.advance span).nanoseconds =
      max earliest.nanoseconds (min latest.nanoseconds (now.nanoseconds + span.nanoseconds)) := by
  have bounds := inCalendar_iff.mp inside
  have order := earliest_le_latest
  unfold advance add?
  by_cases reached : (⟨now.nanoseconds + span.nanoseconds⟩ : Instant).inCalendar = true
  · have sum : earliest.nanoseconds ≤ now.nanoseconds + span.nanoseconds ∧
        now.nanoseconds + span.nanoseconds ≤ latest.nanoseconds := inCalendar_iff.mp reached
    simp only [reached, if_true, Option.getD_some]
    omega
  · have beyond : ¬(earliest.nanoseconds ≤ now.nanoseconds + span.nanoseconds ∧
        now.nanoseconds + span.nanoseconds ≤ latest.nanoseconds) := mt inCalendar_iff.mpr reached
    simp only [reached, Bool.false_eq_true, if_false, Option.getD_none]
    -- A sum below the calendar was reached by moving back, and one above it by moving forward.
    split
    case isTrue back => omega
    case isFalse forward => omega

theorem inCalendar_advance (inside : now.inCalendar = true) (span : Span) :
    (now.advance span).inCalendar = true := by
  have order := earliest_le_latest
  rw [inCalendar_iff, nanoseconds_advance_eq_clamp inside]
  omega

/-- A clock that is moved forward stops at the last instant of the calendar. -/
theorem nanoseconds_advance (inside : now.inCalendar = true) (forward : 0 ≤ span.nanoseconds) :
    (now.advance span).nanoseconds =
      min latest.nanoseconds (now.nanoseconds + span.nanoseconds) := by
  have bounds := inCalendar_iff.mp inside
  rw [nanoseconds_advance_eq_clamp inside]
  omega

/-- A clock that is moved forward is not set back, and stays in the calendar. -/
theorem le_advance (inside : now.inCalendar = true) (forward : 0 ≤ span.nanoseconds) :
    now ≤ now.advance span ∧ (now.advance span).inCalendar = true := by
  have bounds := inCalendar_iff.mp inside
  refine ⟨?_, inCalendar_advance inside span⟩
  change now.nanoseconds ≤ (now.advance span).nanoseconds
  rw [nanoseconds_advance inside forward]
  omega

/-- Whichever way a clock is moved, it never leaves the calendar. -/
theorem inCalendar_foldl_advance (inside : now.inCalendar = true) (spans : List Span) :
    (spans.foldl advance now).inCalendar = true := by
  induction spans generalizing now with
  | nil => exact inside
  | cons span spans induction => exact induction (inCalendar_advance inside span)

end TriggerLedger.Instant
