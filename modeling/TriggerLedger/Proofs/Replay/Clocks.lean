import TriggerLedger.Proofs.Replay.LatencyParts
/-!
# The clock of a replay

The clock stands at the start plus all that the steps advanced it by, in closed form: since
no step of a script moves it back, it is stopped at most once, at the end of the calendar.
-/

namespace TriggerLedger.Script

/-- Further steps never take the clock back. -/
theorem Replay.clock_run_le_append {settings : Settings} {clock : Instant} {earlier rest : List Step}
    (inside : clock.inCalendar = true) (forward : ∀ step ∈ earlier ++ rest, 0 ≤ step.advanced) :
    ((start clock).run settings earlier).clock ≤
      ((start clock).run settings (earlier ++ rest)).clock := by
  have forwardEarlier (step : Step) (member : step ∈ earlier) : 0 ≤ step.advanced :=
    forward step (List.mem_append_left rest member)
  have others : 0 ≤ (advancedBy rest).nanoseconds :=
    advancedBy_nonneg fun step member => forward step (List.mem_append_right earlier member)
  change ((start clock).run settings earlier).clock.nanoseconds ≤
    ((start clock).run settings (earlier ++ rest)).clock.nanoseconds
  rw [nanoseconds_clock_run inside forwardEarlier, nanoseconds_clock_run inside forward,
    nanoseconds_advancedBy_append]
  omega

/-- Wherever in the calendar a clock is started and however it is moved, it stays in the calendar, and
each movement takes it to the exact sum, clamped to the calendar.  The steps of a script take it to
the sum of all their advances, clamped once, and never back. -/
theorem clock_clamped_to_calendar {start : Instant} (inside : start.inCalendar = true) :
    (∀ spans : List Span,
      let now := spans.foldl Instant.advance start
      now.inCalendar = true ∧
      ∀ span, (now.advance span).nanoseconds =
        max Instant.earliest.nanoseconds
          (min Instant.latest.nanoseconds (now.nanoseconds + span.nanoseconds))) ∧
    ∀ (settings : Settings) (script : String) (steps : List Step), parse script = .ok steps →
      let after (before : List Step) := ((Replay.start start).run settings before).clock
      ∀ before, before <+: steps →
        (after before).nanoseconds =
          min Instant.latest.nanoseconds (start.nanoseconds + (advancedBy before).nanoseconds) ∧
        ∀ earlier, earlier <+: before → after earlier ≤ after before := by
  constructor
  · intro spans now
    have within : now.inCalendar = true := Instant.inCalendar_foldl_advance inside spans
    exact ⟨within, Instant.nanoseconds_advance_eq_clamp within⟩
  · intro settings script steps parsed after before begins
    have forward (step : Step) (member : step ∈ before) : 0 ≤ step.advanced :=
      (advanced_of_parse parsed step (begins.mem member)).1
    refine ⟨Replay.nanoseconds_clock_run inside forward, ?_⟩
    rintro earlier ⟨rest, rfl⟩
    exact Replay.clock_run_le_append inside forward

/-- A clock that is stopped at the end of the calendar goes back from there, and one that runs into the
end by the steps of a script stays there. -/
theorem clock_stopped_between_millis :
    let start : Instant := ⟨Instant.latest.nanoseconds - 1500000⟩
    let script := "\x7b\"advance\":[1]\x7d\n\x7b\"advance\":[86400000]\x7d"
    let after (before : List Step) := ((Replay.start start).run plainSettings before).clock
    start.inCalendar = true ∧
    ([Span.ofMillis 2, ⟨-1⟩].foldl Instant.advance start).nanoseconds =
      Instant.latest.nanoseconds - 1 ∧
    parse script = .ok [.advance 1, .advance 86400000] ∧
    (after [.advance 1]).nanoseconds = Instant.latest.nanoseconds - 500000 ∧
    (after [.advance 1, .advance 86400000]).nanoseconds = Instant.latest.nanoseconds := by
  intro start script after
  have inside : start.inCalendar = true := by decide +kernel
  have parsed : parse script = .ok [.advance 1, .advance 86400000] := by decide +kernel
  obtain ⟨moved, replayed⟩ := clock_clamped_to_calendar inside
  have closed := replayed plainSettings script _ parsed
  have back : ([Span.ofMillis 2, ⟨-1⟩].foldl Instant.advance start).nanoseconds =
      Instant.latest.nanoseconds - 1 := by
    have stopped := (moved [.ofMillis 2]).2 ⟨-1⟩
    rw [List.foldl_cons, List.foldl_nil] at stopped
    rw [List.foldl_cons, List.foldl_cons, List.foldl_nil, stopped]
    decide +kernel
  exact ⟨inside, back, parsed,
    (closed [.advance 1] ⟨[.advance 86400000], rfl⟩).1.trans (by decide +kernel),
    (closed _ List.prefix_rfl).1.trans (by decide +kernel)⟩

end TriggerLedger.Script
