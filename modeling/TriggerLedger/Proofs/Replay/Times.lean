import TriggerLedger.Proofs.Instant.Clock
import TriggerLedger.Proofs.Replay.Reports
import TriggerLedger.Proofs.Replay.Scripts
import TriggerLedger.Proofs.Replay.Shift
import TriggerLedger.Proofs.Session.Marks
/-!
# Times of a replay

The steps of a script never move the clock back, also where it stops at the end of
the calendar.  So every instant that a session holds lies in the past of its clock,
and no time that is measured from one is negative.
-/

namespace TriggerLedger

open LatencyMarks (Mark)

/-- The instants that a session holds. -/
def Session.instants (session : Session) : List Instant :=
  session.invocationTime.toList ++ session.prior.decidedAt.toList ++
    Mark.all.filterMap session.marks.get

namespace Script

/-- The mark that a step sets. -/
def Step.mark? : Step → Option Mark
  | .invocationStart => some .invocationStart
  | .credentialFetchStart => some .credentialFetchStart
  | .apiCallStart => some .apiCallStart
  | .apiCallEnd => some .apiCallEnd
  | .allPaginationEnd => some .allPaginationEnd
  | .firstSuggestionShown => some .firstSuggestionShown
  | _ => none

theorem Step.mark?_eq_none_of_closing? {step : Step} {closing : Closing}
    (closes : step.closing? = some closing) : step.mark? = none := by
  cases step with
  | decisions batch => rfl
  | rollup closing => rfl
  | _ => cases closes

namespace Replay

variable {settings : Settings}

/-- A step sets its own mark, and any other step leaves the marks alone. -/
theorem get_marks_gathered (settings : Settings) (step : Step) (replay : Replay) :
    (replay.gathered settings step).marks.get =
      (step.mark?.elim replay.session.marks (replay.session.marks.set replay.clock)).get := by
  cases step with
  | firstRecommendation =>
      rw [gathered_firstRecommendation]
      rfl
  | clientLatency language =>
      exact congrArg (·.marks.get) (gathered_clientLatency settings language replay)
  | firstResponse requestId => exact funext fun mark => by cases mark <;> rfl
  | _ => rfl

theorem marks_next (settings : Settings) (step : Step) (replay : Replay) :
    (replay.next settings step).session.marks = (replay.gathered settings step).marks := by
  rw [next_session]
  cases replay.rollup? settings step <;> rfl

theorem invocationTime_gathered (settings : Settings) (step : Step) (replay : Replay) :
    (replay.gathered settings step).invocationTime =
      if step = .invocationTime then some replay.clock else replay.session.invocationTime := by
  cases step with
  | firstRecommendation =>
      rw [gathered_firstRecommendation]
      rfl
  | clientLatency language =>
      exact congrArg Session.invocationTime (gathered_clientLatency settings language replay)
  | _ => rfl

theorem toFirstRecommendation_gathered (settings : Settings) (step : Step) (replay : Replay) :
    (replay.gathered settings step).toFirstRecommendation = replay.session.toFirstRecommendation ∨
      ∃ invoked ∈ replay.session.invocationTime,
        (replay.gathered settings step).toFirstRecommendation =
          replay.clock.millisSince invoked := by
  cases step with
  | firstRecommendation =>
      rw [gathered_firstRecommendation]
      cases replay.session.invocationTime with
      | none => exact .inl rfl
      | some invoked => exact .inr ⟨invoked, rfl, rfl⟩
  | clientLatency language =>
      exact .inl (congrArg Session.toFirstRecommendation
        (gathered_clientLatency settings language replay))
  | _ => exact .inl rfl

theorem le_clock_next (settings : Settings) {step : Step} {replay : Replay}
    (inside : replay.clock.inCalendar = true) (forward : 0 ≤ step.advanced) :
    replay.clock ≤ (replay.next settings step).clock ∧
      (replay.next settings step).clock.inCalendar = true := by
  have moved : (replay.next settings step).clock = replay.clock.advance (.ofMillis step.advanced) :=
    clock_apply_eq_advance settings step inside
  rw [moved]
  exact Instant.le_advance inside (Int.mul_nonneg forward (by decide))

/-- Nothing that a replay holds lies ahead of its clock. -/
structure Timely (replay : Replay) : Prop where
  inside : replay.clock.inCalendar = true
  invoked : ∀ instant ∈ replay.session.invocationTime, instant ≤ replay.clock
  decided : ∀ instant ∈ replay.session.prior.decidedAt, instant ≤ replay.clock
  marks : replay.session.marks.Sound replay.clock
  recommendation : 0 ≤ replay.session.toFirstRecommendation

namespace Timely

variable {replay : Replay}

theorem start {clock : Instant} (inside : clock.inCalendar = true) : (start clock).Timely where
  inside := inside
  invoked := nofun
  decided := nofun
  marks := .blank clock
  recommendation := Int.le_refl 0

theorem marks_gathered (timely : replay.Timely) (settings : Settings) (step : Step) :
    (replay.gathered settings step).marks.Sound replay.clock := by
  have same := get_marks_gathered settings step replay
  refine .of_get same ?_
  cases step.mark? with
  | none => exact timely.marks
  | some mark => exact timely.marks.set mark

theorem invoked_gathered (timely : replay.Timely) (settings : Settings) (step : Step) :
    ∀ instant ∈ (replay.gathered settings step).invocationTime, instant ≤ replay.clock := by
  rw [invocationTime_gathered]
  split
  case isTrue =>
    rintro _ ⟨rfl⟩
    exact replay.clock.le_refl
  case isFalse => exact timely.invoked

theorem recommendation_gathered (timely : replay.Timely) (settings : Settings) (step : Step) :
    0 ≤ (replay.gathered settings step).toFirstRecommendation := by
  rcases toFirstRecommendation_gathered settings step replay with same | ⟨invoked, known, noted⟩
  · rw [same]
    exact timely.recommendation
  · rw [noted]
    exact Instant.millisSince_nonneg (timely.invoked invoked known)

/-- A step that closes the session remembers its own time and forgets what was noted. -/
theorem next (timely : replay.Timely) (settings : Settings) {step : Step}
    (forward : 0 ≤ step.advanced) : (replay.next settings step).Timely := by
  obtain ⟨order, inside⟩ := le_clock_next settings timely.inside forward
  have prior := gathered_prior settings step replay
  have invoked := timely.invoked_gathered settings step
  have marks := timely.marks_gathered settings step
  have recommendation := timely.recommendation_gathered settings step
  constructor
  case inside => exact inside
  all_goals rw [next_session]; cases found : replay.rollup? settings step
  case invoked.none | invoked.some =>
    exact fun instant known => Instant.le_trans (invoked instant known) order
  case marks.none | marks.some => exact marks.later order
  case decided.none =>
    intro instant known
    rw [prior] at known
    exact Instant.le_trans (timely.decided instant known) order
  case decided.some =>
    rintro _ ⟨rfl⟩
    exact order
  case recommendation.none => exact recommendation
  case recommendation.some => exact Int.le_refl 0

theorem instants_le (timely : replay.Timely) :
    ∀ instant ∈ replay.session.instants, instant ≤ replay.clock := by
  intro instant member
  rw [Session.instants, List.mem_append, List.mem_append, Option.mem_toList, Option.mem_toList,
    List.mem_filterMap] at member
  rcases member with (invoked | decided) | ⟨mark, -, isSet⟩
  · exact timely.invoked instant invoked
  · exact timely.decided instant decided
  · exact timely.marks.past mark instant isSet

/-- What the record of a closed session tells of its times is not negative. -/
theorem nonneg_of_rollup? (timely : replay.Timely) {step : Step} {record : TriggerRecord}
    (found : replay.rollup? settings step = some record) :
    0 ≤ record.toFirstRecommendation ∧ ∀ time ∈ record.sinceLastDecision, 0 ≤ time := by
  have told := (prior_of_rollup? found).2
  obtain ⟨first, -, rfl⟩ := Option.map_eq_some_iff.mp (closingRecord?_of_rollup? found)
  refine ⟨timely.recommendation_gathered settings step, ?_⟩
  intro time isTime
  rw [told] at isTime
  obtain ⟨decided, isDecided, rfl⟩ := Option.map_eq_some_iff.mp isTime
  exact Instant.millisSince_nonneg (timely.decided decided isDecided)

/-- The latency that is reported runs from the start of the invocation to the first suggestion
shown, or to the present while there is none. -/
theorem latency_of_sessionReport? (timely : replay.Timely) {step : Step}
    {report : Remote.TriggerReport} (found : replay.sessionReport? settings step = some report) :
    0 ≤ report.latency ∧
      report.latency = LatencyMarks.span
        (some (replay.session.marks.firstSuggestionShown.getD replay.clock))
        replay.session.marks.invocationStart := by
  obtain ⟨closing, isClosing, reported⟩ := Option.bind_eq_some_iff.mp found
  obtain ⟨record, -, rfl⟩ := Option.map_eq_some_iff.mp reported
  have sound := timely.marks_gathered settings step
  have same := get_marks_gathered settings step replay
  rw [Step.mark?_eq_none_of_closing? isClosing] at same
  have shown : (replay.gathered settings step).marks.firstSuggestionShown =
      replay.session.marks.firstSuggestionShown := congrFun same .firstSuggestionShown
  have started : (replay.gathered settings step).marks.invocationStart =
      replay.session.marks.invocationStart := congrFun same .invocationStart
  have latency := sound.endToEnd_eq_span replay.clock
  rw [shown, started] at latency
  exact ⟨sound.endToEnd_nonneg, latency⟩

end Timely

theorem timely_run {clock : Instant} (inside : clock.inCalendar = true) {steps : List Step}
    (forward : ∀ step ∈ steps, 0 ≤ step.advanced) :
    ((start clock).run settings steps).Timely := by
  induction steps using List.reverseRecOn with
  | nil => exact .start inside
  | append_singleton steps step induction =>
      rw [run_concat]
      have before := induction fun earlier member => forward earlier (List.mem_append_left _ member)
      exact before.next settings (forward step (by simp))

end Replay

/-- Wherever in the calendar a script is started, no instant of its session ever lies ahead of the
clock.  So no time in a rollup is negative, and the latency that the endpoint is told always runs
from the start of the invocation to the first suggestion shown if there was one. -/
theorem no_instant_lies_ahead (settings : Settings) {script : String} {steps : List Step}
    (parsed : parse script = .ok steps) {clock : Instant} (inside : clock.inCalendar = true) :
    let after (before : List Step) := (Replay.start clock).run settings before
    (∀ before later, steps = before ++ later →
      ∀ instant ∈ (after before).session.instants, instant ≤ (after before).clock) ∧
    ∀ before step later, steps = before ++ step :: later →
      let replay := after before
      let moment := replay.moment settings step
      (∀ report ∈ moment.reports,
        0 ≤ report.latency ∧
        report.latency = LatencyMarks.span
          (some (replay.session.marks.firstSuggestionShown.getD replay.clock))
          replay.session.marks.invocationStart) ∧
      ∀ record ∈ moment.rollups,
        0 ≤ record.toFirstRecommendation ∧ ∀ time ∈ record.sinceLastDecision, 0 ≤ time := by
  intro after
  have timely (before later : List Step) (split : steps = before ++ later) :
      (after before).Timely := by
    refine Replay.timely_run inside fun step member => ?_
    exact (advanced_of_parse parsed step (split ▸ List.mem_append_left later member)).1
  refine ⟨fun before later split => (timely before later split).instants_le, ?_⟩
  intro before step later split replay moment
  have here : replay.Timely := timely before (step :: later) split
  constructor
  · intro report member
    rw [Replay.moment_reports, Option.mem_toList] at member
    exact here.latency_of_sessionReport? member
  · intro record member
    rw [Replay.moment_rollups, Option.mem_toList] at member
    exact here.nonneg_of_rollup? member

/-- A session that runs into the last instant of the calendar, and is closed there. -/
theorem closed_at_end_of_calendar :
    let timing := "\"invocation_time\"\n\"invocation_start\"\n\x7b\"advance\":[86400000]\x7d\n" ++
      "\"first_recommendation\"" ++ "\n"
    let request := "\x7b\"invocation\":\x7b\"request_id\":\"r\",\"session_id\":\"s\"," ++
      "\"result\":\"succeeded\",\"language\":\"go\"\x7d\x7d" ++ "\n"
    let decisions := "\x7b\"decisions\":\x7b\"request_id\":\"r\",\"session_id\":\"s\"," ++
      "\"suggestions\":[\x7b\"content\":\"x\"\x7d]\x7d\x7d\n\x7b\"rollup\":[\"s\"]\x7d"
    let before : List Step := [.invocationTime, .invocationStart, .advance 86400000,
      .firstRecommendation, plainRequest "r", .decisions (plainBatch "r" "x" none)]
    let closing : Step := .rollup ⟨"s", ""⟩
    let clock : Instant := ⟨Instant.latest.nanoseconds - 1500000⟩
    let replay := (Replay.start clock).run plainSettings before
    let moment := replay.moment plainSettings closing
    (parse (timing ++ (request ++ decisions)) = .ok (before ++ [closing]) ∧
      clock.inCalendar = true) ∧
    replay.clock = .latest ∧ (∀ instant ∈ replay.session.instants, instant ≤ .latest) ∧
    moment.reports.map (·.latency) = [1] ∧ (∀ report ∈ moment.reports, 0 ≤ report.latency) ∧
    moment.rollups ≠ [] ∧ ∀ record ∈ moment.rollups, 0 ≤ record.toFirstRecommendation := by
  intro timing request decisions before closing clock replay moment
  have parsed : parse (timing ++ (request ++ decisions)) = .ok (before ++ [closing]) := by
    have first : parse timing = .ok (before.take 4) := by decide +kernel
    have second : parse request = .ok [plainRequest "r"] := by decide +kernel
    have third : parse decisions = .ok [.decisions (plainBatch "r" "x" none), closing] := by
      decide +kernel
    have whole := parse_append_of_ok (.inr ⟨_, rfl⟩) first
      (parse_append_of_ok (.inr ⟨_, rfl⟩) second third)
    exact whole
  have inside : clock.inCalendar = true := by decide +kernel
  have stopped : replay.clock = .latest := by decide +kernel
  obtain ⟨past, closed⟩ := no_instant_lies_ahead plainSettings parsed inside
  obtain ⟨reports, rollups⟩ := closed before closing [] rfl
  refine ⟨⟨parsed, inside⟩, stopped, ?_, by decide +kernel,
    fun report member => (reports report member).1, by decide +kernel,
    fun record member => (rollups record member).1⟩
  rw [← stopped]
  exact past before [closing] rfl

end Script
end TriggerLedger
