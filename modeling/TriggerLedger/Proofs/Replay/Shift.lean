import Mathlib.Algebra.Order.BigOperators.Group.List
import TriggerLedger.Proofs.Instant.Timestamp
import TriggerLedger.Proofs.Replay.Outlets
/-!
# Replays at different times

A replay knows no absolute time.  Started a span later it goes through the same
states with all instants shifted by that span, hands out the same events and the
same requests with shifted timestamps, and has the same report, as long as neither
clock runs into the end of the calendar.
-/

namespace TriggerLedger

namespace Instant

/-- The instant a span later, wherever it lies. -/
def shift (offset : Span) (instant : Instant) : Instant :=
  ⟨instant.nanoseconds + offset.nanoseconds⟩

@[simp]
theorem since_shift (offset : Span) (later earlier : Instant) :
    (later.shift offset).since (earlier.shift offset) = later.since earlier := by
  simp only [since, shift, Span.mk.injEq]
  omega

@[simp]
theorem millisSince_shift (offset : Span) (later earlier : Instant) :
    (later.shift offset).millisSince (earlier.shift offset) = later.millisSince earlier := by
  rw [millisSince, since_shift, millisSince]

theorem shift_since (later earlier : Instant) : earlier.shift (later.since earlier) = later := by
  have sum : earlier.nanoseconds + (later.nanoseconds - earlier.nanoseconds) = later.nanoseconds :=
    by omega
  rw [shift, since, sum]

/-- A clock that does not run into the end of the calendar moves by the whole span. -/
theorem advance_eq_shift {now : Instant} {span : Span} (inside : now.inCalendar = true)
    (forward : 0 ≤ span.nanoseconds)
    (room : now.nanoseconds + span.nanoseconds ≤ latest.nanoseconds) :
    now.advance span = now.shift span ∧ (now.shift span).inCalendar = true := by
  have bounds := inCalendar_iff.mp inside
  have reached : (now.shift span).inCalendar = true :=
    inCalendar_iff.mpr ⟨Int.le_trans bounds.1 (Int.le_add_of_nonneg_right forward), room⟩
  refine ⟨?_, reached⟩
  simp only [shift] at reached ⊢
  simp [advance, add?, reached]

end Instant

namespace LatencyMarks

def shift (offset : Span) (marks : LatencyMarks) : LatencyMarks where
  invocationStart := marks.invocationStart.map (·.shift offset)
  credentialFetchStart := marks.credentialFetchStart.map (·.shift offset)
  apiCallStart := marks.apiCallStart.map (·.shift offset)
  apiCallEnd := marks.apiCallEnd.map (·.shift offset)
  allPaginationEnd := marks.allPaginationEnd.map (·.shift offset)
  firstSuggestionShown := marks.firstSuggestionShown.map (·.shift offset)
  firstResponse := marks.firstResponse

theorem setOnce_map {α β : Type} (change : α → β) (mark : Option α) (ready : Bool) (value : α) :
    setOnce (mark.map change) ready (change value) = (setOnce mark ready value).map change := by
  cases mark <;> cases ready <;> rfl

theorem difference_shift (offset : Span) (later earlier : Option Instant) :
    span (later.map (·.shift offset)) (earlier.map (·.shift offset)) = span later earlier := by
  cases later <;> cases earlier <;> simp [span]

theorem endToEnd_shift (offset : Span) (marks : LatencyMarks) (now : Instant) :
    (marks.shift offset).endToEnd (now.shift offset) = marks.endToEnd now := by
  simp only [endToEnd, shift]
  cases marks.invocationStart with
  | none => rfl
  | some start =>
      cases marks.firstSuggestionShown with
      | none => simp
      | some shown => simp

end LatencyMarks

def PriorOutcome.shift (offset : Span) (prior : PriorOutcome) : PriorOutcome :=
  ⟨prior.verdict, prior.decidedAt.map (·.shift offset)⟩

theorem PriorOutcome.fresh?_shift (offset : Span) (prior : PriorOutcome) (now : Instant)
    (window : Span) :
    (prior.shift offset).fresh? (now.shift offset) window = prior.fresh? now window := by
  simp only [fresh?, PriorOutcome.shift]
  cases prior.decidedAt <;> simp

def Remote.Request.shift (offset : Span) : Request → Request
  | .trigger report => .trigger { report with timestamp := report.timestamp.shift offset }
  | .scan report => .scan { report with timestamp := report.timestamp.shift offset }

namespace Session

def shift (offset : Span) (session : Session) : Session :=
  { session with
    invocationTime := session.invocationTime.map (·.shift offset)
    marks := session.marks.shift offset
    prior := session.prior.shift offset }

end Session

def Outcome.shift (offset : Span) (outcome : Outcome) : Outcome :=
  { outcome with
    session := outcome.session.shift offset
    requests := outcome.requests.map (·.shift offset) }

namespace Session

variable (offset : Span) (settings : Settings) (now : Instant) (session : Session)

theorem sessionRecord_shift (first : TriggerRecord) :
    (session.shift offset).sessionRecord settings (now.shift offset) first =
      session.sessionRecord settings now first := by
  have sinceLast : (session.prior.shift offset).decidedAt.map (now.shift offset).millisSince =
      session.prior.decidedAt.map now.millisSince := by
    simp only [PriorOutcome.shift]
    cases session.prior.decidedAt <;> simp
  simp only [sessionRecord]
  rw [← sinceLast]
  rfl

theorem close_shift (sessionId content : String) :
    (session.shift offset).close settings (now.shift offset) sessionId content =
      (session.close settings now sessionId content).shift offset := by
  have decisions : (session.shift offset).decisions = session.decisions := rfl
  unfold close
  rw [decisions]
  cases session.decisions with
  | nil => rfl
  | cons first rest =>
      have latency : (session.shift offset).marks.endToEnd (now.shift offset) =
          session.marks.endToEnd now :=
        LatencyMarks.endToEnd_shift offset session.marks now
      simp only [sessionRecord_shift, latency]
      rfl

theorem recordDecisions_shift (batch : DecisionBatch) :
    (session.shift offset).recordDecisions settings (now.shift offset) batch =
      (session.recordDecisions settings now batch).shift offset := by
  have gathered : (session.shift offset).gather settings batch =
      (session.gather settings batch).shift offset := rfl
  have complete : ((session.gather settings batch).shift offset).isComplete batch.requestId =
      (session.gather settings batch).isComplete batch.requestId := rfl
  have records : (session.shift offset).decisionRecords settings batch =
      session.decisionRecords settings batch := rfl
  unfold recordDecisions
  simp only [gathered, complete, records, close_shift]
  split <;> rfl

theorem markFirstRecommendation_shift :
    (session.shift offset).markFirstRecommendation (now.shift offset) =
      (session.markFirstRecommendation now).shift offset := by
  have invoked : (session.shift offset).invocationTime =
      session.invocationTime.map (·.shift offset) := rfl
  unfold markFirstRecommendation
  rw [invoked]
  cases known : session.invocationTime with
  | none => rfl
  | some invoked => simp [shift, known]

theorem latencyRecord?_shift (language : Option String) :
    (session.shift offset).latencyRecord? settings language =
      session.latencyRecord? settings language := by
  simp only [latencyRecord?, shift, LatencyMarks.shift]
  cases session.marks.firstSuggestionShown with
  | none => rfl
  | some shown =>
      cases session.marks.allPaginationEnd with
      | none => rfl
      | some paginationEnd =>
          simp only [Option.map_some, ← LatencyMarks.difference_shift offset (some shown),
            ← LatencyMarks.difference_shift offset (some paginationEnd),
            LatencyMarks.difference_shift]

end Session

namespace Script

/-- An emission with the timestamps of its requests shifted by a span. -/
def Emission.shift (offset : Span) (emission : Emission) : Emission :=
  ⟨emission.events, emission.requests.map (·.shift offset)⟩

theorem Emission.append_shift (offset : Span) (first second : Emission) :
    (first.append second).shift offset = (first.shift offset).append (second.shift offset) := by
  simp [append, shift]

namespace Replay

/-- The clock and all instants of the session shifted by a span. -/
def shift (offset : Span) (replay : Replay) : Replay :=
  ⟨replay.clock.shift offset, replay.session.shift offset, replay.report⟩

variable {settings : Settings}

theorem onMarks_shift (offset : Span) (replay : Replay)
    {change shifted : LatencyMarks → LatencyMarks}
    (commutes : shifted (replay.session.marks.shift offset) =
      (change replay.session.marks).shift offset) :
    (replay.shift offset).onMarks shifted =
      ((replay.onMarks change).1.shift offset, (replay.onMarks change).2.shift offset) := by
  have marks : (replay.shift offset).session.marks = replay.session.marks.shift offset := rfl
  simp only [onMarks, onSession, marks, commutes]
  rfl

/-- A step takes a shifted replay to the shifted next one, unless a bound of the calendar stops one
of the two clocks only. -/
theorem perform_shift (offset : Span) (step : Step) (replay : Replay)
    (advances : ∀ milliseconds, step = .advance milliseconds →
      (replay.clock.shift offset).advance (.ofMillis milliseconds) =
        (replay.clock.advance (.ofMillis milliseconds)).shift offset) :
    (replay.shift offset).perform settings step =
      ((replay.perform settings step).1.shift offset,
        (replay.perform settings step).2.shift offset) := by
  have clock : (replay.shift offset).clock = replay.clock.shift offset := rfl
  have session : (replay.shift offset).session = replay.session.shift offset := rfl
  -- Steps that compare instants, subtract them or set a mark once; all others copy what they read.
  cases step with
  | advance milliseconds =>
      simp only [perform, clock, advances milliseconds rfl]
      rfl
  | firstRecommendation =>
      simp only [perform, onSession, clock, session, Session.markFirstRecommendation_shift]
      rfl
  | credentialFetchStart =>
      refine onMarks_shift offset replay ?_
      simp [LatencyMarks.markCredentialFetchStart, LatencyMarks.shift, clock,
        LatencyMarks.setOnce_map]
  | apiCallStart =>
      refine onMarks_shift offset replay ?_
      simp [LatencyMarks.markApiCallStart, LatencyMarks.shift, clock, LatencyMarks.setOnce_map]
  | apiCallEnd =>
      refine onMarks_shift offset replay ?_
      simp [LatencyMarks.markApiCallEnd, LatencyMarks.shift, clock, LatencyMarks.setOnce_map]
  | allPaginationEnd =>
      refine onMarks_shift offset replay ?_
      simp [LatencyMarks.markAllPaginationEnd, LatencyMarks.shift, clock,
        LatencyMarks.setOnce_map]
  | firstSuggestionShown =>
      refine onMarks_shift offset replay ?_
      simp [LatencyMarks.markFirstSuggestionShown, LatencyMarks.shift, clock,
        LatencyMarks.setOnce_map]
  | decisions batch =>
      simp only [perform, clock, session, Session.recordDecisions_shift]
      rfl
  | rollup closing =>
      simp only [perform, clock, session, Session.close_shift]
      rfl
  | clientLatency language =>
      simp only [perform, session, Session.latencyRecord?_shift]
      cases replay.session.latencyRecord? settings language <;> rfl
  | priorDecision =>
      have prior : (replay.session.shift offset).priorVerdict? settings (replay.clock.shift offset) =
          replay.session.priorVerdict? settings replay.clock :=
        PriorOutcome.fresh?_shift offset replay.session.prior replay.clock settings.freshness
      simp only [perform, clock, session, prior]
      rfl
  | _ => rfl

end Replay

/-- The milliseconds that a step moves the clock by. -/
def Step.advanced : Step → Int
  | .advance milliseconds => milliseconds
  | _ => 0

/-- The span that steps move the clock by altogether. -/
def advancedBy (steps : List Step) : Span := .ofMillis (steps.map Step.advanced).sum

@[simp]
theorem advancedBy_singleton (step : Step) : advancedBy [step] = .ofMillis step.advanced := by
  simp only [advancedBy, List.map_singleton, List.sum_singleton]

theorem nanoseconds_advancedBy_append (earlier later : List Step) :
    (advancedBy (earlier ++ later)).nanoseconds =
      (advancedBy earlier).nanoseconds + (advancedBy later).nanoseconds := by
  simp only [advancedBy, Span.ofMillis, List.map_append, List.sum_append, Int.add_mul]

theorem Step.advanced_of_check {step checked : Step} (passed : step.check = .ok checked) :
    checked = step ∧ 0 ≤ step.advanced ∧ step.advanced ≤ maxAdvance := by
  cases step with
  | advance milliseconds =>
      simp only [check] at passed
      split at passed
      case isTrue inRange => exact ⟨(Except.ok.inj passed).symm, inRange⟩
      case isFalse => cases passed
  | _ => exact ⟨(Except.ok.inj passed).symm, by simp [advanced, maxAdvance]⟩

theorem advanced_of_parseLine {line : List Char} {step : Step} (parsed : parseLine line = .ok step) :
    0 ≤ step.advanced ∧ step.advanced ≤ maxAdvance := by
  unfold parseLine at parsed
  split at parsed
  · cases parsed
  · obtain ⟨rfl, inRange⟩ := Step.advanced_of_check parsed
    exact inRange

theorem advanced_of_parseLines {number : Nat} {lines : List (List Char)} {steps : List Step}
    (parsed : parseLines number lines = .ok steps) :
    ∀ step ∈ steps, 0 ≤ step.advanced ∧ step.advanced ≤ maxAdvance := by
  induction lines generalizing number steps with
  | nil =>
      obtain rfl := Except.ok.inj parsed
      simp
  | cons line lines induction =>
      rw [parseLines] at parsed
      split at parsed
      case isTrue significant =>
        cases read : parseLine (Text.trimChars line) with
        | error fault => simp [read] at parsed
        | ok first =>
            cases rest : parseLines (number + 1) lines with
            | error fault => simp [read, rest] at parsed
            | ok others =>
                simp only [read, rest, Except.ok.injEq] at parsed
                subst parsed
                intro step member
                rcases List.mem_cons.mp member with rfl | later
                · exact advanced_of_parseLine read
                · exact induction rest step later
      case isFalse => exact induction parsed

theorem advanced_of_parse {script : String} {steps : List Step} (parsed : parse script = .ok steps) :
    ∀ step ∈ steps, 0 ≤ step.advanced ∧ step.advanced ≤ maxAdvance :=
  advanced_of_parseLines parsed

namespace Replay

variable {settings : Settings}

/-- In the calendar, a step without an advance is one that advances by nothing. -/
theorem clock_apply_eq_advance (settings : Settings) (step : Step) {replay : Replay}
    (inside : replay.clock.inCalendar = true) :
    (replay.apply settings step).1.clock = replay.clock.advance (.ofMillis step.advanced) := by
  have still : replay.clock = replay.clock.advance (.ofMillis 0) := by
    simp [Instant.advance, Instant.add?, Span.ofMillis, inside]
  cases step with
  | advance milliseconds => rfl
  | clientLatency language =>
      simp only [apply, perform, countStep]
      split <;> exact still
  | _ => exact still

/-- A clock with room for all steps is moved by each of them, and keeps room for the others. -/
theorem clock_apply (settings : Settings) {step : Step} {steps : List Step} (replay : Replay)
    (inside : replay.clock.inCalendar = true) (forward : 0 ≤ step.advanced)
    (laterForward : 0 ≤ (advancedBy steps).nanoseconds)
    (room : replay.clock.nanoseconds + (advancedBy (step :: steps)).nanoseconds ≤
      Instant.latest.nanoseconds) :
    (replay.apply settings step).1.clock = replay.clock.shift (.ofMillis step.advanced) ∧
      (replay.apply settings step).1.clock.inCalendar = true ∧
      (replay.apply settings step).1.clock.nanoseconds + (advancedBy steps).nanoseconds ≤
        Instant.latest.nanoseconds := by
  have total : (advancedBy (step :: steps)).nanoseconds =
      (Span.ofMillis step.advanced).nanoseconds + (advancedBy steps).nanoseconds := by
    rw [← advancedBy_singleton]
    exact nanoseconds_advancedBy_append [step] steps
  have nonneg : 0 ≤ (Span.ofMillis step.advanced).nanoseconds :=
    Int.mul_nonneg forward (by decide)
  have moved := Instant.advance_eq_shift inside nonneg (by omega)
  have clock : (replay.apply settings step).1.clock =
      replay.clock.shift (.ofMillis step.advanced) :=
    (clock_apply_eq_advance settings step inside).trans moved.1
  refine ⟨clock, clock ▸ moved.2, ?_⟩
  rw [clock]
  simp only [Instant.shift]
  omega

theorem advancedBy_nonneg {steps : List Step} (forward : ∀ step ∈ steps, 0 ≤ step.advanced) :
    0 ≤ (advancedBy steps).nanoseconds := by
  refine Int.mul_nonneg (List.sum_nonneg ?_) (by decide)
  intro milliseconds member
  obtain ⟨step, present, rfl⟩ := List.mem_map.mp member
  exact forward step present

/-- Steps take a shifted replay to the shifted result, if both clocks have room. -/
theorem applyAll_shift (offset : Span) {steps : List Step} {replay : Replay}
    (forward : ∀ step ∈ steps, 0 ≤ step.advanced)
    (inside : replay.clock.inCalendar = true)
    (shiftedInside : (replay.clock.shift offset).inCalendar = true)
    (room : replay.clock.nanoseconds + (advancedBy steps).nanoseconds ≤
      Instant.latest.nanoseconds)
    (shiftedRoom : (replay.clock.shift offset).nanoseconds + (advancedBy steps).nanoseconds ≤
      Instant.latest.nanoseconds) :
    (replay.shift offset).applyAll settings steps =
      ((replay.applyAll settings steps).1.shift offset,
        (replay.applyAll settings steps).2.shift offset) := by
  induction steps generalizing replay with
  | nil => rfl
  | cons step steps induction =>
      -- Neither clock is stopped by this step, since both have room for all the steps to come.
      have stepForward := forward step List.mem_cons_self
      have stepsForward : ∀ later ∈ steps, 0 ≤ later.advanced :=
        fun later member => forward later (List.mem_cons_of_mem step member)
      have rest := advancedBy_nonneg stepsForward
      obtain ⟨clock, nextInside, nextRoom⟩ :=
        clock_apply settings replay inside stepForward rest room
      obtain ⟨shiftedClock, shiftedNextInside, shiftedNextRoom⟩ :=
        clock_apply settings (replay.shift offset) shiftedInside stepForward rest shiftedRoom
      have performed : (replay.shift offset).apply settings step =
          ((replay.apply settings step).1.shift offset,
            (replay.apply settings step).2.shift offset) := by
        simp only [apply]
        rw [perform_shift]
        · rfl
        · rintro milliseconds rfl
          have moved : (replay.clock.shift offset).advance (.ofMillis milliseconds) =
            (replay.clock.shift offset).shift (.ofMillis milliseconds) := shiftedClock
          have stay : replay.clock.advance (.ofMillis milliseconds) =
            replay.clock.shift (.ofMillis milliseconds) := clock
          rw [moved, stay]
          simp only [Instant.shift, Instant.mk.injEq]
          omega
      have nextClock : ((replay.shift offset).apply settings step).1.clock =
          (replay.apply settings step).1.clock.shift offset := by
        rw [performed]
        rfl
      have later := induction stepsForward nextInside (nextClock ▸ shiftedNextInside) nextRoom
        (nextClock ▸ shiftedNextRoom)
      simp only [applyAll, performed, later, Emission.append_shift]

end Replay

/-- A script replayed at two times, from each of which its clock stays in the calendar, has the
same report, offers the same events, and hands over the same requests with timestamps that are
apart as the starts are.  So are all instants of the two sessions, which are else the same. -/
theorem replay_shifts_with_start {σ γ : Type} (outlets : Outlets σ γ) (sink : σ) (client : γ)
    (settings : Settings) {script : String} {steps : List Step}
    (parsed : parse script = .ok steps) {first second : Instant}
    (firstInside : first.inCalendar = true) (secondInside : second.inCalendar = true)
    (firstRoom : first.nanoseconds + (advancedBy steps).nanoseconds ≤ Instant.latest.nanoseconds)
    (secondRoom : second.nanoseconds + (advancedBy steps).nanoseconds ≤
      Instant.latest.nanoseconds) :
    let offset := second.since first
    let replayed (clock : Instant) :=
      ((Run.start clock ([], sink) ([], client)).runScript outlets.listing settings script).1.settle
        outlets.listing
    (replayed second).replay.report = (replayed first).replay.report ∧
    (replayed second).sink.1 = (replayed first).sink.1 ∧
    (replayed second).client.1 = (replayed first).client.1.map (·.shift offset) ∧
    (replayed second).replay.session = (replayed first).replay.session.shift offset ∧
    (replayed second).replay.clock = (replayed first).replay.clock.shift offset := by
  intro offset replayed
  have started : first.shift offset = second := Instant.shift_since second first
  have shifted : (Replay.start second).applyAll settings steps =
      (((Replay.start first).applyAll settings steps).1.shift offset,
        ((Replay.start first).applyAll settings steps).2.shift offset) := by
    have forward : ∀ step ∈ steps, 0 ≤ step.advanced :=
      fun step member => (advanced_of_parse parsed step member).1
    have start : (Replay.start first).shift offset = Replay.start second := by
      rw [← started]
      rfl
    rw [← start]
    refine Replay.applyAll_shift offset forward firstInside ?_ firstRoom ?_
    · exact started ▸ secondInside
    · exact started ▸ secondRoom
  have left (clock : Instant) := Run.settle_runScript outlets settings parsed clock sink client
  obtain ⟨firstReplay, firstOffered, firstHanded⟩ := left first
  obtain ⟨secondReplay, secondOffered, secondHanded⟩ := left second
  have replay : (replayed second).replay = (replayed first).replay.shift offset := by
    rw [secondReplay, firstReplay, shifted]
  refine ⟨?_, ?_, ?_, congrArg Replay.session replay, congrArg Replay.clock replay⟩
  · rw [replay]
    rfl
  · rw [secondOffered, firstOffered, shifted]
    rfl
  · rw [secondHanded, firstHanded, shifted]
    unfold Run.sentOf
    split <;> rfl

/-- A scan reported a day after the start is reported a day after any other start, here one that
is not on a millisecond. -/
theorem scan_shifts_with_start :
    let script := "\"invocation_start\"\n\x7b\"advance\":\x7b\"ms\":86400000\x7d\x7d\n" ++
      "\x7b\"code_scan\":\x7b\"language\":\"go\",\"job_id\":\"1\"\x7d\x7d\n"
    let outlets : Outlets Unit Unit := ⟨.refusing, .silent, true⟩
    let settings : Settings := ⟨"Control", true, .ofSeconds 120⟩
    let replayed (clock : Instant) :=
      ((Run.start clock ([], ()) ([], ())).runScript outlets.listing settings script).1.settle
        outlets.listing
    (replayed ⟨0⟩).client.1 = [.scan ⟨"go", "1", ⟨86400000000000⟩⟩] ∧
    (replayed ⟨999999⟩).client.1 = [.scan ⟨"go", "1", ⟨86400000999999⟩⟩] ∧
    (replayed ⟨999999⟩).replay.session =
      { Session.initial with marks := LatencyMarks.start ⟨999999⟩ } := by
  intro script outlets settings replayed
  have parsed : parse script = .ok [.invocationStart, .advance 86400000, .codeScan ⟨"go", "1"⟩] := by
    have read : (parse script).toOption =
        some [.invocationStart, .advance 86400000, .codeScan ⟨"go", "1"⟩] := by
      decide +kernel
    cases outcome : parse script with
    | error fault =>
        rw [outcome] at read
        cases read
    | ok steps =>
        rw [outcome] at read
        exact congrArg Except.ok (Option.some.inj read)
  have first : (replayed ⟨0⟩).client.1 = [.scan ⟨"go", "1", ⟨86400000000000⟩⟩] ∧
      (replayed ⟨0⟩).replay.session = { Session.initial with marks := LatencyMarks.start ⟨0⟩ } := by
    simp only [replayed, Run.runScript, parsed]
    decide +kernel
  have firstInside : (⟨0⟩ : Instant).inCalendar = true := by decide +kernel
  have secondInside : (⟨999999⟩ : Instant).inCalendar = true := by decide +kernel
  obtain ⟨-, -, requests, session, -⟩ := replay_shifts_with_start outlets () () settings parsed
    firstInside secondInside (by decide +kernel) (by decide +kernel)
  refine ⟨first.1, requests.trans ?_, session.trans ?_⟩
  · rw [first.1]
    rfl
  · rw [first.2]
    rfl

end Script
end TriggerLedger
