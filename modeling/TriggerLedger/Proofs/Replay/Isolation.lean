import TriggerLedger.Proofs.Replay.Accounting
/-!
# What a session leaves behind

After a session was closed, the clock, the trigger, the session last named, the
latency marks and the outcome decide how a replay goes on.  The stamp of the
invocation is not cleared either.  It shows in nothing but the time to the first
recommendation, and there only if that is noted before the stamp is set again.
-/

namespace TriggerLedger

/-- Forget how long something took. -/
def untimed (_ : Int) : Int := 0

/-- The record with the noted time to the first recommendation changed. -/
def TriggerRecord.retime (change : Int → Int) (record : TriggerRecord) : TriggerRecord :=
  { record with toFirstRecommendation := change record.toFirstRecommendation }

def Event.retime (change : Int → Int) : Event → Event
  | .trigger record => .trigger (record.retime change)
  | event => event

theorem Event.retime_id : Event.retime id = id := by
  funext event
  cases event <;> rfl

namespace Session

/-- The session with another stamp of the invocation, and what was noted from it changed. -/
def retime (stamp : Option Instant) (change : Int → Int) (session : Session) : Session :=
  { session with
    invocationTime := stamp
    toFirstRecommendation := change session.toFirstRecommendation }

theorem reset_eq (session : Session) :
    session.reset =
      { initial with
        trigger := session.trigger
        cause := session.cause
        cursorOffset := session.cursorOffset
        sessionId := session.sessionId
        invocationTime := session.invocationTime
        marks := session.marks
        prior := session.prior } :=
  rfl

end Session

def Outcome.retime (stamp : Option Instant) (change : Int → Int) (outcome : Outcome) : Outcome where
  session := outcome.session.retime stamp change
  events := outcome.events.map (·.retime change)
  requests := outcome.requests
  rollup := outcome.rollup.map fun rollup => { rollup with record := rollup.record.retime change }

namespace Session

variable (stamp : Option Instant) {change : Int → Int} (settings : Settings) (now : Instant)
  (session : Session)

theorem closed_retime (zero : change 0 = 0) (record : TriggerRecord) :
    (session.retime stamp change).closed now (record.retime change) =
      (session.closed now record).retime stamp change := by
  -- Closing sets the noted time to zero, and `change` keeps it there.
  simp only [closed_eq, retime, initial, zero, TriggerRecord.retime]

theorem close_retime (zero : change 0 = 0) (sessionId content : String) :
    (session.retime stamp change).close settings now sessionId content =
      (session.close settings now sessionId content).retime stamp change := by
  have decisions : (session.retime stamp change).decisions = session.decisions := rfl
  unfold close
  rw [decisions]
  cases session.decisions with
  | nil => rfl
  | cons first rest =>
      have closed := closed_retime stamp now session zero (session.sessionRecord settings now first)
      exact congrArg (Outcome.mk · _ _ _) closed

theorem recordDecisions_retime (zero : change 0 = 0) (batch : DecisionBatch) :
    (session.retime stamp change).recordDecisions settings now batch =
      (session.recordDecisions settings now batch).retime stamp change := by
  have records : (session.retime stamp change).decisionRecords settings batch =
      session.decisionRecords settings batch := rfl
  have gathered : (session.retime stamp change).gather settings batch =
      (session.gather settings batch).retime stamp change := rfl
  have complete : ((session.gather settings batch).retime stamp change).isComplete batch.requestId =
      (session.gather settings batch).isComplete batch.requestId := rfl
  have kept (records : List DecisionRecord) :
      (records.map Event.decision).map (·.retime change) = records.map Event.decision := by
    simp [Event.retime]
  unfold recordDecisions
  simp only [records, gathered, complete, close_retime stamp settings now _ zero]
  split <;> simp [Outcome.retime, kept]

end Session

namespace Script

def Emission.retime (change : Int → Int) (emission : Emission) : Emission :=
  ⟨emission.events.map (·.retime change), emission.requests⟩

def Moment.retime (change : Int → Int) (moment : Moment) : Moment :=
  ⟨moment.step, moment.emission.retime change⟩

@[simp]
theorem Moment.retime_id (moment : Moment) : moment.retime id = moment := by
  simp [retime, Emission.retime, Event.retime_id]

namespace Report

def retime (change : Int → Int) (report : Report) : Report :=
  { report with rollups := report.rollups.map (·.retime change) }

@[simp]
theorem retime_id (report : Report) : report.retime id = report := by
  have same : TriggerRecord.retime id = id := rfl
  simp [retime, same]

/-- What two parts of a replay led to, one after the other. -/
def append (first second : Report) : Report where
  steps := first.steps + second.steps
  rollups := first.rollups ++ second.rollups
  latencies := first.latencies ++ second.latencies
  priorVerdicts := first.priorVerdicts ++ second.priorVerdicts

end Report

/-- What steps hand out, and what they add to a report. -/
structure Continuation where
  moments : List Moment
  added : Report

def Continuation.retime (change : Int → Int) (rest : Continuation) : Continuation :=
  ⟨rest.moments.map (·.retime change), rest.added.retime change⟩

/-- The invocation is stamped before any time to a recommendation is noted. -/
def StampsFirst : List Step → Prop
  | [] => True
  | .invocationTime :: _ => True
  | .firstRecommendation :: _ => False
  | _ :: steps => StampsFirst steps

namespace Replay

variable {settings : Settings}

/-- The replay with another stamp of the invocation, and what was noted from it changed. -/
def retime (stamp : Option Instant) (change : Int → Int) (replay : Replay) : Replay :=
  ⟨replay.clock, replay.session.retime stamp change, replay.report.retime change⟩

/-- A step reads the stamp of the invocation only to note the time to a recommendation. -/
theorem perform_retime (stamp : Option Instant) {change : Int → Int} (zero : change 0 = 0)
    {step : Step} (replay : Replay) (stamps : step ≠ .invocationTime)
    (notes : step ≠ .firstRecommendation) :
    (replay.retime stamp change).perform settings step =
      ((replay.perform settings step).1.retime stamp change,
        (replay.perform settings step).2.retime change) := by
  have outcome (outcome : Outcome) :
      (replay.retime stamp change).onOutcome (outcome.retime stamp change) =
        ((replay.onOutcome outcome).1.retime stamp change,
          (replay.onOutcome outcome).2.retime change) := by
    cases rollup : outcome.rollup <;>
      simp [onOutcome, retime, Report.retime, Emission.retime, Outcome.retime, rollup]
  have session : (replay.retime stamp change).session = replay.session.retime stamp change := rfl
  have clock : (replay.retime stamp change).clock = replay.clock := rfl
  cases step with
  | invocationTime => exact absurd rfl stamps
  | firstRecommendation => exact absurd rfl notes
  | invocation report => exact outcome (replay.session.recordInvocation settings report)
  | decisions batch =>
      simp only [perform, session, clock, Session.recordDecisions_retime stamp settings _ _ zero]
      exact outcome _
  | rollup closing =>
      simp only [perform, session, clock, Session.close_retime stamp settings _ _ zero]
      exact outcome _
  | clientLatency language =>
      have record : (replay.session.retime stamp change).latencyRecord? settings language =
          replay.session.latencyRecord? settings language := rfl
      simp only [perform, session, record]
      cases replay.session.latencyRecord? settings language <;> rfl
  | _ => rfl

/-- The replays are the same, apart from the stamp of the invocation, once what was noted is
changed. -/
def Alike (change : Int → Int) (first second : Replay) : Prop :=
  first.retime none change = second.retime none change

variable {first second : Replay}

theorem Alike.step (settings : Settings) {change : Int → Int} (zero : change 0 = 0)
    (alike : Alike change first second) {step : Step} (stamps : step ≠ .invocationTime)
    (notes : step ≠ .firstRecommendation) :
    Alike change (first.next settings step) (second.next settings step) ∧
      (first.moment settings step).retime change = (second.moment settings step).retime change := by
  have performed (replay : Replay) :
      (replay.retime none change).perform settings step =
        ((replay.perform settings step).1.retime none change,
          (replay.perform settings step).2.retime change) :=
    perform_retime none zero replay stamps notes
  have same : ((first.perform settings step).1.retime none change,
        (first.perform settings step).2.retime change) =
      ((second.perform settings step).1.retime none change,
        (second.perform settings step).2.retime change) := by
    rw [← performed, ← performed, alike]
  obtain ⟨next, emission⟩ := Prod.mk.inj same
  exact ⟨congrArg countStep next, congrArg (Moment.mk step) emission⟩

theorem Alike.step_untimed (settings : Settings) (step : Step)
    (alike : Alike untimed first second) :
    Alike untimed (first.next settings step) (second.next settings step) ∧
      (first.moment settings step).retime untimed =
        (second.moment settings step).retime untimed := by
  by_cases stamps : step = .invocationTime
  · subst stamps
    exact ⟨congrArg countStep alike, rfl⟩
  by_cases notes : step = .firstRecommendation
  · subst notes
    -- One replay may note a time where the other has no stamp; forgotten, the two are the same.
    have noted (replay : Replay) :
        (replay.next settings .firstRecommendation).retime none untimed =
          (replay.retime none untimed).countStep := by
      unfold next apply perform onSession Session.markFirstRecommendation
      cases replay.session.invocationTime <;> rfl
    exact ⟨(noted first).trans ((congrArg countStep alike).trans (noted second).symm), rfl⟩
  · exact alike.step settings rfl stamps notes

/-- Replays that differ in their stamps, and in what they noted from them, go on differing in nothing
else. -/
theorem Alike.run_untimed (settings : Settings) (steps : List Step)
    (alike : Alike untimed first second) :
    (first.history settings steps).map (·.retime untimed) =
        (second.history settings steps).map (·.retime untimed) ∧
      Alike untimed (first.run settings steps) (second.run settings steps) := by
  induction steps generalizing first second with
  | nil => exact ⟨rfl, alike⟩
  | cons step steps induction =>
      obtain ⟨next, moment⟩ := alike.step_untimed settings step
      obtain ⟨laterHistory, run⟩ := induction next
      refine ⟨?_, run⟩
      rw [history, history, List.map_cons, List.map_cons, moment, laterHistory]

theorem Alike.eq_of_sameStamp (alike : Alike id first second)
    (sameStamp : first.session.invocationTime = second.session.invocationTime) :
    first = second := by
  have restored (replay : Replay) :
      (replay.retime none id).retime replay.session.invocationTime id = replay := by
    simp [Replay.retime, Session.retime]
  calc first
      = (first.retime none id).retime first.session.invocationTime id := (restored first).symm
    _ = (second.retime none id).retime second.session.invocationTime id := by
      rw [alike, sameStamp]
    _ = second := restored second

/-- Replays that differ in their stamps only go on in the same way if these are set before a time to
a recommendation is noted. -/
theorem Alike.run_of_stampsFirst (settings : Settings) {steps : List Step}
    (alike : Alike id first second) (stampsFirst : StampsFirst steps) :
    first.history settings steps = second.history settings steps ∧
      (first.run settings steps).report = (second.run settings steps).report := by
  have report {first second : Replay} (alike : Alike id first second) :
      first.report = second.report := by
    simpa [Replay.retime] using congrArg (·.report) alike
  induction steps generalizing first second with
  | nil => exact ⟨rfl, report alike⟩
  | cons step steps induction =>
      by_cases stamps : step = .invocationTime
      · subst stamps
        -- With the stamp just set, nothing is left in which the replays differ.
        have clock : first.clock = second.clock := congrArg (·.clock) alike
        have next : Alike id (first.next settings .invocationTime)
            (second.next settings .invocationTime) := congrArg countStep alike
        have same := next.eq_of_sameStamp (congrArg some clock)
        constructor
        · rw [history, history, same]
          rfl
        · rw [run_cons, run_cons, same]
      by_cases notes : step = .firstRecommendation
      · subst notes
        exact stampsFirst.elim
      · have later : StampsFirst steps := by
          simpa only [StampsFirst] using stampsFirst
        obtain ⟨next, moment⟩ := alike.step settings rfl stamps notes
        rw [Moment.retime_id, Moment.retime_id] at moment
        obtain ⟨laterHistory, laterReport⟩ := induction next later
        refine ⟨?_, laterReport⟩
        rw [history, history, moment, laterHistory]

/-- The steps hand out these moments, and add this to the report. -/
structure GoesOn (settings : Settings) (steps : List Step) (replay : Replay) (rest : Continuation) :
    Prop where
  moments : replay.history settings steps = rest.moments
  report : (replay.run settings steps).report = replay.report.append rest.added

/-- The replay with something reported before it. -/
def after (earlier : Report) (replay : Replay) : Replay :=
  { replay with report := earlier.append replay.report }

/-- A step reads nothing of the report, and adds to its end. -/
theorem perform_after (earlier : Report) (step : Step) (replay : Replay) :
    (replay.after earlier).perform settings step =
      ((replay.perform settings step).1.after earlier, (replay.perform settings step).2) := by
  have outcome (outcome : Outcome) : (replay.after earlier).onOutcome outcome =
      ((replay.onOutcome outcome).1.after earlier, (replay.onOutcome outcome).2) := by
    simp [onOutcome, after, Report.append]
  have session : (replay.after earlier).session = replay.session := rfl
  have clock : (replay.after earlier).clock = replay.clock := rfl
  cases step with
  | invocation report => exact outcome _
  | decisions batch => exact outcome _
  | rollup closing => exact outcome _
  | clientLatency language =>
      simp only [perform, session]
      cases replay.session.latencyRecord? settings language with
      | none => rfl
      | some record => simp [after, Report.append]
  | priorDecision => simp [perform, after, Report.append]
  | _ => rfl

theorem run_after (settings : Settings) (earlier : Report) (steps : List Step) (replay : Replay) :
    (replay.after earlier).history settings steps = replay.history settings steps ∧
      (replay.after earlier).run settings steps = (replay.run settings steps).after earlier := by
  induction steps generalizing replay with
  | nil => exact ⟨rfl, rfl⟩
  | cons step steps induction =>
      have next : (replay.after earlier).next settings step =
          (replay.next settings step).after earlier := by
        rw [Replay.next, apply, perform_after]
        rfl
      have moment : (replay.after earlier).moment settings step = replay.moment settings step := by
        rw [Replay.moment, apply, perform_after]
        rfl
      obtain ⟨history, run⟩ := induction (replay.next settings step)
      constructor
      · rw [Replay.history, next, moment, history, Replay.history]
      · rw [run_cons, next, run, run_cons]

def unreported (replay : Replay) : Replay :=
  { replay with report := ⟨0, [], [], []⟩ }

theorem after_unreported (replay : Replay) : replay.unreported.after replay.report = replay := by
  simp [after, unreported, Report.append]

theorem goesOn_unreported (settings : Settings) (steps : List Step) (replay : Replay) :
    replay.GoesOn settings steps ⟨replay.unreported.history settings steps,
      (replay.unreported.run settings steps).report⟩ := by
  obtain ⟨history, run⟩ := run_after settings replay.report steps replay.unreported
  rw [after_unreported] at history run
  exact ⟨history, congrArg (·.report) run⟩

/-- A replay that can be reached, and whose last step closed a session. -/
def JustClosed (settings : Settings) (replay : Replay) : Prop :=
  ∃ clock steps step, (((start clock).run settings steps).moment settings step).closes = true ∧
    replay = ((start clock).run settings steps).next settings step

theorem JustClosed.reset {replay : Replay} (justClosed : replay.JustClosed settings) :
    replay.session.reset = replay.session := by
  obtain ⟨clock, steps, step, closes, rfl⟩ := justClosed
  rw [Moment.closes_eq_true_iff, moment_rollups] at closes
  cases found : ((start clock).run settings steps).rollup? settings step with
  | none => exact absurd (by rw [found, Option.toList_none]) closes
  | some record =>
      rw [next_session, found]
      rfl

/-- The replays agree in what is meant to outlast a session. -/
structure Agrees (first second : Replay) : Prop where
  clock : first.clock = second.clock
  trigger : first.session.trigger = second.session.trigger
  cause : first.session.cause = second.session.cause
  cursorOffset : first.session.cursorOffset = second.session.cursorOffset
  sessionId : first.session.sessionId = second.session.sessionId
  marks : first.session.marks = second.session.marks
  prior : first.session.prior = second.session.prior

theorem Agrees.alike (change : Int → Int) (agrees : first.Agrees second)
    (firstReset : first.session.reset = first.session)
    (secondReset : second.session.reset = second.session) :
    Alike change first.unreported second.unreported := by
  -- A closed session is what it was reset to, so no other field can tell the two apart.
  have session : first.session.retime none change = second.session.retime none change := by
    rw [← firstReset, ← secondReset, Session.reset_eq, Session.reset_eq, agrees.trigger,
      agrees.cause, agrees.cursorOffset, agrees.sessionId, agrees.marks, agrees.prior]
    rfl
  unfold Alike retime unreported
  rw [session, agrees.clock]

end Replay

/-- Replays that have just closed a session, and agree in what is meant to outlast it, go on in the
same way whatever happened before, apart from the times to a first recommendation in the records of
sessions.  These are the same too if the invocation had the same stamp, or is stamped before such a
time is noted. -/
theorem isolated_after_rollup (settings : Settings) {first second : Replay} (steps : List Step)
    (firstClosed : first.JustClosed settings) (secondClosed : second.JustClosed settings)
    (agrees : first.Agrees second) :
    ∃ firstRest secondRest : Continuation,
      first.GoesOn settings steps firstRest ∧ second.GoesOn settings steps secondRest ∧
      firstRest.retime untimed = secondRest.retime untimed ∧
      (first.session.invocationTime = second.session.invocationTime ∨ StampsFirst steps →
        firstRest = secondRest) := by
  have alike (change : Int → Int) :
      Replay.Alike change first.unreported second.unreported :=
    agrees.alike change firstClosed.reset secondClosed.reset
  refine ⟨_, _, Replay.goesOn_unreported settings steps first,
    Replay.goesOn_unreported settings steps second, ?_, ?_⟩
  · obtain ⟨history, run⟩ := (alike _).run_untimed settings steps
    have report := congrArg (·.report) run
    rw [Continuation.retime, Continuation.retime, history]
    exact congrArg _ report
  · rintro (sameStamp | stampsFirst)
    · rw [(alike id).eq_of_sameStamp sameStamp]
    · obtain ⟨history, report⟩ := (alike id).run_of_stampsFirst settings stampsFirst
      rw [history, report]

/-- Of two replays that were stamped at different times, or not at all, the sessions after the first
rollup are the same. -/
theorem isolated_after_stamped_rollup :
    let closing : List Step := [plainRequest "r1", .decisions (plainBatch "r1" "x" none)]
    let steps : List Step := [.invocationTime, .advance 250, .firstRecommendation, expecting 1,
      plainRequest "r2", .decisions (plainBatch "r2" "y" none)]
    let first := (Replay.start ⟨0⟩).run plainSettings (.invocationTime :: expecting 1 :: closing)
    let second := (Replay.start ⟨0⟩).run plainSettings
      (expecting 2 :: plainRequest "r0" :: .decisions (plainBatch "r0" "w" none) :: closing)
    (first.JustClosed plainSettings ∧ second.JustClosed plainSettings ∧ first.Agrees second) ∧
    ∃ rest, first.GoesOn plainSettings steps rest ∧ second.GoesOn plainSettings steps rest := by
  intro closing steps first second
  have firstClosed : first.JustClosed plainSettings :=
    ⟨⟨0⟩, [.invocationTime, expecting 1, plainRequest "r1"],
      .decisions (plainBatch "r1" "x" none), by decide +kernel, rfl⟩
  have secondClosed : second.JustClosed plainSettings :=
    ⟨⟨0⟩, [expecting 2, plainRequest "r0", .decisions (plainBatch "r0" "w" none),
      plainRequest "r1"], .decisions (plainBatch "r1" "x" none), by decide +kernel, rfl⟩
  have agrees : first.Agrees second := ⟨rfl, rfl, rfl, rfl, rfl, rfl, by decide +kernel⟩
  obtain ⟨firstRest, secondRest, firstGoesOn, secondGoesOn, -, same⟩ :=
    isolated_after_rollup plainSettings steps firstClosed secondClosed agrees
  have stampsFirst : StampsFirst steps := trivial
  obtain rfl := same (.inr stampsFirst)
  exact ⟨⟨firstClosed, secondClosed, agrees⟩, firstRest, firstGoesOn, secondGoesOn⟩

/-- A session that notes the time to a recommendation without a stamp of its own measures it from the
stamp of the session before. -/
theorem stale_stamp_after_rollup :
    let closing : List Step :=
      [expecting 1, plainRequest "r1", .decisions (plainBatch "r1" "x" none)]
    let steps : List Step := [.advance 250, .firstRecommendation, expecting 1, plainRequest "r2",
      .decisions (plainBatch "r2" "y" none)]
    let first := (Replay.start ⟨0⟩).run plainSettings (.invocationTime :: closing)
    let second := (Replay.start ⟨0⟩).run plainSettings closing
    (first.JustClosed plainSettings ∧ second.JustClosed plainSettings ∧ first.Agrees second) ∧
    (first.history plainSettings steps).flatMap (·.rollups.map (·.toFirstRecommendation)) = [250] ∧
    (second.history plainSettings steps).flatMap (·.rollups.map (·.toFirstRecommendation)) = [0] ∧
    first.history plainSettings steps ≠ second.history plainSettings steps := by
  intro closing steps first second
  have firstClosed : first.JustClosed plainSettings :=
    ⟨⟨0⟩, [.invocationTime, expecting 1, plainRequest "r1"],
      .decisions (plainBatch "r1" "x" none), by decide +kernel, rfl⟩
  have secondClosed : second.JustClosed plainSettings :=
    ⟨⟨0⟩, [expecting 1, plainRequest "r1"], .decisions (plainBatch "r1" "x" none),
      by decide +kernel, rfl⟩
  have agrees : first.Agrees second := ⟨rfl, rfl, rfl, rfl, rfl, rfl, by decide +kernel⟩
  have fromStamp : (first.history plainSettings steps).flatMap
      (·.rollups.map (·.toFirstRecommendation)) = [250] := by
    decide +kernel
  have without : (second.history plainSettings steps).flatMap
      (·.rollups.map (·.toFirstRecommendation)) = [0] := by
    decide +kernel
  refine ⟨⟨firstClosed, secondClosed, agrees⟩, fromStamp, without, ?_⟩
  intro same
  rw [same, without] at fromStamp
  revert fromStamp
  decide

end Script
end TriggerLedger
