import TriggerLedger.Proofs.Replay.History
import TriggerLedger.Proofs.Session.Closing
/-!
# Accounting for decisions

A batch of decisions counts when it is not empty and its request was recorded
earlier in the same segment of the history.  The session keeps one record for
each batch that counts in the current segment, and a rollup sums up exactly the
decisions that count in the segment that it closes.
-/

namespace TriggerLedger.Script

/-- The request that a step records, unless its id is empty. -/
def Step.requestId? : Step → Option String
  | .invocation report => nonEmpty report.requestId
  | _ => none

/-- The requests recorded since the last rollup. -/
def recordedRequests (history : List Moment) : List String :=
  (Segments.ofHistory history).current.filterMap (·.step.requestId?)

/-- Whether a step decides on suggestions of a request recorded since the last rollup. -/
def Step.counts (history : List Moment) : Step → Bool
  | .decisions batch =>
    !batch.suggestions.isEmpty && (recordedRequests history).contains batch.requestId
  | _ => false

/-- The moments of `after` whose steps count, where `before` came first. -/
def countedFrom (before : List Moment) : List Moment → List Moment
  | [] => []
  | moment :: after =>
    if moment.step.counts before then moment :: countedFrom (before ++ [moment]) after
    else countedFrom (before ++ [moment]) after

/-- The moments whose steps count. -/
def counted (history : List Moment) : List Moment := countedFrom [] history

/-- The decisions that count. -/
def countedDecisions (history : List Moment) : List DecisionRecord :=
  (counted history).flatMap (·.decisions)

/-- The number of batches since the last rollup that count. -/
def waiting (history : List Moment) : Nat :=
  (counted (Segments.ofHistory history).current).length

theorem countedFrom_concat (before after : List Moment) (moment : Moment) :
    countedFrom before (after ++ [moment]) =
      countedFrom before after ++
        if moment.step.counts (before ++ after) then [moment] else [] := by
  induction after generalizing before with
  | nil => simp [countedFrom]
  | cons first after induction =>
      simp only [List.cons_append, countedFrom, induction, List.append_assoc, List.nil_append]
      split <;> rfl

theorem counted_concat (history : List Moment) (moment : Moment) :
    counted (history ++ [moment]) =
      counted history ++ if moment.step.counts history then [moment] else [] := by
  rw [counted, countedFrom_concat, counted, List.nil_append]

/-- Whether a step counts depends on the current segment only. -/
theorem counts_current (history : List Moment) (step : Step) :
    step.counts (Segments.ofHistory history).current = step.counts history := by
  cases step <;> simp only [Step.counts, recordedRequests, Segments.ofHistory_current]

/-- Every moment that counts lies in one segment, and counts there. -/
theorem counted_eq_flatMap_segments (history : List Moment) :
    counted history =
      (Segments.ofHistory history).closed.flatMap counted ++
        counted (Segments.ofHistory history).current := by
  induction history using List.reverseRecOn with
  | nil => rfl
  | append_singleton history moment induction =>
      rw [counted_concat, Segments.ofHistory_concat, induction, List.append_assoc,
        ← counts_current history, ← counted_concat]
      cases closes : moment.closes with
      | true => simp [Segments.closed_add closes, counted, countedFrom]
      | false => rw [Segments.current_add closes]

/-- A session has gathered what a segment brought: its requests, and a record for each batch that
counts. -/
structure Gathered (session : Session) (segment : List Moment) : Prop where
  requests : session.invocations.filterMap (·.requestId) =
    segment.filterMap (·.step.requestId?)
  decisions : List.Forall₂ TriggerRecord.SumsUp session.decisions
    ((counted segment).map (·.decisions))

namespace Gathered

variable {settings : Settings} {session : Session} {segment : List Moment}

theorem nil {session : Session} (noInvocations : session.invocations = [])
    (noDecisions : session.decisions = []) : Gathered session [] where
  requests := by simp [noInvocations]
  decisions := by simp [noDecisions, counted, countedFrom]

theorem decisions_length (gathered : Gathered session segment) :
    session.decisions.length = (counted segment).length := by
  simpa using gathered.decisions.length_eq

end Gathered

namespace Replay

variable {settings : Settings}

/-- The session after a step, apart from being closed. -/
def gathered (settings : Settings) (step : Step) (replay : Replay) : Session :=
  match step with
  | .decisions batch => replay.session.gather settings batch
  | .rollup _ => replay.session
  | step => (replay.next settings step).session

/-- A recommendation changes nothing but the time that is noted for it. -/
theorem gathered_firstRecommendation (settings : Settings) (replay : Replay) :
    replay.gathered settings .firstRecommendation =
      { replay.session with
        toFirstRecommendation :=
          (replay.session.invocationTime.map replay.clock.millisSince).getD
            replay.session.toFirstRecommendation } := by
  change replay.session.markFirstRecommendation replay.clock = _
  unfold Session.markFirstRecommendation
  split
  case h_1 unknown => rw [unknown, Option.map_none, Option.getD_none]
  case h_2 invoked known => simp [known]

theorem gathered_clientLatency (settings : Settings) (language : Option String)
    (replay : Replay) : replay.gathered settings (.clientLatency language) = replay.session := by
  simp only [gathered, next, apply, perform, countStep]
  split <;> rfl

/-- The record of the session that a step closes. -/
def rollup? (settings : Settings) (step : Step) (replay : Replay) : Option TriggerRecord :=
  match step with
  | .decisions batch => replay.session.completedRecord? settings replay.clock batch
  | .rollup _ => replay.session.closingRecord? settings replay.clock
  | _ => none

/-- A step closes the session with what it has gathered. -/
theorem closingRecord?_of_rollup? {step : Step} {replay : Replay} {record : TriggerRecord}
    (found : replay.rollup? settings step = some record) :
    (replay.gathered settings step).closingRecord? settings replay.clock = some record := by
  cases step with
  | decisions batch =>
      simp only [rollup?, Session.completedRecord?] at found
      split at found
      · exact found
      · cases found
  | rollup closing => exact found
  | _ => cases found

/-- The events of a step, apart from the record of the session that it closes. -/
def ownEvents (settings : Settings) (step : Step) (replay : Replay) : List Event :=
  match step with
  | .invocation report => [.invocation (replay.session.invocationRecord settings report)]
  | .decisions batch => (replay.session.decisionRecords settings batch).map .decision
  | .emptyList list =>
    [.decision (replay.session.emptyListRecord settings list.requestId list.sessionId list.page
      list.language)]
  | .clientLatency language =>
    (replay.session.latencyRecord? settings language).toList.map .latency
  | _ => []

theorem moment_events (settings : Settings) (step : Step) (replay : Replay) :
    (replay.moment settings step).emission.events =
      replay.ownEvents settings step ++
        (replay.rollup? settings step).toList.map .trigger := by
  cases step with
  | decisions batch => exact Session.recordDecisions_events
  | rollup closing => exact Session.close_events
  | clientLatency language =>
      simp only [moment, apply, perform, ownEvents, rollup?]
      cases replay.session.latencyRecord? settings language <;> rfl
  | _ => rfl

/-- A step hands out the record of the session that it closes, and no other. -/
theorem moment_rollups (settings : Settings) (step : Step) (replay : Replay) :
    (replay.moment settings step).rollups = (replay.rollup? settings step).toList := by
  have noTrigger : (replay.ownEvents settings step).filterMap Event.trigger? = [] := by
    cases step <;> simp [ownEvents, Event.trigger?]
  rw [Moment.rollups, moment_events, List.filterMap_append, noTrigger]
  simp [List.filterMap_map, Function.comp_def, Event.trigger?]

theorem next_rollups (step : Step) (replay : Replay) :
    (replay.next settings step).report.rollups =
      replay.report.rollups ++ (replay.moment settings step).rollups := by
  rw [moment_rollups]
  cases step with
  | decisions batch =>
      simp only [next, apply, perform, onOutcome, countStep, rollup?,
        Session.recordDecisions_rollup]
  | rollup closing =>
      simp only [next, apply, perform, onOutcome, countStep, rollup?, Session.close_rollup]
  | clientLatency language =>
      simp only [next, apply, perform, countStep, rollup?]
      split <;> simp
  | _ => simp [next, apply, perform, onSession, onMarks, onOutcome, countStep, rollup?,
      Session.recordInvocation]

/-- A step that closes the session leaves it closed, and any other leaves what it gathered. -/
theorem next_session (step : Step) (replay : Replay) :
    (replay.next settings step).session =
      match replay.rollup? settings step with
      | none => replay.gathered settings step
      | some record => (replay.gathered settings step).closed replay.clock record := by
  cases step with
  | decisions batch => exact Session.recordDecisions_session
  | rollup closing => exact Session.close_session
  | _ => rfl

theorem moment_decisions (batch : DecisionBatch) (replay : Replay) :
    (replay.moment settings (.decisions batch)).decisions =
      replay.session.decisionRecords settings batch :=
  Session.filterMap_decision?_recordDecisions

/-- A batch counts exactly when the session gains a record for it. -/
theorem counts_decisions {history : List Moment} {session : Session} (batch : DecisionBatch)
    (before : Gathered session (Segments.ofHistory history).current) :
    (Step.decisions batch).counts history =
      (session.requestRecord? settings batch (session.decisionRecords settings batch)).isSome := by
  rw [Bool.eq_iff_iff, Session.requestRecord?_isSome_iff, before.requests]
  simp [Step.counts, recordedRequests]

/-- Steps other than requests, decisions and rollups leave what was gathered alone. -/
theorem gathered_of_quiet (settings : Settings) {step : Step} (replay : Replay)
    (notInvocation : ∀ report, step ≠ .invocation report)
    (notDecisions : ∀ batch, step ≠ .decisions batch) :
    (replay.gathered settings step).invocations = replay.session.invocations ∧
      (replay.gathered settings step).decisions = replay.session.decisions := by
  cases step with
  | invocation report => exact absurd rfl (notInvocation report)
  | decisions batch => exact absurd rfl (notDecisions batch)
  | firstRecommendation =>
      rw [gathered_firstRecommendation]
      exact ⟨rfl, rfl⟩
  | clientLatency language =>
      rw [gathered_clientLatency]
      exact ⟨rfl, rfl⟩
  | _ => exact ⟨rfl, rfl⟩

/-- What a step gathers is what the segment up to it brought. -/
theorem gathered_step (settings : Settings) {history : List Moment} {replay : Replay} (step : Step)
    (before : Gathered replay.session (Segments.ofHistory history).current) :
    Gathered (replay.gathered settings step)
      ((Segments.ofHistory history).current ++ [replay.moment settings step]) := by
  have requests := before.requests
  have decisions := before.decisions
  have quiet (notInvocation : ∀ report, step ≠ .invocation report)
      (notDecisions : ∀ batch, step ≠ .decisions batch) :
      Gathered (replay.gathered settings step)
        ((Segments.ofHistory history).current ++ [replay.moment settings step]) := by
    obtain ⟨sameInvocations, sameDecisions⟩ :=
      gathered_of_quiet settings replay notInvocation notDecisions
    have noRequest : step.requestId? = none := by
      cases step <;> simp_all [Step.requestId?]
    have notCounted : step.counts history = false := by
      cases step <;> simp_all [Step.counts]
    constructor
    · simpa [sameInvocations, moment, noRequest] using requests
    · rw [counted_concat, counts_current]
      simpa [sameDecisions, moment, notCounted] using decisions
  cases step with
  | invocation report =>
      constructor
      · have appended : (replay.gathered settings (.invocation report)).invocations =
            replay.session.invocations ++ [replay.session.invocationRecord settings report] :=
          rfl
        rw [appended, List.filterMap_append, List.filterMap_append, requests]
        rfl
      · have unchanged : (replay.gathered settings (.invocation report)).decisions =
            replay.session.decisions :=
          rfl
        rw [unchanged, counted_concat, counts_current]
        simpa [moment, Step.counts] using decisions
  | decisions batch =>
      constructor
      · simpa [gathered, moment, Step.requestId?] using requests
      · rw [counted_concat, counts_current, moment, counts_decisions batch before,
          gathered, Session.gather_decisions, List.map_append]
        refine List.rel_append decisions ?_
        cases found : replay.session.requestRecord? settings batch
            (replay.session.decisionRecords settings batch) with
        | none => simp
        | some record =>
            have sums := Session.sumsUp_of_requestRecord? found
            rw [← moment_decisions batch replay] at sums
            exact .cons sums .nil
  | _ => exact quiet (by simp) (by simp)

/-- What holds of sessions in which nothing is gathered, and is kept by what a step gathers, holds of
the session and the current segment after every run, and with what one more step gathers. -/
theorem segment_induction {motive : Session → List Moment → Prop}
    (fresh : ∀ session : Session, session.reset = session → motive session [])
    (step : ∀ (history : List Moment) (replay : Replay) (step : Step),
      motive replay.session (Segments.ofHistory history).current →
      motive (replay.gathered settings step)
        ((Segments.ofHistory history).current ++ [replay.moment settings step]))
    (clock : Instant) (steps : List Step) :
    let segment := (Segments.ofHistory ((start clock).history settings steps)).current
    let replay := (start clock).run settings steps
    motive replay.session segment ∧
      ∀ next, motive (replay.gathered settings next) (segment ++ [replay.moment settings next]) := by
  intro segment replay
  suffices reached : motive replay.session segment from
    ⟨reached, fun next => step _ replay next reached⟩
  refine run_induction (motive := fun history replay =>
    motive replay.session (Segments.ofHistory history).current) ?_ ?_ steps
  · exact fresh .initial rfl
  · intro history replay next before
    have after := step history replay next before
    rw [next_session, Segments.ofHistory_concat]
    have rollups := moment_rollups settings next replay
    cases found : replay.rollup? settings next with
    | none =>
        rw [Segments.current_add (by simp [Moment.closes, rollups, found])]
        exact after
    | some record =>
        rw [Segments.closed_add (by simp [Moment.closes, rollups, found])]
        exact fresh _ rfl

theorem gathered_run (settings : Settings) (clock : Instant) (steps : List Step) :
    Gathered ((start clock).run settings steps).session
      (Segments.ofHistory ((start clock).history settings steps)).current := by
  have fresh (session : Session) (same : session.reset = session) : Gathered session [] := by
    rw [← same]
    exact .nil rfl rfl
  exact (segment_induction fresh (fun _ _ step => gathered_step settings step) clock steps).1

theorem gathered_decisions_of_ne (settings : Settings) {step : Step} (replay : Replay)
    (notDecisions : ∀ batch, step ≠ .decisions batch) :
    (replay.gathered settings step).decisions = replay.session.decisions := by
  cases step with
  | invocation report => rfl
  | _ => exact (gathered_of_quiet settings replay (by simp) notDecisions).2

/-- What holds of the record of every batch holds of all records that a session has, and of those that
it has gathered when one more step is taken. -/
theorem forall_mem_decisions (settings : Settings) (motive : TriggerRecord → Prop)
    (each : ∀ (session : Session) (batch : DecisionBatch) (record : TriggerRecord),
      session.requestRecord? settings batch (session.decisionRecords settings batch) =
        some record → motive record)
    (clock : Instant) (steps : List Step) :
    (∀ record ∈ ((start clock).run settings steps).session.decisions, motive record) ∧
      ∀ step, ∀ record ∈ (((start clock).run settings steps).gathered settings step).decisions,
        motive record := by
  refine segment_induction (motive := fun session _ =>
    ∀ record ∈ session.decisions, motive record) ?_ ?_ clock steps
  · intro session fresh
    rw [← fresh]
    exact fun _ member => absurd member List.not_mem_nil
  · intro _ replay step before
    cases step with
    | decisions batch =>
        intro record member
        rw [gathered, Session.gather_decisions, List.mem_append, Option.mem_toList] at member
        rcases member with old | new
        · exact before record old
        · exact each replay.session batch record new
    | _ => rwa [gathered_decisions_of_ne settings replay (by simp)]

/-- What relates the record of each batch to the moment of the batch relates the records that are
gathered in a segment to its moments that count. -/
theorem forall₂_decisions_counted (settings : Settings) (relates : TriggerRecord → Moment → Prop)
    (each : ∀ (replay : Replay) (batch : DecisionBatch) (record : TriggerRecord),
      replay.session.requestRecord? settings batch
          (replay.session.decisionRecords settings batch) = some record →
        relates record (replay.moment settings (.decisions batch)))
    (clock : Instant) (steps : List Step) (step : Step) :
    List.Forall₂ relates (((start clock).run settings steps).gathered settings step).decisions
      (counted ((Segments.ofHistory ((start clock).history settings steps)).current ++
        [((start clock).run settings steps).moment settings step])) := by
  refine ((segment_induction (motive := fun session segment =>
    Gathered session segment ∧ List.Forall₂ relates session.decisions (counted segment))
    ?_ ?_ clock steps).2 step).2
  · intro session fresh
    rw [← fresh]
    exact ⟨.nil rfl rfl, .nil⟩
  · intro history replay step before
    refine ⟨gathered_step settings step before.1, ?_⟩
    rw [counted_concat, counts_current]
    have counts : (replay.moment settings step).step.counts history = step.counts history := rfl
    rw [counts]
    cases step with
    | decisions batch =>
        rw [counts_decisions batch before.1, gathered, Session.gather_decisions]
        refine List.rel_append before.2 ?_
        cases found : replay.session.requestRecord? settings batch
            (replay.session.decisionRecords settings batch) with
        | none => exact .nil
        | some record => exact .cons (each replay batch record found) .nil
    | _ =>
        rw [gathered_decisions_of_ne settings replay (by simp)]
        simpa [Step.counts] using before.2

end Replay
end TriggerLedger.Script
