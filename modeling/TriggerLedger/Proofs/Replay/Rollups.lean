import TriggerLedger.Proofs.Replay.Accounting
/-!
# Rollups of a replay

Every rollup sums up the decisions that count in the segment that it closes, so
each of them is part of one rollup or still waiting.  A session is closed by the
step that completes it and by no other, and starts over.
-/

namespace TriggerLedger

/-- When decisions on a request close the session. -/
theorem Session.isComplete_iff (session : Session) (requestId : String) :
    session.isComplete requestId = true ↔
      session.cancelled = true ∨
      (∃ last, session.lastRequestId = some last ∧ last ≠ "" ∧ last = requestId) ∨
      (session.decisions ≠ [] ∧ session.decisions.length = session.expectedRequests) := by
  have lastRequest : session.isLastRequest requestId = true ↔
      ∃ last, session.lastRequestId = some last ∧ last ≠ "" ∧ last = requestId := by
    unfold isLastRequest
    cases session.lastRequestId with
    | none => simp
    | some last => by_cases same : last = requestId <;> simp [same]
  have full : session.isFull = true ↔
      session.decisions ≠ [] ∧ session.decisions.length = session.expectedRequests := by
    simp [isFull]
  simp [isComplete, lastRequest, full, or_assoc]

namespace Script

/-- A closed segment with its record: only the last moment hands out a record, which sums up the
decisions that count. -/
structure IsClosedBy (record : TriggerRecord) (segment : List Moment) : Prop where
  last : ∃ body moment, segment = body ++ [moment] ∧ moment.rollups = [record] ∧
    ∀ earlier ∈ body, earlier.rollups = []
  sumsUp : record.SumsUp (countedDecisions segment)

namespace Replay

variable {settings : Settings}

theorem rollups_of_mem_current {history : List Moment} {moment : Moment}
    (member : moment ∈ (Segments.ofHistory history).current) : moment.rollups = [] := by
  induction history using List.reverseRecOn with
  | nil => cases member
  | append_singleton history last induction =>
      rw [Segments.ofHistory_concat] at member
      cases closes : last.closes with
      | true =>
          rw [Segments.closed_add closes] at member
          cases member
      | false =>
          rw [Segments.current_add closes] at member
          rcases List.mem_append.mp member with earlier | here
          · exact induction earlier
          · rw [List.mem_singleton.mp here]
            exact Moment.closes_eq_false_iff.mp closes

/-- A step that hands out a record closes a segment by it. -/
theorem isClosedBy_of_rollup? {history : List Moment} {replay : Replay} {step : Step}
    {record : TriggerRecord}
    (before : Gathered replay.session (Segments.ofHistory history).current)
    (found : replay.rollup? settings step = some record) :
    IsClosedBy record
      ((Segments.ofHistory history).current ++ [replay.moment settings step]) := by
  have rollups := moment_rollups settings step replay
  have closing := closingRecord?_of_rollup? found
  have after := gathered_step settings step before
  have sums := Session.sumsUp_of_closingRecord? after.decisions closing
  refine ⟨⟨_, _, rfl, ?_, fun earlier member => rollups_of_mem_current member⟩, ?_⟩
  · rw [rollups, found]
    rfl
  · rwa [← List.flatMap_def] at sums

/-- The records in the report close the closed segments, one each and in order. -/
theorem forall₂_isClosedBy (clock : Instant) (steps : List Step) :
    List.Forall₂ IsClosedBy ((start clock).run settings steps).report.rollups
      (Segments.ofHistory ((start clock).history settings steps)).closed := by
  induction steps using List.reverseRecOn with
  | nil => exact .nil
  | append_singleton steps step induction =>
      have before := gathered_run settings clock steps
      rw [run_concat, history_concat, next_rollups, Segments.ofHistory_concat]
      have rollups := moment_rollups settings step
        ((start clock).run settings steps)
      cases found : ((start clock).run settings steps).rollup? settings step with
      | none =>
          rw [found, Option.toList_none] at rollups
          rw [rollups, List.append_nil, Segments.current_add
            (Moment.closes_eq_false_iff.mpr rollups)]
          exact induction
      | some record =>
          rw [found, Option.toList_some] at rollups
          rw [rollups, Segments.closed_add (Moment.closes_eq_true_iff.mpr (by simp [rollups]))]
          exact List.rel_append induction (.cons (isClosedBy_of_rollup? before found) .nil)

theorem flatMap_rollups_history (clock : Instant) (steps : List Step) :
    ((start clock).history settings steps).flatMap (·.rollups) =
      ((start clock).run settings steps).report.rollups := by
  induction steps using List.reverseRecOn with
  | nil => rfl
  | append_singleton steps step induction =>
      rw [history_concat, run_concat, next_rollups, List.flatMap_append, induction,
        List.flatMap_singleton]

/-- The records that a replay hands out close the segments of its history, one each: every record
sums up exactly the decisions that count in its segment, and the session holds a record for each
batch that counts since.  So a decision that counts is part of one rollup or is waiting. -/
theorem rollups_sum_up_segments (settings : Settings) (clock : Instant) (steps : List Step) :
    let history := (start clock).history settings steps
    let segments := Segments.ofHistory history
    let replay := (start clock).run settings steps
    history.flatMap (·.rollups) = replay.report.rollups ∧
    List.Forall₂ IsClosedBy replay.report.rollups segments.closed ∧
    List.Forall₂ TriggerRecord.SumsUp replay.session.decisions
      ((counted segments.current).map (·.decisions)) ∧
    segments.closed.flatten ++ segments.current = history ∧
    countedDecisions history =
      segments.closed.flatMap countedDecisions ++ countedDecisions segments.current := by
  intro history segments replay
  refine ⟨flatMap_rollups_history clock steps, forall₂_isClosedBy clock steps,
    (gathered_run settings clock steps).decisions,
    Segments.flatten_closed_append_current history, ?_⟩
  rw [countedDecisions, counted_eq_flatMap_segments, List.flatMap_append, List.flatMap_assoc]
  rfl

end Replay

/-- Whether a step closes the session when `decided` batches count, its own included. -/
def Step.Completes (session : Session) (decided : Nat) : Step → Prop
  | .decisions batch =>
    1 ≤ decided ∧
      (session.cancelled = true ∨
        (∃ last, session.lastRequestId = some last ∧ last ≠ "" ∧ last = batch.requestId) ∨
        decided = session.expectedRequests)
  | .rollup _ => 1 ≤ decided
  | _ => False

namespace Replay

theorem rollup?_isSome_iff {settings : Settings} {history : List Moment} {replay : Replay}
    (step : Step) (before : Gathered replay.session (Segments.ofHistory history).current) :
    (replay.rollup? settings step).isSome = true ↔
      step.Completes replay.session
        (waiting history + if step.counts history then 1 else 0) := by
  have length := (gathered_step settings step before).decisions_length
  rw [counted_concat, counts_current, List.length_append, apply_ite List.length] at length
  change _ = waiting history + ite _ 1 0 at length
  cases step with
  | decisions batch =>
      have decided : (replay.session.gather settings batch).decisions.length =
          waiting history + if (Step.decisions batch).counts history then 1 else 0 := length
      rw [Step.Completes, ← decided, rollup?, Session.completedRecord?]
      have complete := Session.isComplete_iff (replay.session.gather settings batch) batch.requestId
      have nonempty := List.length_pos_iff (l := (replay.session.gather settings batch).decisions)
      have closing := Session.closingRecord?_isSome_iff settings replay.clock
        (replay.session.gather settings batch)
      constructor
      · intro found
        split at found
        case isTrue isComplete =>
          have some := closing.mp found
          refine ⟨nonempty.mpr some, ?_⟩
          rcases complete.mp isComplete with cancelled | last | full
          · exact .inl cancelled
          · exact .inr (.inl last)
          · exact .inr (.inr full.2)
        case isFalse => cases found
      · rintro ⟨some, due⟩
        have isComplete := complete.mpr (by
          rcases due with cancelled | last | full
          · exact .inl cancelled
          · exact .inr (.inl last)
          · exact .inr (.inr ⟨nonempty.mp some, full⟩))
        rw [if_pos isComplete]
        exact closing.mpr (nonempty.mp some)
  | rollup closing =>
      have decided : replay.session.decisions.length = waiting history := length
      rw [rollup?, Session.closingRecord?_isSome_iff, Step.Completes, ← List.length_pos_iff,
        decided]
      rfl
  | _ => simp [rollup?, Step.Completes]

/-- After any run the session holds one record for each batch that counts since the last rollup.
A step hands out a rollup exactly when it completes the session, and never two; the session then
starts over, keeping its trigger, marks and names and remembering the verdict. -/
theorem rollup_iff_completes (settings : Settings) (clock : Instant) (steps : List Step)
    (step : Step) :
    let history := (start clock).history settings steps
    let replay := (start clock).run settings steps
    let rollups := (replay.moment settings step).rollups
    replay.session.decisions.length = waiting history ∧
    (rollups ≠ [] ↔ step.Completes replay.session
      (waiting history + if step.counts history then 1 else 0)) ∧
    rollups.length ≤ 1 ∧
    ∀ record ∈ rollups,
      (replay.next settings step).session =
        { Session.initial with
          trigger := replay.session.trigger
          cause := replay.session.cause
          cursorOffset := replay.session.cursorOffset
          sessionId := replay.session.sessionId
          invocationTime := replay.session.invocationTime
          marks := replay.session.marks
          prior := ⟨some record.verdict, some replay.clock⟩ } := by
  intro history replay rollups
  have before := gathered_run settings clock steps
  have handedOut : rollups = (replay.rollup? settings step).toList :=
    moment_rollups settings step replay
  refine ⟨before.decisions_length, ?_, ?_, ?_⟩
  · rw [← rollup?_isSome_iff step before, handedOut]
    cases replay.rollup? settings step <;> simp
  · rw [handedOut]
    cases replay.rollup? settings step <;> simp
  · intro record member
    have found : replay.rollup? settings step = some record := by
      rw [handedOut] at member
      exact Option.mem_toList.mp member
    rw [next_session, found]
    cases step with
    | decisions batch => exact Session.closed_eq record
    | rollup closing => exact Session.closed_eq record
    | _ => cases found

end Replay
end Script
end TriggerLedger
