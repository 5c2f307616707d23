import TriggerLedger.Proofs.Replay.Times
/-!
# Marks set once

Until the invocation starts over, each mark of a session is set by at most one step,
and is frozen from then on.  No other step has any influence on it, also none that
closes the session.
-/

namespace TriggerLedger.Script

open LatencyMarks (Mark)

/-- The request that a step says was answered first. -/
def Step.response? : Step → Option String
  | .firstResponse requestId => some requestId
  | _ => none

/-- Along some steps after others, a value either stays as it was, or it is unset up to a step that
gives it a value, and has this value from then on. -/
def WrittenOnce {α : Type} (value : List Step → Option α) (gives : List Step → Step → α → Prop)
    (before steps : List Step) : Prop :=
  (∀ passed, passed <+: steps → value (before ++ passed) = value before) ∨
  ∃ earlier step later given, steps = earlier ++ step :: later ∧
    gives (before ++ earlier) step given ∧
    (∀ passed, passed <+: earlier → value (before ++ passed) = none) ∧
    ∀ passed, passed <+: later → value (before ++ (earlier ++ step :: passed)) = some given

/-- A value that a single step can only set, and only while it is unset, is written once along any
steps. -/
theorem writtenOnce_of_step {α : Type} {value : List Step → Option α}
    {gives : List Step → Step → α → Prop}
    (step : ∀ steps step, step ≠ .invocationStart →
      value (steps ++ [step]) = value steps ∨
        value steps = none ∧ ∃ given, gives steps step given ∧ value (steps ++ [step]) = some given)
    (before : List Step) {steps : List Step} (notStarted : .invocationStart ∉ steps) :
    WrittenOnce value gives before steps := by
  induction steps using List.reverseRecOn with
  | nil =>
      refine .inl fun passed isPrefix => ?_
      rw [List.prefix_nil.mp isPrefix, List.append_nil]
  | append_singleton steps last induction =>
      rw [List.mem_append, List.mem_singleton, not_or] at notStarted
      have moved := step (before ++ steps) last (Ne.symm notStarted.2)
      rw [List.append_assoc] at moved
      rcases induction notStarted.1 with kept | ⟨earlier, first, later, given, rfl, gave, unset, frozen⟩
      · -- Nothing was written before the last step, which may be the one that writes.
        rcases moved with same | ⟨wasUnset, given, gave, isGiven⟩
        · refine .inl fun passed isPrefix => ?_
          rcases List.prefix_concat_iff.mp isPrefix with rfl | shorter
          · rw [same, kept steps (List.prefix_refl steps)]
          · exact kept passed shorter
        · refine .inr ⟨steps, last, [], given, rfl, gave, fun passed isPrefix => ?_, ?_⟩
          · rw [kept passed isPrefix, ← kept steps (List.prefix_refl steps), wasUnset]
          · intro passed isPrefix
            rw [List.prefix_nil.mp isPrefix, isGiven]
      · -- A value that is set cannot be set again, so the last step keeps it.
        have isSet := frozen later (List.prefix_refl later)
        rcases moved with same | ⟨wasUnset, -⟩
        · refine .inr ⟨earlier, first, later ++ [last], given, by simp, gave, unset, ?_⟩
          intro passed isPrefix
          rcases List.prefix_concat_iff.mp isPrefix with rfl | shorter
          · rw [← isSet, ← same, List.append_assoc, List.cons_append]
          · exact frozen passed shorter
        · rw [wasUnset] at isSet
          cases isSet

namespace Replay

variable {settings : Settings}

/-- A step attempts what it is about, and any other step leaves the marks alone. -/
theorem marks_next_eq (settings : Settings) (step : Step) (replay : Replay) :
    (replay.next settings step).session.marks =
      match step.mark?, step.response? with
      | some mark, _ => replay.session.marks.set replay.clock mark
      | none, some requestId => replay.session.marks.markFirstResponse requestId
      | none, none => replay.session.marks := by
  rw [marks_next]
  cases step with
  | firstRecommendation =>
      rw [gathered_firstRecommendation]
      rfl
  | clientLatency language =>
      rw [gathered_clientLatency]
      rfl
  | _ => rfl

theorem marks_next_of_mark? {step : Step} {mark : Mark} (marks : step.mark? = some mark)
    (replay : Replay) :
    (replay.next settings step).session.marks =
      (replay.session.marks.attempt replay.clock mark).1 := by
  rw [marks_next_eq, marks]
  rfl

theorem marks_next_of_response? {step : Step} {requestId : String}
    (responds : step.response? = some requestId) (replay : Replay) :
    (replay.next settings step).session.marks =
      (replay.session.marks.attemptFirstResponse requestId).1 := by
  cases step with
  | firstResponse other =>
      obtain rfl := Option.some.inj responds
      rfl
  | _ => cases responds

/-- A mark changes only when it is unset, by the step that sets it, to the time of this step. -/
theorem get_marks_next_cases (settings : Settings) (mark : Mark) {step : Step} (replay : Replay)
    (notStart : step ≠ .invocationStart) :
    (replay.next settings step).session.marks.get mark = replay.session.marks.get mark ∨
      replay.session.marks.get mark = none ∧ step.mark? = some mark ∧
        (replay.next settings step).session.marks.get mark = some replay.clock := by
  rw [marks_next, get_marks_gathered]
  cases marked : step.mark? with
  | none => exact .inl rfl
  | some other =>
      have otherNotStart : other ≠ .invocationStart := by
        rintro rfl
        cases step with
        | invocationStart => exact notStart rfl
        | _ => cases marked
      rw [Option.elim_some, LatencyMarks.get_set otherNotStart, LatencyMarks.setOnce_eq]
      by_cases same : mark = other
      · subst same
        rw [if_pos rfl]
        split
        case isTrue due => exact .inr ⟨(LatencyMarks.isDue_eq_true_iff.mp due).1, rfl, rfl⟩
        case isFalse => exact .inl rfl
      · rw [if_neg same]
        exact .inl rfl

theorem firstResponse_next_cases (settings : Settings) {step : Step} (replay : Replay)
    (notStart : step ≠ .invocationStart) :
    (replay.next settings step).session.marks.firstResponse =
        replay.session.marks.firstResponse ∨
      replay.session.marks.firstResponse = none ∧ ∃ requestId, step.response? = some requestId ∧
        (replay.next settings step).session.marks.firstResponse = some requestId := by
  rw [marks_next_eq]
  cases step with
  | invocationStart => exact absurd rfl notStart
  | firstResponse requestId =>
      cases known : replay.session.marks.firstResponse with
      | none => exact .inr ⟨rfl, requestId, rfl, by simp [Step.mark?, Step.response?,
          LatencyMarks.markFirstResponse, LatencyMarks.setOnce, known]⟩
      | some first => exact .inl (by simp [Step.mark?, Step.response?,
          LatencyMarks.markFirstResponse, LatencyMarks.setOnce, known])
  | _ => exact .inl rfl

theorem isGrounded_run (settings : Settings) (clock : Instant) (steps : List Step) :
    ((start clock).run settings steps).session.marks.IsGrounded := by
  refine run_induction (motive := fun _ replay => replay.session.marks.IsGrounded)
    LatencyMarks.IsGrounded.blank ?_ steps
  intro _ replay step grounded
  have same := get_marks_gathered settings step replay
  rw [← marks_next] at same
  refine .of_get same ?_
  cases step.mark? with
  | none => exact grounded
  | some mark => exact grounded.set replay.clock mark

end Replay

/-- Whatever steps are replayed, also such that set the clock back: as long as the invocation does
not start over, each mark and the first response are written at most once, by a step that is about
them.  The end of the pages and the first suggestion come only with an end of the first call, and
that with its start.  An attempt says that it has set something exactly if the marks have changed.
Steps that are not about marks leave them all alone, and a start clears all marks but its own. -/
theorem marks_written_once (settings : Settings) (clock : Instant) :
    let after (steps : List Step) := (Replay.start clock).run settings steps
    let marks (steps : List Step) := (after steps).session.marks
    (∀ before steps, .invocationStart ∉ steps →
      (∀ mark, WrittenOnce (fun steps => (marks steps).get mark)
        (fun steps step given => step.mark? = some mark ∧ given = (after steps).clock)
        before steps) ∧
      WrittenOnce (fun steps => (marks steps).firstResponse)
        (fun _ step given => step.response? = some given) before steps) ∧
    (∀ steps,
      ((marks steps).allPaginationEnd.isSome = true ∨
        (marks steps).firstSuggestionShown.isSome = true →
          (marks steps).apiCallEnd.isSome = true) ∧
      ((marks steps).apiCallEnd.isSome = true → (marks steps).apiCallStart.isSome = true)) ∧
    (∀ (marks : LatencyMarks) now mark, mark ≠ .invocationStart →
      ((marks.attempt now mark).2 = true ↔ (marks.attempt now mark).1 ≠ marks)) ∧
    (∀ (marks : LatencyMarks) requestId,
      (marks.attemptFirstResponse requestId).2 = true ↔
        (marks.attemptFirstResponse requestId).1 ≠ marks) ∧
    (∀ steps step,
      (∀ mark, step.mark? = some mark →
        marks (steps ++ [step]) = ((marks steps).attempt (after steps).clock mark).1) ∧
      (∀ requestId, step.response? = some requestId →
        marks (steps ++ [step]) = ((marks steps).attemptFirstResponse requestId).1) ∧
      (step.mark? = none → step.response? = none → marks (steps ++ [step]) = marks steps)) ∧
    ∀ steps,
      (∀ mark, (marks (steps ++ [.invocationStart])).get mark =
        if mark = .invocationStart then some (after steps).clock else none) ∧
      (marks (steps ++ [.invocationStart])).firstResponse = none := by
  intro after marks
  have next (steps : List Step) (step : Step) :
      marks (steps ++ [step]) = ((after steps).next settings step).session.marks :=
    congrArg (fun replay : Replay => replay.session.marks) (Replay.run_concat steps step _)
  refine ⟨fun before steps notStarted => ⟨fun mark => ?_, ?_⟩, fun steps => ?_,
    fun marks now mark => marks.attempt_snd_iff now, LatencyMarks.attemptFirstResponse_snd_iff,
    fun steps step => ⟨?_, ?_, ?_⟩, fun steps => ?_⟩
  · refine writtenOnce_of_step (fun steps step notStart => ?_) before notStarted
    rw [next]
    rcases Replay.get_marks_next_cases settings mark (after steps) notStart with
      same | ⟨unset, sets, isNow⟩
    · exact .inl same
    · exact .inr ⟨unset, (after steps).clock, ⟨sets, rfl⟩, isNow⟩
  · refine writtenOnce_of_step (fun steps step notStart => ?_) before notStarted
    rw [next]
    exact Replay.firstResponse_next_cases settings (after steps) notStart
  · have grounded := Replay.isGrounded_run settings clock steps
    have needs (mark first : Mark) (awaits : mark.awaited? = some first)
        (isSet : ((marks steps).get mark).isSome = true) : ((marks steps).get first).isSome = true :=
      LatencyMarks.isReady_eq_true_iff.mp (grounded mark isSet) first awaits
    refine ⟨?_, needs .apiCallEnd .apiCallStart rfl⟩
    rintro (paged | shown)
    · exact needs .allPaginationEnd .apiCallEnd rfl paged
    · exact needs .firstSuggestionShown .apiCallEnd rfl shown
  · intro mark sets
    rw [next]
    exact Replay.marks_next_of_mark? sets _
  · intro requestId responds
    rw [next]
    exact Replay.marks_next_of_response? responds _
  · intro notMark notResponse
    rw [next, Replay.marks_next_eq, notMark, notResponse]
  · rw [next, Replay.marks_next_eq]
    exact ⟨LatencyMarks.get_start (after steps).clock, rfl⟩

end TriggerLedger.Script
