import TriggerLedger.Proofs.Replay.Reports
import TriggerLedger.Proofs.Suggestion.Dispositions
/-!
# Generated lines

With a closed session the endpoint is told a number of lines.  They are those of
the content that the closing batch names as accepted, whatever became of that
suggestion and of those of other batches.
-/

namespace TriggerLedger

namespace Script

/-- The suggestions that a moment recorded as accepted. -/
def Moment.acceptedSuggestions (moment : Moment) : List Suggestion :=
  match moment.step with
  | .decisions batch =>
    moment.decisions.filterMap fun decision =>
      if decision.disposition = .accept then decision.index.bind (batch.suggestions[·]?) else none
  | _ => []

/-- The accepted suggestions of the batches that count in a segment. -/
def acceptedSuggestions (segment : List Moment) : List Suggestion :=
  (counted segment).flatMap (·.acceptedSuggestions)

/-- Lines to be told of a segment with a record: those of an accepted suggestion when the session
counts as accepted, and none otherwise. -/
structure LinesOfAccepted (segment : List Moment) (record : TriggerRecord) (lines : Nat) : Prop where
  accepted : record.verdict = .accept →
    ∃ suggestion ∈ acceptedSuggestions segment, lines = Text.lineCount suggestion.content
  otherwise : record.verdict ≠ .accept → lines = 0

/-- The closing batch knows what was accepted since `earlier`: it counts and had a suggestion
accepted, or nothing was accepted and it names no content as accepted. -/
def KnowsAccepted (earlier : List Moment) (closing : Moment) (batch : DecisionBatch) : Prop :=
  closing.step.counts earlier = true ∧ closing.acceptedSuggestions ≠ [] ∨
    acceptedSuggestions (earlier ++ [closing]) = [] ∧ Session.acceptedContent batch = ""

theorem step_of_counts {history : List Moment} {step : Step} (counts : step.counts history = true) :
    ∃ batch, step = .decisions batch := by
  cases step with
  | decisions batch => exact ⟨batch, rfl⟩
  | _ => cases counts

theorem mem_counted {history : List Moment} {moment : Moment} (member : moment ∈ counted history) :
    moment ∈ history ∧ ∃ batch, moment.step = .decisions batch := by
  induction history using List.reverseRecOn with
  | nil => cases member
  | append_singleton history last induction =>
      rw [counted_concat] at member
      rcases List.mem_append.mp member with earlier | here
      · obtain ⟨present, decides⟩ := induction earlier
        exact ⟨List.mem_append_left _ present, decides⟩
      · split at here
        case isTrue counts =>
          obtain rfl := List.mem_singleton.mp here
          exact ⟨List.mem_append_right _ here, step_of_counts counts⟩
        case isFalse => cases here

namespace Replay

variable {settings : Settings} {replay : Replay} {batch : DecisionBatch}

theorem exists_of_mem_history {moment : Moment} {steps : List Step}
    (member : moment ∈ replay.history settings steps) :
    ∃ reached : Replay, moment = reached.moment settings moment.step := by
  induction steps generalizing replay with
  | nil => cases member
  | cons step steps induction =>
      rcases List.mem_cons.mp member with rfl | later
      · exact ⟨replay, rfl⟩
      · exact induction later

theorem mem_rollups_moment {step : Step} {record : TriggerRecord} :
    record ∈ (replay.moment settings step).rollups ↔
      replay.rollup? settings step = some record := by
  rw [moment_rollups, Option.mem_toList]

theorem mem_decisions_moment {decision : DecisionRecord} :
    decision ∈ (replay.moment settings (.decisions batch)).decisions ↔
      ∃ index suggestion, batch.suggestions[index]? = some suggestion ∧
        decision = replay.session.decisionRecord settings batch index suggestion := by
  rw [moment_decisions, Session.decisionRecords, List.mem_map]
  constructor
  · rintro ⟨⟨suggestion, index⟩, member, rfl⟩
    exact ⟨index, suggestion, List.mem_zipIdx_iff_getElem?.mp member, rfl⟩
  · rintro ⟨index, suggestion, found, rfl⟩
    exact ⟨(suggestion, index), List.mem_zipIdx_iff_getElem?.mpr found, rfl⟩

/-- A suggestion was accepted if the record at its position says so. -/
theorem mem_acceptedSuggestions_moment {suggestion : Suggestion} :
    suggestion ∈ (replay.moment settings (.decisions batch)).acceptedSuggestions ↔
      ∃ index, batch.suggestions[index]? = some suggestion ∧
        .ofReport index batch.accepted (Session.effectiveDisplays batch) = Disposition.accept := by
  have unfolded : (replay.moment settings (.decisions batch)).acceptedSuggestions =
      (replay.moment settings (.decisions batch)).decisions.filterMap fun decision =>
        if decision.disposition = .accept then decision.index.bind (batch.suggestions[·]?)
        else none := rfl
  rw [unfolded, List.mem_filterMap]
  constructor
  · rintro ⟨decision, member, found⟩
    obtain ⟨index, other, present, rfl⟩ := mem_decisions_moment.mp member
    split at found
    case isTrue isAccept => exact ⟨index, found, isAccept⟩
    case isFalse => cases found
  · rintro ⟨index, found, isAccept⟩
    refine ⟨_, mem_decisions_moment.mpr ⟨index, suggestion, found, rfl⟩, ?_⟩
    exact (if_pos isAccept).trans found

/-- The suggestion of a batch that was accepted is the one whose lines are told. -/
theorem acceptedContent_of_mem {suggestion : Suggestion}
    (member : suggestion ∈ (replay.moment settings (.decisions batch)).acceptedSuggestions) :
    Session.acceptedContent batch = suggestion.content := by
  obtain ⟨index, found, isAccept⟩ := mem_acceptedSuggestions_moment.mp member
  rw [Session.acceptedContent, (Disposition.ofReport_eq_accept_iff.mp isAccept).1]
  simp only [found]

theorem exists_accept_iff :
    (∃ decision ∈ (replay.moment settings (.decisions batch)).decisions,
        decision.disposition = .accept) ↔
      (replay.moment settings (.decisions batch)).acceptedSuggestions ≠ [] := by
  constructor
  · rintro ⟨decision, member, isAccept⟩
    obtain ⟨index, suggestion, found, rfl⟩ := mem_decisions_moment.mp member
    exact List.ne_nil_of_mem (mem_acceptedSuggestions_moment.mpr ⟨index, found, isAccept⟩)
  · intro some
    obtain ⟨suggestion, member⟩ := List.exists_mem_of_ne_nil _ some
    obtain ⟨index, found, isAccept⟩ := mem_acceptedSuggestions_moment.mp member
    exact ⟨_, mem_decisions_moment.mpr ⟨index, suggestion, found, rfl⟩, isAccept⟩

/-- A session counts as accepted exactly when a batch that counts had a suggestion accepted. -/
theorem verdict_eq_accept_iff {segment : List Moment} {record : TriggerRecord}
    (closes : IsClosedBy record segment)
    (reached : ∀ moment ∈ segment, ∃ replay : Replay, moment = replay.moment settings moment.step) :
    record.verdict = .accept ↔ acceptedSuggestions segment ≠ [] := by
  have summed : record.verdict = .accept ↔
      ∃ decision ∈ countedDecisions segment, decision.disposition = .accept := by
    rw [closes.sumsUp.verdict]
    split_ifs <;> simp_all
  have each (moment : Moment) (member : moment ∈ counted segment) :
      (∃ decision ∈ moment.decisions, decision.disposition = .accept) ↔
        moment.acceptedSuggestions ≠ [] := by
    obtain ⟨present, batch, isDecisions⟩ := mem_counted member
    obtain ⟨replay, isMoment⟩ := reached moment present
    rw [isMoment, isDecisions]
    exact exists_accept_iff
  rw [summed, acceptedSuggestions, ne_eq, List.flatMap_eq_nil_iff, countedDecisions]
  push Not
  constructor
  · rintro ⟨decision, member, isAccept⟩
    obtain ⟨moment, present, decides⟩ := List.mem_flatMap.mp member
    exact ⟨moment, present, (each moment present).mp ⟨decision, decides, isAccept⟩⟩
  · rintro ⟨moment, present, accepts⟩
    obtain ⟨decision, decides, isAccept⟩ := (each moment present).mpr accepts
    exact ⟨decision, List.mem_flatMap.mpr ⟨moment, present, decides⟩, isAccept⟩

theorem linesOfAccepted_of_knows {history : List Moment} {record : TriggerRecord}
    (closes : IsClosedBy record (history ++ [replay.moment settings (.decisions batch)]))
    (reached : ∀ moment ∈ history ++ [replay.moment settings (.decisions batch)],
      ∃ replay : Replay, moment = replay.moment settings moment.step)
    (knows : KnowsAccepted history (replay.moment settings (.decisions batch)) batch) :
    LinesOfAccepted (history ++ [replay.moment settings (.decisions batch)]) record
      (Text.lineCount (Session.acceptedContent batch)) := by
  have accepted_iff := verdict_eq_accept_iff closes reached
  rcases knows with ⟨counts, accepts⟩ | ⟨none, silent⟩
  · obtain ⟨suggestion, member⟩ := List.exists_mem_of_ne_nil _ accepts
    have present : suggestion ∈
        acceptedSuggestions (history ++ [replay.moment settings (.decisions batch)]) := by
      rw [acceptedSuggestions, counted_concat, if_pos counts]
      exact List.mem_flatMap.mpr ⟨_, List.mem_append_right _ List.mem_cons_self, member⟩
    constructor
    · intro _
      exact ⟨suggestion, present, by rw [acceptedContent_of_mem member]⟩
    · intro notAccepted
      exact absurd (accepted_iff.mpr (List.ne_nil_of_mem present)) notAccepted
  · constructor
    · intro accepted
      exact absurd none (accepted_iff.mp accepted)
    · intro _
      rw [silent]
      rfl

end Replay

/-- With a session that a batch closes, the endpoint is told what the batch names as accepted. -/
theorem Run.exists_report_of_rollup {σ γ : Type} (outlets : Outlets σ γ) {settings : Settings}
    {run : Run σ γ} {batch : DecisionBatch} {record : TriggerRecord}
    (background : outlets.background = true)
    (member : record ∈ (run.replay.moment settings (.decisions batch)).rollups) :
    ∃ report,
      (run.apply outlets settings (.decisions batch)).pending = run.pending ++ [.trigger report] ∧
      report.verdict = record.verdict.remoteName ∧
      report.generatedLines = Text.lineCount (Session.acceptedContent batch) := by
  obtain ⟨told, isTold, reported⟩ :=
    Replay.exists_closing_of_rollup? (Replay.mem_rollups_moment.mp member)
  obtain rfl := Option.some.inj isTold
  refine ⟨(run.replay.gathered settings (.decisions batch)).closingReport run.replay.clock
    batch.sessionId (Session.acceptedContent batch) record, ?_, rfl, rfl⟩
  have requests := Replay.moment_requests settings (.decisions batch) run.replay
  rw [reported] at requests
  rw [Run.pending_apply, Run.sentOf, if_pos background]
  exact congrArg (run.pending ++ ·) requests

theorem Run.exists_report_of_only_rollup {σ γ : Type} (outlets : Outlets σ γ) {settings : Settings}
    {run : Run σ γ} {batch : DecisionBatch} (background : outlets.background = true)
    (idle : run.pending = [])
    (one : (run.replay.moment settings (.decisions batch)).rollups.length = 1) :
    ∃ record report, (run.replay.moment settings (.decisions batch)).rollups = [record] ∧
      (run.apply outlets settings (.decisions batch)).pending = [.trigger report] ∧
      report.generatedLines = Text.lineCount (Session.acceptedContent batch) := by
  obtain ⟨record, closes⟩ := List.length_eq_one_iff.mp one
  have member : record ∈ (run.replay.moment settings (.decisions batch)).rollups := by
    rw [closes]
    exact List.mem_singleton_self record
  obtain ⟨report, pending, -, lines⟩ := exists_report_of_rollup outlets background member
  rw [idle, List.nil_append] at pending
  exact ⟨record, report, closes, pending, lines⟩

/-- When a batch closes a session and requests can be sent, the endpoint is told the lines of what
that batch names as accepted.  If the batch knows what was accepted in the session, these are the
lines of an accepted suggestion, and none when nothing was accepted. -/
theorem generated_lines_of_closing_batch {σ γ : Type} (sink : Sink σ) (client : Remote.Client γ)
    (sinkState : σ) (clientState : γ) (settings : Settings) (clock : Instant) (steps : List Step)
    (batch : DecisionBatch) :
    let outlets : Outlets σ γ := ⟨sink, client, true⟩
    let run := (Run.start clock sinkState clientState).applyAll outlets settings steps
    let earlier := (Segments.ofHistory ((Replay.start clock).history settings steps)).current
    let closing := run.replay.moment settings (.decisions batch)
    ∀ record ∈ closing.rollups, ∃ report,
      (run.apply outlets settings (.decisions batch)).pending = run.pending ++ [.trigger report] ∧
      report.verdict = record.verdict.remoteName ∧
      report.generatedLines = Text.lineCount (Session.acceptedContent batch) ∧
      (KnowsAccepted earlier closing batch →
        LinesOfAccepted (earlier ++ [closing]) record report.generatedLines) := by
  intro outlets run earlier closing record member
  have replayed : run.replay = (Replay.start clock).run settings steps :=
    (Run.reaches_applyAll outlets settings steps (.start clock sinkState clientState)).replay
  obtain ⟨report, pending, verdict, lines⟩ := Run.exists_report_of_rollup outlets rfl member
  refine ⟨report, pending, verdict, lines, ?_⟩
  intro knows
  rw [lines]
  refine Replay.linesOfAccepted_of_knows ?_ ?_ knows
  · have before : Gathered run.replay.session earlier :=
      replayed ▸ Replay.gathered_run settings clock steps
    exact Replay.isClosedBy_of_rollup? before (Replay.mem_rollups_moment.mp member)
  · intro moment present
    rcases List.mem_append.mp present with earlierMoment | here
    · have inHistory : moment ∈ (Replay.start clock).history settings steps := by
        rw [← Segments.flatten_closed_append_current
          ((Replay.start clock).history settings steps)]
        exact List.mem_append_right _ earlierMoment
      exact Replay.exists_of_mem_history inHistory
    · rw [List.mem_singleton.mp here]
      exact ⟨run.replay, rfl⟩

/-- A batch that closes a session of two requests and had a suggestion of two lines accepted. -/
theorem two_lines_of_closing_batch :
    let outlets : Outlets Unit Unit := ⟨.refusing, .silent, true⟩
    let steps : List Step := [expecting 2, plainRequest "r1", plainRequest "r2",
      .decisions (plainBatch "r1" "z" none)]
    let batch := plainBatch "r2" "x = 1\ny = 2" (some 0)
    let run := (Run.start ⟨0⟩ () ()).applyAll outlets plainSettings steps
    let earlier := (Segments.ofHistory ((Replay.start ⟨0⟩).history plainSettings steps)).current
    let closing := run.replay.moment plainSettings (.decisions batch)
    KnowsAccepted earlier closing batch ∧
    ∃ record ∈ closing.rollups, record.verdict = .accept ∧
      ∃ report, (run.apply outlets plainSettings (.decisions batch)).pending = [.trigger report] ∧
        report.generatedLines = 2 ∧
        LinesOfAccepted (earlier ++ [closing]) record report.generatedLines := by
  intro outlets steps batch run earlier closing
  have knows : KnowsAccepted earlier closing batch := .inl (by decide +kernel)
  have some : closing.rollups ≠ [] := by decide +kernel
  have accepted : ∀ record ∈ closing.rollups, record.verdict = .accept := by decide +kernel
  obtain ⟨record, member⟩ := List.exists_mem_of_ne_nil _ some
  obtain ⟨report, pending, -, lines, ofAccepted⟩ :=
    generated_lines_of_closing_batch .refusing .silent () () plainSettings ⟨0⟩ steps batch record
      member
  have isTwo : report.generatedLines = 2 := lines.trans (by decide +kernel)
  have nothingBefore : run.pending = [] := by decide +kernel
  refine ⟨knows, record, member, accepted record member, report, ?_, isTwo, ofAccepted knows⟩
  calc
    (run.apply outlets plainSettings (.decisions batch)).pending
      = run.pending ++ [.trigger report] := pending
    _ = [.trigger report] := by rw [nothingBefore, List.nil_append]

/-- A suggestion of two lines is accepted in the first of two batches, and nothing in the second: the
session counts as accepted, and the endpoint is told of no lines. -/
theorem no_lines_of_earlier_batch :
    let outlets : Outlets Unit Unit := ⟨.refusing, .silent, true⟩
    let steps : List Step := [expecting 2, plainRequest "r1", plainRequest "r2",
      .decisions (plainBatch "r1" "x = 1\ny = 2" (some 0))]
    let batch := plainBatch "r2" "z" none
    let run := (Run.start ⟨0⟩ () ()).applyAll outlets plainSettings steps
    let earlier := (Segments.ofHistory ((Replay.start ⟨0⟩).history plainSettings steps)).current
    let closing := run.replay.moment plainSettings (.decisions batch)
    ∃ record report, closing.rollups = [record] ∧
      (run.apply outlets plainSettings (.decisions batch)).pending = [.trigger report] ∧
      record.verdict = .accept ∧ report.generatedLines = 0 ∧
      ¬ LinesOfAccepted (earlier ++ [closing]) record report.generatedLines := by
  intro outlets steps batch run earlier closing
  have twoLines : ∀ suggestion ∈ acceptedSuggestions (earlier ++ [closing]),
      Text.lineCount suggestion.content = 2 := by
    decide +kernel
  have idle : run.pending = [] := by decide +kernel
  have one : closing.rollups.length = 1 := by decide +kernel
  have accepted : ∀ record ∈ closing.rollups, record.verdict = .accept := by decide +kernel
  obtain ⟨record, report, closes, pending, lines⟩ :=
    Run.exists_report_of_only_rollup outlets rfl idle one
  rw [closes, List.forall_mem_singleton] at accepted
  have isZero : report.generatedLines = 0 := lines.trans (by decide +kernel)
  refine ⟨record, report, closes, pending, accepted, isZero, ?_⟩
  intro told
  obtain ⟨suggestion, member, same⟩ := told.accepted accepted
  rw [twoLines suggestion member, isZero] at same
  cases same

/-- The only suggestion of a session is named as accepted, but the editor has discarded it: the
session counts as discarded, and the endpoint is told of the two lines of the suggestion. -/
theorem two_lines_of_discarded_suggestion :
    let outlets : Outlets Unit Unit := ⟨.refusing, .silent, true⟩
    let steps : List Step := [expecting 1, plainRequest "r1"]
    let batch : DecisionBatch :=
      { plainBatch "r1" "x = 1\ny = 2" (some 0) with displays := some ⟨[(0, .discard)]⟩ }
    let run := (Run.start ⟨0⟩ () ()).applyAll outlets plainSettings steps
    let earlier := (Segments.ofHistory ((Replay.start ⟨0⟩).history plainSettings steps)).current
    let closing := run.replay.moment plainSettings (.decisions batch)
    ∃ record report, closing.rollups = [record] ∧
      (run.apply outlets plainSettings (.decisions batch)).pending = [.trigger report] ∧
      record.verdict = .discard ∧ report.generatedLines = 2 ∧
      ¬ LinesOfAccepted (earlier ++ [closing]) record report.generatedLines := by
  intro outlets steps batch run earlier closing
  have idle : run.pending = [] := by decide +kernel
  have one : closing.rollups.length = 1 := by decide +kernel
  have discarded : ∀ record ∈ closing.rollups, record.verdict = .discard := by decide +kernel
  obtain ⟨record, report, closes, pending, lines⟩ :=
    Run.exists_report_of_only_rollup outlets rfl idle one
  rw [closes, List.forall_mem_singleton] at discarded
  have isTwo : report.generatedLines = 2 := lines.trans (by decide +kernel)
  refine ⟨record, report, closes, pending, discarded, isTwo, ?_⟩
  intro told
  have isZero := told.otherwise (by rw [discarded]; decide)
  rw [isTwo] at isZero
  cases isZero

end Script
end TriggerLedger
