import Mathlib.Algebra.Order.BigOperators.Group.List
import TriggerLedger.Proofs.Replay.Origins
import TriggerLedger.Proofs.Replay.Outlets
import TriggerLedger.Proofs.Replay.Reports
/-!
# Well-formed records

Every event that a replay offers is well formed for the step that it comes from.
The session keeps the records of requests as they were offered, and each of its
summaries of a batch leaves empty what only a closed session knows.
-/

namespace TriggerLedger

theorem nonEmpty_ne_some_empty (text : String) : nonEmpty text ≠ some "" := by
  rw [nonEmpty]
  split
  case isTrue => nofun
  case isFalse filled => simpa using filled

/-- A reason is kept unless it is empty, from its beginning and up to the limit. -/
theorem truncateReason_cases (reason : String) :
    reason = "" ∧ truncateReason reason = none ∨
      ∃ kept, truncateReason reason = some kept ∧ kept ≠ "" ∧
        kept.toList <+: reason.toList ∧ kept.length ≤ maxReasonLength := by
  rw [truncateReason]
  split
  case isTrue empty => exact .inl ⟨by simpa using empty, rfl⟩
  case isFalse filled =>
    refine .inr ⟨_, rfl, ?_, ?_, ?_⟩
    · have characters : reason.toList ≠ [] := by simpa using filled
      simp [String.ofList_eq_empty_iff, maxReasonLength, characters]
    · simp [List.take_prefix]
    · simp

/-- The record of a request names nothing by an empty id, tells the cause of every automatic
request, and keeps the beginning of the reason that was reported. -/
structure InvocationRecord.WellFormedFor (report : InvocationReport) (record : InvocationRecord) :
    Prop where
  requestId : record.requestId ≠ some ""
  sessionId : record.sessionId ≠ some ""
  reason : report.reason = "" ∧ record.reason = none ∨
    ∃ kept, record.reason = some kept ∧ kept ≠ "" ∧
      kept.toList <+: report.reason.toList ∧ kept.length ≤ 200
  cause : record.trigger = .automatic → record.cause ≠ none

/-- The record of a decision has an index, unless it is about an empty list. -/
structure DecisionRecord.WellFormedFor (step : Script.Step) (record : DecisionRecord) : Prop where
  sessionId : record.sessionId ≠ some ""
  unindexed : record.index = none → (∃ list, step = .emptyList list) ∧
    record.disposition = .empty ∧ record.shape = .line ∧ record.referenceCount = 0

structure TriggerRecord.IsWellFormed (record : TriggerRecord) : Prop where
  suggestionCount : 1 ≤ record.suggestionCount
  triggerCharacter : record.triggerCharacter ≠ none → record.cause = some .specialCharacters
  sinceDocumentChange : record.sinceDocumentChange ≠ some 0

/-- A summary of one batch: what only a closed session knows is empty. -/
structure TriggerRecord.IsOfBatch (record : TriggerRecord) : Prop where
  suggestionCount : 1 ≤ record.suggestionCount
  typeaheadLength : record.typeaheadLength = 0
  sinceDocumentChange : record.sinceDocumentChange = none
  sinceLastDecision : record.sinceLastDecision = none
  toFirstRecommendation : record.toFirstRecommendation = 0
  triggerCharacter : record.triggerCharacter = none
  previousVerdict : record.previousVerdict = none
  classifierResult : record.classifierResult = none
  classifierThreshold : record.classifierThreshold = none

namespace Event

def invocation? : Event → Option InvocationRecord
  | .invocation record => some record
  | _ => none

/-- What is required of an event that comes from a step. -/
def WellFormedFor (step : Script.Step) : Event → Prop
  | .invocation record => ∃ report, step = .invocation report ∧ record.WellFormedFor report
  | .decision record => record.WellFormedFor step
  | .trigger record => record.IsWellFormed
  | .latency _ => True

end Event

namespace Session

variable {settings : Settings} {now : Instant} {session : Session} {record : TriggerRecord}

theorem wellFormedFor_invocationRecord (session : Session) (report : InvocationReport) :
    (session.invocationRecord settings report).WellFormedFor report where
  requestId := nonEmpty_ne_some_empty report.requestId
  sessionId := nonEmpty_ne_some_empty report.sessionId
  reason := truncateReason_cases report.reason
  cause := by
    intro automatic
    change report.trigger = .automatic at automatic
    change session.invocationCause report ≠ none
    rw [invocationCause, automatic]
    cases report.cause <;> nofun

theorem wellFormedFor_decisionRecords (session : Session) (batch : DecisionBatch)
    (step : Script.Step) :
    ∀ record ∈ session.decisionRecords settings batch, record.WellFormedFor step := by
  intro record member
  obtain ⟨position, -, rfl⟩ := List.mem_map.mp member
  exact ⟨nonEmpty_ne_some_empty batch.sessionId, nofun⟩

theorem wellFormedFor_emptyListRecord (session : Session) (list : Script.EmptyList) :
    (session.emptyListRecord settings list.requestId list.sessionId list.page
      list.language).WellFormedFor (.emptyList list) :=
  ⟨nonEmpty_ne_some_empty list.sessionId, fun _ => ⟨⟨list, rfl⟩, rfl, rfl, rfl⟩⟩

theorem isOfBatch_of_requestRecord? {batch : DecisionBatch} {records : List DecisionRecord}
    (found : session.requestRecord? settings batch records = some record) :
    record.IsOfBatch := by
  unfold requestRecord? at found
  split at found
  case h_1 =>
    obtain rfl := Option.some.inj found
    exact ⟨by simp, rfl, rfl, rfl, rfl, rfl, rfl, rfl, rfl⟩
  case h_2 => cases found

/-- The record of a session has at least the suggestions of its first batch. -/
theorem isWellFormed_of_closingRecord?
    (ofBatches : ∀ record ∈ session.decisions, record.IsOfBatch)
    (found : session.closingRecord? settings now = some record) : record.IsWellFormed := by
  obtain ⟨first, isFirst, rfl⟩ := Option.map_eq_some_iff.mp found
  have member : first ∈ session.decisions := List.mem_of_mem_head? isFirst
  constructor
  · have counted : first.suggestionCount ≤ total (session.decisions.map (·.suggestionCount)) := by
      rw [total_eq_sum]
      exact List.le_sum_of_mem (List.mem_map_of_mem member)
    exact (ofBatches first member).suggestionCount.trans counted
  · intro present
    by_contra otherCause
    exact present (if_neg otherCause)
  · intro zero
    have passed := (Option.filter_eq_some_iff.mp zero).2
    simp at passed

end Session

namespace Script.Replay

variable {settings : Settings}

theorem wellFormedFor_ownEvents (settings : Settings) (step : Step) (replay : Replay) :
    ∀ event ∈ replay.ownEvents settings step, event.WellFormedFor step := by
  intro event member
  cases step with
  | invocation report =>
      obtain rfl := List.mem_singleton.mp member
      exact ⟨report, rfl, replay.session.wellFormedFor_invocationRecord report⟩
  | decisions batch =>
      obtain ⟨record, isRecord, rfl⟩ := List.mem_map.mp member
      exact replay.session.wellFormedFor_decisionRecords batch _ record isRecord
  | emptyList list =>
      obtain rfl := List.mem_singleton.mp member
      exact replay.session.wellFormedFor_emptyListRecord list
  | clientLatency language =>
      obtain ⟨record, -, rfl⟩ := List.mem_map.mp member
      exact trivial
  | _ => cases member

/-- A step offers the record of the request that it reports, as the session takes it up. -/
theorem invocations_gathered_offered (settings : Settings) (step : Step) (replay : Replay) :
    (replay.gathered settings step).invocations = replay.session.invocations ++
      (replay.moment settings step).emission.events.filterMap Event.invocation? := by
  have noneClosing (closing : Option TriggerRecord) :
      (closing.toList.map Event.trigger).filterMap Event.invocation? = [] := by
    cases closing <;> rfl
  rw [invocations_gathered, moment_events, List.filterMap_append, noneClosing, List.append_nil]
  congr 1
  cases step with
  | invocation report => rfl
  | _ => simp [ownEvents, Step.report?, Event.invocation?]

/-- A session holds the records of the requests that were offered since the last rollup. -/
theorem invocations_run (settings : Settings) (clock : Instant) (steps : List Step) :
    let segment := (Segments.ofHistory ((start clock).history settings steps)).current
    ((start clock).run settings steps).session.invocations =
      (segment.flatMap (·.emission.events)).filterMap Event.invocation? := by
  refine (segment_induction (motive := fun session segment =>
    session.invocations = (segment.flatMap (·.emission.events)).filterMap Event.invocation?)
    ?_ ?_ clock steps).1
  · intro session fresh
    rw [← fresh]
    rfl
  · intro history replay step before
    rw [invocations_gathered_offered, before, List.flatMap_append, List.filterMap_append,
      List.flatMap_singleton]

theorem wellFormedFor_history (settings : Settings) (clock : Instant) (steps : List Step) :
    ∀ moment ∈ (start clock).history settings steps,
      ∀ event ∈ moment.emission.events, event.WellFormedFor moment.step := by
  induction steps using List.reverseRecOn with
  | nil => exact fun _ member => absurd member List.not_mem_nil
  | append_singleton steps step induction =>
      intro moment isMoment event isEvent
      rw [history_concat, List.mem_append, List.mem_singleton] at isMoment
      rcases isMoment with earlier | rfl
      · exact induction moment earlier event isEvent
      -- The step offers its own events, and the record of the session that it closes.
      rw [moment_events] at isEvent
      rcases List.mem_append.mp isEvent with own | closing
      · exact wellFormedFor_ownEvents settings step _ event own
      · obtain ⟨record, found, rfl⟩ := List.mem_map.mp closing
        have ofBatches := (forall_mem_decisions settings TriggerRecord.IsOfBatch
          (fun _ _ _ found => Session.isOfBatch_of_requestRecord? found) clock steps).2 step
        exact Session.isWellFormed_of_closingRecord? ofBatches
          (closingRecord?_of_rollup? (Option.mem_toList.mp found))

theorem history_steps (settings : Settings) (steps : List Step) (replay : Replay) :
    (replay.history settings steps).map (·.step) = steps := by
  induction steps generalizing replay with
  | nil => rfl
  | cons step steps induction => exact congrArg (step :: ·) (induction _)

end Script.Replay

namespace Script

/-- Whatever a replay is given, each step offers events that are well formed for it.  The session
holds the last of the records of requests that were offered, as they were offered, and summaries of
batches. -/
theorem events_wellFormed {σ γ : Type} (outlets : Outlets σ γ) (sinkState : σ) (clientState : γ)
    (settings : Settings) (clock : Instant) (steps : List Step)
    {final : Run (List Event × σ) (List Remote.Request × γ)} :
    Run.Reaches outlets.listing settings (.start clock ([], sinkState) ([], clientState)) steps
      final →
    (∃ offers : List (List Event), final.sink.1 = offers.flatten ∧
      List.Forall₂ (fun step events => ∀ event ∈ events, event.WellFormedFor step) steps offers) ∧
    final.replay.session.invocations <:+ final.sink.1.filterMap Event.invocation? ∧
    ∀ record ∈ final.replay.session.decisions, record.IsOfBatch := by
  intro reaches
  let history := (Replay.start clock).history settings steps
  have offered : final.sink.1 = (history.map (·.emission.events)).flatten := by
    rw [← List.flatMap_def, ← (Replay.applyAll_emission settings steps (.start clock)).1]
    exact (congrArg Prod.fst reaches.sink).trans
      (congrArg Prod.fst (Run.offer_listing outlets.sink [] _ sinkState))
  have session : final.replay.session = ((Replay.start clock).run settings steps).session :=
    congrArg Replay.session reaches.replay
  refine ⟨⟨history.map (·.emission.events), offered, ?_⟩, ?_, ?_⟩
  · conv in steps => rw [← Replay.history_steps settings steps (.start clock)]
    rw [List.forall₂_map_left_iff, List.forall₂_map_right_iff, List.forall₂_same]
    exact Replay.wellFormedFor_history settings clock steps
  · -- The offers since the last rollup are the last of all offers.
    rw [session, Replay.invocations_run, offered, ← List.flatMap_def]
    apply List.IsSuffix.filterMap
    conv_rhs => rw [← Segments.flatten_closed_append_current history]
    rw [List.flatMap_append]
    exact List.suffix_append _ _
  · rw [session]
    exact (Replay.forall_mem_decisions settings TriggerRecord.IsOfBatch
      (fun _ _ _ found => Session.isOfBatch_of_requestRecord? found) clock steps).1

/-- An automatic request that failed, without an id and a cause of its own, and an empty list. -/
theorem nameless_request_wellFormed :
    let outlets : Outlets Unit Unit := ⟨.refusing, .silent, false⟩
    let failure : InvocationReport :=
      ⟨"", "s", none, .automatic, none, .failed, none, none, "go", "timed out", none⟩
    let steps : List Step := [.invocation failure, .emptyList ⟨"r", "", 0, none⟩]
    let final := (Run.start ⟨0⟩ ([], ()) ([], ())).applyAll outlets.listing plainSettings steps
    Run.Reaches outlets.listing plainSettings (.start ⟨0⟩ ([], ()) ([], ())) steps final ∧
      (final.replay.session.invocations.map fun record =>
        (record.requestId, record.cause, record.reason)) =
          [(none, some .keyStrokeCount, some "timed out")] ∧
      (∃ offers : List (List Event), final.sink.1 = offers.flatten ∧
        List.Forall₂ (fun step events => ∀ event ∈ events, event.WellFormedFor step) steps
          offers) ∧
      final.replay.session.invocations <:+ final.sink.1.filterMap Event.invocation? := by
  intro outlets failure steps final
  have reaches := Run.reaches_applyAll outlets.listing plainSettings steps
    (.start ⟨0⟩ ([], ()) ([], ()))
  obtain ⟨offers, held, -⟩ := events_wellFormed outlets () () plainSettings ⟨0⟩ steps reaches
  exact ⟨reaches, by decide +kernel, offers, held⟩

end Script
end TriggerLedger
