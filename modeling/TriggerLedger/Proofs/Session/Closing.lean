import TriggerLedger.Proofs.Suggestion.Summary
/-!
# Gathering decisions and closing sessions

What a batch of decisions adds to a session, and what closing the session hands
out and leaves behind.
-/

namespace TriggerLedger

/-- Whether any suggestion of a batch has a code reference. -/
def DecisionBatch.hasReferences (batch : DecisionBatch) : Bool :=
  batch.suggestions.any fun suggestion => !suggestion.references.isEmpty

namespace Session

variable {settings : Settings} {now : Instant} {session : Session} {batch : DecisionBatch}

theorem invocationFor?_isSome_iff {requestId : String} :
    (session.invocationFor? requestId).isSome = true ↔
      requestId ∈ session.invocations.filterMap (·.requestId) := by
  simp [invocationFor?]

theorem decisionRecords_length :
    (session.decisionRecords settings batch).length = batch.suggestions.length := by
  simp [decisionRecords]

/-- A record counts the references of its suggestion, so any reference shows in some record. -/
theorem anyReferences_decisionRecords :
    DecisionRecord.anyReferences (session.decisionRecords settings batch) =
      batch.hasReferences := by
  have counted (suggestion : Suggestion) :
      (suggestion.references.length != 0) = !suggestion.references.isEmpty := by
    cases suggestion.references <;> rfl
  have members : batch.suggestions.zipIdx.map Prod.fst = batch.suggestions := by
    simp
  unfold DecisionRecord.anyReferences decisionRecords DecisionBatch.hasReferences
  rw [List.any_map]
  conv_rhs => rw [← members, List.any_map]
  exact congrArg _ (funext fun position => counted position.1)

/-- The record of a request sums up its decisions. -/
theorem sumsUp_of_requestRecord? {records : List DecisionRecord} {record : TriggerRecord}
    (found : session.requestRecord? settings batch records = some record) :
    record.SumsUp records := by
  unfold requestRecord? at found
  split at found
  · rw [TriggerRecord.sumsUp_iff]
    obtain rfl := Option.some.inj found
    exact ⟨rfl, rfl, rfl, rfl⟩
  · cases found

/-- The decisions of a batch have a record if there are any, and their request is recorded. -/
theorem requestRecord?_isSome_iff :
    (session.requestRecord? settings batch (session.decisionRecords settings batch)).isSome =
        true ↔
      batch.suggestions ≠ [] ∧ batch.requestId ∈ session.invocations.filterMap (·.requestId) := by
  have empty_iff : session.decisionRecords settings batch = [] ↔ batch.suggestions = [] := by
    rw [← List.length_eq_zero_iff, decisionRecords_length, List.length_eq_zero_iff]
  rw [← invocationFor?_isSome_iff, ne_eq, ← empty_iff]
  unfold requestRecord?
  cases session.invocationFor? batch.requestId <;>
    cases session.decisionRecords settings batch <;> simp

@[simp]
theorem gather_invocations :
    (session.gather settings batch).invocations = session.invocations :=
  rfl

theorem gather_decisions :
    (session.gather settings batch).decisions =
      session.decisions ++ (session.requestRecord? settings batch
        (session.decisionRecords settings batch)).toList :=
  rfl

/-- The record that closing a session hands out. -/
def closingRecord? (settings : Settings) (now : Instant) (session : Session) :
    Option TriggerRecord :=
  session.decisions.head?.map (session.sessionRecord settings now)

theorem closingRecord?_isSome_iff (settings : Settings) (now : Instant) (session : Session) :
    (session.closingRecord? settings now).isSome = true ↔ session.decisions ≠ [] := by
  simp [closingRecord?]

/-- The session after its record was handed out. -/
def closed (now : Instant) (record : TriggerRecord) (session : Session) : Session :=
  { session with prior := ⟨some record.verdict, some now⟩ }.reset

/-- What was gathered is as in a new session, and the trigger, the marks and the names of the
session stay. -/
theorem closed_eq (record : TriggerRecord) :
    session.closed now record =
      { initial with
        trigger := session.trigger
        cause := session.cause
        cursorOffset := session.cursorOffset
        sessionId := session.sessionId
        invocationTime := session.invocationTime
        marks := session.marks
        prior := ⟨some record.verdict, some now⟩ } :=
  rfl

variable {sessionId content : String}

theorem close_rollup :
    (session.close settings now sessionId content).rollup.map (·.record) =
      session.closingRecord? settings now := by
  unfold close closingRecord?
  cases session.decisions <;> rfl

theorem close_events :
    (session.close settings now sessionId content).events =
      (session.closingRecord? settings now).toList.map Event.trigger := by
  unfold close closingRecord?
  cases session.decisions <;> rfl

/-- What the endpoint is told when a session is closed with a record. -/
def closingReport (now : Instant) (sessionId content : String) (session : Session)
    (record : TriggerRecord) : Remote.TriggerReport :=
  session.triggerReport now sessionId content record (session.marks.endToEnd now)

theorem close_requests :
    (session.close settings now sessionId content).requests =
      (session.closingRecord? settings now).toList.map
        (.trigger ∘ session.closingReport now sessionId content) := by
  unfold close closingRecord?
  cases session.decisions <;> rfl

theorem close_session :
    (session.close settings now sessionId content).session =
      match session.closingRecord? settings now with
      | none => session
      | some record => session.closed now record := by
  unfold close closingRecord?
  cases session.decisions <;> rfl

/-- The record of the session that a batch of decisions closes. -/
def completedRecord? (settings : Settings) (now : Instant) (batch : DecisionBatch)
    (session : Session) : Option TriggerRecord :=
  if (session.gather settings batch).isComplete batch.requestId then
    (session.gather settings batch).closingRecord? settings now
  else none

theorem recordDecisions_rollup :
    (session.recordDecisions settings now batch).rollup.map (·.record) =
      session.completedRecord? settings now batch := by
  by_cases complete : (session.gather settings batch).isComplete batch.requestId
  · simp [recordDecisions, completedRecord?, complete, close_rollup]
  · simp [recordDecisions, completedRecord?, complete]

theorem recordDecisions_events :
    (session.recordDecisions settings now batch).events =
      (session.decisionRecords settings batch).map Event.decision ++
        (session.completedRecord? settings now batch).toList.map Event.trigger := by
  by_cases complete : (session.gather settings batch).isComplete batch.requestId
  · simp [recordDecisions, completedRecord?, complete, close_events]
  · simp [recordDecisions, completedRecord?, complete]

theorem filterMap_decision?_recordDecisions :
    (session.recordDecisions settings now batch).events.filterMap Event.decision? =
      session.decisionRecords settings batch := by
  rw [recordDecisions_events, List.filterMap_append]
  simp [List.filterMap_map, Function.comp_def, Event.decision?]

theorem recordDecisions_requests :
    (session.recordDecisions settings now batch).requests =
      (session.completedRecord? settings now batch).toList.map
        (.trigger ∘ (session.gather settings batch).closingReport now batch.sessionId
          (acceptedContent batch)) := by
  by_cases complete : (session.gather settings batch).isComplete batch.requestId
  · simp [recordDecisions, completedRecord?, complete, close_requests]
  · simp [recordDecisions, completedRecord?, complete]

theorem recordDecisions_session :
    (session.recordDecisions settings now batch).session =
      match session.completedRecord? settings now batch with
      | none => session.gather settings batch
      | some record => (session.gather settings batch).closed now record := by
  by_cases complete : (session.gather settings batch).isComplete batch.requestId
  · simp [recordDecisions, completedRecord?, complete, close_session]
  · simp [recordDecisions, completedRecord?, complete]

/-- The record of a session sums up the decisions of all its requests. -/
theorem sumsUp_of_closingRecord? {groups : List (List DecisionRecord)} {record : TriggerRecord}
    (sumUp : List.Forall₂ TriggerRecord.SumsUp session.decisions groups)
    (found : session.closingRecord? settings now = some record) :
    record.SumsUp groups.flatten := by
  obtain ⟨first, _, rfl⟩ := Option.map_eq_some_iff.mp found
  obtain ⟨verdict, shape, count, imports⟩ := TriggerRecord.combine_of_forall₂_sumsUp sumUp
  exact TriggerRecord.sumsUp_iff.mpr ⟨verdict, shape, count, imports⟩

end Session
end TriggerLedger
