import TriggerLedger.Proofs.Replay.Reports
/-!
# The order of batches

A session that waits for a number of batches is closed by the last of them.  In
whatever order they come, it is summed up in the same way and left in the same
state.
-/

namespace TriggerLedger

namespace Session

variable {settings : Settings} {session : Session}

/-- The session waits for `count` batches, and nothing else closes it. -/
structure Awaits (count : Nat) (session : Session) : Prop where
  undecided : session.decisions = []
  notCancelled : session.cancelled = false
  noLastRequest : session.lastRequestId = none
  expected : session.expectedRequests = count

/-- The batch has suggestions, and its request is recorded. -/
def Takes (session : Session) (batch : DecisionBatch) : Prop :=
  batch.suggestions ≠ [] ∧ batch.requestId ∈ session.invocations.filterMap (·.requestId)

/-- The record that a batch adds to a session. -/
def batchRecord? (settings : Settings) (session : Session) (batch : DecisionBatch) :
    Option TriggerRecord :=
  session.requestRecord? settings batch (session.decisionRecords settings batch)

/-- The session with other records, and another note of references. -/
def noting (decisions : List TriggerRecord) (references : Bool) (session : Session) : Session :=
  { session with decisions, hasReferences := references }

@[simp]
theorem decisions_noting (decisions : List TriggerRecord) (references : Bool) :
    (session.noting decisions references).decisions = decisions :=
  rfl

@[simp]
theorem hasReferences_noting (decisions : List TriggerRecord) (references : Bool) :
    (session.noting decisions references).hasReferences = references :=
  rfl

@[simp]
theorem noting_noting (decisions others : List TriggerRecord) (references other : Bool) :
    (session.noting decisions references).noting others other = session.noting others other :=
  rfl

/-- What a batch adds does not depend on the batches before. -/
@[simp]
theorem batchRecord?_noting (decisions : List TriggerRecord) (references : Bool) :
    (session.noting decisions references).batchRecord? settings =
      session.batchRecord? settings :=
  rfl

theorem gather_eq_noting (batch : DecisionBatch) :
    session.gather settings batch =
      session.noting (session.decisions ++ (session.batchRecord? settings batch).toList)
        (session.hasReferences || batch.hasReferences) := by
  rw [← anyReferences_decisionRecords]
  rfl

/-- The session after several batches, apart from being closed. -/
def gatherAll (settings : Settings) (batches : List DecisionBatch) (session : Session) : Session :=
  batches.foldl (fun session batch => session.gather settings batch) session

theorem gatherAll_concat (batches : List DecisionBatch) (batch : DecisionBatch) :
    session.gatherAll settings (batches ++ [batch]) =
      (session.gatherAll settings batches).gather settings batch := by
  simp [gatherAll]

theorem gatherAll_eq_noting (batches : List DecisionBatch) :
    session.gatherAll settings batches =
      session.noting (session.decisions ++ batches.filterMap (session.batchRecord? settings))
        (session.hasReferences || batches.any (·.hasReferences)) := by
  induction batches generalizing session with
  | nil =>
      rw [List.filterMap_nil, List.append_nil, List.any_nil, Bool.or_false]
      rfl
  | cons batch batches induction =>
      have first : session.gatherAll settings (batch :: batches) =
          (session.gather settings batch).gatherAll settings batches := rfl
      rw [first, induction, gather_eq_noting]
      cases found : session.batchRecord? settings batch <;>
        simp [found, Bool.or_assoc]

theorem batchRecord?_isSome_iff {batch : DecisionBatch} :
    (session.batchRecord? settings batch).isSome = true ↔ session.Takes batch :=
  requestRecord?_isSome_iff

theorem length_gatherAll (settings : Settings) {count : Nat} {batches : List DecisionBatch}
    (awaits : session.Awaits count) (taken : ∀ batch ∈ batches, session.Takes batch) :
    (session.gatherAll settings batches).decisions.length = batches.length := by
  have isRecord (batch : DecisionBatch) (member : batch ∈ batches) :
      (session.batchRecord? settings batch).isSome = true :=
    batchRecord?_isSome_iff.mpr (taken batch member)
  rw [gatherAll_eq_noting, decisions_noting, awaits.undecided, List.nil_append,
    List.filterMap_length_eq_length]
  exact isRecord

/-- A waiting session is complete when it has as many batches as it waits for. -/
theorem isComplete_gatherAll_iff (settings : Settings) {count : Nat}
    {batches : List DecisionBatch} (requestId : String) (awaits : session.Awaits count)
    (taken : ∀ batch ∈ batches, session.Takes batch) :
    (session.gatherAll settings batches).isComplete requestId = true ↔
      batches ≠ [] ∧ batches.length = count := by
  have length := length_gatherAll settings awaits taken
  have unchanged : (session.gatherAll settings batches).cancelled = session.cancelled ∧
      (session.gatherAll settings batches).lastRequestId = session.lastRequestId ∧
      (session.gatherAll settings batches).expectedRequests = session.expectedRequests := by
    rw [gatherAll_eq_noting]
    exact ⟨rfl, rfl, rfl⟩
  obtain ⟨cancelled, lastRequest, expected⟩ := unchanged
  rw [isComplete_iff, ← List.length_pos_iff, length, cancelled, lastRequest, expected]
  simp [awaits.notCancelled, awaits.noLastRequest, awaits.expected, List.length_pos_iff]

end Session

/-- What the records of a session have in common when its batches come in other orders. -/
structure TriggerRecord.SameSummary (first second : TriggerRecord) : Prop where
  verdict : first.verdict = second.verdict
  shape : first.shape = second.shape
  suggestionCount : first.suggestionCount = second.suggestionCount
  importCount : first.importCount = second.importCount
  typeaheadLength : first.typeaheadLength = second.typeaheadLength
  sinceDocumentChange : first.sinceDocumentChange = second.sinceDocumentChange
  sinceLastDecision : first.sinceLastDecision = second.sinceLastDecision
  toFirstRecommendation : first.toFirstRecommendation = second.toFirstRecommendation
  previousVerdict : first.previousVerdict = second.previousVerdict
  classifierResult : first.classifierResult = second.classifierResult
  classifierThreshold : first.classifierThreshold = second.classifierThreshold

theorem total_map_perm {first second : List TriggerRecord} (perm : first.Perm second)
    (count : TriggerRecord → Nat) : total (first.map count) = total (second.map count) := by
  rw [total_eq_sum, total_eq_sum]
  exact (perm.map count).sum_nat

/-- The same records in another order are summed up in the same way. -/
theorem Session.sameSummary_of_perm (settings : Settings) (now : Instant) (session : Session)
    {decisions others : List TriggerRecord} (perm : decisions.Perm others)
    (references : Bool) (first second : TriggerRecord) :
    TriggerRecord.SameSummary
      ((session.noting decisions references).sessionRecord settings now first)
      ((session.noting others references).sessionRecord settings now second) where
  verdict := Verdict.combine_congr fun _ => (perm.map _).mem_iff
  shape := Shape.combine_congr fun _ => (perm.map _).mem_iff
  suggestionCount := total_map_perm perm _
  importCount := total_map_perm perm _
  typeaheadLength := rfl
  sinceDocumentChange := rfl
  sinceLastDecision := rfl
  toFirstRecommendation := rfl
  previousVerdict := rfl
  classifierResult := rfl
  classifierThreshold := rfl

theorem Session.firstRequestId_of_batchRecord? {settings : Settings} {session : Session}
    {batch : DecisionBatch} {record : TriggerRecord}
    (found : session.batchRecord? settings batch = some record) :
    record.firstRequestId = session.firstRequestId?.getD batch.requestId := by
  unfold batchRecord? requestRecord? at found
  split at found
  · rw [← Option.some.inj found]
  · cases found

namespace Script

/-- A history that hands out one rollup and one report on it, by its last moment. -/
structure ClosesLast (history : List Moment) (record : TriggerRecord)
    (report : Remote.TriggerReport) : Prop where
  last : ∃ earlier last, history = earlier ++ [last] ∧
    last.rollups = [record] ∧ last.reports = [report] ∧
    ∀ moment ∈ earlier, moment.rollups = [] ∧ moment.reports = []

namespace Replay

variable {settings : Settings} {replay : Replay} {batches : List DecisionBatch} {count : Nat}

/-- The moments of batches that are decided on one after the other. -/
def batchHistory (settings : Settings) (batches : List DecisionBatch) (replay : Replay) :
    List Moment :=
  replay.history settings (batches.map .decisions)

/-- The replay after batches that are decided on one after the other. -/
def runBatches (settings : Settings) (batches : List DecisionBatch) (replay : Replay) : Replay :=
  replay.run settings (batches.map .decisions)

theorem runBatches_concat (batches : List DecisionBatch) (batch : DecisionBatch) :
    replay.runBatches settings (batches ++ [batch]) =
      (replay.runBatches settings batches).next settings (.decisions batch) := by
  rw [runBatches, List.map_append]
  exact run_concat _ _ _

theorem batchHistory_concat (batches : List DecisionBatch) (batch : DecisionBatch) :
    replay.batchHistory settings (batches ++ [batch]) =
      replay.batchHistory settings batches ++
        [(replay.runBatches settings batches).moment settings (.decisions batch)] := by
  rw [batchHistory, List.map_append]
  exact history_concat _ _ _

/-- Fewer batches than a session waits for are gathered, and nothing is handed out but their
decisions. -/
theorem runBatches_of_fewer (settings : Settings) (awaits : replay.session.Awaits count)
    (taken : ∀ batch ∈ batches, replay.session.Takes batch) (fewer : batches.length < count) :
    (replay.runBatches settings batches).session = replay.session.gatherAll settings batches ∧
      (replay.runBatches settings batches).clock = replay.clock ∧
      ∀ moment ∈ replay.batchHistory settings batches,
        moment.rollups = [] ∧ moment.reports = [] := by
  induction batches using List.reverseRecOn with
  | nil => exact ⟨rfl, rfl, by simp [batchHistory, history]⟩
  | append_singleton batches batch induction =>
      have fewerBefore : batches.length < count := by
        rw [List.length_append] at fewer
        exact Nat.lt_of_add_right_lt fewer
      obtain ⟨session, clock, earlier⟩ := induction
        (fun batch member => taken batch (List.mem_append_left _ member)) fewerBefore
      have waits : (replay.runBatches settings batches).rollup? settings (.decisions batch) =
          none := by
        rw [rollup?, Session.completedRecord?, session, ← Session.gatherAll_concat, if_neg]
        rw [Session.isComplete_gatherAll_iff settings batch.requestId awaits taken]
        exact fun complete => absurd complete.2 (Nat.ne_of_lt fewer)
      refine ⟨?_, ?_, ?_⟩
      · rw [runBatches_concat, next_session, waits]
        exact (congrArg _ session).trans (Session.gatherAll_concat batches batch).symm
      · rw [runBatches_concat]
        exact clock
      · intro moment member
        rw [batchHistory_concat] at member
        rcases List.mem_append.mp member with before | here
        · exact earlier moment before
        · rw [List.mem_singleton.mp here, moment_rollups, moment_reports, waits,
            sessionReport?_eq_none waits]
          exact ⟨rfl, rfl⟩

/-- With as many batches as it waits for, a session is closed by the last of them. -/
theorem runBatches_of_all (settings : Settings) (awaits : replay.session.Awaits batches.length)
    (taken : ∀ batch ∈ batches, replay.session.Takes batch) (nonempty : batches ≠ []) :
    ∃ record report,
      (replay.session.gatherAll settings batches).closingRecord? settings replay.clock =
        some record ∧
      ClosesLast (replay.batchHistory settings batches) record report ∧
      report.referenceCount =
        (if (replay.session.gatherAll settings batches).hasReferences then 1 else 0) ∧
      (replay.runBatches settings batches).session =
        (replay.session.gatherAll settings batches).closed replay.clock record := by
  cases batches using List.reverseRecOn with
  | nil => exact absurd rfl nonempty
  | append_singleton batches batch =>
      have fewer : batches.length < (batches ++ [batch]).length := by simp
      obtain ⟨session, clock, earlier⟩ := runBatches_of_fewer settings awaits
        (fun batch member => taken batch (List.mem_append_left _ member)) fewer
      have gathered : (replay.runBatches settings batches).gathered settings (.decisions batch) =
          replay.session.gatherAll settings (batches ++ [batch]) :=
        (congrArg _ session).trans (Session.gatherAll_concat batches batch).symm
      have complete := (Session.isComplete_gatherAll_iff settings batch.requestId awaits
        taken).mpr ⟨nonempty, rfl⟩
      have decided : (replay.session.gatherAll settings (batches ++ [batch])).decisions ≠ [] := by
        rw [← List.length_pos_iff, Session.length_gatherAll settings awaits taken]
        exact List.length_pos_iff.mpr nonempty
      obtain ⟨record, isRecord⟩ := Option.isSome_iff_exists.mp
        ((Session.closingRecord?_isSome_iff settings replay.clock _).mpr decided)
      have found : (replay.runBatches settings batches).rollup? settings (.decisions batch) =
          some record := by
        rw [rollup?, Session.completedRecord?, session, ← Session.gatherAll_concat,
          if_pos complete, clock]
        exact isRecord
      obtain ⟨closing, -, reported⟩ := exists_closing_of_rollup? found
      rw [gathered] at reported
      have closes : ClosesLast (replay.batchHistory settings (batches ++ [batch])) record
          ((replay.session.gatherAll settings (batches ++ [batch])).closingReport
            (replay.runBatches settings batches).clock closing.sessionId closing.acceptedContent
            record) := by
        refine ⟨_, _, batchHistory_concat batches batch, ?_, ?_, earlier⟩
        · rw [moment_rollups, found, Option.toList_some]
        · rw [moment_reports, reported, Option.toList_some]
      refine ⟨record, _, isRecord, closes, rfl, ?_⟩
      rw [runBatches_concat, next_session, found, gathered, clock]

/-- The decisions handed out are those of each batch, whatever batches came before it. -/
theorem decisions_batchHistory (awaits : replay.session.Awaits count)
    (taken : ∀ batch ∈ batches, replay.session.Takes batch) (enough : batches.length ≤ count) :
    (replay.batchHistory settings batches).flatMap (·.decisions) =
      batches.flatMap (replay.session.decisionRecords settings) := by
  induction batches using List.reverseRecOn with
  | nil => rfl
  | append_singleton batches batch induction =>
      have takenBefore : ∀ batch ∈ batches, replay.session.Takes batch :=
        fun batch member => taken batch (List.mem_append_left _ member)
      have fewer : batches.length < count := by
        rw [List.length_append] at enough
        exact enough
      obtain ⟨session, -, -⟩ := runBatches_of_fewer settings awaits takenBefore fewer
      have records : (replay.runBatches settings batches).session.decisionRecords settings batch =
          replay.session.decisionRecords settings batch := by
        rw [session, Session.gatherAll_eq_noting]
        rfl
      rw [batchHistory_concat, List.flatMap_append, List.flatMap_append,
        induction takenBefore (Nat.le_of_lt fewer), List.flatMap_singleton, List.flatMap_singleton,
        moment_decisions, records]

end Replay

/-- Batches that a session waits for, and that all count, may come in any order: only the last one
closes the session, the rollups sum it up in the same way and report references alike, the same
decisions are handed out, and the session is left in the same state. -/
theorem batches_in_any_order (settings : Settings) (replay : Replay)
    {first second : List DecisionBatch} (perm : first.Perm second) (nonempty : first ≠ [])
    (awaits : replay.session.Awaits first.length)
    (taken : ∀ batch ∈ first, replay.session.Takes batch) :
    ∃ firstRecord firstReport secondRecord secondReport,
      ClosesLast (replay.batchHistory settings first) firstRecord firstReport ∧
      ClosesLast (replay.batchHistory settings second) secondRecord secondReport ∧
      firstRecord.SameSummary secondRecord ∧
      (replay.session.firstRequestId?.isSome = true →
        firstRecord.firstRequestId = secondRecord.firstRequestId) ∧
      firstReport.referenceCount = secondReport.referenceCount ∧
      ((replay.batchHistory settings first).flatMap (·.decisions)).Perm
        ((replay.batchHistory settings second).flatMap (·.decisions)) ∧
      (replay.runBatches settings first).session = (replay.runBatches settings second).session := by
  have takenToo : ∀ batch ∈ second, replay.session.Takes batch :=
    fun batch member => taken batch (perm.mem_iff.mpr member)
  have awaitsToo : replay.session.Awaits second.length := perm.length_eq ▸ awaits
  have nonemptyToo : second ≠ [] := by
    rintro rfl
    exact nonempty perm.eq_nil
  obtain ⟨firstRecord, firstReport, isFirst, firstCloses, firstCount, firstSession⟩ :=
    Replay.runBatches_of_all settings awaits taken nonempty
  obtain ⟨secondRecord, secondReport, isSecond, secondCloses, secondCount, secondSession⟩ :=
    Replay.runBatches_of_all settings awaitsToo takenToo nonemptyToo
  have references : first.any (·.hasReferences) = second.any (·.hasReferences) := perm.any_eq
  rw [Session.gatherAll_eq_noting, awaits.undecided, List.nil_append]
    at isFirst firstCount firstSession
  rw [Session.gatherAll_eq_noting, awaits.undecided, List.nil_append, ← references]
    at isSecond secondCount secondSession
  obtain ⟨firstDecision, firstHead, rfl⟩ := Option.map_eq_some_iff.mp isFirst
  obtain ⟨secondDecision, secondHead, rfl⟩ := Option.map_eq_some_iff.mp isSecond
  have summary := Session.sameSummary_of_perm settings replay.clock replay.session
    (perm.filterMap (replay.session.batchRecord? settings))
    (replay.session.hasReferences || first.any (·.hasReferences)) firstDecision secondDecision
  have named (batches : List DecisionBatch) (decision : TriggerRecord) (requestId : String)
      (known : replay.session.firstRequestId? = some requestId)
      (head : (batches.filterMap (replay.session.batchRecord? settings)).head? =
        some decision) :
      decision.firstRequestId = requestId := by
    obtain ⟨batch, -, found⟩ := List.mem_filterMap.mp (List.mem_of_head? head)
    rw [Session.firstRequestId_of_batchRecord? found, known]
    rfl
  refine ⟨_, firstReport, _, secondReport, firstCloses, secondCloses, summary, ?_, ?_, ?_, ?_⟩
  · intro known
    obtain ⟨requestId, isFirstRequest⟩ := Option.isSome_iff_exists.mp known
    exact (named first firstDecision requestId isFirstRequest firstHead).trans
      (named second secondDecision requestId isFirstRequest secondHead).symm
  · rw [firstCount, secondCount]
    rfl
  · rw [Replay.decisions_batchHistory awaits taken (Nat.le_refl _),
      Replay.decisions_batchHistory awaitsToo takenToo (Nat.le_refl _)]
    exact perm.flatMap_right _
  · rw [firstSession, secondSession, Session.closed_eq, Session.closed_eq, summary.verdict]
    rfl

/-- Three batches on two requests, one of them with an accepted suggestion and one with a reference,
close the session with the same record in reverse order. -/
theorem three_batches_in_reverse :
    let replay := (Replay.start ⟨0⟩).run plainSettings
      [expecting 3, plainRequest "r1", plainRequest "r2"]
    let referring : DecisionBatch := { plainBatch "r2" "b" none with
      suggestions := [⟨"b", [⟨none, none⟩], ["import b"]⟩] }
    let batches := [plainBatch "r1" "a" (some 0), referring, plainBatch "r1" "c" none]
    (replay.session.Awaits batches.length ∧ ∀ batch ∈ batches, replay.session.Takes batch) ∧
    ∃ record report reverseRecord reverseReport,
      ClosesLast (replay.batchHistory plainSettings batches) record report ∧
      ClosesLast (replay.batchHistory plainSettings batches.reverse) reverseRecord reverseReport ∧
      record.SameSummary reverseRecord ∧
      report.referenceCount = reverseReport.referenceCount ∧
      (replay.runBatches plainSettings batches).session =
        (replay.runBatches plainSettings batches.reverse).session := by
  intro replay referring batches
  have awaits : replay.session.Awaits batches.length := ⟨rfl, rfl, rfl, rfl⟩
  have taken : ∀ batch ∈ batches,
      batch.suggestions ≠ [] ∧
        batch.requestId ∈ replay.session.invocations.filterMap (·.requestId) := by
    decide +kernel
  obtain ⟨record, report, reverseRecord, reverseReport, closes, reverseCloses, same, -, references,
    -, session⟩ := batches_in_any_order plainSettings replay (List.reverse_perm batches).symm
      (List.cons_ne_nil _ _) awaits taken
  exact ⟨⟨awaits, taken⟩, record, report, reverseRecord, reverseReport, closes, reverseCloses, same,
    references, session⟩

end Script
end TriggerLedger
