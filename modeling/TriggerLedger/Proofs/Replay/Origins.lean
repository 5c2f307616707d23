import TriggerLedger.Proofs.Replay.Accounting
/-!
# Where a rollup takes its names from

The session, the language, the trigger and the place that a rollup names come from
three moments of its segment: the first batch that counts, the first request of
the id that this batch decides on, and the very first request.  They are settled
with that batch, and nothing that comes later changes them.
-/

namespace TriggerLedger

namespace Script

/-- Something that happened, with the moments before it. -/
structure Placed (α : Type) where
  before : List Moment
  value : α

/-- What is selected from the steps of `after`, where `before` came first. -/
def placed {α : Type} (select : List Moment → Step → Option α) (before : List Moment) :
    List Moment → List (Placed α)
  | [] => []
  | moment :: after =>
    ((select before moment.step).map (Placed.mk before)).toList ++
      placed select (before ++ [moment]) after

theorem placed_append {α : Type} (select : List Moment → Step → Option α)
    (before first second : List Moment) :
    placed select before (first ++ second) =
      placed select before first ++ placed select (before ++ first) second := by
  induction first generalizing before with
  | nil => simp [placed]
  | cons moment first induction =>
      rw [List.cons_append, placed, placed, induction, List.append_assoc, List.append_assoc]
      rfl

theorem placed_singleton {α : Type} (select : List Moment → Step → Option α)
    (before : List Moment) (moment : Moment) :
    placed select before [moment] = ((select before moment.step).map (Placed.mk before)).toList := by
  simp [placed]

def Step.start? : Step → Option TriggerStart
  | .trigger start => some start
  | _ => none

def Step.report? : Step → Option InvocationReport
  | .invocation report => some report
  | _ => none

def Step.countedBatch? (history : List Moment) (step : Step) : Option DecisionBatch :=
  match step with
  | .decisions batch => if step.counts history then some batch else none
  | _ => none

/-- The trigger that is in effect: the last one started, or the one that a session has at first. -/
def triggerAt (history : List Moment) : TriggerStart :=
  (history.filterMap (·.step.start?)).getLast?.getD ⟨.onDemand, .keyStrokeCount, 0⟩

/-- The requests of a segment, empty ids included. -/
def requests (past segment : List Moment) : List (Placed InvocationReport) :=
  placed (fun _ step => step.report?) past segment

def batches (segment : List Moment) : List (Placed DecisionBatch) :=
  placed Step.countedBatch? [] segment

/-- The cause of a request that is recorded while a trigger is in effect. -/
def TriggerStart.causeOf (start : TriggerStart) (report : InvocationReport) :
    Option AutomaticCause :=
  match report.trigger with
  | .automatic => report.cause.or (some start.cause)
  | .onDemand => report.cause

end Script

/-- What a rollup names its session by. -/
structure Identity where
  sessionId : String
  language : String
  trigger : TriggerKind
  supplemental : Option SupplementalContext
  line : Nat
  cursorOffset : Nat
  cause : Option AutomaticCause
  firstRequestId : String
  deriving DecidableEq

def TriggerRecord.identity (record : TriggerRecord) : Identity where
  sessionId := record.sessionId
  language := record.language
  trigger := record.trigger
  supplemental := record.supplemental
  line := record.line
  cursorOffset := record.cursorOffset
  cause := record.cause
  firstRequestId := record.firstRequestId

namespace Script

/-- The identity that a batch that counts gives to a rollup, where `past` came before its segment: its
own names, the place of the first request that it may decide on, and the id of the first request of
all. -/
def identityAt (past : List Moment) (batch : Placed DecisionBatch) : Option Identity :=
  ((requests past batch.before).find? fun request =>
    nonEmpty request.value.requestId == some batch.value.requestId).map fun request =>
      { sessionId := batch.value.sessionId
        language := Language.canonical batch.value.language
        trigger := (triggerAt (past ++ batch.before)).trigger
        supplemental := batch.value.supplemental
        line := request.value.line.getD 0
        cursorOffset := (triggerAt request.before).cursorOffset
        cause := (triggerAt request.before).causeOf request.value
        firstRequestId := ((requests past batch.before).head?.bind fun first =>
          nonEmpty first.value.requestId).getD batch.value.requestId }

/-- The identity that a segment gives to its rollup. -/
def identityOf (past segment : List Moment) : Option Identity :=
  (batches segment).head?.bind (identityAt past)

/-- Once a batch counts, what comes later in the segment changes nothing. -/
theorem identityOf_append {past segment : List Moment} (decided : batches segment ≠ [])
    (later : List Moment) : identityOf past (segment ++ later) = identityOf past segment := by
  obtain ⟨batch, others, found⟩ := List.exists_cons_of_ne_nil decided
  have first : (batches (segment ++ later)).head? = (batches segment).head? := by
    rw [batches, placed_append]
    change (batches segment ++ _).head? = _
    rw [found]
    rfl
  simp only [identityOf, first]

def startOf (session : Session) : TriggerStart :=
  ⟨session.trigger, session.cause, session.cursorOffset⟩

/-- The record of a request while a trigger is in effect. -/
def TriggerStart.record (settings : Settings) (start : TriggerStart) (report : InvocationReport) :
    InvocationRecord :=
  Session.invocationRecord settings
    { Session.initial with
      trigger := start.trigger, cause := start.cause, cursorOffset := start.cursorOffset } report

theorem triggerAt_concat (history : List Moment) (moment : Moment) :
    triggerAt (history ++ [moment]) = moment.step.start?.getD (triggerAt history) := by
  cases started : moment.step.start? with
  | none => simp [triggerAt, started]
  | some start => simp [triggerAt, started]

theorem length_batches (segment : List Moment) :
    (batches segment).length = (counted segment).length := by
  induction segment using List.reverseRecOn with
  | nil => rfl
  | append_singleton segment moment induction =>
      rw [batches] at induction
      rw [batches, placed_append, placed_singleton, counted_concat, List.length_append,
        List.length_append, induction, List.nil_append]
      cases moment.step <;> simp [Step.countedBatch?, Step.counts, apply_ite List.length]
      split <;> rfl

namespace Replay

variable {settings : Settings}

theorem startOf_gathered (step : Step) (replay : Replay) :
    startOf (replay.gathered settings step) = step.start?.getD (startOf replay.session) := by
  cases step with
  | firstRecommendation =>
      rw [gathered_firstRecommendation]
      rfl
  | clientLatency language =>
      exact congrArg startOf (gathered_clientLatency settings language replay)
  | _ => rfl

theorem invocations_gathered (step : Step) (replay : Replay) :
    (replay.gathered settings step).invocations = replay.session.invocations ++
      (step.report?.map ((startOf replay.session).record settings)).toList := by
  cases step with
  | invocation report => rfl
  | decisions batch => simp [gathered, Step.report?]
  | _ =>
    rw [(gathered_of_quiet settings replay (by simp) (by simp)).1]
    simp [Step.report?]

end Replay

/-- What a session holds is what the segment placed, and its first decisions have the identity that
the segment gives. -/
structure Traces (settings : Settings) (past segment : List Moment) (session : Session) : Prop where
  start : startOf session = triggerAt (past ++ segment)
  invocations : session.invocations = (requests past segment).map fun request =>
    (triggerAt request.before).record settings request.value
  first : session.decisions.head?.map (·.identity) = identityOf past segment
  gathered : Gathered session segment

namespace Traces

variable {settings : Settings} {past segment : List Moment} {session : Session}

theorem fresh (start : startOf session = triggerAt past) (cleared : session.reset = session) :
    Traces settings past [] session := by
  have noInvocations : session.invocations = [] := by rw [← cleared]; rfl
  have noDecisions : session.decisions = [] := by rw [← cleared]; rfl
  refine ⟨by rw [start, List.append_nil], by rw [noInvocations]; rfl, ?_,
    .nil noInvocations noDecisions⟩
  rw [noDecisions]
  rfl

theorem batches_eq_nil_iff (traces : Traces settings past segment session) :
    batches segment = [] ↔ session.decisions = [] := by
  rw [← List.length_eq_zero_iff, ← List.length_eq_zero_iff, length_batches,
    traces.gathered.decisions_length]

theorem invocationFor?_eq (traces : Traces settings past segment session) (requestId : String) :
    session.invocationFor? requestId =
      ((requests past segment).find? fun request =>
        nonEmpty request.value.requestId == some requestId).map fun request =>
          (triggerAt request.before).record settings request.value := by
  rw [Session.invocationFor?, traces.invocations, List.find?_map]
  rfl

theorem firstRequestId?_eq (traces : Traces settings past segment session) :
    session.firstRequestId? =
      (requests past segment).head?.bind fun first => nonEmpty first.value.requestId := by
  rw [Session.firstRequestId?, traces.invocations, List.head?_map, Option.bind_map]
  rfl

theorem identity_requestRecord? (traces : Traces settings past segment session)
    {batch : DecisionBatch} (shown : batch.suggestions ≠ []) :
    (session.requestRecord? settings batch (session.decisionRecords settings batch)).map
        (·.identity) = identityAt past ⟨segment, batch⟩ := by
  obtain ⟨suggestion, others, suggestions⟩ := List.exists_cons_of_ne_nil shown
  obtain ⟨otherRecords, records⟩ : ∃ otherRecords, session.decisionRecords settings batch =
      session.decisionRecord settings batch 0 suggestion :: otherRecords := by
    rw [Session.decisionRecords, suggestions]
    exact ⟨_, rfl⟩
  unfold Session.requestRecord?
  rw [records, traces.invocationFor?_eq, identityAt, ← traces.firstRequestId?_eq, ← traces.start]
  cases (requests past segment).find? fun request =>
      nonEmpty request.value.requestId == some batch.requestId with
  | none => rfl
  | some request => rfl

end Traces

namespace Replay

variable {settings : Settings} {past : List Moment} {history : List Moment} {replay : Replay}

theorem batches_moment (segment : List Moment) (step : Step) (replay : Replay) :
    batches (segment ++ [replay.moment settings step]) =
      batches segment ++ ((step.countedBatch? segment).map (Placed.mk segment)).toList := by
  rw [batches, placed_append, placed_singleton, List.nil_append]
  rfl

theorem first_gathered_decisions (batch : DecisionBatch)
    (traces : Traces settings past (Segments.ofHistory history).current replay.session) :
    (replay.gathered settings (.decisions batch)).decisions.head?.map (·.identity) =
      identityOf past ((Segments.ofHistory history).current ++
        [replay.moment settings (.decisions batch)]) := by
  rw [gathered, Session.gather_decisions]
  by_cases decided : batches (Segments.ofHistory history).current = []
  · have nothing := traces.batches_eq_nil_iff.mp decided
    have counts : (Step.decisions batch).counts history =
        (replay.session.requestRecord? settings batch
          (replay.session.decisionRecords settings batch)).isSome :=
      counts_decisions batch traces.gathered
    rw [nothing, List.nil_append, Option.head?_toList, identityOf, batches_moment, decided,
      List.nil_append, Option.head?_toList, Step.countedBatch?, counts_current]
    split
    case isTrue counted =>
      have shown : batch.suggestions ≠ [] := by
        rintro none
        simp [Step.counts, none] at counted
      exact traces.identity_requestRecord? shown
    case isFalse notCounted =>
      rw [counts, Bool.not_eq_true, Option.isSome_eq_false_iff, Option.isNone_iff_eq_none]
        at notCounted
      rw [notCounted]
      rfl
  · have some := mt traces.batches_eq_nil_iff.mpr decided
    rw [identityOf_append decided, ← traces.first, List.head?_append_of_ne_nil _ some]

theorem first_gathered (step : Step)
    (traces : Traces settings past (Segments.ofHistory history).current replay.session) :
    (replay.gathered settings step).decisions.head?.map (·.identity) =
      identityOf past ((Segments.ofHistory history).current ++ [replay.moment settings step]) := by
  have quiet (same : (replay.gathered settings step).decisions = replay.session.decisions)
      (notCounted : step.countedBatch? (Segments.ofHistory history).current = none) :
      (replay.gathered settings step).decisions.head?.map (·.identity) =
        identityOf past ((Segments.ofHistory history).current ++ [replay.moment settings step]) := by
    rw [same, traces.first, identityOf, identityOf, batches_moment, notCounted, Option.map_none,
      Option.toList_none, List.append_nil]
  cases step with
  | invocation report => exact quiet rfl rfl
  | decisions batch => exact first_gathered_decisions batch traces
  | _ => exact quiet (gathered_of_quiet settings replay (by simp) (by simp)).2 rfl

theorem traces_gathered (step : Step)
    (traces : Traces settings past (Segments.ofHistory history).current replay.session) :
    Traces settings past ((Segments.ofHistory history).current ++ [replay.moment settings step])
      (replay.gathered settings step) where
  start := by
    rw [startOf_gathered, traces.start, ← List.append_assoc, triggerAt_concat]
    rfl
  invocations := by
    rw [invocations_gathered, traces.invocations, traces.start, requests, requests, placed_append,
      placed_singleton, List.map_append]
    cases step <;> rfl
  first := first_gathered step traces
  gathered := gathered_step settings step traces.gathered

/-- After every run the session holds what the current segment placed. -/
theorem traces_run (settings : Settings) (clock : Instant) (steps : List Step) :
    let segments := Segments.ofHistory ((start clock).history settings steps)
    Traces settings segments.closed.flatten segments.current
      ((start clock).run settings steps).session := by
  refine run_induction (motive := fun history replay =>
    Traces settings (Segments.ofHistory history).closed.flatten
      (Segments.ofHistory history).current replay.session) ?_ ?_ steps
  · exact .fresh rfl rfl
  · intro history replay step before
    have after := traces_gathered step before
    have rollups := moment_rollups settings step replay
    rw [next_session, Segments.ofHistory_concat]
    cases found : replay.rollup? settings step with
    | none =>
        rw [Segments.current_add (by simp [Moment.closes, rollups, found])]
        exact after
    | some record =>
        rw [Segments.closed_add (by simp [Moment.closes, rollups, found]), List.flatten_concat]
        exact .fresh after.start rfl

/-- Every rollup is named by its segment: by the first batch that counts in it, the first request of
that batch's id, and the first request of all.  Whatever comes after that batch and before the
rollup has no influence. -/
theorem rollup_named_by_first_counted_batch (settings : Settings) (clock : Instant)
    (steps : List Step) (step : Step) :
    let segments := Segments.ofHistory ((start clock).history settings steps)
    let last := ((start clock).run settings steps).moment settings step
    ∀ record ∈ last.rollups,
      identityOf segments.closed.flatten (segments.current ++ [last]) = some record.identity ∧
      ∀ earlier later, segments.current ++ [last] = earlier ++ later → batches earlier ≠ [] →
        identityOf segments.closed.flatten earlier = some record.identity := by
  intro segments last record member
  have handedOut : last.rollups =
      (((start clock).run settings steps).rollup? settings step).toList :=
    moment_rollups settings step _
  rw [handedOut, Option.mem_toList] at member
  obtain ⟨first, isFirst, rfl⟩ := Option.map_eq_some_iff.mp (closingRecord?_of_rollup? member)
  have named := first_gathered step (traces_run settings clock steps)
  rw [isFirst] at named
  refine ⟨named.symm, ?_⟩
  intro earlier later split decided
  rw [← identityOf_append decided later, ← split]
  exact named.symm

end Replay

/-- A request that was triggered automatically, at a line. -/
def automaticRequest (requestId : String) (line : Nat) : Step :=
  .invocation ⟨requestId, "s", none, .automatic, none, .succeeded, none, some line, "go", "", none⟩

/-- Two requests of one id: the place is that of the first, the trigger that of the batch, and the
first id that of the batch, since the very first request has none. -/
theorem named_by_first_of_two_requests :
    let steps : List Step := [plainRequest "", .trigger ⟨.automatic, .classifier, 7⟩,
      automaticRequest "r" 3, .trigger ⟨.onDemand, .enter, 99⟩, .decisions (plainBatch "r" "x" none),
      .trigger ⟨.automatic, .enter, 50⟩, automaticRequest "r" 8]
    let closing : Step := .rollup ⟨"t", ""⟩
    let last := ((Replay.start ⟨0⟩).run plainSettings steps).moment plainSettings closing
    ∃ record ∈ last.rollups, record.identity =
      ⟨"s", "plaintext", .onDemand, none, 3, 7, some .classifier, "r"⟩ := by
  intro steps closing last
  have some : last.rollups ≠ [] := by decide +kernel
  obtain ⟨record, member⟩ := List.exists_mem_of_ne_nil _ some
  have named := (Replay.rollup_named_by_first_counted_batch plainSettings ⟨0⟩ steps closing record
    member).1
  refine ⟨record, member, Option.some.inj (named.symm.trans ?_)⟩
  decide +kernel

end Script
end TriggerLedger
