import TriggerLedger.Proofs.Replay.Outlets
import TriggerLedger.Proofs.Replay.PriorOutcomes
/-!
# The outputs of a replay agree

A closed session is written down three times: as an event, in the report of the
replay and as a request to the endpoint.  The three are the same length, in the
same order, and tell the same of each session.
-/

namespace TriggerLedger

def Remote.Request.scan? : Request → Option ScanReport
  | .trigger _ => none
  | .scan report => some report

theorem Session.sessionId_of_requestRecord? {settings : Settings} {session : Session}
    {batch : DecisionBatch} {records : List DecisionRecord} {record : TriggerRecord}
    (found : session.requestRecord? settings batch records = some record) :
    record.sessionId = batch.sessionId := by
  unfold requestRecord? at found
  split at found
  · rw [← Option.some.inj found]
  · cases found

namespace Script

namespace Step

/-- What a step closes the session with, if it is one that may close it. -/
def closing? : Step → Option Closing
  | .decisions batch => some ⟨batch.sessionId, Session.acceptedContent batch⟩
  | .rollup closing => some closing
  | _ => none

/-- The session that decisions or a rollup name. -/
def sessionNamed? (step : Step) : Option String := step.closing?.map (·.sessionId)

/-- Whether a step decides on a suggestion with a code reference. -/
def hasReferences : Step → Bool
  | .decisions batch => batch.hasReferences
  | _ => false

def codeScan? : Step → Option CodeScan
  | .codeScan scan => some scan
  | _ => none

end Step

namespace Moment

/-- What the endpoint is told about closed sessions. -/
def reports (moment : Moment) : List Remote.TriggerReport :=
  moment.emission.requests.filterMap Remote.Request.trigger?

def scans (moment : Moment) : List Remote.ScanReport :=
  moment.emission.requests.filterMap Remote.Request.scan?

def latencies (moment : Moment) : List LatencyRecord :=
  moment.emission.events.filterMap Event.latency?

end Moment

namespace Replay

variable {settings : Settings}

/-- What the endpoint is told when a step closes the session. -/
def sessionReport? (settings : Settings) (step : Step) (replay : Replay) :
    Option Remote.TriggerReport :=
  step.closing?.bind fun closing =>
    (replay.rollup? settings step).map
      ((replay.gathered settings step).closingReport replay.clock closing.sessionId
        closing.acceptedContent)

theorem exists_closing_of_rollup? {step : Step} {replay : Replay} {record : TriggerRecord}
    (found : replay.rollup? settings step = some record) :
    ∃ closing, step.closing? = some closing ∧
      replay.sessionReport? settings step =
        some ((replay.gathered settings step).closingReport replay.clock closing.sessionId
          closing.acceptedContent record) := by
  have known : ∃ closing, step.closing? = some closing := by
    cases step with
    | decisions batch => exact ⟨_, rfl⟩
    | rollup closing => exact ⟨_, rfl⟩
    | _ => cases found
  obtain ⟨closing, isClosing⟩ := known
  refine ⟨closing, isClosing, ?_⟩
  rw [sessionReport?, isClosing, found]
  rfl

theorem sessionReport?_eq_none {step : Step} {replay : Replay}
    (stays : replay.rollup? settings step = none) : replay.sessionReport? settings step = none := by
  simp [sessionReport?, stays]

/-- A step asks for a request about the session that it closes, or about its scan. -/
theorem moment_requests (settings : Settings) (step : Step) (replay : Replay) :
    (replay.moment settings step).emission.requests =
      (replay.sessionReport? settings step).toList.map Remote.Request.trigger ++
        step.codeScan?.toList.map fun scan =>
          .scan (Session.scanReport replay.clock scan.language scan.jobId) := by
  cases step with
  | decisions batch =>
      simp only [moment, apply, perform, onOutcome, Session.recordDecisions_requests,
        sessionReport?, Step.closing?, Option.bind_some, rollup?, Step.codeScan?]
      cases replay.session.completedRecord? settings replay.clock batch <;> rfl
  | rollup closing =>
      simp only [moment, apply, perform, onOutcome, Session.close_requests, sessionReport?,
        Step.closing?, Option.bind_some, rollup?, Step.codeScan?]
      cases replay.session.closingRecord? settings replay.clock <;> rfl
  | clientLatency language =>
      simp only [moment, apply, perform]
      split <;> rfl
  | _ => rfl

theorem moment_reports (settings : Settings) (step : Step) (replay : Replay) :
    (replay.moment settings step).reports = (replay.sessionReport? settings step).toList := by
  rw [Moment.reports, moment_requests, List.filterMap_append]
  simp [List.filterMap_map, Function.comp_def, Remote.Request.trigger?]

theorem moment_scans (settings : Settings) (step : Step) (replay : Replay) :
    (replay.moment settings step).scans.map (fun scan => CodeScan.mk scan.language scan.jobId) =
      step.codeScan?.toList := by
  rw [Moment.scans, moment_requests, List.filterMap_append]
  cases step.codeScan? <;>
    simp [List.filterMap_map, Function.comp_def, Remote.Request.scan?, Session.scanReport]

theorem next_latencies (settings : Settings) (step : Step) (replay : Replay) :
    (replay.next settings step).report.latencies =
      replay.report.latencies ++ (replay.moment settings step).latencies := by
  rw [Moment.latencies, moment_events, List.filterMap_append]
  cases step with
  | clientLatency language =>
      simp only [next, apply, perform, countStep, ownEvents, rollup?]
      cases replay.session.latencyRecord? settings language <;> simp [Event.latency?]
  | _ => simp [next, apply, perform, onSession, onMarks, onOutcome, countStep, ownEvents,
      Event.latency?]

theorem next_steps (settings : Settings) (step : Step) (replay : Replay) :
    (replay.next settings step).report.steps = replay.report.steps + 1 := by
  cases step with
  | clientLatency language =>
      simp only [next, apply, perform, countStep]
      split <;> rfl
  | _ => rfl

theorem applyAll_emission (settings : Settings) (steps : List Step) (replay : Replay) :
    (replay.applyAll settings steps).2.events =
        (replay.history settings steps).flatMap (·.emission.events) ∧
      (replay.applyAll settings steps).2.requests =
        (replay.history settings steps).flatMap (·.emission.requests) := by
  induction steps generalizing replay with
  | nil => exact ⟨rfl, rfl⟩
  | cons step steps induction =>
      obtain ⟨events, requests⟩ := induction (replay.next settings step)
      constructor
      · rw [history, List.flatMap_cons, ← events]
        rfl
      · rw [history, List.flatMap_cons, ← requests]
        rfl

theorem latencies_run (steps : List Step) (replay : Replay) :
    (replay.run settings steps).report.latencies =
      replay.report.latencies ++ (replay.history settings steps).flatMap (·.latencies) := by
  induction steps generalizing replay with
  | nil => simp [run, applyAll, history]
  | cons step steps induction =>
      have rest := induction (replay.next settings step)
      rw [next_latencies, List.append_assoc] at rest
      exact rest

theorem steps_run (steps : List Step) (replay : Replay) :
    (replay.run settings steps).report.steps = replay.report.steps + steps.length := by
  induction steps generalizing replay with
  | nil => rfl
  | cons step steps induction =>
      have rest := induction (replay.next settings step)
      rw [next_steps] at rest
      rw [List.length_cons, Nat.add_comm steps.length, ← Nat.add_assoc]
      exact rest

theorem scans_history (steps : List Step) (replay : Replay) :
    ((replay.history settings steps).flatMap (·.scans)).map
        (fun scan => CodeScan.mk scan.language scan.jobId) =
      steps.filterMap Step.codeScan? := by
  induction steps generalizing replay with
  | nil => rfl
  | cons step steps induction =>
      rw [history, List.flatMap_cons, List.map_append, induction, moment_scans]
      cases found : step.codeScan? <;> simp [found]

theorem gathered_hasReferences (settings : Settings) (step : Step) (replay : Replay) :
    (replay.gathered settings step).hasReferences =
      (replay.session.hasReferences || step.hasReferences) := by
  cases step with
  | decisions batch =>
      have noted : (replay.session.gather settings batch).hasReferences =
          (replay.session.hasReferences ||
            DecisionRecord.anyReferences (replay.session.decisionRecords settings batch)) := rfl
      rw [gathered, noted, Session.anyReferences_decisionRecords]
      rfl
  | firstRecommendation => simp [gathered_firstRecommendation, Step.hasReferences]
  | clientLatency language => simp [gathered_clientLatency, Step.hasReferences]
  | _ => simp [gathered, next, apply, perform, onSession, onMarks, onOutcome, countStep,
      ContextUpdate.apply, Session.markInvocation, Session.recordInvocation, Step.hasReferences]

/-- A session notes whether any suggestion of a segment had a reference, in batches that count and
in others. -/
theorem hasReferences_segment (settings : Settings) (clock : Instant) (steps : List Step)
    (step : Step) :
    (((start clock).run settings steps).gathered settings step).hasReferences =
      ((Segments.ofHistory ((start clock).history settings steps)).current ++
        [((start clock).run settings steps).moment settings step]).any (·.step.hasReferences) := by
  refine (segment_induction (motive := fun session segment =>
    session.hasReferences = segment.any (·.step.hasReferences)) ?_ ?_ clock steps).2 step
  · intro session fresh
    rw [← fresh]
    rfl
  · intro history replay step before
    rw [gathered_hasReferences, before, List.any_append, List.any_cons, List.any_nil,
      Bool.or_false]
    rfl

end Replay

/-- A request about a closed session tells what its record tells.  It is stamped with the time of
the rollup, counts a reference if any suggestion of the segment had one, and names the session that
all batches that count, and the step that closed it, agree on. -/
structure TellsOf (rollup : TimedRollup) (segment : List Moment) (report : Remote.TriggerReport) :
    Prop where
  requestId : report.requestId = rollup.record.firstRequestId
  language : report.language = rollup.record.language
  shape : report.shape = rollup.record.shape.remoteName
  verdict : report.verdict = rollup.record.verdict.remoteName
  timestamp : report.timestamp = rollup.time
  referenceCount : report.referenceCount = if segment.any (·.step.hasReferences) then 1 else 0
  sessionId : ∀ sessionId,
    (∀ moment ∈ counted segment, moment.step.sessionNamed? = some sessionId) →
    (∀ last ∈ segment.getLast?, last.step.sessionNamed? = some sessionId) →
    report.sessionId = sessionId ∧ rollup.record.sessionId = sessionId

namespace Replay

variable {settings : Settings}

/-- The first record that a session holds is about the first moment that counts. -/
theorem sessionNamed?_of_rollup? {clock : Instant} {steps : List Step} {step : Step}
    {record : TriggerRecord}
    (found : ((start clock).run settings steps).rollup? settings step = some record) :
    ∃ moment ∈ counted ((Segments.ofHistory ((start clock).history settings steps)).current ++
        [((start clock).run settings steps).moment settings step]),
      moment.step.sessionNamed? = some record.sessionId := by
  have named := forall₂_decisions_counted settings
    (fun record moment => moment.step.sessionNamed? = some record.sessionId)
    (fun replay batch record found => by
      rw [Session.sessionId_of_requestRecord? found]
      rfl) clock steps step
  obtain ⟨first, isFirst, rfl⟩ := Option.map_eq_some_iff.mp (closingRecord?_of_rollup? found)
  obtain ⟨rest, decisions⟩ := List.head?_eq_some_iff.mp isFirst
  rw [decisions] at named
  obtain ⟨moment, moments, isNamed, -, isCounted⟩ := List.forall₂_cons_left_iff.mp named
  exact ⟨moment, isCounted ▸ List.mem_cons_self, isNamed⟩

theorem tellsOf_of_rollup? {clock : Instant} {steps : List Step} {step : Step}
    {record : TriggerRecord}
    (found : ((start clock).run settings steps).rollup? settings step = some record) :
    ∃ report, ((start clock).run settings steps).sessionReport? settings step = some report ∧
      TellsOf ⟨((start clock).run settings steps).clock, record⟩
        ((Segments.ofHistory ((start clock).history settings steps)).current ++
          [((start clock).run settings steps).moment settings step]) report := by
  obtain ⟨closing, isClosing, reported⟩ := exists_closing_of_rollup? found
  refine ⟨_, reported, rfl, rfl, rfl, rfl, rfl, ?_, ?_⟩
  · rw [← hasReferences_segment settings clock steps step]
    rfl
  · intro sessionId counted last
    obtain ⟨moment, member, named⟩ := sessionNamed?_of_rollup? found
    have lastNamed := last _ (List.getLast?_concat ..)
    have closingNamed : step.sessionNamed? = some closing.sessionId := by
      rw [Step.sessionNamed?, isClosing]
      rfl
    exact ⟨Option.some.inj (closingNamed.symm.trans lastNamed),
      Option.some.inj (named.symm.trans (counted moment member))⟩

theorem length_timedRollups (clock : Instant) (steps : List Step) :
    ((start clock).timedRollups settings steps).length =
      (Segments.ofHistory ((start clock).history settings steps)).closed.length := by
  rw [← (forall₂_isClosedBy clock steps).length_eq, ← map_record_timedRollups, List.length_map]

/-- The requests about closed sessions tell of the closed segments, one each and in order. -/
theorem forall₂_tellsOf (clock : Instant) (steps : List Step) :
    List.Forall₂ (fun closed report => TellsOf closed.1 closed.2 report)
      (((start clock).timedRollups settings steps).zip
        (Segments.ofHistory ((start clock).history settings steps)).closed)
      (((start clock).history settings steps).flatMap (·.reports)) := by
  induction steps using List.reverseRecOn with
  | nil => exact .nil
  | append_singleton steps step induction =>
      have rollups := moment_rollups settings step ((start clock).run settings steps)
      rw [timedRollups_concat, rollupsOf_eq, history_concat, Segments.ofHistory_concat,
        List.flatMap_append, List.flatMap_singleton, moment_reports]
      cases found : ((start clock).run settings steps).rollup? settings step with
      | none =>
          rw [found, Option.toList_none] at rollups
          rw [Segments.current_add (Moment.closes_eq_false_iff.mpr rollups),
            sessionReport?_eq_none found]
          simpa using induction
      | some record =>
          obtain ⟨report, reported, tells⟩ := tellsOf_of_rollup? found
          rw [found, Option.toList_some] at rollups
          rw [Segments.closed_add (Moment.closes_eq_true_iff.mpr (by simp [rollups])), reported]
          rw [Option.map_some, Option.toList_some, Option.toList_some,
            List.zip_append (length_timedRollups clock steps)]
          exact List.rel_append induction (.cons tells .nil)

end Replay

/-- With something to send requests in the background, a replay has one rollup in its report for each
session record among the events offered, and one request about a session for each of them that tells
the same; one latency for each latency event, and one answer for each question about the session
before.  All other requests are about scans, one for each. -/
theorem outputs_agree {σ γ : Type} (sink : Sink σ) (client : Remote.Client γ) (sinkState : σ)
    (clientState : γ) (settings : Settings) (clock : Instant) (steps : List Step) :
    let outlets : Outlets σ γ := ⟨sink, client, true⟩
    let final := (Run.start clock ([], sinkState) ([], clientState)).applyAll outlets.listing
      settings steps
    let report := final.replay.report
    let offered := final.sink.1
    let started := final.pending
    let rollups := (Replay.start clock).timedRollups settings steps
    let segments := Segments.ofHistory ((Replay.start clock).history settings steps)
    report.rollups = offered.filterMap Event.trigger? ∧
    report.latencies = offered.filterMap Event.latency? ∧
    report.steps = steps.length ∧
    report.priorVerdicts.length = steps.count .priorDecision ∧
    rollups.map (·.record) = report.rollups ∧
    List.Forall₂ IsClosedBy report.rollups segments.closed ∧
    List.Forall₂ (fun closed report => TellsOf closed.1 closed.2 report)
      (rollups.zip segments.closed) (started.filterMap Remote.Request.trigger?) ∧
    (started.filterMap Remote.Request.scan?).map
      (fun scan => CodeScan.mk scan.language scan.jobId) = steps.filterMap Step.codeScan? := by
  intro outlets final report offered started rollups segments
  have reached := Run.reaches_applyAll outlets.listing settings steps
    (.start clock ([], sinkState) ([], clientState))
  obtain ⟨events, requests⟩ := Replay.applyAll_emission settings steps (Replay.start clock)
  have replayed : final.replay = (Replay.start clock).run settings steps := reached.replay
  have isOffered : offered =
      ((Replay.start clock).history settings steps).flatMap (·.emission.events) :=
    (congrArg Prod.fst reached.sink).trans
      ((congrArg Prod.fst (Run.offer_listing sink [] _ sinkState)).trans events)
  have isStarted : started =
      ((Replay.start clock).history settings steps).flatMap (·.emission.requests) :=
    (Run.pending_applyAll outlets.listing settings steps _).2.trans requests
  have isReport : report = ((Replay.start clock).run settings steps).report :=
    congrArg Replay.report replayed
  obtain ⟨answers, count, answered⟩ := Replay.priorVerdicts_run settings steps (Replay.start clock)
  rw [isReport, isOffered, isStarted, List.filterMap_flatMap, List.filterMap_flatMap,
    List.filterMap_flatMap, List.filterMap_flatMap]
  refine ⟨(Replay.flatMap_rollups_history clock steps).symm, Replay.latencies_run steps _,
    (Replay.steps_run steps _).trans (Nat.zero_add _), ?_, Replay.map_record_timedRollups clock steps,
    Replay.forall₂_isClosedBy clock steps, Replay.forall₂_tellsOf clock steps,
    Replay.scans_history steps _⟩
  exact (congrArg List.length answered).trans count

end Script
end TriggerLedger
