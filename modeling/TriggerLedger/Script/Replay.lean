import TriggerLedger.Script.Parse
import TriggerLedger.Session.Ledger
/-!
# Replaying a script

A replay applies steps to one session under a clock that only steps move, so a
script replays the same way at any time.
-/

namespace TriggerLedger.Script

/-- What a replay led to. -/
structure Report where
  /-- The number of steps applied. -/
  steps : Nat
  /-- The records of the sessions that were closed, in order. -/
  rollups : List TriggerRecord
  /-- The records of latency, in order. -/
  latencies : List LatencyRecord
  /-- The answers about the session before, in order. -/
  priorVerdicts : List (Option Verdict)
  deriving DecidableEq

/-- The state of a replay. -/
structure Replay where
  clock : Instant
  session : Session
  report : Report
  deriving DecidableEq

/-- What a step hands out. -/
structure Emission where
  /-- The events to be kept, in order. -/
  events : List Event
  /-- The requests to be sent, in order. -/
  requests : List Remote.Request
  deriving DecidableEq

/-- Nothing handed out. -/
def Emission.nothing : Emission := ⟨[], []⟩

/-- What two steps hand out one after the other. -/
def Emission.append (first second : Emission) : Emission :=
  ⟨first.events ++ second.events, first.requests ++ second.requests⟩

/-- Set the values of an update that are there. -/
def ContextUpdate.apply (update : ContextUpdate) (session : Session) : Session :=
  { session with
    expectedRequests := update.expectedRequests.getD session.expectedRequests
    lastRequestId := update.lastRequestId.or session.lastRequestId
    cancelled := update.cancelled.getD session.cancelled
    triggerCharacter := update.triggerCharacter.or session.triggerCharacter
    typeaheadLength := update.typeaheadLength.getD session.typeaheadLength
    sinceModification := update.sinceModification.or session.sinceModification
    classifierResult := update.classifierResult.or session.classifierResult
    classifierThreshold := update.classifierThreshold.or session.classifierThreshold }

namespace Replay

/-- A replay in which nothing has happened, its clock set. -/
def start (clock : Instant) : Replay := ⟨clock, .initial, ⟨0, [], [], []⟩⟩

/-- Change the session only. -/
def onSession (replay : Replay) (change : Session → Session) : Replay × Emission :=
  ({ replay with session := change replay.session }, .nothing)

/-- Change the latency marks only. -/
def onMarks (replay : Replay) (change : LatencyMarks → LatencyMarks) : Replay × Emission :=
  replay.onSession fun session => { session with marks := change session.marks }

/-- Take over the outcome of an operation on the session. -/
def onOutcome (replay : Replay) (outcome : Outcome) : Replay × Emission :=
  ({ replay with
      session := outcome.session
      report :=
        { replay.report with
          rollups := replay.report.rollups ++ (outcome.rollup.map (·.record)).toList } },
    ⟨outcome.events, outcome.requests⟩)

/-- What a step does, apart from being counted. -/
def perform (settings : Settings) (step : Step) (replay : Replay) : Replay × Emission :=
  let now := replay.clock
  match step with
  | .trigger start =>
    replay.onSession fun session =>
      { session with
        trigger := start.trigger, cause := start.cause, cursorOffset := start.cursorOffset }
  | .advance milliseconds =>
    ({ replay with clock := now.advance (.ofMillis milliseconds) }, .nothing)
  | .context update => replay.onSession update.apply
  | .invocationTime => replay.onSession (Session.markInvocation now)
  | .firstRecommendation => replay.onSession (Session.markFirstRecommendation now)
  | .invocationStart => replay.onMarks fun _ => LatencyMarks.start now
  | .credentialFetchStart => replay.onMarks (LatencyMarks.markCredentialFetchStart now)
  | .apiCallStart => replay.onMarks (LatencyMarks.markApiCallStart now)
  | .apiCallEnd => replay.onMarks (LatencyMarks.markApiCallEnd now)
  | .allPaginationEnd => replay.onMarks (LatencyMarks.markAllPaginationEnd now)
  | .firstSuggestionShown => replay.onMarks (LatencyMarks.markFirstSuggestionShown now)
  | .firstResponse requestId => replay.onMarks (LatencyMarks.markFirstResponse requestId)
  | .invocation report => replay.onOutcome (replay.session.recordInvocation settings report)
  | .decisions batch => replay.onOutcome (replay.session.recordDecisions settings now batch)
  | .emptyList list =>
    (replay, ⟨[.decision (replay.session.emptyListRecord settings list.requestId list.sessionId
      list.page list.language)], []⟩)
  | .rollup closing =>
    replay.onOutcome
      (replay.session.close settings now closing.sessionId closing.acceptedContent)
  | .clientLatency language =>
    match replay.session.latencyRecord? settings language with
    | none => (replay, .nothing)
    | some record =>
      ({ replay with
          report := { replay.report with latencies := replay.report.latencies ++ [record] } },
        ⟨[.latency record], []⟩)
  | .priorDecision =>
    ({ replay with
        report :=
          { replay.report with
            priorVerdicts :=
              replay.report.priorVerdicts ++ [replay.session.priorVerdict? settings now] } },
      .nothing)
  | .codeScan scan => (replay, ⟨[], [.scan (Session.scanReport now scan.language scan.jobId)]⟩)

def countStep (replay : Replay) : Replay :=
  { replay with report := { replay.report with steps := replay.report.steps + 1 } }

def apply (settings : Settings) (step : Step) (replay : Replay) : Replay × Emission :=
  let (next, emission) := replay.perform settings step
  (next.countStep, emission)

/-- Apply steps one after the other. -/
def applyAll (settings : Settings) : List Step → Replay → Replay × Emission
  | [], replay => (replay, .nothing)
  | step :: steps, replay =>
    let (next, emission) := replay.apply settings step
    let (last, emissions) := applyAll settings steps next
    (last, emission.append emissions)

end Replay
end TriggerLedger.Script
