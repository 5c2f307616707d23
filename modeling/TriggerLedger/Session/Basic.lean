import TriggerLedger.Session.Marks
import TriggerLedger.Suggestion.Verdict
/-!
# Trigger sessions

A session gathers what happens from one trigger to the decision about its
suggestions.  When its record has been emitted the gathered values are cleared,
while the trigger, the latency marks and the outcome stay.
-/

namespace TriggerLedger

/-- The outcome of the session before. -/
structure PriorOutcome where
  verdict : Option Verdict
  /-- When the session was closed. -/
  decidedAt : Option Instant
  deriving DecidableEq

/-- The verdict of the session before, if it was closed at most `window` before `now`. -/
def PriorOutcome.fresh? (prior : PriorOutcome) (now : Instant) (window : Span) :
    Option Verdict :=
  match prior.decidedAt with
  | none => none
  | some decidedAt =>
    if (now.since decidedAt).nanoseconds ≤ window.nanoseconds then prior.verdict else none

/-- The state of a trigger session. -/
structure Session where
  trigger : TriggerKind
  /-- The cause of automatic requests that name none. -/
  cause : AutomaticCause
  cursorOffset : Nat
  /-- The session that the last request named. -/
  sessionId : Option String
  /-- The records of requests, in order. -/
  invocations : List InvocationRecord
  /-- The decisions by request, in order. -/
  decisions : List TriggerRecord
  cancelled : Bool
  /-- The request whose decisions close the session. -/
  lastRequestId : Option String
  expectedRequests : Nat
  triggerCharacter : Option String
  typeaheadLength : Nat
  /-- Milliseconds since the document changed. -/
  sinceModification : Option Int
  invocationTime : Option Instant
  /-- Milliseconds until there was a recommendation. -/
  toFirstRecommendation : Int
  classifierResult : Option Binary64
  classifierThreshold : Option Binary64
  /-- Whether any decided suggestion had a code reference. -/
  hasReferences : Bool
  marks : LatencyMarks
  prior : PriorOutcome
  deriving DecidableEq

namespace Session

/-- A session in which nothing has happened. -/
def initial : Session where
  trigger := .onDemand
  cause := .keyStrokeCount
  cursorOffset := 0
  sessionId := none
  invocations := []
  decisions := []
  cancelled := false
  lastRequestId := none
  expectedRequests := 0
  triggerCharacter := none
  typeaheadLength := 0
  sinceModification := none
  invocationTime := none
  toFirstRecommendation := 0
  classifierResult := none
  classifierThreshold := none
  hasReferences := false
  marks := .blank
  prior := ⟨none, none⟩

/-- Clear what was gathered for the session. -/
def reset (session : Session) : Session :=
  { session with
    invocations := []
    decisions := []
    cancelled := false
    lastRequestId := none
    expectedRequests := 0
    triggerCharacter := none
    typeaheadLength := 0
    sinceModification := none
    toFirstRecommendation := 0
    classifierResult := none
    classifierThreshold := none
    hasReferences := false }

/-- The record of a request, if there is one. -/
def invocationFor? (session : Session) (requestId : String) : Option InvocationRecord :=
  session.invocations.find? fun record => record.requestId == some requestId

/-- The request that came first, if it had an id. -/
def firstRequestId? (session : Session) : Option String :=
  session.invocations.head?.bind (·.requestId)

/-- Whether a request is the one that closes the session. -/
def isLastRequest (session : Session) (requestId : String) : Bool :=
  match session.lastRequestId with
  | none => false
  | some last => !last.isEmpty && last == requestId

/-- Whether all expected requests have been decided, and at least one. -/
def isFull (session : Session) : Bool :=
  !session.decisions.isEmpty && session.decisions.length == session.expectedRequests

/-- Whether decisions on a request close the session. -/
def isComplete (session : Session) (requestId : String) : Bool :=
  session.cancelled || session.isLastRequest requestId || session.isFull

end Session
end TriggerLedger
