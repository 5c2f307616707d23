import TriggerLedger.Suggestion.Basic
/-!
# Telemetry events

Four kinds of records are kept: one for each completion request, one for each
suggestion that was decided, one for each trigger session as a whole, and one
for the latency that a client saw.
-/

namespace TriggerLedger

/-- The record of one completion request. -/
structure InvocationRecord where
  requestId : Option String
  sessionId : Option String
  lastSuggestionIndex : Option Nat
  trigger : TriggerKind
  cause : Option AutomaticCause
  outcome : RequestOutcome
  /-- Milliseconds taken. -/
  duration : Nat
  line : Nat
  cursorOffset : Nat
  /-- The canonical name of the language. -/
  language : String
  reason : Option String
  userGroup : String
  importsEnabled : Bool
  supplemental : Option SupplementalContext
  deriving DecidableEq

/-- The record of one decided suggestion, or of a request without suggestions. -/
structure DecisionRecord where
  requestId : String
  sessionId : Option String
  page : Nat
  trigger : TriggerKind
  /-- The position of the suggestion. -/
  index : Option Nat
  disposition : Disposition
  /-- The distinct license names as a JSON list. -/
  licenses : Option String
  referenceCount : Nat
  importCount : Nat
  shape : Shape
  /-- The canonical name of the language. -/
  language : String
  userGroup : String
  supplemental : Option SupplementalContext
  deriving DecidableEq

/-- The decisions of a request, or of a whole session, taken together.  A request alone
leaves everything empty that only a session knows. -/
structure TriggerRecord where
  sessionId : String
  firstRequestId : String
  shape : Shape
  /-- The canonical name of the language. -/
  language : String
  trigger : TriggerKind
  suggestionCount : Nat
  cause : Option AutomaticCause
  line : Nat
  cursorOffset : Nat
  verdict : Verdict
  importCount : Nat
  typeaheadLength : Nat
  /-- Milliseconds since the document changed. -/
  sinceDocumentChange : Option Int
  /-- Milliseconds since the session before was closed. -/
  sinceLastDecision : Option Int
  /-- Milliseconds until there was a recommendation. -/
  toFirstRecommendation : Int
  triggerCharacter : Option String
  /-- The verdict of the session before. -/
  previousVerdict : Option Verdict
  classifierResult : Option Binary64
  classifierThreshold : Option Binary64
  userGroup : String
  supplemental : Option SupplementalContext
  deriving DecidableEq

/-- The parts of the latency of a session that a client saw, in milliseconds. -/
structure LatencyRecord where
  requestId : String
  sessionId : String
  firstCompletion : Int
  endToEnd : Int
  allCompletions : Int
  postprocessing : Int
  credentialFetch : Int
  preprocessing : Int
  shape : Shape
  trigger : TriggerKind
  /-- The canonical name of the language. -/
  language : String
  userGroup : String
  deriving DecidableEq

/-- An event to be kept. -/
inductive Event where
  | invocation (record : InvocationRecord)
  | decision (record : DecisionRecord)
  | trigger (record : TriggerRecord)
  | latency (record : LatencyRecord)
  deriving DecidableEq

/-- The four kinds of events. -/
inductive EventKind where
  | invocation
  | decision
  | trigger
  | latency
  deriving DecidableEq, Repr

namespace EventKind

def all : List EventKind := [.invocation, .decision, .trigger, .latency]

def name : EventKind → String
  | .invocation => "service_invocation"
  | .decision => "user_decision"
  | .trigger => "user_trigger_decision"
  | .latency => "client_component_latency"

end EventKind

/-- A string, unless it is empty. -/
def nonEmpty (text : String) : Option String :=
  if text.isEmpty then none else some text

namespace Event

/-- The kind of an event. -/
def kind : Event → EventKind
  | .invocation _ => .invocation
  | .decision _ => .decision
  | .trigger _ => .trigger
  | .latency _ => .latency

/-- The session that an event belongs to, if it names one. -/
def sessionId : Event → Option String
  | .invocation record => record.sessionId.bind nonEmpty
  | .decision record => record.sessionId.bind nonEmpty
  | .trigger record => nonEmpty record.sessionId
  | .latency record => nonEmpty record.sessionId

/-- The key of events without a session. -/
def unscopedKey : String := "_unscoped"

/-- The key of the log that an event goes to. -/
def key (event : Event) : String := event.sessionId.getD unscopedKey

/-- The record of an event about a whole session or request. -/
def trigger? : Event → Option TriggerRecord
  | .trigger record => some record
  | _ => none

/-- The record of an event about one suggestion. -/
def decision? : Event → Option DecisionRecord
  | .decision record => some record
  | _ => none

/-- The record of an event about latency. -/
def latency? : Event → Option LatencyRecord
  | .latency record => some record
  | _ => none

end Event

/-- The most characters of a failure reason that are kept. -/
def maxReasonLength : Nat := 200

/-- A failure reason as it is kept: cut off when long, absent when empty. -/
def truncateReason (reason : String) : Option String :=
  if reason.isEmpty then none
  else some (String.ofList (reason.toList.take maxReasonLength))

end TriggerLedger
