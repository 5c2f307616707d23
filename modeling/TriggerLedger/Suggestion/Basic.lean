import TriggerLedger.Json.Record
import TriggerLedger.Suggestion.ByIndex
import TriggerLedger.Suggestion.Kind
/-!
# Suggestions and reports about them

What an editor reports: the suggestions of a completion request with their code
references, the end of a request, and what the user did with a batch of
suggestions.
-/

namespace TriggerLedger

/-- What is known of the supplemental context sent with a request. -/
structure SupplementalContext where
  /-- Whether collecting the context took too long. -/
  timedOut : Bool
  /-- Whether the context came from unit-test generation. -/
  forUnitTests : Bool
  /-- Milliseconds spent on collecting. -/
  latency : Nat
  /-- The total length of the content. -/
  contentLength : Nat
  deriving DecidableEq

/-- A reference of a suggestion to existing code. -/
structure CodeReference where
  /-- The license of the code. -/
  license : Option String
  /-- The repository of the code. -/
  repository : Option String
  deriving DecidableEq

/-- One candidate of a completion request. -/
structure Suggestion where
  content : String
  references : List CodeReference
  imports : List String
  deriving DecidableEq

/-- What is known of a completion request when it ends. -/
structure InvocationReport where
  requestId : String
  sessionId : String
  /-- The index of the last suggestion. -/
  lastSuggestionIndex : Option Nat
  trigger : TriggerKind
  cause : Option AutomaticCause
  outcome : RequestOutcome
  /-- Milliseconds taken. -/
  duration : Option Nat
  /-- The line of the cursor. -/
  line : Option Nat
  /-- The editor's name of the language. -/
  language : String
  /-- Why the request failed. -/
  reason : String
  supplemental : Option SupplementalContext
  deriving DecidableEq

/-- The suggestions of one request and what the user did with them. -/
structure DecisionBatch where
  requestId : String
  sessionId : String
  /-- The suggestions in the order of the response. -/
  suggestions : List Suggestion
  /-- The index of the suggestion that was accepted. -/
  accepted : Option Nat
  /-- The editor's name of the language. -/
  language : Option String
  /-- The page of the request. -/
  page : Nat
  /-- The shapes that are known. -/
  shapes : ByIndex Shape
  /-- What the editor did with each suggestion, if it keeps track. -/
  displays : Option (ByIndex Display)
  supplemental : Option SupplementalContext
  deriving DecidableEq

namespace Suggestion

/-- Keep the first of equal strings. -/
def firstSeen (seen : List String) : List String → List String
  | [] => []
  | name :: names =>
    if name ∈ seen then firstSeen seen names else name :: firstSeen (name :: seen) names

/-- The distinct license names, in the order of their first appearance. -/
def licenses (suggestion : Suggestion) : List String :=
  firstSeen [] (suggestion.references.filterMap (·.license))

end Suggestion

open Json

def SupplementalContext.codec : Codec SupplementalContext :=
  .record "SupplementalContext" <|
    (Layout.empty SupplementalContext.mk)
      |>.also (.required "timed_out" (·.timedOut) .bool)
      |>.also (.required "is_utg" (·.forUnitTests) .bool)
      |>.also (.required "latency_ms" (·.latency) .unsigned)
      |>.also (.required "content_length" (·.contentLength) .count)

def CodeReference.codec : Codec CodeReference :=
  .record "CodeReference" <|
    (Layout.empty CodeReference.mk)
      |>.also (.sparse "license_name" (·.license) .string)
      |>.also (.sparse "repository" (·.repository) .string)

def Suggestion.codec : Codec Suggestion :=
  .record "Suggestion" <|
    (Layout.empty Suggestion.mk)
      |>.also (.required "content" (·.content) .string)
      |>.also (.defaulted "references" [] (·.references) (.list CodeReference.codec))
      |>.also (.defaulted "imports" [] (·.imports) (.list .string))

/-- Reports of requests as JSON. -/
def InvocationReport.codec : Codec InvocationReport :=
  .record "Invocation" <|
    (Layout.empty InvocationReport.mk)
      |>.also (.required "request_id" (·.requestId) .string)
      |>.also (.required "session_id" (·.sessionId) .string)
      |>.also (.optional "last_suggestion_index" (·.lastSuggestionIndex) .count)
      |>.also (.defaulted "trigger_type" .onDemand (·.trigger) TriggerKind.codec)
      |>.also (.optional "automated_trigger_type" (·.cause) AutomaticCause.codec)
      |>.also (.required "result" (·.outcome) RequestOutcome.codec)
      |>.also (.optional "duration_ms" (·.duration) .unsigned)
      |>.also (.optional "line_number" (·.line) .shortUnsigned)
      |>.also (.required "language" (·.language) .string)
      |>.also (.defaulted "reason" "" (·.reason) .string)
      |>.also (.optional "supplemental" (·.supplemental) SupplementalContext.codec)

/-- Batches of decisions as JSON. -/
def DecisionBatch.codec : Codec DecisionBatch :=
  .record "DecisionBatch" <|
    (Layout.empty DecisionBatch.mk)
      |>.also (.required "request_id" (·.requestId) .string)
      |>.also (.required "session_id" (·.sessionId) .string)
      |>.also (.required "suggestions" (·.suggestions) (.list Suggestion.codec))
      |>.also (.optional "accepted_index" (·.accepted) .count)
      |>.also (.optional "language" (·.language) .string)
      |>.also (.defaulted "pagination_index" 0 (·.page) .count)
      |>.also (.defaulted "completion_types" .empty (·.shapes) (ByIndex.codec Shape.codec))
      |>.also (.optional "display_states" (·.displays) (ByIndex.codec Display.codec))
      |>.also (.optional "supplemental" (·.supplemental) SupplementalContext.codec)

end TriggerLedger
