import TriggerLedger.Suggestion.Basic
/-!
# Steps of a script

A step is one thing that happens in an editor.  In JSON a step without details is
its name, and any other is an object with the name as its only key.
-/

namespace TriggerLedger.Script

/-- Values to be set on a session; what is absent is left alone. -/
structure ContextUpdate where
  expectedRequests : Option Nat
  lastRequestId : Option String
  cancelled : Option Bool
  triggerCharacter : Option String
  typeaheadLength : Option Nat
  sinceModification : Option Int
  classifierResult : Option Binary64
  classifierThreshold : Option Binary64
  deriving DecidableEq

/-- The start of a trigger. -/
structure TriggerStart where
  trigger : TriggerKind
  cause : AutomaticCause
  cursorOffset : Nat
  deriving DecidableEq

/-- A request that returned no suggestions. -/
structure EmptyList where
  requestId : String
  sessionId : String
  page : Nat
  language : Option String
  deriving DecidableEq

/-- A demand to close the session. -/
structure Closing where
  sessionId : String
  acceptedContent : String
  deriving DecidableEq

/-- A finished code scan. -/
structure CodeScan where
  language : String
  jobId : String
  deriving DecidableEq

/-- One thing that happens in an editor. -/
inductive Step where
  | trigger (start : TriggerStart)
  /-- Move the clock by milliseconds. -/
  | advance (milliseconds : Int)
  | context (update : ContextUpdate)
  | invocationTime
  | firstRecommendation
  | invocationStart
  | credentialFetchStart
  | apiCallStart
  | apiCallEnd
  | allPaginationEnd
  | firstSuggestionShown
  | firstResponse (requestId : String)
  | invocation (report : InvocationReport)
  | decisions (batch : DecisionBatch)
  | emptyList (list : EmptyList)
  | rollup (closing : Closing)
  | clientLatency (language : Option String)
  | priorDecision
  | codeScan (scan : CodeScan)
  deriving DecidableEq

open Json

namespace Step

/-- Updates of a session as JSON. -/
def contextCodec : Codec ContextUpdate :=
  .record "ContextUpdate" <|
    (Layout.empty ContextUpdate.mk)
      |>.also (.optional "expected_requests" (·.expectedRequests) .count)
      |>.also (.optional "last_request_id" (·.lastRequestId) .string)
      |>.also (.optional "cancelled" (·.cancelled) .bool)
      |>.also (.optional "trigger_character" (·.triggerCharacter) .string)
      |>.also (.optional "typeahead_length" (·.typeaheadLength) .count)
      |>.also (.optional "time_since_last_modification_ms" (·.sinceModification) .signed)
      |>.also (.optional "classifier_result" (·.classifierResult) .real)
      |>.also (.optional "classifier_threshold" (·.classifierThreshold) .real)

/-- The fields of a trigger. -/
def triggerLayout : Layout TriggerStart TriggerStart :=
  (Layout.empty TriggerStart.mk)
    |>.also (.required "trigger_type" (·.trigger) TriggerKind.codec)
    |>.also (.defaulted "automated_trigger_type" .keyStrokeCount (·.cause) AutomaticCause.codec)
    |>.also (.defaulted "cursor_offset" 0 (·.cursorOffset) .count)

/-- The field of a movement of the clock. -/
def advanceLayout : Layout Int Int :=
  (Layout.empty id).also (.required "ms" id .signed)

/-- The field of a first response. -/
def firstResponseLayout : Layout String String :=
  (Layout.empty id).also (.required "request_id" id .string)

/-- The fields of a request without suggestions. -/
def emptyListLayout : Layout EmptyList EmptyList :=
  (Layout.empty EmptyList.mk)
    |>.also (.required "request_id" (·.requestId) .string)
    |>.also (.required "session_id" (·.sessionId) .string)
    |>.also (.defaulted "pagination_index" 0 (·.page) .count)
    |>.also (.optional "language" (·.language) .string)

/-- The fields of a demand to close the session. -/
def rollupLayout : Layout Closing Closing :=
  (Layout.empty Closing.mk)
    |>.also (.required "session_id" (·.sessionId) .string)
    |>.also (.defaulted "accepted_content" "" (·.acceptedContent) .string)

/-- The field of a latency step. -/
def clientLatencyLayout : Layout (Option String) (Option String) :=
  (Layout.empty id).also (.optional "language" id .string)

/-- The fields of a code scan. -/
def codeScanLayout : Layout CodeScan CodeScan :=
  (Layout.empty CodeScan.mk)
    |>.also (.required "language" (·.language) .string)
    |>.also (.required "job_id" (·.jobId) .string)

/-- How the payload of a step is given. -/
inductive Payload where
  /-- There is none. -/
  | absent (step : Step)
  /-- Some fields, belonging to the step itself. -/
  | fields (decode : Decoder Step)
  /-- A record of its own. -/
  | record (decode : Decoder Step)

/-- The payload of a step with fields of its own. -/
def fieldsPayload {α : Type} (label : String) (layout : Layout α α) (make : α → Step) : Payload :=
  .fields fun reading node =>
    make <$> layout.decode ("struct variant ReplayStep::" ++ label) reading node

/-- The payload of a step that holds a record. -/
def recordPayload {α : Type} (codec : Codec α) (make : α → Step) : Payload :=
  .record fun reading node => make <$> codec.decode reading node

/-- The names of steps, in order, with their payloads. -/
def table : List (String × Payload) :=
  [("trigger", fieldsPayload "Trigger" triggerLayout .trigger),
   ("advance", fieldsPayload "Advance" advanceLayout .advance),
   ("context", recordPayload contextCodec .context),
   ("invocation_time", .absent .invocationTime),
   ("first_recommendation", .absent .firstRecommendation),
   ("invocation_start", .absent .invocationStart),
   ("credential_fetch_start", .absent .credentialFetchStart),
   ("api_call_start", .absent .apiCallStart),
   ("api_call_end", .absent .apiCallEnd),
   ("all_pagination_end", .absent .allPaginationEnd),
   ("first_suggestion_shown", .absent .firstSuggestionShown),
   ("first_response", fieldsPayload "FirstResponse" firstResponseLayout .firstResponse),
   ("invocation", recordPayload InvocationReport.codec .invocation),
   ("decisions", recordPayload DecisionBatch.codec .decisions),
   ("empty_list", fieldsPayload "EmptyList" emptyListLayout .emptyList),
   ("rollup", fieldsPayload "Rollup" rollupLayout .rollup),
   ("client_latency", fieldsPayload "ClientLatency" clientLatencyLayout .clientLatency),
   ("prior_decision", .absent .priorDecision),
   ("code_scan", fieldsPayload "CodeScan" codeScanLayout .codeScan)]

/-- Read the name of a step, which settles its payload. -/
def decodeName (reading : Reading) (node : Node) : Except DecodeError Payload :=
  Prod.snd <$> Decoder.name table Prod.fst reading node

/-- Read a step given by its name alone. -/
def decodeBare : Payload → Except DecodeError Step
  | .absent step => .ok step
  | .fields _ => .error (.wrongKind .bareName "struct variant")
  | .record _ => .error (.wrongKind .bareName "newtype variant")

/-- Read the payload after the name of a step. -/
def decodePayload (payload : Payload) (reading : Reading) (node : Node) :
    Except DecodeError Step :=
  match payload with
  | .absent step => (fun _ => step) <$> Decoder.nothing reading node
  | .fields decode => decode reading node
  | .record decode => decode reading node

def decode : Decoder Step
  | reading, .text raw => do decodeBare (← decodeName reading (.text raw))
  | reading, .object ((key, value) :: others) => do
    let inner ← reading.enter
    let payload ← decodeName inner key
    let step ← decodePayload payload inner value
    if others.isEmpty then .ok step else .error .malformed
  | _, _ => .error .malformed

/-- A step with a payload in JSON. -/
def tagged (name : String) (payload : Json) : Json := .object [(name, payload)]

/-- A step in JSON, with every field. -/
def encode : Step → Json
  | .trigger start => tagged "trigger" (.object (triggerLayout.write start))
  | .advance milliseconds => tagged "advance" (.object (advanceLayout.write milliseconds))
  | .context update => tagged "context" (contextCodec.encode update)
  | .invocationTime => .string "invocation_time"
  | .firstRecommendation => .string "first_recommendation"
  | .invocationStart => .string "invocation_start"
  | .credentialFetchStart => .string "credential_fetch_start"
  | .apiCallStart => .string "api_call_start"
  | .apiCallEnd => .string "api_call_end"
  | .allPaginationEnd => .string "all_pagination_end"
  | .firstSuggestionShown => .string "first_suggestion_shown"
  | .firstResponse requestId =>
    tagged "first_response" (.object (firstResponseLayout.write requestId))
  | .invocation report => tagged "invocation" (InvocationReport.codec.encode report)
  | .decisions batch => tagged "decisions" (DecisionBatch.codec.encode batch)
  | .emptyList list => tagged "empty_list" (.object (emptyListLayout.write list))
  | .rollup closing => tagged "rollup" (.object (rollupLayout.write closing))
  | .clientLatency language =>
    tagged "client_latency" (.object (clientLatencyLayout.write language))
  | .priorDecision => .string "prior_decision"
  | .codeScan scan => tagged "code_scan" (.object (codeScanLayout.write scan))

def codec : Codec Step := ⟨encode, decode⟩

end Step
end TriggerLedger.Script
