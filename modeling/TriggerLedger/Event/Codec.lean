import TriggerLedger.Event.Basic
/-!
# Events as JSON

An event is an object whose member `type` names its kind.  The member may come
anywhere, so the other members are kept until the end; an array has the kind as
its first item.
-/

namespace TriggerLedger

open Json

/-- Records of requests as JSON. -/
def InvocationRecord.layout : Layout InvocationRecord InvocationRecord :=
  (Layout.empty InvocationRecord.mk)
    |>.also (.nullable "request_id" (·.requestId) .string)
    |>.also (.nullable "session_id" (·.sessionId) .string)
    |>.also (.nullable "last_suggestion_index" (·.lastSuggestionIndex) .count)
    |>.also (.required "trigger_type" (·.trigger) TriggerKind.codec)
    |>.also (.nullable "automated_trigger_type" (·.cause) AutomaticCause.codec)
    |>.also (.required "result" (·.outcome) RequestOutcome.codec)
    |>.also (.required "duration_ms" (·.duration) .unsigned)
    |>.also (.required "line_number" (·.line) .shortUnsigned)
    |>.also (.required "cursor_offset" (·.cursorOffset) .count)
    |>.also (.required "language" (·.language) .string)
    |>.also (.sparse "reason" (·.reason) .string)
    |>.also (.required "user_group" (·.userGroup) .string)
    |>.also (.required "import_recommendation_enabled" (·.importsEnabled) .bool)
    |>.also (.sparse "supplemental" (·.supplemental) SupplementalContext.codec)

/-- Records of suggestions as JSON. -/
def DecisionRecord.layout : Layout DecisionRecord DecisionRecord :=
  (Layout.empty DecisionRecord.mk)
    |>.also (.required "request_id" (·.requestId) .string)
    |>.also (.nullable "session_id" (·.sessionId) .string)
    |>.also (.required "pagination_progress" (·.page) .count)
    |>.also (.required "trigger_type" (·.trigger) TriggerKind.codec)
    |>.also (.nullable "suggestion_index" (·.index) .count)
    |>.also (.required "suggestion_state" (·.disposition) Disposition.codec)
    |>.also (.sparse "suggestion_references" (·.licenses) .string)
    |>.also (.required "reference_count" (·.referenceCount) .count)
    |>.also (.required "import_count" (·.importCount) .count)
    |>.also (.required "completion_type" (·.shape) Shape.codec)
    |>.also (.required "language" (·.language) .string)
    |>.also (.required "user_group" (·.userGroup) .string)
    |>.also (.sparse "supplemental" (·.supplemental) SupplementalContext.codec)

/-- Records of requests and sessions taken together as JSON. -/
def TriggerRecord.layout : Layout TriggerRecord TriggerRecord :=
  (Layout.empty TriggerRecord.mk)
    |>.also (.required "session_id" (·.sessionId) .string)
    |>.also (.required "first_request_id" (·.firstRequestId) .string)
    |>.also (.required "completion_type" (·.shape) Shape.codec)
    |>.also (.required "language" (·.language) .string)
    |>.also (.required "trigger_type" (·.trigger) TriggerKind.codec)
    |>.also (.required "suggestion_count" (·.suggestionCount) .count)
    |>.also (.nullable "automated_trigger_type" (·.cause) AutomaticCause.codec)
    |>.also (.required "line_number" (·.line) .shortUnsigned)
    |>.also (.required "cursor_offset" (·.cursorOffset) .count)
    |>.also (.required "suggestion_state" (·.verdict) Verdict.codec)
    |>.also (.required "import_count" (·.importCount) .count)
    |>.also (.required "typeahead_length" (·.typeaheadLength) .count)
    |>.also (.sparse "time_since_last_document_change_ms" (·.sinceDocumentChange) .signed)
    |>.also (.sparse "time_since_last_user_decision_ms" (·.sinceLastDecision) .signed)
    |>.also (.required "time_to_first_recommendation_ms" (·.toFirstRecommendation) .signed)
    |>.also (.sparse "trigger_character" (·.triggerCharacter) .string)
    |>.also (.sparse "previous_suggestion_state" (·.previousVerdict) Verdict.codec)
    |>.also (.sparse "classifier_result" (·.classifierResult) .real)
    |>.also (.sparse "classifier_threshold" (·.classifierThreshold) .real)
    |>.also (.required "user_group" (·.userGroup) .string)
    |>.also (.sparse "supplemental" (·.supplemental) SupplementalContext.codec)

/-- Records of latency as JSON. -/
def LatencyRecord.layout : Layout LatencyRecord LatencyRecord :=
  (Layout.empty LatencyRecord.mk)
    |>.also (.required "request_id" (·.requestId) .string)
    |>.also (.required "session_id" (·.sessionId) .string)
    |>.also (.required "first_completion_ms" (·.firstCompletion) .signed)
    |>.also (.required "end_to_end_ms" (·.endToEnd) .signed)
    |>.also (.required "all_completions_ms" (·.allCompletions) .signed)
    |>.also (.required "postprocessing_ms" (·.postprocessing) .signed)
    |>.also (.required "credential_fetch_ms" (·.credentialFetch) .signed)
    |>.also (.required "preprocessing_ms" (·.preprocessing) .signed)
    |>.also (.required "completion_type" (·.shape) Shape.codec)
    |>.also (.required "trigger_type" (·.trigger) TriggerKind.codec)
    |>.also (.required "language" (·.language) .string)
    |>.also (.required "user_group" (·.userGroup) .string)

/-- Records of requests as JSON objects. -/
def InvocationRecord.codec : Codec InvocationRecord := .record "ServiceInvocation" layout

/-- Records of suggestions as JSON objects. -/
def DecisionRecord.codec : Codec DecisionRecord := .record "UserDecision" layout

/-- Records of requests and sessions taken together as JSON objects. -/
def TriggerRecord.codec : Codec TriggerRecord := .record "UserTriggerDecision" layout

/-- Records of latency as JSON objects. -/
def LatencyRecord.codec : Codec LatencyRecord := .record "ClientComponentLatency" layout

namespace Event

/-- The member that names the kind of an event. -/
def kindKey : String := "type"

/-- The members of an event after the one that names its kind. -/
def members : Event → List (String × Json)
  | .invocation record => InvocationRecord.layout.write record
  | .decision record => DecisionRecord.layout.write record
  | .trigger record => TriggerRecord.layout.write record
  | .latency record => LatencyRecord.layout.write record

/-- An event as a JSON object, with its kind first. -/
def encode (event : Event) : Json :=
  .object ((kindKey, .string event.kind.name) :: event.members)

/-- Read the record of an event whose kind is known. -/
def decodeKind (kind : EventKind) (node : Node) : Except DecodeError Event :=
  match kind with
  | .invocation => .invocation <$> InvocationRecord.codec.decode .kept node
  | .decision => .decision <$> DecisionRecord.codec.decode .kept node
  | .trigger => .trigger <$> TriggerRecord.codec.decode .kept node
  | .latency => .latency <$> LatencyRecord.codec.decode .kept node

/-- Read the name of a kind. -/
def decodeKindName : Decoder EventKind := Decoder.name EventKind.all EventKind.name

/-- Keep a node for later, within the room for nesting. -/
def keep (reading : Reading) (node : Node) : Except DecodeError Node :=
  match reading with
  | .direct room => if node.isKeepable room then .ok node else .error .malformed
  | .kept => .ok node

/-- Separate the kind from the other members, which are kept. -/
def separateKind (reading : Reading) (kind : Option EventKind) :
    List (Node × Node) → Except DecodeError (Option EventKind × List (Node × Node))
  | [] => .ok (kind, [])
  | (key, value) :: members => do
    if (← key.key) = kindKey then
      if kind.isSome then throw (.duplicateField kindKey)
      let found ← decodeKindName reading value
      separateKind reading (some found) members
    else
      let value ← keep reading value
      let (kind, others) ← separateKind reading kind members
      return (kind, (key, value) :: others)

/-- Keep every node of a list. -/
def keepAll (reading : Reading) : List Node → Except DecodeError (List Node)
  | [] => .ok []
  | node :: nodes => do
    let kept ← keep reading node
    return kept :: (← keepAll reading nodes)

def decode : Decoder Event
  | reading, .object members => do
    let inner ← reading.enter
    match ← separateKind inner none members with
    | (some kind, others) => decodeKind kind (.object others)
    | (none, _) => throw (.missingField kindKey)
  | reading, .array items => do
    let inner ← reading.enter
    match items with
    | [] => throw (.missingField kindKey)
    | first :: others =>
      let kind ← decodeKindName inner first
      decodeKind kind (.array (← keepAll inner others))
  | _, node => node.refuse "internally tagged enum TelemetryEvent"

def codec : Codec Event := ⟨encode, decode⟩

end Event
end TriggerLedger
