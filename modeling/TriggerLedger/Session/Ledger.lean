import TriggerLedger.Remote.Request
import TriggerLedger.Session.Basic
import TriggerLedger.Settings.Basic
import TriggerLedger.Suggestion.Language
/-!
# Keeping the ledger of a session

Every operation takes a session to the next one and says which events are to be
kept and which requests are to be sent.
-/

namespace TriggerLedger

/-- A closed session. -/
structure Rollup where
  /-- The record of the session. -/
  record : TriggerRecord
  /-- Milliseconds from the invocation to the first suggestion. -/
  latency : Int
  deriving DecidableEq

/-- What an operation on a session leads to. -/
structure Outcome where
  session : Session
  /-- The events to be kept, in order. -/
  events : List Event
  /-- The requests to be sent, in order. -/
  requests : List Remote.Request
  /-- The session closed by the operation, if it closed one. -/
  rollup : Option Rollup

namespace Session

/-- The cause that a request is recorded with: an automatic one always has a cause. -/
def invocationCause (session : Session) (report : InvocationReport) : Option AutomaticCause :=
  match report.trigger with
  | .automatic => report.cause.or (some session.cause)
  | .onDemand => report.cause

/-- The record of a request. -/
def invocationRecord (settings : Settings) (session : Session) (report : InvocationReport) :
    InvocationRecord where
  requestId := nonEmpty report.requestId
  sessionId := nonEmpty report.sessionId
  lastSuggestionIndex := report.lastSuggestionIndex
  trigger := report.trigger
  cause := session.invocationCause report
  outcome := report.outcome
  duration := report.duration.getD 0
  line := report.line.getD 0
  cursorOffset := session.cursorOffset
  language := Language.canonical (some report.language)
  reason := truncateReason report.reason
  userGroup := settings.userGroup
  importsEnabled := settings.importsEnabled
  supplemental := report.supplemental

/-- Record the end of a request. -/
def recordInvocation (settings : Settings) (report : InvocationReport) (session : Session) :
    Outcome :=
  let record := session.invocationRecord settings report
  { session :=
      { session with
        sessionId := record.sessionId.or session.sessionId
        invocations := session.invocations ++ [record] }
    events := [.invocation record]
    requests := []
    rollup := none }

/-- The displays of a batch, where a suggestion without content counts as empty. -/
def effectiveDisplays (batch : DecisionBatch) : Option (ByIndex Display) :=
  batch.displays.map fun displays =>
    batch.suggestions.zipIdx.foldl
      (fun displays (suggestion, index) =>
        if suggestion.content.isEmpty then displays.insert index .empty else displays)
      displays

/-- The license names of a suggestion as a JSON list, if there are any. -/
def licenseText (suggestion : Suggestion) : Option String :=
  match suggestion.licenses with
  | [] => none
  | licenses => some (Json.array (licenses.map .string)).compact

/-- The record of one suggestion of a batch. -/
def decisionRecord (settings : Settings) (session : Session) (batch : DecisionBatch)
    (index : Nat) (suggestion : Suggestion) : DecisionRecord where
  requestId := batch.requestId
  sessionId := nonEmpty batch.sessionId
  page := batch.page
  trigger := session.trigger
  index := some index
  disposition := .ofReport index batch.accepted (effectiveDisplays batch)
  licenses := licenseText suggestion
  referenceCount := suggestion.references.length
  importCount := suggestion.imports.length
  shape := .atIndex index batch.shapes
  language := Language.canonical batch.language
  userGroup := settings.userGroup
  supplemental := batch.supplemental

/-- The records of the suggestions of a batch. -/
def decisionRecords (settings : Settings) (session : Session) (batch : DecisionBatch) :
    List DecisionRecord :=
  batch.suggestions.zipIdx.map fun (suggestion, index) =>
    session.decisionRecord settings batch index suggestion

/-- The decisions of a batch taken together, if its request is recorded and it is not empty. -/
def requestRecord? (settings : Settings) (session : Session) (batch : DecisionBatch)
    (records : List DecisionRecord) : Option TriggerRecord :=
  match session.invocationFor? batch.requestId, records with
  | some invocation, first :: _ =>
    some {
      sessionId := batch.sessionId
      firstRequestId := session.firstRequestId?.getD batch.requestId
      shape := .combine (records.map (·.shape))
      language := first.language
      trigger := first.trigger
      suggestionCount := records.length
      cause := invocation.cause
      line := invocation.line
      cursorOffset := invocation.cursorOffset
      verdict := .ofDispositions (records.map (·.disposition))
      importCount := total (records.map (·.importCount))
      typeaheadLength := 0
      sinceDocumentChange := none
      sinceLastDecision := none
      toFirstRecommendation := 0
      triggerCharacter := none
      previousVerdict := none
      classifierResult := none
      classifierThreshold := none
      userGroup := settings.userGroup
      supplemental := batch.supplemental }
  | _, _ => none

/-- The record of a session whose first decided request is given. -/
def sessionRecord (settings : Settings) (now : Instant) (session : Session)
    (first : TriggerRecord) : TriggerRecord :=
  { first with
    shape := .combine (session.decisions.map (·.shape))
    suggestionCount := total (session.decisions.map (·.suggestionCount))
    verdict := .combine (session.decisions.map (·.verdict))
    importCount := total (session.decisions.map (·.importCount))
    typeaheadLength := session.typeaheadLength
    sinceDocumentChange := session.sinceModification.filter (· != 0)
    sinceLastDecision := session.prior.decidedAt.map now.millisSince
    toFirstRecommendation := session.toFirstRecommendation
    triggerCharacter :=
      if first.cause = some .specialCharacters then session.triggerCharacter else none
    previousVerdict := session.prior.verdict
    classifierResult := session.classifierResult
    classifierThreshold := session.classifierThreshold
    userGroup := settings.userGroup }

/-- The remote report on a closed session. -/
def triggerReport (now : Instant) (session : Session) (sessionId acceptedContent : String)
    (record : TriggerRecord) (latency : Int) : Remote.TriggerReport where
  sessionId
  requestId := record.firstRequestId
  language := record.language
  shape := record.shape.remoteName
  verdict := record.verdict.remoteName
  latency
  timestamp := now
  referenceCount := if session.hasReferences then 1 else 0
  generatedLines := Text.lineCount acceptedContent

/-- Close the session, if any request has been decided: its record is kept and reported, its
outcome is remembered, and what was gathered is cleared. -/
def close (settings : Settings) (now : Instant) (sessionId acceptedContent : String)
    (session : Session) : Outcome :=
  match session.decisions with
  | [] => { session, events := [], requests := [], rollup := none }
  | first :: _ =>
    let record := session.sessionRecord settings now first
    let latency := session.marks.endToEnd now
    let report := session.triggerReport now sessionId acceptedContent record latency
    { session :=
        { session with prior := ⟨some record.verdict, some now⟩ }.reset
      events := [.trigger record]
      requests := [.trigger report]
      rollup := some ⟨record, latency⟩ }

/-- The content of the accepted suggestion; empty when there is none. -/
def acceptedContent (batch : DecisionBatch) : String :=
  match batch.accepted with
  | none => ""
  | some index =>
    match batch.suggestions[index]? with
    | none => ""
    | some suggestion => suggestion.content

/-- The session after the decisions of a batch, before it is closed. -/
def gather (settings : Settings) (batch : DecisionBatch) (session : Session) : Session :=
  let records := session.decisionRecords settings batch
  { session with
    hasReferences := session.hasReferences || DecisionRecord.anyReferences records
    decisions :=
      session.decisions ++ (session.requestRecord? settings batch records).toList }

/-- Record what the user did with a batch of suggestions, and close the session if it is
complete. -/
def recordDecisions (settings : Settings) (now : Instant) (batch : DecisionBatch)
    (session : Session) : Outcome :=
  let events := (session.decisionRecords settings batch).map Event.decision
  let gathered := session.gather settings batch
  if gathered.isComplete batch.requestId then
    let closed := gathered.close settings now batch.sessionId (acceptedContent batch)
    { closed with events := events ++ closed.events }
  else { session := gathered, events, requests := [], rollup := none }

/-- The record of a request that returned no suggestions. -/
def emptyListRecord (settings : Settings) (session : Session) (requestId sessionId : String)
    (page : Nat) (language : Option String) : DecisionRecord where
  requestId
  sessionId := nonEmpty sessionId
  page
  trigger := session.trigger
  index := none
  disposition := .empty
  licenses := none
  referenceCount := 0
  importCount := 0
  shape := .line
  language := Language.canonical language
  userGroup := settings.userGroup
  supplemental := none

/-- The record of the latency of a session, once a suggestion was shown and all pages ended. -/
def latencyRecord? (settings : Settings) (session : Session) (language : Option String) :
    Option LatencyRecord :=
  let marks := session.marks
  match marks.firstSuggestionShown, marks.allPaginationEnd with
  | some shown, some paginationEnd =>
    some {
      requestId := marks.firstResponse.getD ""
      sessionId := session.sessionId.getD ""
      firstCompletion := LatencyMarks.span marks.apiCallEnd marks.apiCallStart
      endToEnd := LatencyMarks.span (some shown) marks.invocationStart
      allCompletions := LatencyMarks.span (some paginationEnd) marks.apiCallStart
      postprocessing := LatencyMarks.span (some shown) marks.apiCallEnd
      credentialFetch := LatencyMarks.span marks.apiCallStart marks.credentialFetchStart
      preprocessing := LatencyMarks.span marks.credentialFetchStart marks.invocationStart
      shape := .line
      trigger := session.trigger
      language := Language.canonical language
      userGroup := settings.userGroup }
  | _, _ => none

/-- Stamp the time of the invocation. -/
def markInvocation (now : Instant) (session : Session) : Session :=
  { session with invocationTime := some now }

/-- Note the time to the first recommendation, once the invocation is stamped. -/
def markFirstRecommendation (now : Instant) (session : Session) : Session :=
  match session.invocationTime with
  | none => session
  | some invoked => { session with toFirstRecommendation := now.millisSince invoked }

/-- The verdict of the session before, if it is recent enough to matter. -/
def priorVerdict? (settings : Settings) (now : Instant) (session : Session) : Option Verdict :=
  session.prior.fresh? now settings.freshness

/-- The remote report on a finished code scan; the language is the editor's name. -/
def scanReport (now : Instant) (language jobId : String) : Remote.ScanReport :=
  ⟨language, jobId, now⟩

end Session
end TriggerLedger
