import TriggerLedger.Command.Failure
/-!
# Listing and showing logs
-/

namespace TriggerLedger.Command

def line (text : String) : String := text ++ "\n"

def rule (width : Nat) : String := String.ofList (List.replicate width '─')

/-- The number of logs listed when no limit is given. -/
def defaultLimit : Nat := 20

/-- The columns of a listing. -/
def listingRow (sessionId created count verdict : String) : String :=
  Text.padRight 38 sessionId ++ " " ++ Text.padRight 17 created ++ " " ++ Text.padLeft 6 count ++
    "  " ++ verdict

/-- The row of a log. -/
def summaryRow (summary : LogSummary) : String :=
  listingRow summary.sessionId
    (summary.createdAt.dateText ++ " " ++ summary.createdAt.hourMinuteText)
    (toString summary.eventCount)
    ((summary.verdict.map Verdict.remoteName).getD "(pending)")

/-- List the newest logs of a store that is kept at `home`. -/
def list {σ : Type} [Store σ] (home : String) (limit : Option Nat) (store : σ) :
    Except Failure String :=
  match Store.list store (limit.getD defaultLimit) with
  | .error fault => .error (.ofStore fault)
  | .ok [] =>
    .ok (line "No sessions found." ++ line "" ++ line ("Sessions are stored in: " ++ home))
  | .ok summaries =>
    .ok (line (listingRow "Session ID" "Created" "Events" "Rollup") ++ line (rule 74) ++
      String.join (summaries.map fun summary => line (summaryRow summary)) ++
      line (rule 74) ++ line s!"Showing {summaries.length} session(s)")

/-- An event in a few words. -/
def describe : Event → String
  | .invocation record =>
    "request=" ++ record.requestId.getD "-" ++ " result=" ++ record.outcome.label ++
      s!" {record.duration}ms"
  | .decision record =>
    "request=" ++ record.requestId ++ " index=" ++ (record.index.map toString).getD "-" ++
      " state=" ++ record.disposition.label
  | .trigger record =>
    "first_request=" ++ record.firstRequestId ++ " state=" ++ record.verdict.remoteName ++
      s!" suggestions={record.suggestionCount}"
  | .latency record =>
    "request=" ++ record.requestId ++ s!" e2e={record.endToEnd}ms first={record.firstCompletion}ms"

/-- The row of an event, counted from one. -/
def eventRow (number : Nat) (recorded : RecordedEvent) : String :=
  "[" ++ Text.padLeft 3 (toString number) ++ "] " ++ recorded.timestamp.timeText ++ " " ++
    Text.padRight 24 recorded.event.kind.name ++ " " ++ describe recorded.event

/-- An event with all its fields, indented. -/
def payloadText (event : Event) : String :=
  String.join ((Text.lines event.encode.pretty.toList).map fun characters =>
    line ("      " ++ String.ofList characters)) ++ line ""

/-- The log of a session that must be there. -/
def findLog {σ : Type} [Store σ] (sessionId : String) (store : σ) : Except Failure Log :=
  match Store.get store sessionId with
  | .error fault => .error (.ofStore fault)
  | .ok none => .error (.sessionNotFound sessionId)
  | .ok (some log) => .ok log

/-- The events of a log, a row each and with all fields on demand. -/
def logText (withPayload : Bool) (log : Log) : String :=
  line ("Session: " ++ log.sessionId) ++ line ("Created: " ++ log.createdAt.shortTimestamp) ++
    line s!"Events: {log.events.length}" ++ line "" ++
    if log.events.isEmpty then line "(no events)"
    else
      String.join (log.events.zipIdx.map fun (recorded, index) =>
        line (eventRow (index + 1) recorded) ++
          if withPayload then payloadText recorded.event else "")

/-- Show the events of a session. -/
def showLog {σ : Type} [Store σ] (sessionId : String) (withPayload : Bool) (store : σ) :
    Except Failure String :=
  (logText withPayload) <$> findLog sessionId store

/-- Show the log of a session as JSON. -/
def dump {σ : Type} [Store σ] (sessionId : String) (store : σ) : Except Failure String :=
  (fun log => line log.render) <$> findLog sessionId store

end TriggerLedger.Command
