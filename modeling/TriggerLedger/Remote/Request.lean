import TriggerLedger.Instant.Timestamp
import TriggerLedger.Suggestion.Kind
/-!
# Requests to the remote endpoint

The endpoint is told about closed sessions and about finished code scans.
-/

namespace TriggerLedger.Remote

/-- What the endpoint is told about a closed session. -/
structure TriggerReport where
  sessionId : String
  requestId : String
  /-- The canonical name of the language. -/
  language : String
  shape : String
  verdict : String
  /-- Milliseconds from the invocation to the first suggestion. -/
  latency : Int
  timestamp : Instant
  /-- One if any suggestion had a code reference. -/
  referenceCount : Nat
  /-- The lines of the accepted suggestion. -/
  generatedLines : Nat
  deriving DecidableEq

/-- What the endpoint is told about a finished code scan. -/
structure ScanReport where
  language : String
  jobId : String
  timestamp : Instant
  deriving DecidableEq

/-- A request to the endpoint. -/
inductive Request where
  | trigger (report : TriggerReport)
  | scan (report : ScanReport)
  deriving DecidableEq

namespace Request

/-- The name of the kind of a request. -/
def kindName : Request → String
  | .trigger _ => "user_trigger_decision"
  | .scan _ => "code_scan"

/-- The report on a closed session. -/
def trigger? : Request → Option TriggerReport
  | .trigger report => some report
  | .scan _ => none

/-- The name of a language as the endpoint expects it. -/
def languageJson (language : String) : Json :=
  .object [("languageName", .string language)]

/-- The body of a request. -/
def encode : Request → Json
  | .trigger report =>
    .object [("telemetryEvent", .object [("userTriggerDecisionEvent", .object [
      ("sessionId", .string report.sessionId),
      ("requestId", .string report.requestId),
      ("programmingLanguage", languageJson report.language),
      ("completionType", .string report.shape),
      ("suggestionState", .string report.verdict),
      ("recommendationLatencyMilliseconds", .integer report.latency),
      ("timestamp", .string report.timestamp.timestamp),
      ("suggestionReferenceCount", .natural report.referenceCount),
      ("generatedLine", .natural report.generatedLines)])])]
  | .scan report =>
    .object [("telemetryEvent", .object [("codeScanEvent", .object [
      ("programmingLanguage", languageJson report.language),
      ("codeScanJobId", .string report.jobId),
      ("timestamp", .string report.timestamp.timestamp)])])]

end Request
end TriggerLedger.Remote
