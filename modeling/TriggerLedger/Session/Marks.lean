import TriggerLedger.Instant.Basic
/-!
# Latency marks

A session is measured by marks.  Each is set at most once after the invocation
started, and the marks of a response wait for the mark before them.
-/

namespace TriggerLedger

/-- The points in time that the latency of a session is measured by. -/
structure LatencyMarks where
  invocationStart : Option Instant
  credentialFetchStart : Option Instant
  apiCallStart : Option Instant
  apiCallEnd : Option Instant
  allPaginationEnd : Option Instant
  firstSuggestionShown : Option Instant
  /-- The request of the first response. -/
  firstResponse : Option String
  deriving DecidableEq

namespace LatencyMarks

def blank : LatencyMarks := ⟨none, none, none, none, none, none, none⟩

/-- The value of a mark after an attempt to set it. -/
def setOnce {α : Type} (mark : Option α) (ready : Bool) (value : α) : Option α :=
  if mark.isSome || !ready then mark else some value

/-- Start over: only the start of the invocation is marked. -/
def start (now : Instant) : LatencyMarks := { blank with invocationStart := some now }

/-- Mark the start of the credential fetch. -/
def markCredentialFetchStart (now : Instant) (marks : LatencyMarks) : LatencyMarks :=
  { marks with credentialFetchStart := setOnce marks.credentialFetchStart true now }

/-- Mark the start of the first call. -/
def markApiCallStart (now : Instant) (marks : LatencyMarks) : LatencyMarks :=
  { marks with apiCallStart := setOnce marks.apiCallStart true now }

/-- Mark the end of the first call, once it has started. -/
def markApiCallEnd (now : Instant) (marks : LatencyMarks) : LatencyMarks :=
  { marks with apiCallEnd := setOnce marks.apiCallEnd marks.apiCallStart.isSome now }

/-- Mark the end of the last page, once the first call has ended. -/
def markAllPaginationEnd (now : Instant) (marks : LatencyMarks) : LatencyMarks :=
  { marks with
    allPaginationEnd := setOnce marks.allPaginationEnd marks.apiCallEnd.isSome now }

/-- Mark the first suggestion shown, once the first call has ended. -/
def markFirstSuggestionShown (now : Instant) (marks : LatencyMarks) : LatencyMarks :=
  { marks with
    firstSuggestionShown := setOnce marks.firstSuggestionShown marks.apiCallEnd.isSome now }

/-- Remember the request of the first response. -/
def markFirstResponse (requestId : String) (marks : LatencyMarks) : LatencyMarks :=
  { marks with firstResponse := setOnce marks.firstResponse true requestId }

/-- The marks of a session that are instants. -/
inductive Mark where
  | invocationStart
  | credentialFetchStart
  | apiCallStart
  | apiCallEnd
  | allPaginationEnd
  | firstSuggestionShown
  deriving DecidableEq

/-- The mark that has to be set before a mark can be. -/
def Mark.awaited? : Mark → Option Mark
  | .apiCallEnd => some .apiCallStart
  | .allPaginationEnd => some .apiCallEnd
  | .firstSuggestionShown => some .apiCallEnd
  | _ => none

/-- The instant of a mark, if it is set. -/
def get (marks : LatencyMarks) : Mark → Option Instant
  | .invocationStart => marks.invocationStart
  | .credentialFetchStart => marks.credentialFetchStart
  | .apiCallStart => marks.apiCallStart
  | .apiCallEnd => marks.apiCallEnd
  | .allPaginationEnd => marks.allPaginationEnd
  | .firstSuggestionShown => marks.firstSuggestionShown

/-- Set a mark. -/
def set (now : Instant) (mark : Mark) (marks : LatencyMarks) : LatencyMarks :=
  match mark with
  | .invocationStart => start now
  | .credentialFetchStart => marks.markCredentialFetchStart now
  | .apiCallStart => marks.markApiCallStart now
  | .apiCallEnd => marks.markApiCallEnd now
  | .allPaginationEnd => marks.markAllPaginationEnd now
  | .firstSuggestionShown => marks.markFirstSuggestionShown now

/-- Whether the mark that a mark waits for is set. -/
def isReady (marks : LatencyMarks) (mark : Mark) : Bool :=
  mark.awaited?.all fun awaited => (marks.get awaited).isSome

/-- Whether an attempt to set a mark sets it. -/
def isDue {α : Type} (mark : Option α) (ready : Bool) : Bool := !mark.isSome && ready

/-- The marks after an attempt to set one of them, and whether it was set; the start of the
invocation always is. -/
def attempt (now : Instant) (mark : Mark) (marks : LatencyMarks) : LatencyMarks × Bool :=
  (marks.set now mark, mark = .invocationStart || isDue (marks.get mark) (marks.isReady mark))

/-- The marks after an attempt to remember the request of the first response, and whether it was
remembered. -/
def attemptFirstResponse (requestId : String) (marks : LatencyMarks) : LatencyMarks × Bool :=
  (marks.markFirstResponse requestId, isDue marks.firstResponse true)

/-- The milliseconds between two marks; zero when one of them is missing. -/
def span (later earlier : Option Instant) : Int :=
  match later, earlier with
  | some later, some earlier => later.millisSince earlier
  | _, _ => 0

/-- The latency from the invocation to the first suggestion shown, or until now when that is
missing or negative; zero without a start. -/
def endToEnd (marks : LatencyMarks) (now : Instant) : Int :=
  match marks.invocationStart with
  | none => 0
  | some start =>
    match marks.firstSuggestionShown with
    | none => now.millisSince start
    | some shown =>
      if 0 ≤ shown.millisSince start then shown.millisSince start else now.millisSince start

end LatencyMarks
end TriggerLedger
