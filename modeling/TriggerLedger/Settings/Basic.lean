import TriggerLedger.Instant.Basic
/-!
# Settings of a ledger
-/

namespace TriggerLedger

/-- What is stamped on records, and how long an outcome stays of interest. -/
structure Settings where
  userGroup : String
  /-- Whether the editor recommends imports. -/
  importsEnabled : Bool
  /-- How long the outcome of a session is told to the next trigger. -/
  freshness : Span
  deriving DecidableEq

/-- A span of seconds; a span that is too long is cut to the longest one. -/
def Span.ofSeconds (seconds : Nat) : Span :=
  (Span.ofUnits? 1000 seconds).getD .longest

end TriggerLedger
