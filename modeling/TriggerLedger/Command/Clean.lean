import TriggerLedger.Command.Listing
import TriggerLedger.Command.LookBack
import TriggerLedger.Command.Stats
/-!
# Removing old logs

A log is removed when it was neither created nor updated since the cutoff.
-/

namespace TriggerLedger.Command

/-- Whether the log of a summary has been updated since the cutoff. -/
def isInUse {σ : Type} [Store σ] (cutoff : Instant) (store : σ) (summary : LogSummary) :
    Except Failure Bool :=
  match Store.get store summary.sessionId with
  | .error fault => .error (.ofStore fault)
  | .ok none => .ok false
  | .ok (some log) => .ok (decide (cutoff ≤ log.updatedAt))

/-- Remove the listed logs that are older than the cutoff, up to the first failure; also the
number of logs removed. -/
def removeOld {σ : Type} [Store σ] (cutoff : Instant) :
    List LogSummary → σ → σ × Except Failure Nat
  | [], store => (store, .ok 0)
  | summary :: summaries, store =>
    if cutoff ≤ summary.createdAt then removeOld cutoff summaries store
    else
      match isInUse cutoff store summary with
      | .error failure => (store, .error failure)
      | .ok true => removeOld cutoff summaries store
      | .ok false =>
        match Store.delete store summary.sessionId with
        | (store, .error fault) => (store, .error (.ofStore fault))
        | (store, .ok ()) =>
          let (store, removed) := removeOld cutoff summaries store
          (store, removed.map (· + 1))

/-- Remove the logs that are older than a span. -/
def cleanLogs {σ : Type} [Store σ] (now : Instant) (span : Span) (store : σ) :
    σ × Except Failure Nat :=
  match cutoffBefore now span with
  | .error failure => (store, .error failure)
  | .ok cutoff =>
    match Store.list store scanLimit with
    | .error fault => (store, .error (.ofStore fault))
    | .ok summaries => removeOld cutoff summaries store

/-- The age of the logs to be removed: any age, a given duration, or the retention period. -/
def cleanSpan (retentionDays : Nat) (before : Option String) (everything : Bool) :
    Except Failure Span :=
  if everything then .ok ⟨0⟩
  else
    match before with
    | some text => parseDuration text
    | none => daysSpan retentionDays

/-- The text about removed logs. -/
def cleanText (removed : Nat) : String :=
  if removed = 0 then line "No sessions to clean." else line s!"Cleaned {removed} session(s)."

def clean {σ : Type} [Store σ] (now : Instant) (retentionDays : Nat) (before : Option String)
    (everything : Bool) (store : σ) : σ × Except Failure String :=
  match cleanSpan retentionDays before everything with
  | .error failure => (store, .error failure)
  | .ok span =>
    let (store, removed) := cleanLogs now span store
    (store, removed.map cleanText)

end TriggerLedger.Command
