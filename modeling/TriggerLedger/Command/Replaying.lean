import TriggerLedger.Command.Listing
import TriggerLedger.Script.Delivery
import TriggerLedger.Settings.Configuration
/-!
# Replaying a script into a store
-/

namespace TriggerLedger.Command

open Script

/-- The text of a report. -/
def reportText (report : Report) : String :=
  line s!"Applied {report.steps} step(s)." ++
    String.join (report.rollups.map fun record =>
      line ("Rollup: session=" ++ record.sessionId ++ " first_request=" ++ record.firstRequestId ++
        " state=" ++ record.verdict.remoteName ++ s!" suggestions={record.suggestionCount}")) ++
    String.join (report.latencies.map fun record =>
      line ("Latency: request=" ++ record.requestId ++
        s!" e2e={record.endToEnd}ms first={record.firstCompletion}ms")) ++
    String.join (report.priorVerdicts.map fun verdict =>
      line ("Prior decision: " ++ (verdict.map Verdict.remoteName).getD "(none)"))

/-- Whether anything is sent to a remote endpoint. -/
def sendsRemotely (configuration : Configuration) (dryRun : Bool) : Bool :=
  !dryRun && configuration.isRemote

/-- The client that a replay sends with: the remote one, unless nothing is sent. -/
def clientOf {γ : Type} (configuration : Configuration) (dryRun : Bool)
    (remote : Remote.Client γ) : Remote.Client γ :=
  if sendsRemotely configuration dryRun then remote else .ignoring

/-- Replay a script, which may be missing, and wait for its requests to be sent. -/
def replay {σ γ : Type} (outlets : Outlets σ γ) (settings : Settings) (script : Option String)
    (run : Run σ γ) : Run σ γ × Except Failure String :=
  match script with
  | none => (run, .error (.file .notFound))
  | some script =>
    match run.runScript outlets settings script with
    | (run, .error fault) => (run, .error (.invalidScript fault))
    | (run, .ok ()) =>
      let settled := run.settle outlets
      (settled, .ok (reportText settled.replay.report))

end TriggerLedger.Command
