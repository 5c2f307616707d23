/-!
# Verbosity

The more often a command is asked to be verbose, the more of its log is shown.
-/

namespace TriggerLedger.Command

/-- How much of the log is shown. -/
inductive LogLevel where
  | warn
  | info
  | debug
  | trace
  deriving DecidableEq, Repr

namespace LogLevel

/-- The name of a level. -/
def name : LogLevel → String
  | .warn => "warn"
  | .info => "info"
  | .debug => "debug"
  | .trace => "trace"

/-- The level for a number of demands; three or more show everything. -/
def ofVerbosity : Nat → LogLevel
  | 0 => .warn
  | 1 => .info
  | 2 => .debug
  | _ => .trace

end LogLevel
end TriggerLedger.Command
