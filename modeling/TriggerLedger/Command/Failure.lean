import TriggerLedger.Script.Parse
import TriggerLedger.Store.Basic
/-!
# Failures of commands
-/

namespace TriggerLedger.Command

/-- What a command cannot work with. -/
inductive InvalidState where
  /-- A text that is no duration. -/
  | duration (text : String)
  /-- A duration that is too long. -/
  | durationRange (text : String)
  /-- A number of days that is too large. -/
  | daysRange (days : Int)
  /-- A span that leads out of the calendar. -/
  | lookBack (span : Span)
  deriving DecidableEq

/-- Why a command failed. -/
inductive Failure where
  | file (fault : FileFault)
  | undecodable (fault : Json.DecodeError)
  | invalidState (state : InvalidState)
  | sessionNotFound (sessionId : String)
  | invalidScript (fault : Script.Fault)
  /-- Settings that cannot be read. -/
  | invalidSettings
  deriving DecidableEq

/-- The text of what a command cannot work with. -/
def InvalidState.message : InvalidState → String
  | .duration text => "Invalid duration: " ++ text
  | .durationRange text => "Duration out of range: " ++ text
  | .daysRange days => s!"Duration out of range: {days} days"
  | .lookBack span => s!"Look-back of {span.wholeDays} days is out of range"

/-- The text of a fault of a file. -/
def fileFaultText : FileFault → String
  | .notFound => "No such file or directory (os error 2)"
  | .invalidName => "File name too long (os error 36)"

/-- The text of a failure. -/
def Failure.message : Failure → String
  | .file fault => "Storage error: " ++ fileFaultText fault
  | .undecodable fault => "Serialization error: " ++ fault.message
  | .invalidState state => "Invalid state: " ++ state.message
  | .sessionNotFound sessionId => "Session not found: " ++ sessionId
  | .invalidScript fault => fault.message
  | .invalidSettings => "Configuration error: the configuration file is not valid"

/-- The failure of a command whose store failed. -/
def Failure.ofStore : StoreFault → Failure
  | .file fault => .file fault
  | .undecodable fault => .undecodable fault

end TriggerLedger.Command
