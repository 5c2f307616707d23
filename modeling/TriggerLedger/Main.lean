import Std.Time.DateTime.Timestamp
import TriggerLedger.Command.Arguments
import TriggerLedger.Command.Clean
import TriggerLedger.Command.Replaying
import TriggerLedger.Command.Stats
import TriggerLedger.Store.Directory
import TriggerLedger.Store.EventId
/-!
# Command line

The logs are loaded from their directory, a command works on them, and the files
that it changed are written back.  Remote requests are dropped, as there is no
network to send them over.
-/

namespace TriggerLedger.CommandLine

/-- How the command is used. -/
def usage : String :=
  "Usage: sutel COMMAND\n\n" ++
  "Commands:\n" ++
  "  replay SCRIPT [--dry-run]\n" ++
  "  list [--limit N]\n" ++
  "  show SESSION [--payload]\n" ++
  "  dump SESSION\n" ++
  "  clean [--before DURATION] [--all]\n" ++
  "  stats [--days N]\n"

/-- The variables that matter. -/
def readEnvironment : IO Environment := do
  let names :=
    ["HOME", "SUTEL_CONFIG", "SUTEL_HOME", "SUTEL_STORAGE_PATH", "SUTEL_ENDPOINT",
     "SUTEL_USER_GROUP", "SUTEL_FRESHNESS_SECONDS", "SUTEL_RETENTION_DAYS"]
  let values ← names.mapM fun name => do return (name, ← IO.getEnv name)
  return fun name => (values.lookup name).join

/-- The text of a file, if it can be read. -/
def readText (path : String) : IO (Option String) := do
  try
    return some (← IO.FS.readFile path)
  catch _ =>
    return none

/-- The path of the directory of logs. -/
def logsPath (configuration : Configuration) : String :=
  Environment.join configuration.storagePath "sessions"

/-- Load all files of a directory that can be read. -/
def load (path : String) : IO Directory := do
  IO.FS.createDirAll path
  let here ← IO.currentDir
  let entries ← (here / path).readDir
  let files ← entries.toList.filterMapM fun entry => do
    return (← readText (Environment.join path entry.fileName)).map fun text =>
      (entry.fileName, text)
  return ⟨files⟩

/-- Write back the files that were changed, each by way of a temporary file, and remove those
that are gone. -/
def save (path : String) (before after : Directory) : IO Unit := do
  for (name, text) in after.files do
    if before.read? name ≠ some text then
      let target := Environment.join path name
      let temporary := target ++ ".new"
      IO.FS.writeFile temporary text
      IO.FS.rename temporary target
  for name in before.names do
    if (after.read? name).isNone then IO.FS.removeFile (Environment.join path name)

/-- The time of the wall clock. -/
def wallClock : IO Instant := do
  let now ← Std.Time.Timestamp.now
  return ⟨now.toNanosecondsSinceUnixEpoch.val⟩

def randomSeed : IO String := do
  let bytes ← IO.getRandomBytes 16
  return toString (bytes.toList.map UInt8.toNat)

/-- The stamps of the events recorded in one run. -/
def stamps (seed : String) (now : Instant) (number : Nat) : Stamp :=
  ⟨EventId.derive seed number, now, now⟩

/-- Replay a script into a directory. -/
def replay (configuration : Configuration) (seed : String) (now : Instant) (dryRun : Bool)
    (script : Option String) (directory : Directory) :
    Directory × Except Command.Failure String :=
  let client := Command.clientOf configuration dryRun Remote.Client.silent
  let (run, outcome) :=
    Command.replay ⟨.ofStore (stamps seed now), client, true⟩
      configuration.settings script (.start now ⟨directory, 0⟩ ())
  (run.sink.store, outcome)

def perform (configuration : Configuration) (seed : String) (now : Instant)
    (script : Option String) (order : Command.Order) (directory : Directory) :
    Directory × Except Command.Failure String :=
  match order with
  | .replay _ dryRun => replay configuration seed now dryRun script directory
  | .list limit => (directory, Command.list configuration.storagePath limit directory)
  | .showLog sessionId withPayload =>
    (directory, Command.showLog sessionId withPayload directory)
  | .dump sessionId => (directory, Command.dump sessionId directory)
  | .clean before everything =>
    Command.clean now configuration.retentionDays before everything directory
  | .stats days => (directory, Command.stats now days directory)

/-- The script of an order, if it has one that can be read. -/
def scriptOf : Command.Order → IO (Option String)
  | .replay path _ => readText path
  | _ => return none

def fail (failure : Command.Failure) : IO UInt32 := do
  IO.eprintln ("sutel: error: " ++ failure.message)
  return 1

/-- Carry out an order in the directory that is configured. -/
def run (configuration : Configuration) (order : Command.Order) : IO UInt32 := do
  let path := logsPath configuration
  let before ← load path
  let script ← scriptOf order
  let (after, outcome) :=
    perform configuration (← randomSeed) (← wallClock) script order before
  save path before after
  match outcome with
  | .error failure => fail failure
  | .ok output =>
    IO.print output
    return 0

end TriggerLedger.CommandLine

open TriggerLedger CommandLine in
/-- Understand and carry out a command line. -/
def main (words : List String) : IO UInt32 := do
  match Command.Order.parse words with
  | none =>
    IO.eprint usage
    return 2
  | some order =>
    let environment ← readEnvironment
    let file ← readText environment.configurationPath
    match Configuration.load environment file with
    | none => fail .invalidSettings
    | some configuration => run configuration order
