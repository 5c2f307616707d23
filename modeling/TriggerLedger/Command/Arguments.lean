import TriggerLedger.Command.LookBack
/-!
# Arguments of the command line

A command is named first and takes options anywhere after its name.  The value of
an option follows it, as the next argument or after an equals sign.
-/

namespace TriggerLedger.Command

/-- What the command line can be asked for. -/
inductive Order where
  | replay (script : String) (dryRun : Bool)
  | list (limit : Option Nat)
  | showLog (sessionId : String) (withPayload : Bool)
  | dump (sessionId : String)
  | clean (before : Option String) (everything : Bool)
  | stats (days : Nat)
  deriving DecidableEq

/-- The parts of a command line: options with values, flags, and everything else. -/
structure Arguments where
  values : List (String × String)
  flags : List String
  operands : List String
  deriving DecidableEq

namespace Arguments

/-- The options that take a value, by their spellings. -/
def valued : List (String × String) :=
  [("--limit", "limit"), ("-l", "limit"), ("--before", "before"), ("--days", "days"),
   ("--log-format", "log-format")]

/-- The options without a value, by their spellings. -/
def plain : List (String × String) :=
  [("--dry-run", "dry-run"), ("--payload", "payload"), ("--all", "all"),
   ("--verbose", "verbose"), ("-v", "verbose"), ("-vv", "verbose"), ("-vvv", "verbose")]

/-- Split an argument at its first equals sign. -/
def splitEquals (argument : String) : String × Option String :=
  match argument.toList.span (· != '=') with
  | (name, '=' :: value) => (String.ofList name, some (String.ofList value))
  | _ => (argument, none)

/-- Sort out arguments; after two hyphens everything is an operand. -/
def sort : List String → Option Arguments
  | [] => some ⟨[], [], []⟩
  | "--" :: rest => some ⟨[], [], rest⟩
  | argument :: rest =>
    if !argument.startsWith "-" then
      (sort rest).map fun sorted => { sorted with operands := argument :: sorted.operands }
    else
      match plain.lookup argument with
      | some name =>
        (sort rest).map fun sorted => { sorted with flags := name :: sorted.flags }
      | none =>
        let (spelling, value) := splitEquals argument
        match valued.lookup spelling, value, rest with
        | some name, some value, rest =>
          (sort rest).map fun sorted => { sorted with values := (name, value) :: sorted.values }
        | some name, none, value :: rest =>
          (sort rest).map fun sorted => { sorted with values := (name, value) :: sorted.values }
        | _, _, _ => none

/-- Whether all options are among those that a command knows. -/
def knowsOnly (arguments : Arguments) (values flags : List String) : Bool :=
  arguments.values.all (fun entry => entry.1 == "log-format" || values.contains entry.1) &&
    arguments.flags.all fun name => name == "verbose" || flags.contains name

/-- A natural number below a limit. -/
def readNatural (limit : Nat) (text : String) : Option Nat :=
  (readMagnitude text.toList).filter (· < limit)

end Arguments

def Order.parse (words : List String) : Option Order := do
  let arguments ← Arguments.sort words
  let value (name : String) : Option String := arguments.values.lookup name
  let flag (name : String) : Bool := arguments.flags.contains name
  match arguments.operands with
  | ["replay", script] =>
    if arguments.knowsOnly [] ["dry-run"] then return .replay script (flag "dry-run") else none
  | ["list"] =>
    if arguments.knowsOnly ["limit"] [] then
      match value "limit" with
      | none => return .list none
      | some text => return .list (some (← Arguments.readNatural word64 text))
    else none
  | ["show", sessionId] =>
    if arguments.knowsOnly [] ["payload"] then return .showLog sessionId (flag "payload")
    else none
  | ["dump", sessionId] => if arguments.knowsOnly [] [] then return .dump sessionId else none
  | ["clean"] =>
    if arguments.knowsOnly ["before"] ["all"] then return .clean (value "before") (flag "all")
    else none
  | ["stats"] =>
    if arguments.knowsOnly ["days"] [] then
      match value "days" with
      | none => return .stats 30
      | some text => return .stats (← Arguments.readNatural word32 text)
    else none
  | _ => none

end TriggerLedger.Command
