import TriggerLedger.Number.Power
import TriggerLedger.Settings.Basic
import TriggerLedger.Text.Blank
import TriggerLedger.Toml.Document
/-!
# Configuration

The configuration of the command line comes from a TOML file and from the
environment, which has the last word.  A file that is missing leaves the
defaults; one that is no TOML, or has a value of a wrong kind, is refused.
-/

namespace TriggerLedger

/-- What can be configured. -/
structure Configuration where
  /-- The directory that everything is kept in. -/
  storagePath : String
  /-- The URL of the remote endpoint; blank when there is none. -/
  endpoint : String
  /-- How long a remote request may take. -/
  timeoutSeconds : Nat
  userGroup : String
  importsEnabled : Bool
  freshnessSeconds : Nat
  /-- How old a log may become before it is removed. -/
  retentionDays : Nat
  deriving DecidableEq

/-- The variables of an environment by name. -/
abbrev Environment := String → Option String

namespace Environment

/-- A path below a directory. -/
def join (directory name : String) : String :=
  if directory.isEmpty || directory.toList.getLast? == some '/' then directory ++ name
  else directory ++ "/" ++ name

/-- The directory that is used unless another one is configured. -/
def defaultHome (environment : Environment) : String :=
  match environment "HOME" with
  | none | some "" => ".sutel"
  | some home => join home ".sutel"

/-- The path of the configuration file. -/
def configurationPath (environment : Environment) : String :=
  match environment "SUTEL_CONFIG", environment "SUTEL_HOME" with
  | some path, _ => path
  | none, some home => join home "config.toml"
  | none, none => join environment.defaultHome "config.toml"

end Environment

namespace Configuration

/-- The configuration without file and environment. -/
def default (home : String) : Configuration where
  storagePath := home
  endpoint := ""
  timeoutSeconds := 10
  userGroup := "Control"
  importsEnabled := true
  freshnessSeconds := 120
  retentionDays := 7

/-- A way to take over a value, unless it is of a wrong kind. -/
abbrev Setter := Toml → Configuration → Option Configuration

/-- Take over a string. -/
def setString (set : String → Configuration → Configuration) : Setter
  | .string value, configuration => some (set value configuration)
  | _, _ => none

/-- Take over a truth value. -/
def setFlag (set : Bool → Configuration → Configuration) : Setter
  | .flag value, configuration => some (set value configuration)
  | _, _ => none

/-- Take over a natural number below a limit. -/
def setNatural (limit : Nat) (set : Nat → Configuration → Configuration) : Setter
  | .integer value, configuration =>
    if 0 ≤ value ∧ value < limit then some (set value.toNat configuration) else none
  | _, _ => none

/-- Take over the members of a table by key.  An array gives the values in the order of the
keys, and a date counts as a table without known keys. -/
def setTable (setters : List (String × Setter)) : Setter
  | .table members, configuration =>
    members.foldlM
      (fun configuration member =>
        match setters.lookup member.1 with
        | some set => set member.2 configuration
        | none => some configuration)
      configuration
  | .array items, configuration =>
    (setters.zip items).foldlM
      (fun configuration entry => entry.1.2 entry.2 configuration) configuration
  | .moment, configuration => some configuration
  | _, _ => none

/-- The tables of a configuration file with their keys. -/
def sections : List (String × Setter) :=
  [("storage", setTable
     [("path", setString fun value configuration => { configuration with storagePath := value })]),
   ("telemetry", setTable
     [("endpoint",
        setString fun value configuration => { configuration with endpoint := value }),
      ("timeout_seconds",
        setNatural word64 fun value configuration =>
          { configuration with timeoutSeconds := value }),
      ("user_group",
        setString fun value configuration => { configuration with userGroup := value }),
      ("import_recommendation_enabled",
        setFlag fun value configuration => { configuration with importsEnabled := value })]),
   ("classifier", setTable
     [("freshness_seconds",
        setNatural word64 fun value configuration =>
          { configuration with freshnessSeconds := value })]),
   ("cleanup", setTable
     [("retention_days",
        setNatural word32 fun value configuration =>
          { configuration with retentionDays := value })])]

/-- Take over the text of a configuration file. -/
def readFile (text : String) (configuration : Configuration) : Option Configuration := do
  let members ← Toml.read text
  setTable sections (.table members) configuration

/-- The value of a variable as a natural number below a limit, with an optional plus sign. -/
def variableNatural? (limit : Nat) (value : String) : Option Nat :=
  let digits :=
    match value.toList with
    | '+' :: rest => rest
    | characters => characters
  if digits.isEmpty || !digits.all Char.isDigit then none
  else (some (Text.digitsValue digits)).filter (· < limit)

/-- Let the environment override a configuration; numbers that cannot be read are ignored. -/
def override (environment : Environment) (configuration : Configuration) : Configuration where
  storagePath :=
    ((environment "SUTEL_STORAGE_PATH").or (environment "SUTEL_HOME")).getD
      configuration.storagePath
  endpoint := (environment "SUTEL_ENDPOINT").getD configuration.endpoint
  timeoutSeconds := configuration.timeoutSeconds
  userGroup := (environment "SUTEL_USER_GROUP").getD configuration.userGroup
  importsEnabled := configuration.importsEnabled
  freshnessSeconds :=
    ((environment "SUTEL_FRESHNESS_SECONDS").bind (variableNatural? word64)).getD
      configuration.freshnessSeconds
  retentionDays :=
    ((environment "SUTEL_RETENTION_DAYS").bind (variableNatural? word32)).getD
      configuration.retentionDays

/-- The configuration of an environment and a configuration file, if there is one. -/
def load (environment : Environment) (file : Option String) : Option Configuration :=
  let initial := default environment.defaultHome
  match file with
  | none => some (initial.override environment)
  | some text => (initial.readFile text).map (override environment)

/-- Whether there is a remote endpoint. -/
def isRemote (configuration : Configuration) : Bool :=
  !(Text.trim configuration.endpoint).isEmpty

/-- The settings of a ledger. -/
def settings (configuration : Configuration) : Settings where
  userGroup := configuration.userGroup
  importsEnabled := configuration.importsEnabled
  freshness := Span.ofSeconds configuration.freshnessSeconds

end Configuration
end TriggerLedger
