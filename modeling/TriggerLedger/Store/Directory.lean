import TriggerLedger.Store.Basic
import TriggerLedger.Store.Digest
import TriggerLedger.Store.Entries
/-!
# Logs in a directory

Each log is a file of indented JSON named after its session.  A log is replaced
by writing a temporary file and renaming it, so that a reader finds either the
old log or the new one.  Characters of a session id that are not safe in file
names are replaced, and a digest of the id then keeps different sessions apart.
-/

namespace TriggerLedger

/-- The files of a directory: each name has at most one text. -/
structure Directory where
  /-- The files with their texts. -/
  files : List (String × String)
  deriving DecidableEq

/-- One change of a directory. -/
inductive FileStep where
  /-- Write a file in place of any other of its name. -/
  | write (name contents : String)
  /-- Give a file another name, in place of any other file of that name. -/
  | rename (source target : String)
  deriving DecidableEq

namespace Directory

def empty : Directory := ⟨[]⟩

/-- The most bytes that a file name may have. -/
def maxNameLength : Nat := 255

/-- Whether a file name is short enough. -/
def isUsableName (name : String) : Bool := name.utf8ByteSize ≤ maxNameLength

/-- The text of a file. -/
def read? (directory : Directory) (name : String) : Option String :=
  directory.files.lookup name

/-- Give a file a text. -/
def write (directory : Directory) (name contents : String) : Directory :=
  ⟨Entries.replace name contents directory.files⟩

def remove (directory : Directory) (name : String) : Directory :=
  ⟨Entries.erase name directory.files⟩

/-- The names of the files. -/
def names (directory : Directory) : List String := directory.files.map Prod.fst

def perform (directory : Directory) : FileStep → Except FileFault Directory
  | .write name contents =>
    if isUsableName name then .ok (directory.write name contents) else .error .invalidName
  | .rename source target =>
    if !isUsableName target then .error .invalidName
    else
      match directory.read? source with
      | none => .error .notFound
      | some contents => .ok ((directory.remove source).write target contents)

/-- Make changes up to the first one that fails. -/
def performAll (directory : Directory) : List FileStep → Directory × Except StoreFault Unit
  | [] => (directory, .ok ())
  | step :: steps =>
    match directory.perform step with
    | .error fault => (directory, .error (.file fault))
    | .ok next => next.performAll steps

/-- Whether a character is safe in a file name. -/
def isSafe (c : Char) : Bool := c.isAlphanum || c == '-' || c == '_'

/-- The name of the file of a session, without its extension. -/
def stem (sessionId : String) : String :=
  if sessionId.toList.all isSafe then sessionId
  else
    String.ofList (sessionId.toList.map fun c => if isSafe c then c else '_') ++ "-" ++
      Digest.fingerprint 8 sessionId

/-- The name of the file of a session. -/
def fileName (sessionId : String) : String := stem sessionId ++ ".json"

/-- The name of the temporary file of a session; a name that is all extension is kept whole. -/
def temporaryName (sessionId : String) : String :=
  if sessionId.isEmpty then ".json.tmp" else stem sessionId ++ ".tmp"

/-- Whether a file name has the extension of logs, and something before it. -/
def isLogName (name : String) : Bool :=
  match name.toList.reverse with
  | 'n' :: 'o' :: 's' :: 'j' :: '.' :: _ :: _ => true
  | _ => false

/-- The log of a session: an error if its file holds something else. -/
def getLog (directory : Directory) (sessionId : String) : Except StoreFault (Option Log) :=
  match directory.read? (fileName sessionId) with
  | none => .ok none
  | some contents =>
    match Log.parse contents with
    | .error fault => .error (.undecodable fault)
    | .ok log => .ok (some log)

/-- The changes that put a log into place. -/
def putSteps (log : Log) : List FileStep :=
  [.write (temporaryName log.sessionId) log.render,
   .rename (temporaryName log.sessionId) (fileName log.sessionId)]

/-- Keep a log in place of any other of its session. -/
def putLog (directory : Directory) (log : Log) : Directory × Except StoreFault Unit :=
  directory.performAll (putSteps log)

/-- The logs that can be read, in the order of the files. -/
def readableLogs (directory : Directory) : List Log :=
  directory.files.filterMap fun entry =>
    if isLogName entry.1 then (Log.parse entry.2).toOption else none

/-- The summaries of the newest logs that can be read. -/
def listLogs (directory : Directory) (limit : Nat) : List LogSummary :=
  (LogSummary.newestFirst (directory.readableLogs.map Log.summary)).take limit

/-- Forget the log of a session. -/
def deleteLog (directory : Directory) (sessionId : String) : Directory :=
  directory.remove (fileName sessionId)

instance : Store Directory where
  get := getLog
  put := putLog
  list directory limit := .ok (directory.listLogs limit)
  delete directory sessionId := (directory.deleteLog sessionId, .ok ())
  record := Store.recordByPut getLog putLog

end Directory
end TriggerLedger
