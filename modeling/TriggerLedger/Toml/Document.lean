import TriggerLedger.Toml.Quoted
import TriggerLedger.Toml.Scalar
/-!
# TOML documents

A document is a sequence of lines: headers, which say what table the following
lines belong to, and keys with their values.
-/

namespace TriggerLedger.Toml

/-- Skip the blanks of a line. -/
def skipBlanks (text : List Char) : List Char := text.dropWhile isLineSpace

/-- Skip blanks, line ends and comments. -/
def skipVoid (inComment : Bool) : List Char → List Char
  | [] => []
  | '\n' :: rest => skipVoid false rest
  | '\r' :: '\n' :: rest => skipVoid false rest
  | c :: rest =>
    if inComment then if isPrintable c then skipVoid true rest else c :: rest
    else if isLineSpace c then skipVoid false rest
    else if c = '#' then skipVoid true rest
    else c :: rest

/-- Whether a character may stand in a key without quotes. -/
def isBareChar (c : Char) : Bool := c.isAlphanum || c == '_' || c == '-'

def readKey (text : List Char) : Option (String × List Char) :=
  match text with
  | '"' :: _ | '\'' :: _ => readQuoted text
  | _ =>
    match text.span isBareChar with
    | ([], _) => none
    | (key, rest) => some (String.ofList key, rest)

/-- Read keys joined by dots: the last one, and those before it. -/
def readPath : Nat → List Char → Option ((List String × String) × List Char)
  | 0, _ => none
  | fuel + 1, text => do
    let (key, text) ← readKey (skipBlanks text)
    match skipBlanks text with
    | '.' :: rest =>
      let ((path, last), rest) ← readPath fuel rest
      return ((key :: path, last), rest)
    | rest => return (([], key), rest)

/-- The most brackets that may be nested. -/
def maxDepth : Nat := 80

mutual

/-- Read a value inside brackets that leave `room` for others. -/
def readValue : Nat → Nat → List Char → Option (Toml × List Char)
  | 0, _, _ => none
  | fuel + 1, room, text =>
    match text with
    | '[' :: rest =>
      if room = 0 then none
      else do
        let (items, rest) ← readItems fuel (room - 1) rest
        return (.array items, rest)
    | '{' :: rest =>
      if room = 0 then none
      else do
        let (members, rest) ← readMembers fuel (room - 1) [] rest
        return (.table (closeAll members), rest)
    | '"' :: _ | '\'' :: _ => (readString text).map fun (value, rest) => (.string value, rest)
    | text => readScalar text

/-- Read the items of an array up to its closing bracket. -/
def readItems : Nat → Nat → List Char → Option (List Toml × List Char)
  | 0, _, _ => none
  | fuel + 1, room, text =>
    match skipVoid false text with
    | ']' :: rest => some ([], rest)
    | text => do
      let (item, rest) ← readValue fuel room text
      match skipVoid false rest with
      | ',' :: rest =>
        let (items, rest) ← readItems fuel room rest
        return (item :: items, rest)
      | ']' :: rest => return ([item], rest)
      | _ => none

/-- Read the members of a table up to its closing brace. -/
def readMembers : Nat → Nat → Members → List Char → Option (Members × List Char)
  | 0, _, _, _ => none
  | fuel + 1, room, members, text =>
    match skipVoid false text with
    | '}' :: rest => some (members, rest)
    | text => do
      let ((path, key), rest) ← readPath (text.length + 1) text
      let rest ← readChar '=' rest
      let (value, rest) ← readValue fuel room (skipBlanks rest)
      let members ← assign path key value members
      match skipVoid false rest with
      | ',' :: rest => readMembers fuel room members rest
      | '}' :: rest => return (members, rest)
      | _ => none

end

/-- What follows the end of a line, at most blanks and a comment before it. -/
def afterLine (text : List Char) : Option (List Char) :=
  let rest :=
    match skipBlanks text with
    | '#' :: rest => rest.dropWhile isPrintable
    | rest => rest
  match rest with
  | [] => some []
  | '\n' :: rest => some rest
  | '\r' :: '\n' :: rest => some rest
  | _ => none

/-- What has been read of a document: all its members, and the path of the open table. -/
structure Progress where
  members : Members
  path : List String

/-- Read one line that is neither empty nor a comment, up to its end. -/
def readLine (text : List Char) (progress : Progress) : Option (Progress × List Char) :=
  let fuel := 2 * text.length + 2
  match text with
  | '[' :: '[' :: rest => do
    let ((path, key), rest) ← readPath fuel rest
    let rest ← readChar ']' rest
    let rest ← readChar ']' rest
    let members ← openElement path key progress.members
    return (⟨members, path ++ [key]⟩, rest)
  | '[' :: rest => do
    let ((path, key), rest) ← readPath fuel rest
    let rest ← readChar ']' rest
    let members ← openTable path key progress.members
    return (⟨members, path ++ [key]⟩, rest)
  | text => do
    let ((path, key), rest) ← readPath fuel text
    let rest ← readChar '=' rest
    let (value, rest) ← readValue fuel maxDepth (skipBlanks rest)
    let members ← change .implied (assign path key value) progress.path progress.members
    return ({ progress with members }, rest)

/-- Read the lines of a document. -/
def readLines : Nat → List Char → Progress → Option Members
  | 0, _, _ => none
  | fuel + 1, text, progress =>
    match skipVoid false text with
    | [] => some progress.members
    | text => do
      let (progress, rest) ← readLine text progress
      let rest ← afterLine rest
      readLines fuel rest progress

/-- Drop a byte order mark. -/
def dropByteOrderMark : List Char → List Char
  | '\ufeff' :: rest => rest
  | text => text

/-- Read a document: the members of its table. -/
def read (text : String) : Option (List (String × Toml)) :=
  (readLines (text.length + 1) (dropByteOrderMark text.toList) ⟨[], []⟩).map closeAll

end TriggerLedger.Toml
