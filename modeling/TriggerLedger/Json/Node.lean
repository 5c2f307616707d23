import TriggerLedger.Json.Basic
import TriggerLedger.Json.Numeral
/-!
# Reading JSON text

A text is read into a tree of nodes as far as it goes: where it stops being
JSON, the tree has a broken node and ends.  A decoder that walks the tree in
order meets faults of meaning and faults of form in the order of the text.
Literals stay as written, since what they mean depends on where they stand.
-/

namespace TriggerLedger.Json

/-- A piece of JSON text. -/
inductive Node where
  | null
  | bool (value : Bool)
  | number (numeral : Numeral)
  | text (raw : List Char)
  | array (items : List Node)
  /-- The members in order; a key may be any node, though only a text is right. -/
  | object (members : List (Node × Node))
  /-- The place where the text stops being JSON. -/
  | broken

namespace Node

/-- The white space between tokens. -/
def isSpace (c : Char) : Bool :=
  c == ' ' || c == '\n' || c == '\t' || c == '\r'

/-- Drop the white space before a token. -/
def skipSpace (text : List Char) : List Char :=
  text.dropWhile isSpace

mutual

/-- Read one node; no rest is left after a broken one. -/
def read : Nat → List Char → Node × Option (List Char)
  | 0, _ => (.broken, none)
  | fuel + 1, input =>
    match skipSpace input with
    | 'n' :: 'u' :: 'l' :: 'l' :: rest => (.null, some rest)
    | 't' :: 'r' :: 'u' :: 'e' :: rest => (.bool true, some rest)
    | 'f' :: 'a' :: 'l' :: 's' :: 'e' :: rest => (.bool false, some rest)
    | '"' :: rest =>
      match Literal.scan rest with
      | some (raw, rest) => (.text raw, some rest)
      | none => (.broken, none)
    | '[' :: rest =>
      match skipSpace rest with
      | ']' :: rest => (.array [], some rest)
      | rest =>
        let (items, rest) := readItems fuel rest
        (.array items, rest)
    | '{' :: rest =>
      match skipSpace rest with
      | '}' :: rest => (.object [], some rest)
      | rest =>
        let (members, rest) := readMembers fuel rest
        (.object members, rest)
    | input =>
      match Numeral.lex input with
      | some (numeral, rest) => (.number numeral, some rest)
      | none => (.broken, none)

/-- Read the items of an array up to its closing bracket. -/
def readItems : Nat → List Char → List Node × Option (List Char)
  | 0, _ => ([.broken], none)
  | fuel + 1, input =>
    match read fuel input with
    | (item, none) => ([item], none)
    | (item, some rest) =>
      match skipSpace rest with
      | ',' :: rest =>
        let (items, rest) := readItems fuel rest
        (item :: items, rest)
      | ']' :: rest => ([item], some rest)
      | _ => ([item, .broken], none)

/-- Read the members of an object up to its closing brace. -/
def readMembers : Nat → List Char → List (Node × Node) × Option (List Char)
  | 0, _ => ([(.broken, .broken)], none)
  | fuel + 1, input =>
    match read fuel input with
    | (key, none) => ([(key, .broken)], none)
    | (key, some rest) =>
      match skipSpace rest with
      | ':' :: rest =>
        match read fuel rest with
        | (value, none) => ([(key, value)], none)
        | (value, some rest) =>
          match skipSpace rest with
          | ',' :: rest =>
            let (members, rest) := readMembers fuel rest
            ((key, value) :: members, rest)
          | '}' :: rest => ([(key, value)], some rest)
          | _ => ([(key, value), (.broken, .broken)], none)
      | _ => ([(key, .broken)], none)

end

/-- Whether only white space is left, if anything could be read at all. -/
def nothingLeft : Option (List Char) → Bool
  | none => false
  | some rest => (skipSpace rest).isEmpty

/-- Read a whole text: its node, and whether the text ends with it. -/
def ofText (text : List Char) : Node × Bool :=
  let (node, rest) := read (2 * text.length + 2) text
  (node, nothingLeft rest)

mutual

/-- Whether a node is JSON all through, whatever its literals stand for. -/
def isSound : Node → Bool
  | .broken => false
  | .array items => areSound items
  | .object members => haveSound members
  | _ => true

/-- Whether all items are sound. -/
def areSound : List Node → Bool
  | [] => true
  | item :: items => isSound item && areSound items

/-- Whether all members have a text for their key and a sound value. -/
def haveSound : List (Node × Node) → Bool
  | [] => true
  | (.text _, value) :: members => isSound value && haveSound members
  | _ => false

end

mutual

/-- Whether a node can be kept for later: sound, every literal meaningful, and brackets
nested fewer than `room` deep. -/
def isKeepable (room : Nat) : Node → Bool
  | .null => true
  | .bool _ => true
  | .number numeral => numeral.value?.isSome
  | .text raw => (Literal.unescape raw).isSome
  | .array items => 2 ≤ room && areKeepable (room - 1) items
  | .object members => 2 ≤ room && haveKeepable (room - 1) members
  | .broken => false

/-- Whether all items can be kept. -/
def areKeepable (room : Nat) : List Node → Bool
  | [] => true
  | item :: items => isKeepable room item && areKeepable room items

/-- Whether all keys and values can be kept. -/
def haveKeepable (room : Nat) : List (Node × Node) → Bool
  | [] => true
  | (.text raw, value) :: members =>
    (Literal.unescape raw).isSome && isKeepable room value && haveKeepable room members
  | _ => false

end

end Node

mutual

/-- The node that a value is read back as. -/
def toNode : Json → Node
  | .null => .null
  | .bool value => .bool value
  | .integer value => .number ⟨decide (value < 0), (toString value.natAbs).toList, [], none⟩
  | .real value =>
    match Numeral.lex value.render with
    | some (numeral, _) => .number numeral
    | none => .broken
  | .string value => .text (Literal.escape value.toList)
  | .array items => .array (toNodes items)
  | .object members => .object (toMemberNodes members)

/-- The nodes of several values. -/
def toNodes : List Json → List Node
  | [] => []
  | item :: items => toNode item :: toNodes items

/-- The nodes of several members. -/
def toMemberNodes : List (String × Json) → List (Node × Node)
  | [] => []
  | (name, value) :: members =>
    (.text (Literal.escape name.toList), toNode value) :: toMemberNodes members

end

end TriggerLedger.Json
