import TriggerLedger.Binary64.Shortest
import TriggerLedger.Json.Literal
/-!
# JSON values and their text

A JSON value is written in two forms: compact, without any white space, and
indented, one member or item a line.  Members keep their order.
-/

namespace TriggerLedger

/-- A JSON value. -/
inductive Json where
  | null
  | bool (value : Bool)
  | integer (value : Int)
  | real (value : Binary64)
  | string (value : String)
  | array (items : List Json)
  | object (members : List (String × Json))

namespace Json

/-- The value `null` for nothing. -/
def ofOption {α : Type} (encode : α → Json) : Option α → Json
  | none => .null
  | some value => encode value

/-- A natural number as a JSON value. -/
def natural (value : Nat) : Json := .integer value

/-- A quoted string literal. -/
def quoted (text : String) : List Char :=
  '"' :: Literal.escape text.toList ++ ['"']

/-- The text of a value that holds no others. -/
def leafText : Json → List Char
  | .null => ['n', 'u', 'l', 'l']
  | .bool true => ['t', 'r', 'u', 'e']
  | .bool false => ['f', 'a', 'l', 's', 'e']
  | .integer value => (toString value).toList
  | .real value => value.render
  | .string value => quoted value
  | .array _ => ['[', ']']
  | .object _ => ['{', '}']

mutual

/-- The text of a value without white space. -/
def compactChars : Json → List Char
  | .array (item :: items) => '[' :: compactChars item ++ compactItems items
  | .object ((name, value) :: members) =>
    '{' :: quoted name ++ ':' :: compactChars value ++ compactMembers members
  | leaf => leafText leaf

/-- The items after the first one, up to the closing bracket. -/
def compactItems : List Json → List Char
  | [] => [']']
  | item :: items => ',' :: compactChars item ++ compactItems items

/-- The members after the first one, up to the closing brace. -/
def compactMembers : List (String × Json) → List Char
  | [] => ['}']
  | (name, value) :: members =>
    ',' :: quoted name ++ ':' :: compactChars value ++ compactMembers members

end

/-- A new line, indented by two blanks a level. -/
def newline (level : Nat) : List Char :=
  '\n' :: List.replicate (2 * level) ' '

mutual

/-- The indented text of a value inside `level` brackets. -/
def prettyChars (level : Nat) : Json → List Char
  | .array (item :: items) =>
    '[' :: newline (level + 1) ++ prettyChars (level + 1) item ++ prettyItems level items
  | .object ((name, value) :: members) =>
    '{' :: newline (level + 1) ++ quoted name ++ ':' :: ' ' :: prettyChars (level + 1) value ++
      prettyMembers level members
  | leaf => leafText leaf

/-- The items after the first one, a line each, up to the closing bracket. -/
def prettyItems (level : Nat) : List Json → List Char
  | [] => newline level ++ [']']
  | item :: items =>
    ',' :: newline (level + 1) ++ prettyChars (level + 1) item ++ prettyItems level items

/-- The members after the first one, a line each, up to the closing brace. -/
def prettyMembers (level : Nat) : List (String × Json) → List Char
  | [] => newline level ++ ['}']
  | (name, value) :: members =>
    ',' :: newline (level + 1) ++ quoted name ++ ':' :: ' ' :: prettyChars (level + 1) value ++
      prettyMembers level members

end

/-- The text of a value without white space. -/
def compact (value : Json) : String :=
  String.ofList (compactChars value)

/-- The text of a value with two blanks of indentation a level. -/
def pretty (value : Json) : String :=
  String.ofList (prettyChars 0 value)

end Json
end TriggerLedger
