import TriggerLedger.Json.DecodeError
import TriggerLedger.Json.Node
/-!
# Codecs

A codec writes values of a type as JSON and reads them back from nodes.  Nodes
are read directly from the text, with a limit on nesting, or from a node that
was kept until its kind was known; the two ways differ in a few refusals.
-/

namespace TriggerLedger.Json

/-- How a node is reached. -/
inductive Reading where
  /-- Straight from the text, with room for fewer than `room` nested brackets. -/
  | direct (room : Nat)
  /-- From a node that was kept, and is therefore sound. -/
  | kept
  deriving DecidableEq

/-- The room at the start of a text. -/
def Reading.start : Reading := .direct 128

def Reading.enter : Reading → Except DecodeError Reading
  | .direct room => if 2 ≤ room then .ok (.direct (room - 1)) else .error .malformed
  | .kept => .ok .kept

/-- Pass over a node that nobody asks for. -/
def Reading.skip (reading : Reading) (node : Node) : Except DecodeError Unit :=
  match reading with
  | .direct _ => if node.isSound then .ok () else .error .malformed
  | .kept => .ok ()

/-- A way to read values of a type. -/
abbrev Decoder (α : Type) := Reading → Node → Except DecodeError α

/-- A way to write and read values of a type. -/
structure Codec (α : Type) where
  /-- The JSON form of a value. -/
  encode : α → Json
  /-- Read a value from a node. -/
  decode : Decoder α

namespace Node

/-- Describe a node that is not of the expected kind. -/
def found : Node → Except DecodeError Found
  | .null => .ok .null
  | .bool value => .ok (.bool value)
  | .number numeral =>
    match numeral.value? with
    | some (.natural value) => .ok (.integer value)
    | some (.negative value) => .ok (.integer value)
    | some (.real value) => .ok (.real value)
    | none => .error .malformed
  | .text raw =>
    match Literal.toString? raw with
    | some value => .ok (.string value)
    | none => .error .malformed
  | .array _ => .ok .array
  | .object _ => .ok .object
  | .broken => .error .malformed

/-- Refuse a node for its kind. -/
def refuse {α : Type} (node : Node) (expected : String) : Except DecodeError α :=
  match node.found with
  | .ok found => .error (.wrongKind found expected)
  | .error fault => .error fault

/-- The name that a key gives. -/
def key : Node → Except DecodeError String
  | .text raw =>
    match Literal.toString? raw with
    | some name => .ok name
    | none => .error .malformed
  | _ => .error .malformed

end Node

namespace Decoder

def run {α : Type} (decode : Decoder α) (text : String) : Except DecodeError α :=
  let (node, complete) := Node.ofText text.toList
  match decode .start node with
  | .error fault => .error fault
  | .ok value => if complete then .ok value else .error .malformed

def string : Decoder String
  | _, .text raw =>
    match Literal.toString? raw with
    | some value => .ok value
    | none => .error .malformed
  | _, node => node.refuse "a string"

def bool : Decoder Bool
  | _, .bool value => .ok value
  | _, node => node.refuse "a boolean"

/-- Accept an integer of a width between two bounds. -/
def checkRange (low high : Int) (expected : String) (value : Int) : Except DecodeError Int :=
  if low ≤ value ∧ value < high then .ok value else .error (.outOfRange value expected)

/-- Read an integer from `low` on and below `high`. -/
def integer (low high : Int) (expected : String) : Decoder Int
  | _, .number numeral =>
    match numeral.value? with
    | some (.natural value) => checkRange low high expected value
    | some (.negative value) => checkRange low high expected value
    | some (.real value) => .error (.wrongKind (.real value) expected)
    | none => .error .malformed
  | _, node => node.refuse expected

/-- Read a natural number below `high`. -/
def natural (high : Nat) (expected : String) : Decoder Nat :=
  fun reading node => Int.toNat <$> integer 0 high expected reading node

/-- Read any number as a binary64 value. -/
def real : Decoder Binary64
  | _, .number numeral =>
    match numeral.value? with
    | some (.natural value) =>
      match Binary64.ofInt? value with
      | some value => .ok value
      | none => .error .malformed
    | some (.negative value) =>
      match Binary64.ofInt? value with
      | some value => .ok value
      | none => .error .malformed
    | some (.real value) => .ok value
    | none => .error .malformed
  | _, node => node.refuse "f64"

/-- Read `null` as nothing. -/
def option {α : Type} (decode : Decoder α) : Decoder (Option α)
  | _, .null => .ok none
  | reading, node => some <$> decode reading node

/-- Read every node of a list. -/
def all {α : Type} (decode : Decoder α) (reading : Reading) :
    List Node → Except DecodeError (List α)
  | [] => .ok []
  | node :: nodes =>
    match decode reading node with
    | .error fault => .error fault
    | .ok value => (value :: ·) <$> all decode reading nodes

def list {α : Type} (decode : Decoder α) : Decoder (List α)
  | reading, .array items => do
    let inner ← reading.enter
    all decode inner items
  | _, node => node.refuse "a sequence"

/-- Find the alternative with a name. -/
def findName {α : Type} (alternatives : List α) (name : α → String) (wanted : String) :
    Except DecodeError α :=
  match alternatives.find? (fun alternative => name alternative == wanted) with
  | some alternative => .ok alternative
  | none => .error (.unknownName wanted (alternatives.map name))

/-- Read the name of an alternative. -/
def name {α : Type} (alternatives : List α) (name : α → String) : Decoder α
  | _, .text raw =>
    match Literal.toString? raw with
    | some wanted => findName alternatives name wanted
    | none => .error .malformed
  | _, node => node.refuse "variant identifier"

/-- Read the payload of an alternative that has none. -/
def nothing : Decoder Unit
  | _, .null => .ok ()
  | .kept, .object [] => .ok ()
  | _, node => node.refuse "unit"

/-- Read an alternative without payload: its name, or an object with the name alone. -/
def choice {α : Type} (alternatives : List α) (nameOf : α → String) : Decoder α
  | reading, .text raw => name alternatives nameOf reading (.text raw)
  | .direct room, .object ((key, value) :: others) => do
    let inner ← (Reading.direct room).enter
    let alternative ← name alternatives nameOf inner key
    nothing inner value
    if others.isEmpty then .ok alternative else .error .malformed
  | .kept, .object [(key, value)] => do
    let alternative ← name alternatives nameOf .kept key
    nothing .kept value
    return alternative
  | .direct _, _ => .error .malformed
  | .kept, .object _ => .error .malformed
  | .kept, node => node.refuse "string or map"

end Decoder

namespace Codec

def string : Codec String := ⟨.string, Decoder.string⟩

def bool : Codec Bool := ⟨.bool, Decoder.bool⟩

/-- Counts and positions, of 64 bits. -/
def count : Codec Nat := ⟨.natural, Decoder.natural word64 "usize"⟩

/-- Unsigned quantities of 64 bits. -/
def unsigned : Codec Nat := ⟨.natural, Decoder.natural word64 "u64"⟩

/-- Unsigned quantities of 32 bits. -/
def shortUnsigned : Codec Nat := ⟨.natural, Decoder.natural word32 "u32"⟩

/-- Signed quantities of 64 bits. -/
def signed : Codec Int := ⟨.integer, Decoder.integer (-half64) half64 "i64"⟩

/-- Finite binary64 values. -/
def real : Codec Binary64 := ⟨.real, Decoder.real⟩

/-- Optional values: `null` is nothing. -/
def option {α : Type} (codec : Codec α) : Codec (Option α) :=
  ⟨Json.ofOption codec.encode, codec.decode.option⟩

def list {α : Type} (codec : Codec α) : Codec (List α) :=
  ⟨fun values => .array (values.map codec.encode), codec.decode.list⟩

/-- Alternatives without payload, by name. -/
def choice {α : Type} (alternatives : List α) (name : α → String) : Codec α :=
  ⟨fun value => .string (name value), Decoder.choice alternatives name⟩

end Codec
end TriggerLedger.Json
