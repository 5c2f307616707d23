import TriggerLedger.Json.Codec
/-!
# Records

A record is written as an object with its fields in declaration order.  It is
read from an object in any order of keys, where unknown keys are passed over and
a known key may come once, or from an array with the fields in declaration
order.  A `Layout` describes some fields of a record, both ways.
-/

namespace TriggerLedger.Json

/-- Some fields of records `ρ`, read together as one `α`. -/
structure Layout (ρ α : Type) where
  /-- The values of the fields read so far. -/
  Slots : Type
  /-- Nothing read yet. -/
  vacant : Slots
  /-- The number of fields. -/
  size : Nat
  /-- How to read the value after a key, if the key is one of the fields. -/
  fill : String → Option (Reading → Node → Slots → Except DecodeError Slots)
  /-- The result at the end of an object. -/
  finish : Slots → Except DecodeError α
  /-- Read the fields from the front of an array, where `index` items came before. -/
  take : String → Reading → Nat → List Node → Except DecodeError (α × List Node)
  /-- The members that a record has for the fields. -/
  write : ρ → List (String × Json)

namespace Layout

def empty {ρ α : Type} (value : α) : Layout ρ α where
  Slots := Unit
  vacant := ()
  size := 0
  fill _ := .none
  finish _ := .ok value
  take _ _ _ items := .ok (value, items)
  write _ := []

/-- The fields of one layout followed by those of another. -/
def and {ρ α β : Type} (first : Layout ρ (α → β)) (second : Layout ρ α) : Layout ρ β where
  Slots := first.Slots × second.Slots
  vacant := (first.vacant, second.vacant)
  size := first.size + second.size
  fill key :=
    match first.fill key with
    | some fill => some fun reading node slots =>
      (fun filled => (filled, slots.2)) <$> fill reading node slots.1
    | none =>
      match second.fill key with
      | some fill => some fun reading node slots =>
        (fun filled => (slots.1, filled)) <$> fill reading node slots.2
      | none => .none
  finish slots := do
    let make ← first.finish slots.1
    let value ← second.finish slots.2
    return make value
  take expected reading index items := do
    let (make, items) ← first.take expected reading index items
    let (value, items) ← second.take expected reading (index + first.size) items
    return (make value, items)
  write record := first.write record ++ second.write record

/-- Read the members of an object into the slots. -/
def fillAll {ρ α : Type} (layout : Layout ρ α) (reading : Reading) :
    layout.Slots → List (Node × Node) → Except DecodeError layout.Slots
  | slots, [] => .ok slots
  | slots, (key, value) :: members => do
    let name ← key.key
    match layout.fill name with
    | some fill => layout.fillAll reading (← fill reading value slots) members
    | none =>
      reading.skip value
      layout.fillAll reading slots members

end Layout

/-- What a field that is left out stands for, in an object and at the end of an array. -/
structure Absence (α : Type) where
  /-- The value of a missing key. -/
  inObject : Option α
  /-- The value of a missing item. -/
  inArray : Option α

/-- One field: its name, where a record has it, its codec, what its absence means, and
which values are written at all. -/
structure Field (ρ α : Type) where
  name : String
  get : ρ → α
  codec : Codec α
  absence : Absence α
  isWritten : α → Bool

namespace Field

/-- A field that must be there. -/
def required {ρ α : Type} (name : String) (get : ρ → α) (codec : Codec α) : Field ρ α :=
  ⟨name, get, codec, ⟨none, none⟩, fun _ => true⟩

/-- A field that may be left out for a default value. -/
def defaulted {ρ α : Type} (name : String) (default : α) (get : ρ → α) (codec : Codec α) :
    Field ρ α :=
  ⟨name, get, codec, ⟨some default, some default⟩, fun _ => true⟩

/-- An optional field, written as `null` for nothing. -/
def optional {ρ α : Type} (name : String) (get : ρ → Option α) (codec : Codec α) :
    Field ρ (Option α) :=
  defaulted name none get codec.option

/-- An optional field that an object may leave out but an array may not. -/
def nullable {ρ α : Type} (name : String) (get : ρ → Option α) (codec : Codec α) :
    Field ρ (Option α) :=
  ⟨name, get, codec.option, ⟨some none, none⟩, fun _ => true⟩

/-- An optional field that is not written for nothing. -/
def sparse {ρ α : Type} (name : String) (get : ρ → Option α) (codec : Codec α) :
    Field ρ (Option α) :=
  ⟨name, get, codec.option, ⟨some none, some none⟩, Option.isSome⟩

/-- A field as a layout. -/
def layout {ρ α : Type} (field : Field ρ α) : Layout ρ α where
  Slots := Option α
  vacant := none
  size := 1
  fill key :=
    if key = field.name then
      some fun reading node slot =>
        if slot.isSome then .error (.duplicateField field.name)
        else some <$> field.codec.decode reading node
    else none
  finish slot :=
    match slot, field.absence.inObject with
    | some value, _ => .ok value
    | none, some value => .ok value
    | none, none => .error (.missingField field.name)
  take expected reading index
    | [] =>
      match field.absence.inArray with
      | some value => .ok (value, [])
      | none => .error (.wrongLength index expected)
    | item :: items => do
      let value ← field.codec.decode reading item
      return (value, items)
  write record :=
    if field.isWritten (field.get record) then
      [(field.name, field.codec.encode (field.get record))]
    else []

end Field

/-- Append one field to a layout. -/
def Layout.also {ρ α β : Type} (layout : Layout ρ (α → β)) (field : Field ρ α) : Layout ρ β :=
  layout.and field.layout

/-- A number of elements in words. -/
def elementCount (count : Nat) : String :=
  toString count ++ (if count = 1 then " element" else " elements")

/-- Refuse items after the last field. -/
def Reading.refuseSurplus {α : Type} (reading : Reading) (count surplus : Nat) :
    Except DecodeError α :=
  match reading with
  | .direct _ => .error .malformed
  | .kept => .error (.wrongLength (count + surplus) (elementCount count ++ " in sequence"))

/-- Read a record of which `expected` is the description. -/
def Layout.decode {ρ α : Type} (layout : Layout ρ α) (expected : String) : Decoder α
  | reading, .object members => do
    let inner ← reading.enter
    layout.finish (← layout.fillAll inner layout.vacant members)
  | reading, .array items => do
    let inner ← reading.enter
    let (value, surplus) ←
      layout.take (expected ++ " with " ++ elementCount layout.size) inner 0 items
    if surplus.isEmpty then .ok value else reading.refuseSurplus layout.size surplus.length
  | _, node => node.refuse expected

/-- The codec of a record with a name. -/
def Codec.record {α : Type} (name : String) (layout : Layout α α) : Codec α :=
  ⟨fun value => .object (layout.write value), layout.decode ("struct " ++ name)⟩

end TriggerLedger.Json
