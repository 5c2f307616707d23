import TriggerLedger.Json.Codec
/-!
# Values by suggestion index

A partial map from positions in a list of suggestions.  The value put last at an
index counts.
-/

namespace TriggerLedger

/-- Values at some suggestion indices. -/
structure ByIndex (α : Type) where
  /-- The entries, each index once. -/
  entries : List (Nat × α)
  deriving DecidableEq

namespace ByIndex

def empty {α : Type} : ByIndex α := ⟨[]⟩

/-- The value at an index. -/
def get? {α : Type} (values : ByIndex α) (index : Nat) : Option α :=
  values.entries.lookup index

/-- Put a value at an index, in place of any other there. -/
def insert {α : Type} (values : ByIndex α) (index : Nat) (value : α) : ByIndex α :=
  ⟨values.entries.filter (fun entry => entry.1 != index) ++ [(index, value)]⟩

/-- The value put at an index is found there. -/
theorem get?_insert_self {α : Type} (values : ByIndex α) (index : Nat) (value : α) :
    (values.insert index value).get? index = some value := by
  obtain ⟨entries⟩ := values
  induction entries with
  | nil => simp [insert, get?]
  | cons entry entries induction =>
    obtain ⟨position, old⟩ := entry
    simp only [insert, get?] at induction ⊢
    by_cases same : position = index
    · simp [same, induction]
    · have different : (index == position) = false := by simp [Ne.symm same]
      simp [same, List.lookup_cons, different, induction]

/-- Putting a value at an index changes no other index. -/
theorem get?_insert_of_ne {α : Type} (values : ByIndex α) {index other : Nat} (value : α)
    (different : other ≠ index) :
    (values.insert index value).get? other = values.get? other := by
  obtain ⟨entries⟩ := values
  induction entries with
  | nil =>
    have unequal : (other == index) = false := by simp [different]
    simp [insert, get?, List.lookup_cons, unequal]
  | cons entry entries induction =>
    obtain ⟨position, old⟩ := entry
    simp only [insert, get?] at induction ⊢
    by_cases same : position = index
    · have unequal : (other == position) = false := by simp [same, different]
      simp [same, List.lookup_cons, same ▸ unequal, induction]
    · by_cases here : other = position
      · subst here
        simp [same]
      · have unequal : (other == position) = false := by simp [here]
        simp [same, List.lookup_cons, unequal, induction]

/-- The key of an index: its decimal text. -/
def keyText (index : Nat) : String := toString index

/-- Read a key as an index: the raw key is a numeral through and through. -/
def decodeKey : Json.Node → Except Json.DecodeError Nat
  | .text raw =>
    match Json.Numeral.lex raw with
    | none => .error .malformed
    | some (numeral, rest) =>
      match Json.Decoder.natural word64 "usize" .kept (.number numeral) with
      | .error fault => .error fault
      | .ok index => if rest.isEmpty then .ok index else .error .malformed
  | _ => .error .malformed

/-- Read entries one after the other. -/
def decodeEntries {α : Type} (decode : Json.Decoder α) (reading : Json.Reading) :
    ByIndex α → List (Json.Node × Json.Node) → Except Json.DecodeError (ByIndex α)
  | values, [] => .ok values
  | values, (key, value) :: members => do
    let index ← decodeKey key
    let value ← decode reading value
    decodeEntries decode reading (values.insert index value) members

/-- Values by index as a JSON object. -/
def codec {α : Type} (values : Json.Codec α) : Json.Codec (ByIndex α) where
  encode table := .object (table.entries.map fun entry => (keyText entry.1, values.encode entry.2))
  decode
    | reading, .object members => do
      let inner ← reading.enter
      decodeEntries values.decode inner empty members
    | _, node => node.refuse "a map"

end ByIndex
end TriggerLedger
