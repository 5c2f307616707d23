import TriggerLedger.Json.Node
/-!
# Texts with white space between tokens

The compact and the indented text of a value differ only in the white space
between their tokens.  Both are instances of one writer, which takes the white
space as a parameter.
-/

namespace TriggerLedger.Json

/-- White space, and nothing else. -/
def AreSpaces (text : List Char) : Prop := ∀ c ∈ text, Node.isSpace c = true

/-- The white space of a text, inside so many brackets. -/
structure Spacing where
  /-- In front of an item or a key. -/
  opening : Nat → List Char
  /-- In front of a closing bracket. -/
  closing : Nat → List Char
  /-- In front of the value of a member. -/
  value : List Char
  opening_spaces : ∀ level, AreSpaces (opening level)
  closing_spaces : ∀ level, AreSpaces (closing level)
  value_spaces : AreSpaces value

theorem areSpaces_nil : AreSpaces [] := by simp [AreSpaces]

theorem areSpaces_newline (level : Nat) : AreSpaces (newline level) := by
  intro c member
  rcases List.mem_cons.mp member with rfl | blank
  · rfl
  · rw [List.eq_of_mem_replicate blank]
    rfl

namespace Spacing

/-- No white space. -/
def compact : Spacing where
  opening _ := []
  closing _ := []
  value := []
  opening_spaces _ := areSpaces_nil
  closing_spaces _ := areSpaces_nil
  value_spaces := areSpaces_nil

/-- A line for each item and member. -/
def indented : Spacing where
  opening level := newline (level + 1)
  closing level := newline level
  value := [' ']
  opening_spaces level := areSpaces_newline (level + 1)
  closing_spaces level := areSpaces_newline level
  value_spaces := by simp [AreSpaces, Node.isSpace]

end Spacing

variable (spacing : Spacing)

mutual

/-- The text of a value inside `level` brackets. -/
def spacedChars (level : Nat) : Json → List Char
  | .array (item :: items) =>
    '[' :: spacing.opening level ++ spacedChars (level + 1) item ++ spacedItems level items
  | .object ((name, value) :: members) =>
    '{' :: spacing.opening level ++ quoted name ++
      ':' :: (spacing.value ++ spacedChars (level + 1) value) ++ spacedMembers level members
  | leaf => leafText leaf

/-- The items after the first one, up to the closing bracket. -/
def spacedItems (level : Nat) : List Json → List Char
  | [] => spacing.closing level ++ [']']
  | item :: items =>
    ',' :: spacing.opening level ++ spacedChars (level + 1) item ++ spacedItems level items

/-- The members after the first one, up to the closing brace. -/
def spacedMembers (level : Nat) : List (String × Json) → List Char
  | [] => spacing.closing level ++ ['}']
  | (name, value) :: members =>
    ',' :: spacing.opening level ++ quoted name ++
      ':' :: (spacing.value ++ spacedChars (level + 1) value) ++ spacedMembers level members

end

mutual

theorem compactChars_eq (level : Nat) :
    (value : Json) → compactChars value = spacedChars .compact level value
  | .array [] | .object [] | .null | .bool _ | .integer _ | .real _ | .string _ => by
      simp [compactChars, spacedChars]
  | .array (item :: items) => by
      rw [compactChars, spacedChars, compactChars_eq (level + 1) item, compactItems_eq level items]
      rfl
  | .object ((name, value) :: members) => by
      rw [compactChars, spacedChars, compactChars_eq (level + 1) value,
        compactMembers_eq level members]
      rfl

theorem compactItems_eq (level : Nat) :
    (items : List Json) → compactItems items = spacedItems .compact level items
  | [] => rfl
  | item :: items => by
      rw [compactItems, spacedItems, compactChars_eq (level + 1) item, compactItems_eq level items]
      rfl

theorem compactMembers_eq (level : Nat) :
    (members : List (String × Json)) →
      compactMembers members = spacedMembers .compact level members
  | [] => rfl
  | (name, value) :: members => by
      rw [compactMembers, spacedMembers, compactChars_eq (level + 1) value,
        compactMembers_eq level members]
      rfl

end

mutual

theorem prettyChars_eq (level : Nat) :
    (value : Json) → prettyChars level value = spacedChars .indented level value
  | .array [] | .object [] | .null | .bool _ | .integer _ | .real _ | .string _ => by
      simp [prettyChars, spacedChars]
  | .array (item :: items) => by
      rw [prettyChars, spacedChars, prettyChars_eq (level + 1) item, prettyItems_eq level items]
      rfl
  | .object ((name, value) :: members) => by
      rw [prettyChars, spacedChars, prettyChars_eq (level + 1) value,
        prettyMembers_eq level members]
      rfl

theorem prettyItems_eq (level : Nat) :
    (items : List Json) → prettyItems level items = spacedItems .indented level items
  | [] => rfl
  | item :: items => by
      rw [prettyItems, spacedItems, prettyChars_eq (level + 1) item, prettyItems_eq level items]
      rfl

theorem prettyMembers_eq (level : Nat) :
    (members : List (String × Json)) →
      prettyMembers level members = spacedMembers .indented level members
  | [] => rfl
  | (name, value) :: members => by
      rw [prettyMembers, spacedMembers, prettyChars_eq (level + 1) value,
        prettyMembers_eq level members]
      rfl

end

end TriggerLedger.Json
