import TriggerLedger.Json.Codec
import TriggerLedger.Proofs.Json.Literal
import TriggerLedger.Proofs.Json.Numeral
import TriggerLedger.Proofs.Json.Spacing
/-!
# Texts read as nodes

The text of a value, with any white space between its tokens, is read as the
node of the value, whatever comes after it.
-/

namespace TriggerLedger.Json

mutual

/-- A value with brackets at most `depth` deep whose numbers read back. -/
def Readable (depth : Nat) : Json → Prop
  | .null | .bool _ | .string _ => True
  | .integer value => -half64 ≤ value ∧ value < word64
  | .real value => ∃ other, value.ReadsAs other
  | .array items => 1 ≤ depth ∧ ItemsReadable (depth - 1) items
  | .object members => 1 ≤ depth ∧ MembersReadable (depth - 1) members

/-- Readable items. -/
def ItemsReadable (depth : Nat) : List Json → Prop
  | [] => True
  | item :: items => Readable depth item ∧ ItemsReadable depth items

/-- Members with readable values. -/
def MembersReadable (depth : Nat) : List (String × Json) → Prop
  | [] => True
  | (_, value) :: members => Readable depth value ∧ MembersReadable depth members

end

theorem skipSpace_append {blank text : List Char} (spaces : AreSpaces blank) :
    Node.skipSpace (blank ++ text) = Node.skipSpace text :=
  List.dropWhile_append_of_pos spaces

theorem skipSpace_cons {c : Char} {text : List Char} (notSpace : Node.isSpace c = false) :
    Node.skipSpace (c :: text) = c :: text := by
  simp [Node.skipSpace, notSpace]

theorem read_spaces {blank text : List Char} (spaces : AreSpaces blank) (fuel : Nat) :
    Node.read fuel (blank ++ text) = Node.read fuel text := by
  cases fuel with
  | zero => simp [Node.read]
  | succ fuel => simp only [Node.read, skipSpace_append spaces]

/-- A text that is read as a node, whatever comes after it. -/
structure IsTextOf (text : List Char) (node : Node) : Prop where
  -- Fuel is spent on each node and on its place in a list, so two units a character are enough.
  starts : ∃ c rest, text = c :: rest ∧ Node.isSpace c = false ∧ c ≠ ']'
  reads : ∀ (fuel : Nat) (rest : List Char), 2 * text.length ≤ fuel → Numeral.Stops rest →
    Node.read fuel (text ++ rest) = (node, some rest)

namespace IsTextOf

theorem null : IsTextOf ['n', 'u', 'l', 'l'] .null where
  starts := ⟨'n', _, rfl, rfl, by decide⟩
  reads fuel rest enough _ := by
    obtain ⟨fuel, rfl⟩ : ∃ less, fuel = less + 1 := ⟨fuel - 1, by simp at enough; omega⟩
    simp [Node.read, skipSpace_cons, Node.isSpace]

theorem bool (value : Bool) : IsTextOf (leafText (.bool value)) (.bool value) where
  starts := by
    cases value
    · exact ⟨'f', _, rfl, rfl, by decide⟩
    · exact ⟨'t', _, rfl, rfl, by decide⟩
  reads fuel rest enough _ := by
    cases value <;>
      (obtain ⟨fuel, rfl⟩ : ∃ less, fuel = less + 1 :=
        ⟨fuel - 1, by simp [leafText] at enough; omega⟩
       simp [leafText, Node.read, skipSpace_cons, Node.isSpace])

theorem numeral {text : List Char} {numeral : Numeral}
    (lexed : Numeral.lex text = some (numeral, [])) : IsTextOf text (.number numeral) := by
  obtain ⟨c, tail, rfl, start⟩ := Numeral.head_of_lex lexed
  have different (other : Char) (neither : other ≠ '-' ∧ other.isDigit = false) : c ≠ other := by
    rintro rfl
    rcases start with minus | digit
    · exact neither.1 minus
    · simp [neither.2] at digit
  have notSpace : Node.isSpace c = false := by
    simp [Node.isSpace, different ' ' (by decide), different '\n' (by decide),
      different '\t' (by decide), different '\r' (by decide)]
  refine ⟨⟨c, tail, rfl, notSpace, different ']' (by decide)⟩, ?_⟩
  intro fuel rest enough stops
  obtain ⟨fuel, rfl⟩ : ∃ less, fuel = less + 1 := ⟨fuel - 1, by simp at enough; omega⟩
  have extended := Numeral.lex_append stops lexed
  rw [List.cons_append] at extended ⊢
  simp [Node.read, skipSpace_cons notSpace, different 'n' (by decide), different 't' (by decide),
    different 'f' (by decide), different '"' (by decide), different '[' (by decide),
    different '\x7b' (by decide), extended]

theorem quoted (text : String) : IsTextOf (quoted text) (.text (Literal.escape text.toList)) where
  starts := ⟨'"', _, rfl, rfl, by decide⟩
  reads fuel rest enough _ := by
    obtain ⟨fuel, rfl⟩ : ∃ less, fuel = less + 1 :=
      ⟨fuel - 1, by simp [Json.quoted] at enough; omega⟩
    simp [Json.quoted, Node.read, skipSpace_cons, Node.isSpace, Literal.scan_escape]

end IsTextOf

theorem stops_spaces {blank rest : List Char} (spaces : AreSpaces blank)
    (stops : Numeral.Stops rest) : Numeral.Stops (blank ++ rest) := by
  cases blank with
  | nil => exact stops
  | cons c blank =>
      have space := spaces c (by simp)
      simp only [Node.isSpace, Bool.or_eq_true, beq_iff_eq] at space
      refine Numeral.stops_cons ?_
      rcases space with ((rfl | rfl) | rfl) | rfl <;> rfl

/-- A text that is read as the items after the first one and the end of an array. -/
structure IsItemsText (text : List Char) (nodes : List Node) : Prop where
  stops : ∀ rest, Numeral.Stops (text ++ rest)
  reads : ∀ {blank first : List Char} {node : Node}, AreSpaces blank → IsTextOf first node →
    ∀ (fuel : Nat) (rest : List Char), 2 * (first ++ text).length ≤ fuel →
      Node.readItems fuel (blank ++ (first ++ (text ++ rest))) = (node :: nodes, some rest)

namespace IsItemsText

theorem nil {closing : List Char} (spaces : AreSpaces closing) :
    IsItemsText (closing ++ [']']) [] where
  stops rest := by
    rw [List.append_assoc]
    exact stops_spaces spaces (Numeral.stops_cons rfl)
  reads {blank first node} blankSpaces firstText fuel rest enough := by
    simp only [List.length_append, List.length_singleton] at enough
    obtain ⟨fuel, rfl⟩ : ∃ less, fuel = less + 1 := ⟨fuel - 1, by omega⟩
    have stops : Numeral.Stops (closing ++ [']'] ++ rest) := by
      rw [List.append_assoc]
      exact stops_spaces spaces (Numeral.stops_cons rfl)
    rw [Node.readItems, read_spaces blankSpaces, firstText.reads fuel _ (by omega) stops]
    simp [skipSpace_append spaces, skipSpace_cons, Node.isSpace]

theorem cons {text item opening : List Char} {node : Node} {nodes : List Node}
    (spaces : AreSpaces opening) (itemText : IsTextOf item node)
    (itemsText : IsItemsText text nodes) :
    IsItemsText (',' :: opening ++ item ++ text) (node :: nodes) where
  stops rest := Numeral.stops_cons rfl
  reads {blank first node'} blankSpaces firstText fuel rest enough := by
    simp only [List.length_append, List.length_cons] at enough
    obtain ⟨fuel, rfl⟩ : ∃ less, fuel = less + 1 := ⟨fuel - 1, by omega⟩
    have next := itemsText.reads spaces itemText fuel rest (by simp; omega)
    have stops : Numeral.Stops (',' :: (opening ++ (item ++ (text ++ rest)))) :=
      Numeral.stops_cons rfl
    simp only [List.append_assoc, List.cons_append, Node.readItems, read_spaces blankSpaces,
      firstText.reads fuel _ (by omega) stops, skipSpace_cons (c := ',') rfl, next]

end IsItemsText

theorem IsTextOf.array {opening first text : List Char} {node : Node} {nodes : List Node}
    (spaces : AreSpaces opening) (firstText : IsTextOf first node)
    (itemsText : IsItemsText text nodes) :
    IsTextOf ('[' :: opening ++ first ++ text) (.array (node :: nodes)) where
  starts := ⟨'[', _, rfl, rfl, by decide⟩
  reads fuel rest enough _ := by
    simp only [List.length_append, List.length_cons] at enough
    obtain ⟨fuel, rfl⟩ : ∃ less, fuel = less + 1 := ⟨fuel - 1, by omega⟩
    obtain ⟨c, tail, rfl, notSpace, notClosing⟩ := firstText.starts
    have items := itemsText.reads areSpaces_nil firstText fuel rest (by simp at enough ⊢; omega)
    simp only [List.nil_append, List.cons_append] at items
    simp [Node.read, skipSpace_cons (c := '[') rfl, skipSpace_append spaces,
      skipSpace_cons notSpace, notClosing, items]

/-- A text that is read as the members after the first one and the end of an object. -/
structure IsMembersText (text : List Char) (nodes : List (Node × Node)) : Prop where
  stops : ∀ rest, Numeral.Stops (text ++ rest)
  reads : ∀ (name : String) {blank spaces value : List Char} {node : Node}, AreSpaces blank →
    AreSpaces spaces → IsTextOf value node → ∀ (fuel : Nat) (rest : List Char),
      2 * (quoted name ++ ':' :: (spaces ++ value) ++ text).length ≤ fuel →
      Node.readMembers fuel
          (blank ++ (quoted name ++ ':' :: (spaces ++ (value ++ (text ++ rest))))) =
        ((.text (Literal.escape name.toList), node) :: nodes, some rest)

namespace IsMembersText

theorem nil {closing : List Char} (closingSpaces : AreSpaces closing) :
    IsMembersText (closing ++ ['}']) [] where
  stops rest := by
    rw [List.append_assoc]
    exact stops_spaces closingSpaces (Numeral.stops_cons rfl)
  reads name {blank spaces value node} blankSpaces valueSpaces valueText fuel rest enough := by
    simp only [List.length_append, List.length_cons] at enough
    obtain ⟨fuel, rfl⟩ : ∃ less, fuel = less + 1 := ⟨fuel - 1, by omega⟩
    have stops : Numeral.Stops (closing ++ '}' :: rest) :=
      stops_spaces closingSpaces (Numeral.stops_cons rfl)
    have keyStops : Numeral.Stops
        (':' :: (spaces ++ (value ++ (closing ++ '}' :: rest)))) :=
      Numeral.stops_cons rfl
    simp only [List.append_assoc, List.cons_append, List.nil_append, Node.readMembers,
      read_spaces blankSpaces, (IsTextOf.quoted name).reads fuel _ (by omega) keyStops,
      skipSpace_cons (c := ':') rfl, read_spaces valueSpaces,
      valueText.reads fuel _ (by omega) stops, skipSpace_append closingSpaces,
      skipSpace_cons (c := '}') rfl]

theorem cons {text value opening spaces : List Char} {name : String} {node : Node}
    {nodes : List (Node × Node)} (openingSpaces : AreSpaces opening)
    (valueSpaces : AreSpaces spaces) (valueText : IsTextOf value node)
    (membersText : IsMembersText text nodes) :
    IsMembersText (',' :: opening ++ quoted name ++ ':' :: (spaces ++ value) ++ text)
      ((.text (Literal.escape name.toList), node) :: nodes) where
  stops rest := Numeral.stops_cons rfl
  reads name' {blank spaces' first node'} blankSpaces firstSpaces firstText fuel rest enough := by
    simp only [List.length_append, List.length_cons] at enough
    obtain ⟨fuel, rfl⟩ : ∃ less, fuel = less + 1 := ⟨fuel - 1, by omega⟩
    have next := membersText.reads name openingSpaces valueSpaces valueText fuel rest
      (by simp; omega)
    have stops : Numeral.Stops (',' :: (opening ++
        (quoted name ++ ':' :: (spaces ++ (value ++ (text ++ rest)))))) :=
      Numeral.stops_cons rfl
    have keyStops : Numeral.Stops (':' :: (spaces' ++ (first ++ (',' :: (opening ++
        (quoted name ++ ':' :: (spaces ++ (value ++ (text ++ rest))))))))) :=
      Numeral.stops_cons rfl
    simp only [List.append_assoc, List.cons_append, Node.readMembers, read_spaces blankSpaces,
      (IsTextOf.quoted name').reads fuel _ (by omega) keyStops, skipSpace_cons (c := ':') rfl,
      read_spaces firstSpaces, firstText.reads fuel _ (by omega) stops,
      skipSpace_cons (c := ',') rfl, next]

end IsMembersText

theorem IsTextOf.object {opening spaces value text : List Char} {name : String} {node : Node}
    {nodes : List (Node × Node)} (openingSpaces : AreSpaces opening)
    (valueSpaces : AreSpaces spaces) (valueText : IsTextOf value node)
    (membersText : IsMembersText text nodes) :
    IsTextOf ('{' :: opening ++ Json.quoted name ++ ':' :: (spaces ++ value) ++ text)
      (.object ((.text (Literal.escape name.toList), node) :: nodes)) where
  starts := ⟨'{', _, rfl, rfl, by decide⟩
  reads fuel rest enough _ := by
    simp only [List.length_append, List.length_cons] at enough
    obtain ⟨fuel, rfl⟩ : ∃ less, fuel = less + 1 := ⟨fuel - 1, by omega⟩
    have members := membersText.reads name areSpaces_nil valueSpaces valueText fuel rest
      (by simp; omega)
    rw [List.nil_append, Json.quoted] at members
    simp only [List.cons_append, List.append_assoc, List.nil_append] at members
    simp [Node.read, skipSpace_cons (c := '{') rfl, skipSpace_append openingSpaces, Json.quoted,
      skipSpace_cons (c := '"') rfl, members]

theorem IsTextOf.emptyArray : IsTextOf ['[', ']'] (.array []) where
  starts := ⟨'[', _, rfl, rfl, by decide⟩
  reads fuel rest enough _ := by
    obtain ⟨fuel, rfl⟩ : ∃ less, fuel = less + 1 := ⟨fuel - 1, by simp at enough; omega⟩
    simp [Node.read, skipSpace_cons, Node.isSpace]

theorem IsTextOf.emptyObject : IsTextOf ['{', '}'] (.object []) where
  starts := ⟨'{', _, rfl, rfl, by decide⟩
  reads fuel rest enough _ := by
    obtain ⟨fuel, rfl⟩ : ∃ less, fuel = less + 1 := ⟨fuel - 1, by simp at enough; omega⟩
    simp [Node.read, skipSpace_cons, Node.isSpace]

theorem toNode_integer (value : Int) :
    (Json.integer value).toNode = .number (Numeral.ofInt value) := by
  rw [toNode, Nat.toString_eq_repr, Nat.toList_repr, Numeral.ofInt]

mutual

/-- The text of a readable value is read as its node. -/
theorem isTextOf_spacedChars (spacing : Spacing) (level : Nat) {depth : Nat} :
    (value : Json) → value.Readable depth → IsTextOf (spacedChars spacing level value) value.toNode
  | .null, _ => .null
  | .bool value, _ => .bool value
  | .integer value, _ => by
      rw [toNode_integer]
      exact .numeral (Numeral.lex_toString value)
  | .real value, readable => by
      obtain ⟨_, numeral, lexed, _⟩ := readable
      have node : (Json.real value).toNode = .number numeral := by simp [toNode, lexed]
      rw [node]
      exact .numeral lexed
  | .string value, _ => .quoted value
  | .array [], _ => .emptyArray
  | .object [], _ => .emptyObject
  | .array (item :: items), readable =>
      .array (spacing.opening_spaces level)
        (isTextOf_spacedChars spacing (level + 1) item readable.2.1)
        (isItemsText_spacedItems spacing level items readable.2.2)
  | .object ((_, value) :: members), readable =>
      .object (spacing.opening_spaces level) spacing.value_spaces
        (isTextOf_spacedChars spacing (level + 1) value readable.2.1)
        (isMembersText_spacedMembers spacing level members readable.2.2)

theorem isItemsText_spacedItems (spacing : Spacing) (level : Nat) {depth : Nat} :
    (items : List Json) → ItemsReadable depth items →
      IsItemsText (spacedItems spacing level items) (toNodes items)
  | [], _ => .nil (spacing.closing_spaces level)
  | item :: items, readable =>
      .cons (spacing.opening_spaces level)
        (isTextOf_spacedChars spacing (level + 1) item readable.1)
        (isItemsText_spacedItems spacing level items readable.2)

theorem isMembersText_spacedMembers (spacing : Spacing) (level : Nat) {depth : Nat} :
    (members : List (String × Json)) → MembersReadable depth members →
      IsMembersText (spacedMembers spacing level members) (toMemberNodes members)
  | [], _ => .nil (spacing.closing_spaces level)
  | (_, value) :: members, readable =>
      .cons (spacing.opening_spaces level) spacing.value_spaces
        (isTextOf_spacedChars spacing (level + 1) value readable.1)
        (isMembersText_spacedMembers spacing level members readable.2)

end

/-- A whole text is read as the node of its value, to its end. -/
theorem ofText_spacedChars (spacing : Spacing) {depth : Nat} {value : Json}
    (readable : value.Readable depth) :
    Node.ofText (spacedChars spacing 0 value) = (value.toNode, true) := by
  have text := isTextOf_spacedChars spacing 0 value readable
  have whole := text.reads (2 * (spacedChars spacing 0 value).length + 2) [] (by omega)
    Numeral.stops_nil
  rw [List.append_nil] at whole
  rw [Node.ofText, whole]
  rfl

end TriggerLedger.Json
