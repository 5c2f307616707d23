import TriggerLedger.Proofs.Json.Records
import TriggerLedger.Proofs.Json.Yields
/-!
# The first member of a record

Where the first member of a record is a string, the text of the record gives it
away whatever comes after it: if the record can be read at all, it is read with
this member.
-/

namespace TriggerLedger.Json

/-- An object is read with its first member in front, if that is a string and others follow. -/
theorem read_first_member {opening spaces : List Char} (openingSpaces : AreSpaces opening)
    (valueSpaces : AreSpaces spaces) (name value : String) (rest : List Char) {fuel : Nat}
    (enough : 2 * (quoted name ++ quoted value).length + 4 ≤ fuel) :
    ∃ members,
      (Node.read fuel ('{' :: opening ++ quoted name ++ ':' :: (spaces ++ quoted value) ++
          ',' :: rest)).1 =
        .object ((.text (Literal.escape name.toList), .text (Literal.escape value.toList)) ::
          members) := by
  rw [List.length_append] at enough
  obtain ⟨fuel, rfl⟩ : ∃ less, fuel = less + 2 := ⟨fuel - 2, by omega⟩
  have keyStops : Numeral.Stops (':' :: (spaces ++ (quoted value ++ ',' :: rest))) :=
    Numeral.stops_cons rfl
  have valueStops : Numeral.Stops (',' :: rest) := Numeral.stops_cons rfl
  have members : (Node.readMembers (fuel + 1)
      (quoted name ++ ':' :: (spaces ++ (quoted value ++ ',' :: rest)))).1 =
        (.text (Literal.escape name.toList), .text (Literal.escape value.toList)) ::
          (Node.readMembers fuel rest).1 := by
    simp only [Node.readMembers, (IsTextOf.quoted name).reads fuel _ (by omega) keyStops,
      skipSpace_cons (c := ':') rfl, read_spaces valueSpaces,
      (IsTextOf.quoted value).reads fuel _ (by omega) valueStops, skipSpace_cons (c := ',') rfl]
  refine ⟨(Node.readMembers fuel rest).1, ?_⟩
  rw [← members]
  simp [Node.read, skipSpace_cons (c := '{') rfl, skipSpace_append openingSpaces, quoted,
    skipSpace_cons (c := '"') rfl]

theorem ofText_fst (text : List Char) :
    (Node.ofText text).1 = (Node.read (2 * text.length + 2) text).1 :=
  rfl

/-- The indented text of such an object. -/
theorem ofText_first_member (name value : String) (second : String × Json)
    (others : List (String × Json)) :
    ∃ members,
      (Node.ofText (prettyChars 0 (.object ((name, .string value) :: second :: others)))).1 =
        .object ((.text (Literal.escape name.toList), .text (Literal.escape value.toList)) ::
          members) := by
  simp only [prettyChars_eq, ofText_fst]
  obtain ⟨rest, following⟩ : ∃ rest, spacedMembers .indented 0 (second :: others) = ',' :: rest :=
    ⟨_, rfl⟩
  have text : spacedChars .indented 0 (.object ((name, .string value) :: second :: others)) =
      '{' :: Spacing.indented.opening 0 ++ quoted name ++
        ':' :: (Spacing.indented.value ++ quoted value) ++ ',' :: rest := by
    rw [spacedChars, following]
    rfl
  rw [text]
  refine read_first_member (Spacing.indented.opening_spaces 0) Spacing.indented.value_spaces name
    value rest ?_
  simp only [List.length_append, List.length_cons]
  omega

/-- Once a member was read, the slots of a layout keep a condition that gives a property of the
result. -/
structure Layout.Settles {ρ α : Type} (layout : Layout ρ α) (name : String) (node : Node)
    (sound : layout.Slots → Prop) (property : α → Prop) : Prop where
  known : (layout.fill name).isSome = true
  first : ∀ fill, layout.fill name = some fill → ∀ reading slots,
    Ensures (fill reading node slots) sound
  fill : ∀ key fill, layout.fill key = some fill → ∀ reading node slots, sound slots →
    Ensures (fill reading node slots) sound
  finish : ∀ slots, sound slots → Ensures (layout.finish slots) property

/-- A member gives the result of a layout a property, whatever other members there are. -/
def Layout.Tells {ρ α : Type} (layout : Layout ρ α) (name : String) (node : Node)
    (property : α → Prop) : Prop :=
  ∃ sound, layout.Settles name node sound property

namespace Layout.Tells

variable {ρ α β : Type} {name : String} {node : Node}

/-- A field is read once: its member cannot be overridden. -/
theorem single {make : α → β} {field : Field ρ α} {property : β → Prop}
    (decode : ∀ reading, Ensures (field.codec.decode reading node) fun value =>
      property (make value)) :
    ((Layout.empty make).also field).Tells field.name node property := by
  refine ⟨fun slots => ∃ value, slots.2 = some value ∧ property (make value), ?_, ?_, ?_, ?_⟩
  · simp [Layout.also, Layout.and, Layout.empty, Field.layout]
  · intro fill known reading slots
    simp only [Layout.also, Layout.and, Layout.empty, Field.layout, if_pos] at known
    obtain rfl := Option.some.inj known
    refine .map fun filled found => ?_
    split at found
    · cases found
    · have tells : Ensures (some <$> field.codec.decode reading node) fun filled =>
          ∃ value, filled = some value ∧ property (make value) :=
        .map fun value read => ⟨value, rfl, decode reading value read⟩
      exact tells filled found
  · -- A further member of the name is refused, since the slot is filled already.
    intro key fill known reading node slots holds
    obtain ⟨value, isRead, -⟩ := holds
    simp only [Layout.also, Layout.and, Layout.empty, Field.layout] at known
    split at known
    case h_1 again =>
      obtain rfl := Option.some.inj known
      refine .map fun filled found => ?_
      split at again
      · obtain rfl := Option.some.inj again
        simp [isRead] at found
      · cases again
    case h_2 => cases known
  · rintro slots ⟨value, isRead, holds⟩
    simp only [Layout.also, Layout.and, Layout.empty, Field.layout, isRead]
    exact .ok holds

theorem also {layout : Layout ρ (α → β)} {property : β → Prop}
    (tells : layout.Tells name node fun make => ∀ value, property (make value))
    (field : Field ρ α) : (layout.also field).Tells name node property := by
  obtain ⟨sound, settles⟩ := tells
  obtain ⟨reader, isReader⟩ := Option.isSome_iff_exists.mp settles.known
  refine ⟨fun slots => sound slots.1, ?_, ?_, ?_, ?_⟩
  · simp [Layout.also, Layout.and, isReader]
  · intro fill known reading slots
    simp only [Layout.also, Layout.and, isReader] at known
    obtain rfl := Option.some.inj known
    exact .map fun filled found => settles.first reader isReader reading slots.1 filled found
  · intro key fill known reading node slots holds
    simp only [Layout.also, Layout.and] at known
    split at known
    case h_1 fillFirst isFirst =>
      obtain rfl := Option.some.inj known
      exact .map fun filled found =>
        settles.fill key fillFirst isFirst reading node slots.1 holds filled found
    case h_2 =>
      split at known
      case h_1 =>
        obtain rfl := Option.some.inj known
        exact .map fun filled _ => holds
      case h_2 => cases known
  · intro slots holds
    exact .bind (settles.finish slots.1 holds) fun make makes =>
      .bind (.anything _) fun value _ => .ok (makes value)

/-- A record that begins with the member has the property, if it can be read. -/
theorem record {recordName : String} {layout : Layout α α} {property : α → Prop}
    (tells : layout.Tells name node property) (reading : Reading) (members : List (Node × Node)) :
    Ensures ((Codec.record recordName layout).decode reading
      (.object ((.text (Literal.escape name.toList), node) :: members))) property := by
  obtain ⟨sound, settles⟩ := tells
  obtain ⟨fill, isFill⟩ := Option.isSome_iff_exists.mp settles.known
  refine .bind (.anything _) fun inner _ => ?_
  refine .bind ?_ settles.finish
  have named : Ensures (Node.text (Literal.escape name.toList)).key (· = name) := by
    rw [key_text_escape]
    exact .ok rfl
  refine .bind named ?_
  rintro _ rfl
  rw [isFill]
  exact .bind (settles.first fill isFill inner layout.vacant) fun filled kept =>
    Layout.ensures_fillAll settles.fill inner members filled kept

end Layout.Tells
end TriggerLedger.Json
