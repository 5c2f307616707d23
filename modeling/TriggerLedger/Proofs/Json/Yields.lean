import TriggerLedger.Json.Record
/-!
# What decoders yield

A decoder has the last word on the values that it yields: a number is within the
bounds of its field whatever the text was.  This is built up along the codecs, as
reading back is, but for any node and not only for those that were written.
-/

namespace TriggerLedger.Json

variable {α β ρ : Type}

/-- A result that has a property, unless it is a refusal. -/
def Ensures (result : Except DecodeError α) (property : α → Prop) : Prop :=
  ∀ value, result = .ok value → property value

namespace Ensures

variable {property : α → Prop} {other : β → Prop}

theorem ok {value : α} (holds : property value) : Ensures (.ok value) property := by
  intro found same
  exact Except.ok.inj same ▸ holds

theorem error (fault : DecodeError) (property : α → Prop) : Ensures (.error fault) property := by
  intro found same
  cases same

theorem bind {result : Except DecodeError α} {next : α → Except DecodeError β}
    (first : Ensures result property) (rest : ∀ value, property value → Ensures (next value) other) :
    Ensures (result >>= next) other := by
  cases result with
  | error fault => exact error fault other
  | ok value => exact rest value (first value rfl)

theorem map {result : Except DecodeError α} {make : α → β}
    (first : Ensures result fun value => other (make value)) : Ensures (make <$> result) other := by
  cases result with
  | error fault => exact error fault other
  | ok value => exact ok (first value rfl)

theorem anything (result : Except DecodeError α) : Ensures result fun _ => True :=
  fun _ _ => trivial

theorem refuse (node : Node) (expected : String) (property : α → Prop) :
    Ensures (node.refuse expected) property := by
  rw [Node.refuse]
  cases node.found with
  | ok found => exact error _ property
  | error fault => exact error fault property

end Ensures

namespace Decoder

theorem decode_of_run {decode : Decoder α} {text : String} {value : α}
    (read : decode.run text = .ok value) :
    decode .start (Node.ofText text.toList).1 = .ok value := by
  simp only [run] at read
  split at read
  case h_1 => cases read
  case h_2 found decoded =>
    split at read
    · exact Except.ok.inj read ▸ decoded
    · cases read

/-- Whatever a decoder reads, the value that it yields has a property. -/
def Yields (decode : Decoder α) (property : α → Prop) : Prop :=
  ∀ reading node, Ensures (decode reading node) property

theorem ensures_checkRange (low high : Int) (expected : String) (value : Int) :
    Ensures (checkRange low high expected value) fun value => low ≤ value ∧ value < high := by
  rw [checkRange]
  split
  case isTrue inside => exact .ok inside
  case isFalse => exact .error _ _

namespace Yields

variable {decode : Decoder α} {property : α → Prop}

theorem anything (decode : Decoder α) : decode.Yields fun _ => True :=
  fun _ _ => .anything _

theorem integer (low high : Int) (expected : String) :
    (Decoder.integer low high expected).Yields fun value => low ≤ value ∧ value < high := by
  intro reading node
  cases node with
  | number numeral =>
      simp only [Decoder.integer]
      cases numeral.value? with
      | none => exact .error _ _
      | some value =>
          cases value with
          | natural value => exact ensures_checkRange low high expected value
          | negative value => exact ensures_checkRange low high expected value
          | real value => exact .error _ _
  | _ =>
      rw [Decoder.integer]
      · exact .refuse _ expected _
      · nofun

theorem natural (high : Nat) (expected : String) :
    (Decoder.natural high expected).Yields fun value => value < high := by
  intro reading node
  refine .map fun value found => ?_
  have inside := integer 0 high expected reading node value found
  change value.toNat < high
  omega

theorem option (yields : decode.Yields property) :
    decode.option.Yields fun value? => ∀ value ∈ value?, property value := by
  have present (reading : Reading) (node : Node) :
      Ensures (some <$> decode reading node) fun value? => ∀ value ∈ value?, property value :=
    .map fun value found => by
      rintro _ ⟨rfl⟩
      exact yields reading node value found
  intro reading node
  cases node with
  | null => exact .ok nofun
  | _ => exact present reading _

theorem all (yields : decode.Yields property) (reading : Reading) (nodes : List Node) :
    Ensures (Decoder.all decode reading nodes) fun values => ∀ value ∈ values, property value := by
  induction nodes with
  | nil => exact .ok (by simp)
  | cons node nodes induction =>
      rw [Decoder.all]
      cases found : decode reading node with
      | error fault => exact .error _ _
      | ok first =>
          exact .map fun values rest =>
            List.forall_mem_cons.mpr ⟨yields reading node first found, induction values rest⟩

theorem list (yields : decode.Yields property) :
    decode.list.Yields fun values => ∀ value ∈ values, property value := by
  intro reading node
  cases node with
  | array items => exact .bind (.anything _) fun inner _ => all yields inner items
  | _ =>
      rw [Decoder.list]
      · exact .refuse _ _ _
      · nofun

/-- A value that was read from a text has what its decoder yields. -/
theorem run {text : String} {value : α} (yields : decode.Yields property)
    (read : decode.run text = .ok value) : property value :=
  yields _ _ value (decode_of_run read)

end Yields
end Decoder

/-- A condition that holds of the slots when any member is read holds when all are read. -/
theorem Layout.ensures_fillAll {layout : Layout ρ α} {sound : layout.Slots → Prop}
    (keeps : ∀ key fill, layout.fill key = some fill → ∀ reading node slots, sound slots →
      Ensures (fill reading node slots) sound)
    (reading : Reading) (members : List (Node × Node)) :
    ∀ slots, sound slots → Ensures (layout.fillAll reading slots members) sound := by
  induction members with
  | nil => exact fun slots holds => .ok holds
  | cons member members induction =>
      intro slots holds
      refine .bind (.anything _) fun name _ => ?_
      cases known : layout.fill name with
      | none => exact .bind (.anything _) fun _ _ => induction slots holds
      | some fill =>
          exact .bind (keeps name fill known reading member.2 slots holds) fun filled kept =>
            induction filled kept

/-- The slots of a layout keep a condition that gives the property of the result. -/
structure Layout.Keeps (layout : Layout ρ α) (sound : layout.Slots → Prop)
    (property : α → Prop) : Prop where
  vacant : sound layout.vacant
  fill : ∀ key fill, layout.fill key = some fill → ∀ reading node slots, sound slots →
    Ensures (fill reading node slots) sound
  finish : ∀ slots, sound slots → Ensures (layout.finish slots) property
  take : ∀ expected reading index items,
    Ensures (layout.take expected reading index items) fun taken => property taken.1

/-- Whatever fields a layout reads, from an object or from an array, the result has a property. -/
def Layout.Yields (layout : Layout ρ α) (property : α → Prop) : Prop :=
  ∃ sound, layout.Keeps sound property

/-- Whatever a field reads, or stands for when it is left out, has a property. -/
structure Field.Yields (field : Field ρ α) (property : α → Prop) : Prop where
  decode : field.codec.decode.Yields property
  inObject : ∀ value ∈ field.absence.inObject, property value
  inArray : ∀ value ∈ field.absence.inArray, property value

namespace Field.Yields

variable {name : String} {codec : Codec α} {property : α → Prop}

theorem required {get : ρ → α} (yields : codec.decode.Yields property) :
    (Field.required name get codec).Yields property :=
  ⟨yields, nofun, nofun⟩

theorem nullable {get : ρ → Option α} (yields : codec.decode.Yields property) :
    (Field.nullable name get codec).Yields fun value? => ∀ value ∈ value?, property value := by
  refine ⟨yields.option, ?_, nofun⟩
  rintro _ ⟨rfl⟩
  exact nofun

theorem sparse {get : ρ → Option α} (yields : codec.decode.Yields property) :
    (Field.sparse name get codec).Yields fun value? => ∀ value ∈ value?, property value := by
  constructor
  · exact yields.option
  all_goals
    rintro _ ⟨rfl⟩
    exact nofun

theorem layout {field : Field ρ α} (yields : field.Yields property) :
    field.layout.Yields property := by
  refine ⟨fun slot : Option α => ∀ value ∈ slot, property value, nofun, ?_, ?_, ?_⟩
  · intro key fill known reading node slot _
    simp only [Field.layout] at known
    split at known
    · obtain rfl := Option.some.inj known
      dsimp only
      split
      · exact .error _ _
      · refine .map fun value found => ?_
        rintro _ ⟨rfl⟩
        exact yields.decode reading node value found
    · cases known
  · intro slot sound
    simp only [Field.layout]
    cases slot with
    | some value => exact .ok (sound value rfl)
    | none =>
        cases absent : field.absence.inObject with
        | none => exact .error _ _
        | some value => exact .ok (yields.inObject value absent)
  · intro expected reading index items
    simp only [Field.layout]
    cases items with
    | nil =>
        cases absent : field.absence.inArray with
        | none => exact .error _ _
        | some value => exact .ok (yields.inArray value absent)
    | cons item items =>
        exact .bind (yields.decode reading item) fun value holds => .ok holds

end Field.Yields

namespace Layout.Yields

variable {property : α → Prop}

theorem empty {value : α} (holds : property value) :
    (Layout.empty value : Layout ρ α).Yields property :=
  ⟨fun _ => True, trivial, nofun, fun _ _ => .ok holds, fun _ _ _ _ => .ok holds⟩

theorem and {first : Layout ρ (α → β)} {second : Layout ρ α} {result : β → Prop}
    (makes : first.Yields fun make => ∀ value, property value → result (make value))
    (yields : second.Yields property) : (first.and second).Yields result := by
  obtain ⟨soundFirst, keepsFirst⟩ := makes
  obtain ⟨soundSecond, keepsSecond⟩ := yields
  refine ⟨fun slots => soundFirst slots.1 ∧ soundSecond slots.2,
    ⟨keepsFirst.vacant, keepsSecond.vacant⟩, ?_, ?_, ?_⟩
  · intro key fill known reading node slots sound
    simp only [Layout.and] at known
    split at known
    case h_1 fillFirst isFirst =>
      obtain rfl := Option.some.inj known
      exact .map fun filled found =>
        ⟨keepsFirst.fill key fillFirst isFirst reading node slots.1 sound.1 filled found, sound.2⟩
    case h_2 =>
      split at known
      case h_1 fillSecond isSecond =>
        obtain rfl := Option.some.inj known
        exact .map fun filled found =>
          ⟨sound.1, keepsSecond.fill key fillSecond isSecond reading node slots.2 sound.2 filled found⟩
      case h_2 => cases known
  · intro slots sound
    exact .bind (keepsFirst.finish slots.1 sound.1) fun make makesResult =>
      .bind (keepsSecond.finish slots.2 sound.2) fun value holds => .ok (makesResult value holds)
  · intro expected reading index items
    exact .bind (keepsFirst.take expected reading index items) fun made makesResult =>
      .bind (keepsSecond.take expected reading (index + first.size) made.2) fun taken holds =>
        .ok (makesResult taken.1 holds)

theorem also {layout : Layout ρ (α → β)} {field : Field ρ α} {result : β → Prop}
    (makes : layout.Yields fun make => ∀ value, property value → result (make value))
    (yields : field.Yields property) : (layout.also field).Yields result :=
  makes.and yields.layout

theorem decode {layout : Layout ρ α} (yields : layout.Yields property) (expected : String) :
    (layout.decode expected).Yields property := by
  obtain ⟨sound, keeps⟩ := yields
  intro reading node
  cases node with
  | object members =>
      exact .bind (.anything _) fun inner _ =>
        .bind (ensures_fillAll keeps.fill inner members layout.vacant keeps.vacant) keeps.finish
  | array items =>
      refine .bind (.anything _) fun inner _ =>
        .bind (keeps.take _ inner 0 items) fun taken holds => ?_
      dsimp only
      split
      · exact .ok holds
      · cases reading <;> exact .error _ _
  | _ =>
      rw [Layout.decode]
      · exact .refuse _ expected _
      · nofun
      · nofun

end Layout.Yields

/-- The codec of a record yields what its layout yields. -/
theorem Decoder.Yields.record {name : String} {layout : Layout α α} {property : α → Prop}
    (yields : layout.Yields property) : (Codec.record name layout).decode.Yields property :=
  yields.decode _

end TriggerLedger.Json
