import Mathlib.Data.List.Nodup
import TriggerLedger.Proofs.Json.Reading
/-!
# Codecs that read back

A value reads back when its node is decoded to the value itself, both straight
from a text and from a kept node, as long as there is room for its brackets.
-/

namespace TriggerLedger.Json

/-- Whether there is room for brackets at most `depth` deep. -/
def Reading.HasRoom (reading : Reading) (depth : Nat) : Prop :=
  match reading with
  | .direct room => depth < room
  | .kept => True

theorem Reading.start_hasRoom {depth : Nat} (small : depth < 128) :
    Reading.start.HasRoom depth :=
  small

theorem Reading.kept_hasRoom (depth : Nat) : Reading.kept.HasRoom depth :=
  trivial

/-- Entering a bracket leaves room for the brackets inside. -/
theorem Reading.HasRoom.enter {reading : Reading} {depth : Nat}
    (room : reading.HasRoom (depth + 1)) :
    ∃ inner, reading.enter = .ok inner ∧ inner.HasRoom depth := by
  cases reading with
  | direct size =>
      simp only [Reading.HasRoom] at room
      refine ⟨.direct (size - 1), ?_, ?_⟩
      · rw [Reading.enter, if_pos (by omega)]
      · simp only [Reading.HasRoom]
        omega
  | kept => exact ⟨.kept, rfl, trivial⟩

theorem toNode_ne_null {value : Json} (notNull : value ≠ .null) : value.toNode ≠ .null := by
  cases value with
  | null => exact absurd rfl notNull
  | real value =>
      simp only [toNode]
      split <;> simp
  | _ => simp [toNode]

theorem value?_ofInt_isSome {value : Int} (low : -half64 ≤ value) (high : value < word64) :
    (Numeral.ofInt value).value?.isSome := by
  rcases lt_or_ge value 0 with negative | nonnegative
  · rw [Numeral.value?_ofInt_negative negative low]
    rfl
  · lift value to Nat using nonnegative
    rw [Numeral.value?_ofInt_natural (by omega)]
    rfl

mutual

/-- The node of a readable value can be kept wherever there is room for it. -/
theorem Readable.isKeepable {depth : Nat} (room : Nat) (enough : depth < room) :
    (value : Json) → value.Readable depth → value.toNode.isKeepable room = true
  | .null, _ => rfl
  | .bool _, _ => rfl
  | .integer value, readable => by
      rw [toNode_integer]
      exact value?_ofInt_isSome readable.1 readable.2
  | .real value, readable => by
      obtain ⟨_, numeral, lexed, read⟩ := readable
      simp [toNode, lexed, Node.isKeepable, read]
  | .string value, _ => by simp [toNode, Node.isKeepable]
  | .array items, readable => by
      have inside := ItemsReadable.areKeepable (room - 1)
        (by have := readable.1; omega) items readable.2
      have positive := readable.1
      simp only [toNode, Node.isKeepable, inside, Bool.and_true, decide_eq_true_eq]
      omega
  | .object members, readable => by
      have inside := MembersReadable.haveKeepable (room - 1)
        (by have := readable.1; omega) members readable.2
      have positive := readable.1
      simp only [toNode, Node.isKeepable, inside, Bool.and_true, decide_eq_true_eq]
      omega

theorem ItemsReadable.areKeepable {depth : Nat} (room : Nat) (enough : depth < room) :
    (items : List Json) → ItemsReadable depth items →
      Node.areKeepable room (toNodes items) = true
  | [], _ => rfl
  | item :: items, readable => by
      simp [toNodes, Node.areKeepable, Readable.isKeepable room enough item readable.1,
        ItemsReadable.areKeepable room enough items readable.2]

theorem MembersReadable.haveKeepable {depth : Nat} (room : Nat) (enough : depth < room) :
    (members : List (String × Json)) → MembersReadable depth members →
      Node.haveKeepable room (toMemberNodes members) = true
  | [], _ => rfl
  | (_, value) :: members, readable => by
      simp [toMemberNodes, Node.haveKeepable, Readable.isKeepable room enough value readable.1,
        MembersReadable.haveKeepable room enough members readable.2]

end

theorem option_rel_self {α : Type} {relates : α → α → Prop} {value? : Option α}
    (each : ∀ value ∈ value?, relates value value) : Option.Rel relates value? value? := by
  cases value? with
  | none => exact .none
  | some value => exact .some (each value rfl)

/-- A value whose JSON form is readable and decodes to `other`. -/
structure Codec.ReadsAs {α : Type} (codec : Codec α) (depth : Nat) (value other : α) : Prop where
  readable : (codec.encode value).Readable depth
  decode : ∀ {reading : Reading}, reading.HasRoom depth →
    codec.decode reading (codec.encode value).toNode = .ok other

/-- A value whose JSON form is readable and decodes to the value. -/
abbrev Codec.ReadsBack {α : Type} (codec : Codec α) (depth : Nat) (value : α) : Prop :=
  codec.ReadsAs depth value value

namespace Codec.ReadsAs

variable {α : Type} {depth : Nat}

theorem string (value : String) : Codec.string.ReadsBack depth value where
  readable := trivial
  decode _ := by simp [Codec.string, toNode, Decoder.string]

theorem bool (value : Bool) : Codec.bool.ReadsBack depth value where
  readable := trivial
  decode _ := rfl

theorem decode_integer {low high value : Int} (expected : String) (reading : Reading)
    (fits : low ≤ value ∧ value < high) (wordFits : -half64 ≤ value ∧ value < word64) :
    Decoder.integer low high expected reading (Json.integer value).toNode = .ok value := by
  rw [toNode_integer]
  rcases lt_or_ge value 0 with negative | nonnegative
  · simp [Decoder.integer, Numeral.value?_ofInt_negative negative wordFits.1,
      Decoder.checkRange, fits]
  · lift value to Nat using nonnegative
    simp [Decoder.integer, Numeral.value?_ofInt_natural (show value < word64 by omega),
      Decoder.checkRange, fits]

theorem decode_natural {high value : Nat} {expected : String} {reading : Reading}
    (fits : value < high) (narrow : high ≤ word64) :
    Decoder.natural high expected reading (Json.natural value).toNode = .ok value := by
  have inRange : 0 ≤ (value : Int) ∧ (value : Int) < high := by omega
  rw [Decoder.natural, Json.natural, decode_integer expected reading inRange (by omega)]
  rfl

theorem readable_natural {value : Nat} (fits : value < word64) :
    (Json.natural value).Readable depth := by
  constructor <;> omega

theorem count {value : Nat} (fits : value < word64) : Codec.count.ReadsBack depth value where
  readable := readable_natural fits
  decode _ := decode_natural fits (by decide)

theorem unsigned {value : Nat} (fits : value < word64) :
    Codec.unsigned.ReadsBack depth value where
  readable := readable_natural fits
  decode _ := decode_natural fits (by decide)

theorem shortUnsigned {value : Nat} (fits : value < word32) :
    Codec.shortUnsigned.ReadsBack depth value where
  readable := readable_natural (fits.trans (by decide))
  decode _ := decode_natural fits (by decide)

theorem signed {value : Int} (fits : -half64 ≤ value ∧ value < half64) :
    Codec.signed.ReadsBack depth value := by
  have wordFits : -half64 ≤ value ∧ value < word64 :=
    ⟨fits.1, fits.2.trans (by decide)⟩
  exact ⟨wordFits, fun {reading} _ => decode_integer "i64" reading fits wordFits⟩

theorem real {value other : Binary64} (reads : value.ReadsAs other) :
    Codec.real.ReadsAs depth value other := by
  refine ⟨⟨other, reads⟩, fun _ => ?_⟩
  obtain ⟨numeral, lexed, read⟩ := reads
  simp [Codec.real, toNode, lexed, Decoder.real, read]

theorem real_rel {value? other? : Option Binary64}
    (reads : Option.Rel Binary64.ReadsAs value? other?) :
    Option.Rel (Codec.real.ReadsAs depth) value? other? := by
  cases reads with
  | none => exact .none
  | some reads => exact .some (real reads)

/-- The name of an alternative finds it when no two alternatives share a name. -/
theorem findName_name {alternatives : List α} {name : α → String} {value : α}
    (member : value ∈ alternatives) (distinct : (alternatives.map name).Nodup) :
    Decoder.findName alternatives name (name value) = .ok value := by
  rw [Decoder.findName]
  cases search : alternatives.find? (fun alternative => name alternative == name value) with
  | none =>
      rw [List.find?_eq_none] at search
      exact absurd (beq_self_eq_true (name value)) (search value member)
  | some other =>
      have named : name other = name value := by
        simpa using List.find?_some search
      have same : other = value :=
        List.inj_on_of_nodup_map distinct (List.mem_of_find?_eq_some search) member named
      simp only [same]

theorem choice {alternatives : List α} {name : α → String} {value : α}
    (member : value ∈ alternatives) (distinct : (alternatives.map name).Nodup) :
    (Codec.choice alternatives name).ReadsBack depth value where
  readable := trivial
  decode _ := by
    simp [Codec.choice, toNode, Decoder.choice, Decoder.name, findName_name member distinct]

/-- Nothing is read as nothing, and a value is told apart from it. -/
theorem option_rel {codec : Codec α} {value? other? : Option α}
    (reads : Option.Rel (codec.ReadsAs depth) value? other?)
    (notNull : ∀ value, codec.encode value ≠ .null) :
    codec.option.ReadsAs depth value? other? := by
  cases reads with
  | none => exact ⟨trivial, fun _ => rfl⟩
  | @some value other reads =>
      obtain ⟨readable, decode⟩ := reads
      refine ⟨readable, fun {reading} room => ?_⟩
      have decoded := decode room
      have different := toNode_ne_null (notNull value)
      simp only [Codec.option, Json.ofOption]
      cases node : (codec.encode value).toNode with
      | null => exact absurd node different
      | _ =>
          rw [node] at decoded
          simp [Decoder.option, decoded]

theorem option {codec : Codec α} {value? : Option α}
    (readsBack : ∀ value ∈ value?, codec.ReadsBack depth value)
    (notNull : ∀ value, codec.encode value ≠ .null) : codec.option.ReadsBack depth value? :=
  option_rel (option_rel_self readsBack) notNull

theorem all {codec : Codec α} {reading : Reading} {values others : List α}
    (room : reading.HasRoom depth) (reads : List.Forall₂ (codec.ReadsAs depth) values others) :
    ItemsReadable depth (values.map codec.encode) ∧
      Decoder.all codec.decode reading (toNodes (values.map codec.encode)) = .ok others := by
  induction reads with
  | nil => exact ⟨trivial, rfl⟩
  | cons first rest induction =>
      obtain ⟨readable, decoded⟩ := induction
      refine ⟨⟨first.readable, readable⟩, ?_⟩
      simp [toNodes, Decoder.all, first.decode room, decoded]

theorem list_forall₂ {codec : Codec α} {values others : List α}
    (reads : List.Forall₂ (codec.ReadsAs depth) values others) :
    codec.list.ReadsAs (depth + 1) values others where
  readable := ⟨by omega, (all (Reading.kept_hasRoom depth) reads).1⟩
  decode {reading} room := by
    obtain ⟨inner, entered, innerRoom⟩ := room.enter
    simp only [Codec.list, toNode, Decoder.list, entered]
    exact (all innerRoom reads).2

theorem list {codec : Codec α} {values : List α}
    (readsBack : ∀ value ∈ values, codec.ReadsBack depth value) :
    codec.list.ReadsBack (depth + 1) values :=
  list_forall₂ (List.forall₂_same.mpr readsBack)

/-- The compact text of a value decodes to what the value reads as. -/
theorem run_compact {codec : Codec α} {value other : α} (reads : codec.ReadsAs depth value other)
    (small : depth < 128) : codec.decode.run (codec.encode value).compact = .ok other := by
  have node : Node.ofText (codec.encode value).compactChars =
      ((codec.encode value).toNode, true) := by
    rw [compactChars_eq 0]
    exact ofText_spacedChars .compact reads.readable
  simp [Decoder.run, compact, node, reads.decode (Reading.start_hasRoom small)]

theorem run_pretty {codec : Codec α} {value other : α} (reads : codec.ReadsAs depth value other)
    (small : depth < 128) : codec.decode.run (codec.encode value).pretty = .ok other := by
  have node : Node.ofText ((codec.encode value).prettyChars 0) =
      ((codec.encode value).toNode, true) := by
    rw [prettyChars_eq]
    exact ofText_spacedChars .indented reads.readable
  simp [Decoder.run, pretty, node, reads.decode (Reading.start_hasRoom small)]

end Codec.ReadsAs
end TriggerLedger.Json
