import TriggerLedger.Json.Record
import TriggerLedger.Proofs.Json.Codecs
/-!
# Records that read back

The members that a layout writes fill its slots again.  This is built up field
by field: a field that is written is read by its codec, one that is not written
has its value for an absent key, and no two fields share a name.
-/

namespace TriggerLedger.Json

theorem toMemberNodes_append (first second : List (String × Json)) :
    toMemberNodes (first ++ second) = toMemberNodes first ++ toMemberNodes second := by
  induction first with
  | nil => rfl
  | cons member first induction => simp [toMemberNodes, induction]

theorem membersReadable_append {depth : Nat} {first second : List (String × Json)} :
    MembersReadable depth (first ++ second) ↔
      MembersReadable depth first ∧ MembersReadable depth second := by
  induction first with
  | nil => simp [MembersReadable]
  | cons member first induction => simp [MembersReadable, induction, and_assoc]

@[simp]
theorem key_text_escape (name : String) :
    (Node.text (Literal.escape name.toList)).key = .ok name := by
  simp [Node.key]

namespace Layout

variable {ρ α β : Type} {reading : Reading}

theorem fillAll_append {layout : Layout ρ α} {slots filled : layout.Slots}
    {first : List (Node × Node)} (second : List (Node × Node))
    (ok : layout.fillAll reading slots first = .ok filled) :
    layout.fillAll reading slots (first ++ second) = layout.fillAll reading filled second := by
  induction first generalizing slots with
  | nil =>
      obtain rfl : slots = filled := by simpa [fillAll] using ok
      rfl
  | cons member first induction =>
      simp only [fillAll, List.cons_append, bind, Except.bind] at ok ⊢
      cases named : member.1.key with
      | error fault => simp [named] at ok
      | ok name =>
          simp only [named] at ok ⊢
          cases known : layout.fill name with
          | none =>
              simp only [known] at ok ⊢
              cases skipped : reading.skip member.2 with
              | error fault => simp [skipped] at ok
              | ok _ =>
                  simp only [skipped] at ok ⊢
                  exact induction ok
          | some fill =>
              simp only [known] at ok ⊢
              cases read : fill reading member.2 slots with
              | error fault => simp [read] at ok
              | ok next =>
                  simp only [read] at ok ⊢
                  exact induction ok

/-- Members with keys of the first of two layouts only fill its slots. -/
theorem fillAll_and_first {first : Layout ρ (α → β)} (second : Layout ρ α)
    {slots filled : first.Slots} (others : second.Slots) {members : List (String × Json)}
    (known : ∀ member ∈ members, (first.fill member.1).isSome)
    (ok : first.fillAll reading slots (toMemberNodes members) = .ok filled) :
    (first.and second).fillAll reading (slots, others) (toMemberNodes members) =
      .ok (filled, others) := by
  induction members generalizing slots with
  | nil =>
      obtain rfl : slots = filled := by simpa [fillAll, toMemberNodes] using ok
      rfl
  | cons member members induction =>
      obtain ⟨fill, found⟩ := Option.isSome_iff_exists.mp (known member List.mem_cons_self)
      simp only [toMemberNodes, fillAll, key_text_escape, bind, Except.bind, found, Layout.and]
        at ok ⊢
      cases read : fill reading member.2.toNode slots with
      | error fault => simp [read] at ok
      | ok next =>
          simp only [read] at ok
          exact induction (fun other later => known other (List.mem_cons_of_mem member later)) ok

/-- Members without keys of the first of two layouts leave its slots alone. -/
theorem fillAll_and_second {first : Layout ρ (α → β)} {second : Layout ρ α}
    (slots : first.Slots) {others filled : second.Slots} {members : List (String × Json)}
    (unknown : ∀ member ∈ members, first.fill member.1 = none)
    (ok : second.fillAll reading others (toMemberNodes members) = .ok filled) :
    (first.and second).fillAll reading (slots, others) (toMemberNodes members) =
      .ok (slots, filled) := by
  induction members generalizing others with
  | nil =>
      obtain rfl : others = filled := by simpa [fillAll, toMemberNodes] using ok
      rfl
  | cons member members induction =>
      have notFirst := unknown member List.mem_cons_self
      have rest : ∀ other ∈ members, first.fill other.1 = none :=
        fun other later => unknown other (List.mem_cons_of_mem member later)
      simp only [toMemberNodes, fillAll, key_text_escape, bind, Except.bind, notFirst, Layout.and]
        at ok ⊢
      cases found : second.fill member.1 with
      | none =>
          simp only [found] at ok ⊢
          cases skipped : reading.skip member.2.toNode with
          | error fault => simp [skipped] at ok
          | ok _ =>
              simp only [skipped] at ok ⊢
              exact induction rest ok
      | some fill =>
          simp only [found] at ok ⊢
          cases read : fill reading member.2.toNode others with
          | error fault => simp [read] at ok
          | ok next =>
              simp only [read] at ok ⊢
              exact induction rest ok

end Layout

/-- A layout with the keys `names` whose members for a record are read as a value. -/
structure Layout.ReadsAs {ρ α : Type} (layout : Layout ρ α) (names : List String)
    (depth : Nat) (record : ρ) (value : α) : Prop where
  knows : ∀ name, (layout.fill name).isSome ↔ name ∈ names
  written : ∀ member ∈ layout.write record, member.1 ∈ names
  readable : MembersReadable depth (layout.write record)
  filled : ∀ {reading : Reading}, reading.HasRoom depth →
    ∃ slots, layout.fillAll reading layout.vacant (toMemberNodes (layout.write record)) =
      .ok slots ∧ layout.finish slots = .ok value

/-- A field that is written to be read as a value, or left out where its absence stands for it. -/
def Field.ReadsAs {ρ α : Type} (field : Field ρ α) (depth : Nat) (record : ρ) (value : α) : Prop :=
  if field.isWritten (field.get record) then field.codec.ReadsAs depth (field.get record) value
  else field.absence.inObject = some value

/-- A field that is written to be read back, or left out for its own absence. -/
abbrev Field.ReadsBack {ρ α : Type} (field : Field ρ α) (depth : Nat) (record : ρ) : Prop :=
  field.ReadsAs depth record (field.get record)

namespace Layout.ReadsAs

variable {ρ α β : Type} {depth : Nat} {record : ρ}

theorem empty (value : α) : (Layout.empty value).ReadsAs [] depth record value where
  knows := by simp [Layout.empty]
  written := by simp [Layout.empty]
  readable := trivial
  filled _ := ⟨(), rfl, rfl⟩

/-- Two layouts without a common key are read together. -/
theorem and {first : Layout ρ (α → β)} {second : Layout ρ α} {names others : List String}
    {make : α → β} {value : α} (firstReads : first.ReadsAs names depth record make)
    (secondReads : second.ReadsAs others depth record value)
    (disjoint : ∀ name ∈ others, name ∉ names) :
    (first.and second).ReadsAs (names ++ others) depth record (make value) where
  knows name := by
    have knowsFirst := firstReads.knows name
    have knowsSecond := secondReads.knows name
    rw [List.mem_append, ← knowsFirst, ← knowsSecond]
    simp only [Layout.and]
    cases first.fill name <;> cases second.fill name <;> simp
  written member present := by
    rcases List.mem_append.mp present with inFirst | inSecond
    · exact List.mem_append_left others (firstReads.written member inFirst)
    · exact List.mem_append_right names (secondReads.written member inSecond)
  readable := membersReadable_append.mpr ⟨firstReads.readable, secondReads.readable⟩
  filled {reading} room := by
    obtain ⟨firstSlots, firstFilled, firstFinished⟩ := firstReads.filled room
    obtain ⟨secondSlots, secondFilled, secondFinished⟩ := secondReads.filled room
    have known : ∀ member ∈ first.write record, (first.fill member.1).isSome :=
      fun member present => (firstReads.knows member.1).mpr (firstReads.written member present)
    have unknown : ∀ member ∈ second.write record, first.fill member.1 = none := by
      intro member present
      have fresh := disjoint member.1 (secondReads.written member present)
      rw [← firstReads.knows] at fresh
      simpa using fresh
    -- The members of the first layout come first, and fill its slots before the others.
    refine ⟨(firstSlots, secondSlots), ?_, ?_⟩
    · have whole := Layout.fillAll_append (toMemberNodes (second.write record))
        (Layout.fillAll_and_first second second.vacant known firstFilled)
      have rest := Layout.fillAll_and_second firstSlots unknown secondFilled
      change (first.and second).fillAll reading (first.vacant, second.vacant)
        (toMemberNodes (first.write record ++ second.write record)) = _
      rw [toMemberNodes_append, whole, rest]
    · simp [Layout.and, firstFinished, secondFinished]
      rfl

theorem single {field : Field ρ α} {value : α} (reads : field.ReadsAs depth record value) :
    field.layout.ReadsAs [field.name] depth record value := by
  have knows (name : String) : (field.layout.fill name).isSome ↔ name ∈ [field.name] := by
    by_cases same : name = field.name <;> simp [Field.layout, same]
  by_cases written : field.isWritten (field.get record)
  · rw [Field.ReadsAs, if_pos written] at reads
    have write : field.layout.write record =
        [(field.name, field.codec.encode (field.get record))] := by
      simp [Field.layout, written]
    refine ⟨knows, by simp [write], ?_, fun room => ⟨some value, ?_, rfl⟩⟩
    · rw [write]
      exact ⟨reads.readable, trivial⟩
    · rw [write]
      simp [toMemberNodes, Layout.fillAll, Field.layout, reads.decode room, bind, Except.bind]
  · rw [Field.ReadsAs, if_neg written] at reads
    have write : field.layout.write record = [] := by simp [Field.layout, written]
    refine ⟨knows, by simp [write], ?_, fun room => ⟨none, ?_, ?_⟩⟩
    · rw [write]
      trivial
    · rw [write]
      rfl
    · simp [Field.layout, reads]

theorem also {layout : Layout ρ (α → β)} {field : Field ρ α} {names : List String} {make : α → β}
    {value : α} (layoutReads : layout.ReadsAs names depth record make)
    (fieldReads : field.ReadsAs depth record value) (fresh : field.name ∉ names) :
    (layout.also field).ReadsAs (names ++ [field.name]) depth record (make value) :=
  layoutReads.and (single fieldReads) (by simpa using fresh)

end Layout.ReadsAs

namespace Field.ReadsAs

variable {ρ α : Type} {depth : Nat} {record : ρ} {name : String} {codec : Codec α}

theorem required {get : ρ → α} {value : α} (reads : codec.ReadsAs depth (get record) value) :
    (Field.required name get codec).ReadsAs depth record value :=
  reads

/-- A default value is written like any other. -/
theorem defaulted {default : α} {get : ρ → α} (readsBack : codec.ReadsBack depth (get record)) :
    (Field.defaulted name default get codec).ReadsBack depth record :=
  readsBack

theorem nullable {get : ρ → Option α}
    (readsBack : ∀ value ∈ get record, codec.ReadsBack depth value)
    (notNull : ∀ value, codec.encode value ≠ .null) :
    (Field.nullable name get codec).ReadsBack depth record :=
  Codec.ReadsAs.option readsBack notNull

theorem optional {get : ρ → Option α}
    (readsBack : ∀ value ∈ get record, codec.ReadsBack depth value)
    (notNull : ∀ value, codec.encode value ≠ .null) :
    (Field.optional name get codec).ReadsBack depth record :=
  Codec.ReadsAs.option readsBack notNull

/-- Nothing is not written by a sparse field, and an absent key stands for nothing. -/
theorem sparse_rel {get : ρ → Option α} {other? : Option α}
    (reads : Option.Rel (codec.ReadsAs depth) (get record) other?)
    (notNull : ∀ value, codec.encode value ≠ .null) :
    (Field.sparse name get codec).ReadsAs depth record other? := by
  have option := Codec.ReadsAs.option_rel reads notNull
  cases value : get record with
  | none =>
      rw [value] at reads
      cases reads
      simp [Field.ReadsAs, Field.sparse, value]
  | some present => simpa [Field.ReadsAs, Field.sparse, value] using option

theorem sparse {get : ρ → Option α}
    (readsBack : ∀ value ∈ get record, codec.ReadsBack depth value)
    (notNull : ∀ value, codec.encode value ≠ .null) :
    (Field.sparse name get codec).ReadsBack depth record :=
  sparse_rel (option_rel_self readsBack) notNull

end Field.ReadsAs

/-- A record whose members are read as a value is read as this value from an object. -/
theorem Codec.ReadsAs.record {α : Type} {name : String} {layout : Layout α α}
    {names : List String} {depth : Nat} {value other : α}
    (reads : layout.ReadsAs names depth value other) :
    (Codec.record name layout).ReadsAs (depth + 1) value other where
  readable := ⟨by omega, reads.readable⟩
  decode {reading} room := by
    obtain ⟨inner, entered, innerRoom⟩ := room.enter
    obtain ⟨slots, filled, finished⟩ := reads.filled innerRoom
    simp [Codec.record, toNode, Layout.decode, entered, filled, finished, bind, Except.bind]

end TriggerLedger.Json
