import TriggerLedger.Proofs.Event.Records
/-!
# Events read back

The kind of an event is separated from its members, which are kept as they are
and read as the record of that kind.
-/

namespace TriggerLedger.Event

open Json

/-- The numbers of an event fit their fields. -/
def Fits : Event → Prop
  | .invocation record => record.Fits
  | .decision record => record.Fits
  | .trigger record => record.Fits
  | .latency record => record.Fits

/-- The classifier values of an event survive their own digits. -/
def RealsReadBack : Event → Prop
  | .trigger record => record.RealsReadBack
  | _ => True

/-- The event that is read where the classifier values of an event are read from their digits. -/
inductive RealsReadAs : Event → Event → Prop where
  | invocation (record : InvocationRecord) : RealsReadAs (.invocation record) (.invocation record)
  | decision (record : DecisionRecord) : RealsReadAs (.decision record) (.decision record)
  | trigger {record other : TriggerRecord} :
      record.RealsReadAs other → RealsReadAs (.trigger record) (.trigger other)
  | latency (record : LatencyRecord) : RealsReadAs (.latency record) (.latency record)

theorem RealsReadBack.readsAs {event : Event} (reals : event.RealsReadBack) :
    event.RealsReadAs event := by
  cases event with
  | invocation record => exact .invocation record
  | decision record => exact .decision record
  | trigger record => exact .trigger (TriggerRecord.RealsReadBack.readsAs reals)
  | latency record => exact .latency record

/-- A readable value is kept unchanged where there is room for it. -/
theorem keep_toNode {reading : Reading} {depth : Nat} {value : Json}
    (room : reading.HasRoom depth) (readable : value.Readable depth) :
    keep reading value.toNode = .ok value.toNode := by
  cases reading with
  | direct size => simp [keep, Readable.isKeepable size room value readable]
  | kept => rfl

/-- Members that do not name a kind are kept in order. -/
theorem separateKind_members {reading : Reading} {depth : Nat} (kind : Option EventKind)
    {members : List (String × Json)} (room : reading.HasRoom depth)
    (readable : MembersReadable depth members) (plain : ∀ member ∈ members, member.1 ≠ kindKey) :
    separateKind reading kind (toMemberNodes members) = .ok (kind, toMemberNodes members) := by
  induction members with
  | nil => rfl
  | cons member members induction =>
      have first : member.1 ≠ kindKey := plain member List.mem_cons_self
      have rest := induction readable.2 fun other later =>
        plain other (List.mem_cons_of_mem member later)
      simp [toMemberNodes, separateKind, first, keep_toNode room readable.1, rest, bind,
        Except.bind, pure, Except.pure]

/-- What the members of an event must do for the event to be read as another. -/
structure MembersReadAs (event : Event) (depth : Nat) (other : Event) : Prop where
  readable : MembersReadable depth event.members
  plain : ∀ member ∈ event.members, member.1 ≠ kindKey
  decode : decodeKind event.kind (.object (toMemberNodes event.members)) = .ok other

/-- The members of a record are read as the event of its kind. -/
theorem membersReadAs_of_layout {α : Type} {layout : Layout α α} (typeName : String)
    {names : List String} {depth : Nat} {record read : α} {event other : Event}
    (plain : kindKey ∉ names) (reads : layout.ReadsAs names depth record read)
    (members : event.members = layout.write record)
    (decode : ∀ node, (Codec.record typeName layout).decode .kept node = .ok read →
      decodeKind event.kind node = .ok other) : event.MembersReadAs depth other where
  readable := by
    rw [members]
    exact reads.readable
  plain member present := by
    rw [members] at present
    rintro named
    exact plain (named ▸ reads.written member present)
  decode := by
    rw [members]
    exact decode _ ((Codec.ReadsAs.record reads).decode (Reading.kept_hasRoom _))

theorem members_readAs (depth : Nat) {event other : Event} (fits : event.Fits)
    (reals : event.RealsReadAs other) : event.MembersReadAs (depth + 1) other := by
  cases reals with
  | invocation record =>
      obtain ⟨names, plain, readsBack⟩ := InvocationRecord.layout_readsBack depth fits
      refine membersReadAs_of_layout "ServiceInvocation" plain readsBack rfl ?_
      intro node decoded
      simp [decodeKind, kind, InvocationRecord.codec, decoded]
  | decision record =>
      obtain ⟨names, plain, readsBack⟩ := DecisionRecord.layout_readsBack depth fits
      refine membersReadAs_of_layout "UserDecision" plain readsBack rfl ?_
      intro node decoded
      simp [decodeKind, kind, DecisionRecord.codec, decoded]
  | trigger reals =>
      obtain ⟨names, plain, readsBack⟩ := TriggerRecord.layout_readsAs depth fits reals
      refine membersReadAs_of_layout "UserTriggerDecision" plain readsBack rfl ?_
      intro node decoded
      simp [decodeKind, kind, TriggerRecord.codec, decoded]
  | latency record =>
      obtain ⟨names, plain, readsBack⟩ := LatencyRecord.layout_readsBack depth fits
      refine membersReadAs_of_layout "ClientComponentLatency" plain readsBack rfl ?_
      intro node decoded
      simp [decodeKind, kind, LatencyRecord.codec, decoded]

theorem decodeKindName_name (reading : Reading) (kind : EventKind) :
    decodeKindName reading (Json.string kind.name).toNode = .ok kind := by
  have found : Decoder.findName EventKind.all EventKind.name kind.name = .ok kind :=
    Codec.ReadsAs.findName_name (by cases kind <;> decide) (by decide)
  simp [decodeKindName, toNode, Decoder.name, found]

/-- Events of each kind are read as what their classifier values are read as. -/
theorem codec_readsAs (depth : Nat) {event other : Event} (fits : event.Fits)
    (reals : event.RealsReadAs other) : codec.ReadsAs (depth + 2) event other := by
  have members := members_readAs depth fits reals
  refine ⟨⟨by omega, trivial, members.readable⟩, fun {reading} room => ?_⟩
  obtain ⟨inner, entered, innerRoom⟩ := room.enter
  have name := decodeKindName_name inner event.kind
  have others := separateKind_members (some event.kind) innerRoom members.readable members.plain
  simp only [codec, encode, toNode, toMemberNodes, decode, entered, separateKind, key_text_escape,
    if_true, bind, Except.bind, Option.isSome_none, Bool.false_eq_true, if_false]
  rw [toNode] at name
  simp only [name, others]
  exact members.decode

theorem codec_readsBack (depth : Nat) {event : Event} (fits : event.Fits)
    (reals : event.RealsReadBack) : codec.ReadsBack (depth + 2) event :=
  codec_readsAs depth fits reals.readsAs

end TriggerLedger.Event
