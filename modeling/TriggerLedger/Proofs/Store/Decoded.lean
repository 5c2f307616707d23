import TriggerLedger.Proofs.Json.FirstMember
import TriggerLedger.Proofs.Json.Yields
import TriggerLedger.Proofs.Store.ReadsBack
/-!
# Decoded logs

Whatever a file holds, a log that can be read from it has numbers that fit their
fields and times of the calendar.  Such a log can be written and read again.
-/

namespace TriggerLedger

open Json

namespace Json.Decoder.Yields

theorem count : Codec.count.decode.Yields (· < word64) :=
  natural word64 "usize"

theorem unsigned : Codec.unsigned.decode.Yields (· < word64) :=
  natural word64 "u64"

theorem shortUnsigned : Codec.shortUnsigned.decode.Yields (· < word32) :=
  natural word32 "u32"

theorem signed : Codec.signed.decode.Yields FitsSigned :=
  integer (-half64) half64 "i64"

end Json.Decoder.Yields

/-- Timestamps out of the calendar are refused. -/
theorem Instant.inCalendar_of_readTimestamp {text : List Char} {instant : Instant}
    (read : readTimestamp text = some instant) : instant.inCalendar = true := by
  simp only [readTimestamp, Option.bind_eq_bind, Option.bind_eq_some_iff] at read
  obtain ⟨⟨date, afterDate⟩, -, afterMark, -, ⟨nanoseconds, afterTime⟩, -, ⟨offset, rest⟩, -, read⟩ :=
    read
  split at read
  · split at read
    case isTrue inCalendar => exact Option.some.inj read ▸ inCalendar
    case isFalse => cases read
  · cases read

theorem Instant.codec_yields : Instant.codec.decode.Yields (·.inCalendar = true) := by
  intro reading node
  cases node with
  | text raw =>
      simp only [codec]
      split
      · split
        case h_1 instant read => exact .ok (inCalendar_of_readTimestamp read)
        case h_2 => exact .error _ _
      · exact .error _ _
  | _ =>
      simp only [codec]
      exact .refuse _ _ _

theorem SupplementalContext.codec_yields : SupplementalContext.codec.decode.Yields Fits :=
  .record <| (Layout.Yields.empty (by intros; constructor <;> assumption))
    |>.also (.required (.anything _))
    |>.also (.required (.anything _))
    |>.also (.required .unsigned)
    |>.also (.required .count)

theorem InvocationRecord.layout_yields : layout.Yields Fits :=
  (Layout.Yields.empty (by intros; constructor <;> assumption))
    |>.also (.nullable (.anything _))
    |>.also (.nullable (.anything _))
    |>.also (.nullable .count)
    |>.also (.required (.anything _))
    |>.also (.nullable (.anything _))
    |>.also (.required (.anything _))
    |>.also (.required .unsigned)
    |>.also (.required .shortUnsigned)
    |>.also (.required .count)
    |>.also (.required (.anything _))
    |>.also (.sparse (.anything _))
    |>.also (.required (.anything _))
    |>.also (.required (.anything _))
    |>.also (.sparse SupplementalContext.codec_yields)

theorem DecisionRecord.layout_yields : layout.Yields Fits :=
  (Layout.Yields.empty (by intros; constructor <;> assumption))
    |>.also (.required (.anything _))
    |>.also (.nullable (.anything _))
    |>.also (.required .count)
    |>.also (.required (.anything _))
    |>.also (.nullable .count)
    |>.also (.required (.anything _))
    |>.also (.sparse (.anything _))
    |>.also (.required .count)
    |>.also (.required .count)
    |>.also (.required (.anything _))
    |>.also (.required (.anything _))
    |>.also (.required (.anything _))
    |>.also (.sparse SupplementalContext.codec_yields)

theorem TriggerRecord.layout_yields : layout.Yields Fits :=
  (Layout.Yields.empty (by intros; constructor <;> assumption))
    |>.also (.required (.anything _))
    |>.also (.required (.anything _))
    |>.also (.required (.anything _))
    |>.also (.required (.anything _))
    |>.also (.required (.anything _))
    |>.also (.required .count)
    |>.also (.nullable (.anything _))
    |>.also (.required .shortUnsigned)
    |>.also (.required .count)
    |>.also (.required (.anything _))
    |>.also (.required .count)
    |>.also (.required .count)
    |>.also (.sparse .signed)
    |>.also (.sparse .signed)
    |>.also (.required .signed)
    |>.also (.sparse (.anything _))
    |>.also (.sparse (.anything _))
    |>.also (.sparse (.anything _))
    |>.also (.sparse (.anything _))
    |>.also (.required (.anything _))
    |>.also (.sparse SupplementalContext.codec_yields)

theorem LatencyRecord.layout_yields : layout.Yields Fits :=
  (Layout.Yields.empty (by intros; constructor <;> assumption))
    |>.also (.required (.anything _))
    |>.also (.required (.anything _))
    |>.also (.required .signed)
    |>.also (.required .signed)
    |>.also (.required .signed)
    |>.also (.required .signed)
    |>.also (.required .signed)
    |>.also (.required .signed)
    |>.also (.required (.anything _))
    |>.also (.required (.anything _))
    |>.also (.required (.anything _))
    |>.also (.required (.anything _))

namespace Event

theorem ensures_decodeKind (kind : EventKind) (node : Node) :
    Ensures (decodeKind kind node) Fits := by
  cases kind with
  | invocation => exact .map (Decoder.Yields.record InvocationRecord.layout_yields .kept node)
  | decision => exact .map (Decoder.Yields.record DecisionRecord.layout_yields .kept node)
  | trigger => exact .map (Decoder.Yields.record TriggerRecord.layout_yields .kept node)
  | latency => exact .map (Decoder.Yields.record LatencyRecord.layout_yields .kept node)

theorem codec_yields : Event.codec.decode.Yields Fits := by
  intro reading node
  cases node with
  | object members =>
      refine .bind (.anything _) fun inner _ => .bind (.anything _) fun separated _ => ?_
      obtain ⟨_ | kind, others⟩ := separated
      · exact .error _ _
      · exact ensures_decodeKind kind (.object others)
  | array items =>
      refine .bind (.anything _) fun inner _ => ?_
      cases items with
      | nil => exact .error _ _
      | cons first others =>
          exact .bind (.anything _) fun kind _ => .bind (.anything _) fun kept _ =>
            ensures_decodeKind kind (.array kept)
  | _ =>
      simp only [codec, decode]
      exact .refuse _ _ _

end Event

theorem RecordedEvent.codec_yields : RecordedEvent.codec.decode.Yields Fits :=
  .record <| (Layout.Yields.empty (by intros; constructor <;> assumption))
    |>.also (.required (.anything _))
    |>.also (.required Instant.codec_yields)
    |>.also (.required Event.codec_yields)

theorem Log.codec_yields : Log.codec.decode.Yields Fits :=
  .record <| (Layout.Yields.empty (by intros; constructor <;> assumption))
    |>.also (.required (.anything _))
    |>.also (.required RecordedEvent.codec_yields.list)
    |>.also (.required Instant.codec_yields)
    |>.also (.required Instant.codec_yields)

theorem Log.ensures_decode (sessionId : String) (reading : Reading)
    (members : List (Node × Node)) :
    Ensures (Log.codec.decode reading
      (.object ((.text (Literal.escape "session_id".toList),
        .text (Literal.escape sessionId.toList)) :: members))) (·.sessionId = sessionId) := by
  refine Layout.Tells.record
    (.also (.also (.also (.single fun reading => ?_) _) _) _) reading members
  simp only [Field.required, Codec.string, Decoder.string, Literal.toString?_escape]
  exact .ok fun _ _ _ => rfl

/-- The text of a log gives away the session of the log, also where its events do not come back. -/
theorem Log.sessionId_of_parse_render {log decoded : Log}
    (read : Log.parse log.render = .ok decoded) : decoded.sessionId = log.sessionId := by
  obtain ⟨members, node⟩ := ofText_first_member "session_id" log.sessionId
    ("events", (Codec.list RecordedEvent.codec).encode log.events)
    [("created_at", Instant.codec.encode log.createdAt),
      ("updated_at", Instant.codec.encode log.updatedAt)]
  have text : log.render.toList = prettyChars 0 (Log.codec.encode log) := String.toList_ofList
  have decodes := Decoder.decode_of_run read
  rw [text] at decodes
  refine Log.ensures_decode log.sessionId .start members decoded ?_
  rw [← node]
  exact decodes

/-- A log that was read fits, whatever text it was read from. -/
theorem Log.fits_of_parse {text : String} {log : Log} (read : Log.parse text = .ok log) :
    log.Fits :=
  Log.codec_yields.run read

end TriggerLedger
