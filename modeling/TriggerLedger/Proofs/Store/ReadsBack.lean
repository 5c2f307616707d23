import TriggerLedger.Command.Listing
import TriggerLedger.Proofs.Event.ReadsBack
import TriggerLedger.Proofs.Instant.Timestamp
import TriggerLedger.Proofs.Store.Files
/-!
# Logs read back

A log whose numbers fit their fields and whose times lie in the calendar comes
back from both of its texts, and so from the file it was put into.
-/

namespace TriggerLedger

open Json

/-- The numbers of a recorded event fit their fields, and its time is in the calendar. -/
structure RecordedEvent.Fits (recorded : RecordedEvent) : Prop where
  timestamp : recorded.timestamp.inCalendar = true
  event : recorded.event.Fits

/-- The numbers of a log fit their fields, and its times are in the calendar. -/
structure Log.Fits (log : Log) : Prop where
  events : ∀ recorded ∈ log.events, recorded.Fits
  createdAt : log.createdAt.inCalendar = true
  updatedAt : log.updatedAt.inCalendar = true

/-- The classifier values in a log survive their own digits. -/
def Log.RealsReadBack (log : Log) : Prop :=
  ∀ recorded ∈ log.events, recorded.event.RealsReadBack

/-- The recorded event that is read where classifier values are read from their digits. -/
inductive RecordedEvent.RealsReadAs (recorded : RecordedEvent) : RecordedEvent → Prop where
  | read {event : Event} :
      recorded.event.RealsReadAs event → RealsReadAs recorded { recorded with event }

/-- The log that is read where classifier values are read from their digits. -/
inductive Log.RealsReadAs (log : Log) : Log → Prop where
  | read {events : List RecordedEvent} :
      List.Forall₂ RecordedEvent.RealsReadAs log.events events →
      RealsReadAs log { log with events }

theorem Log.RealsReadBack.readsAs {log : Log} (reals : log.RealsReadBack) : log.RealsReadAs log :=
  .read (List.forall₂_same.mpr fun recorded present => .read (reals recorded present).readsAs)

theorem RecordedEvent.codec_readsAs (depth : Nat) {recorded other : RecordedEvent}
    (fits : recorded.Fits) (reals : recorded.RealsReadAs other) :
    RecordedEvent.codec.ReadsAs (depth + 3) recorded other := by
  obtain ⟨event⟩ := reals
  exact .record <| (Layout.ReadsAs.empty _)
    |>.also (.required (.string _)) (by decide)
    |>.also (.required (Instant.codec_readsBack fits.timestamp)) (by decide)
    |>.also (.required (Event.codec_readsAs depth fits.event event)) (by decide)

theorem Log.codec_readsAs (depth : Nat) {log other : Log} (fits : log.Fits)
    (reals : log.RealsReadAs other) : Log.codec.ReadsAs (depth + 5) log other := by
  obtain ⟨events⟩ := reals
  have each := (List.forall₂_and_left _ _).mpr ⟨fits.events, events⟩
  exact .record <| (Layout.ReadsAs.empty _)
    |>.also (.required (.string _)) (by decide)
    |>.also (.required (.list_forall₂ (each.imp fun _ _ both =>
      RecordedEvent.codec_readsAs depth both.1 both.2))) (by decide)
    |>.also (.required (Instant.codec_readsBack fits.createdAt)) (by decide)
    |>.also (.required (Instant.codec_readsBack fits.updatedAt)) (by decide)

theorem Log.codec_readsBack (depth : Nat) {log : Log} (fits : log.Fits)
    (reals : log.RealsReadBack) : Log.codec.ReadsBack (depth + 5) log :=
  codec_readsAs depth fits reals.readsAs

theorem Log.parse_render_readsAs {log other : Log} (fits : log.Fits)
    (reals : log.RealsReadAs other) : Log.parse log.render = .ok other :=
  (Log.codec_readsAs 0 fits reals).run_pretty (by decide)

theorem Log.parse_render {log : Log} (fits : log.Fits) (reals : log.RealsReadBack) :
    Log.parse log.render = .ok log :=
  parse_render_readsAs fits reals.readsAs

theorem Directory.getLog_of_read? {directory : Directory} {sessionId : String} {log : Log}
    (fits : log.Fits) (reals : log.RealsReadBack)
    (stored : directory.read? (fileName sessionId) = some log.render) :
    directory.getLog sessionId = .ok (some log) := by
  simp [Directory.getLog, stored, Log.parse_render fits reals]

theorem Command.dump_of_read? {directory : Directory} {sessionId : String} {log : Log}
    (fits : log.Fits) (reals : log.RealsReadBack)
    (stored : directory.read? (Directory.fileName sessionId) = some log.render) :
    Command.dump sessionId directory = .ok (Command.line log.render) := by
  have found : Store.get directory sessionId = .ok (some log) :=
    Directory.getLog_of_read? fits reals stored
  simp [Command.dump, Command.findLog, found]

/-- Events of every kind and logs of any events come back from their compact and from their
indented text.  A log decoded from either text has the same texts again, so dumping a log prints
the text that was put into its file. -/
theorem texts_read_back :
    (∀ event : Event, event.Fits → event.RealsReadBack →
      Event.codec.decode.run event.encode.compact = .ok event ∧
      Event.codec.decode.run event.encode.pretty = .ok event) ∧
    ∀ log : Log, log.Fits → log.RealsReadBack →
      Log.codec.decode.run (Log.codec.encode log).compact = .ok log ∧
      Log.codec.decode.run log.render = .ok log ∧
      (∀ text ∈ [(Log.codec.encode log).compact, log.render], ∀ decoded,
        Log.codec.decode.run text = .ok decoded →
        (Log.codec.encode decoded).compact = (Log.codec.encode log).compact ∧
        decoded.render = log.render) ∧
      (∀ directory : Directory, Directory.isUsableName (Directory.fileName log.sessionId) = true →
        (directory.putLog log).2 = .ok () ∧
        (directory.putLog log).1.read? (Directory.fileName log.sessionId) = some log.render) ∧
      ∀ directory : Directory,
        directory.read? (Directory.fileName log.sessionId) = some log.render →
        Command.dump log.sessionId directory = .ok (Command.line log.render) := by
  constructor
  · intro event fits reals
    have readsBack := Event.codec_readsBack 0 fits reals
    exact ⟨readsBack.run_compact (by decide), readsBack.run_pretty (by decide)⟩
  · intro log fits reals
    have compact := (Log.codec_readsBack 0 fits reals).run_compact (by decide)
    have indented : Log.codec.decode.run log.render = .ok log := Log.parse_render fits reals
    refine ⟨compact, indented, ?_, ?_, ?_⟩
    · intro text member decoded read
      have same : log = decoded := by
        rcases List.mem_cons.mp member with rfl | rest
        · rw [compact] at read
          exact Except.ok.inj read
        · obtain rfl := List.mem_singleton.mp rest
          rw [indented] at read
          exact Except.ok.inj read
      exact same ▸ ⟨rfl, rfl⟩
    · intro directory usable
      exact ⟨by rw [Directory.putLog_eq directory usable], Directory.read?_putLog directory usable⟩
    · intro directory stored
      exact Command.dump_of_read? fits reals stored

/-- The binary64 value one half. -/
def Binary64.half : Binary64 := ⟨false, 4602678819172646912, by decide⟩

theorem Binary64.half_readsBack : Binary64.half.ReadsBack :=
  ⟨⟨false, ['0'], ['5'], none⟩, by decide +kernel, by decide +kernel⟩

/-- The record of a session in which one suggestion was accepted, with numbers at the bounds. -/
def TriggerRecord.acceptedOne : TriggerRecord where
  sessionId := "session"
  firstRequestId := "request \"α\""
  shape := .block
  language := "rust"
  trigger := .automatic
  suggestionCount := 1
  cause := some .classifier
  line := 4294967295
  cursorOffset := 18446744073709551615
  verdict := .accept
  importCount := 2
  typeaheadLength := 0
  sinceDocumentChange := some (-9223372036854775808)
  sinceLastDecision := none
  toFirstRecommendation := 9223372036854775807
  triggerCharacter := some "\n"
  previousVerdict := some .empty
  classifierResult := some .half
  classifierThreshold := none
  userGroup := "Control"
  supplemental := some ⟨true, false, 12, 34⟩

theorem TriggerRecord.acceptedOne_fits : TriggerRecord.acceptedOne.Fits where
  suggestionCount := by decide
  line := by decide
  cursorOffset := by decide
  importCount := by decide
  typeaheadLength := by decide
  sinceDocumentChange := by simp [acceptedOne, FitsSigned, half64]
  sinceLastDecision := by simp [acceptedOne]
  toFirstRecommendation := by simp [acceptedOne, FitsSigned, half64]
  supplemental := by
    intro context present
    obtain rfl : ⟨true, false, 12, 34⟩ = context := by simpa [acceptedOne] using present
    exact ⟨by decide, by decide⟩

theorem TriggerRecord.acceptedOne_realsReadBack : TriggerRecord.acceptedOne.RealsReadBack := by
  constructor
  · intro value present
    obtain rfl : Binary64.half = value := by simpa [acceptedOne] using present
    exact Binary64.half_readsBack
  · simp [acceptedOne]

/-- A log with that record, from the first to the last instant of the calendar. -/
def Log.acceptedOne : Log :=
  ⟨"session", [⟨"id", .latest, .trigger .acceptedOne⟩], .earliest, .latest⟩

theorem Log.acceptedOne_fits : Log.acceptedOne.Fits where
  events recorded present := by
    obtain rfl := List.mem_singleton.mp present
    exact ⟨by decide +kernel, TriggerRecord.acceptedOne_fits⟩
  createdAt := by decide +kernel
  updatedAt := by decide +kernel

theorem Log.acceptedOne_realsReadBack : Log.acceptedOne.RealsReadBack := by
  intro recorded present
  obtain rfl := List.mem_singleton.mp present
  exact TriggerRecord.acceptedOne_realsReadBack

/-- The event and the log of that record come back, and the log is dumped as it was put. -/
theorem texts_of_acceptedOne_read_back :
    Event.codec.decode.run (Event.trigger .acceptedOne).encode.compact =
      .ok (.trigger .acceptedOne) ∧
    Log.codec.decode.run Log.acceptedOne.render = .ok .acceptedOne ∧
    (Directory.empty.putLog .acceptedOne).2 = .ok () ∧
    Command.dump "session" (Directory.empty.putLog .acceptedOne).1 =
      .ok (Command.line Log.acceptedOne.render) := by
  have event := texts_read_back.1 (.trigger .acceptedOne) TriggerRecord.acceptedOne_fits
    TriggerRecord.acceptedOne_realsReadBack
  obtain ⟨-, indented, -, put, dump⟩ :=
    texts_read_back.2 .acceptedOne Log.acceptedOne_fits Log.acceptedOne_realsReadBack
  have stored := put .empty (by decide +kernel)
  exact ⟨event.1, indented, stored.1, dump _ stored.2⟩

end TriggerLedger
