import TriggerLedger.Proofs.Command.LiveLogs
import TriggerLedger.Proofs.Command.Statistics
/-!
# The window of statistics

Statistics select logs by their creation, not events by the time at which they were
recorded.  So a session that was closed since the cutoff is missed if its log is older, and
one that was closed before is counted if its log is newer.  Where no event is older than its
log, the table counts what was recorded since the cutoff exactly if no log that holds such a
session is passed over.
-/

namespace TriggerLedger

/-- Whether an event closes a session of a trigger with a verdict and was recorded at or after the
cutoff. -/
def RecordedEvent.closesSince (cutoff : Instant) (trigger : TriggerKind) (verdict : Verdict)
    (recorded : RecordedEvent) : Bool :=
  recorded.event.closes trigger verdict && decide (cutoff ≤ recorded.timestamp)

/-- Whether an event closes a session of a trigger with a verdict and was recorded before the
cutoff. -/
def RecordedEvent.closesBefore (cutoff : Instant) (trigger : TriggerKind) (verdict : Verdict)
    (recorded : RecordedEvent) : Bool :=
  recorded.event.closes trigger verdict && !decide (cutoff ≤ recorded.timestamp)

/-- A session was closed in a log at or after the cutoff. -/
def Log.ClosesSince (cutoff : Instant) (log : Log) : Prop :=
  ∃ recorded ∈ log.events, cutoff ≤ recorded.timestamp ∧
    ∃ record, recorded.event = .trigger record

/-- No event is older than its log. -/
def Log.InOrder (log : Log) : Prop :=
  ∀ recorded ∈ log.events, log.createdAt ≤ recorded.timestamp

variable {cutoff : Instant} {trigger : TriggerKind} {verdict : Verdict} {log : Log}
  {logs looked passed : List Log}

theorem countP_closes (cutoff : Instant) (trigger : TriggerKind) (verdict : Verdict)
    (events : List RecordedEvent) :
    events.countP (·.event.closes trigger verdict) =
      events.countP (·.closesSince cutoff trigger verdict) +
        events.countP (·.closesBefore cutoff trigger verdict) := by
  rw [List.countP_eq_countP_filter_add events _ fun recorded =>
    decide (cutoff ≤ recorded.timestamp), List.countP_filter, List.countP_filter]
  rfl

theorem loggedEvents_append (first second : List Log) :
    loggedEvents (first ++ second) = loggedEvents first ++ loggedEvents second :=
  List.flatMap_append

theorem countP_loggedEvents_perm (all : (looked ++ passed).Perm logs)
    (counts : RecordedEvent → Bool) :
    (loggedEvents logs).countP counts =
      (loggedEvents looked).countP counts + (loggedEvents passed).countP counts := by
  rw [← List.countP_append, ← loggedEvents_append]
  exact ((all.flatMap_right _).countP_eq counts).symm

/-- What is counted in some of the logs and missed in the others is all that was closed since the
cutoff, and what was closed before in the former. -/
theorem closed_balance (cutoff : Instant) (trigger : TriggerKind) (verdict : Verdict)
    (all : (looked ++ passed).Perm logs) :
    (loggedEvents looked).countP (·.event.closes trigger verdict) +
        (loggedEvents passed).countP (·.closesSince cutoff trigger verdict) =
      (loggedEvents logs).countP (·.closesSince cutoff trigger verdict) +
        (loggedEvents looked).countP (·.closesBefore cutoff trigger verdict) := by
  rw [countP_closes cutoff, countP_loggedEvents_perm all]
  omega

theorem closesSince_iff {recorded : RecordedEvent} :
    recorded.closesSince cutoff trigger verdict = true ↔
      cutoff ≤ recorded.timestamp ∧ ∃ record, recorded.event = .trigger record ∧
        record.trigger = trigger ∧ record.verdict = verdict := by
  rw [RecordedEvent.closesSince, Bool.and_eq_true, decide_eq_true_eq, Event.closes_iff, and_comm]

theorem closesSince_of_mem {recorded : RecordedEvent}
    (member : recorded ∈ loggedEvents logs)
    (closes : recorded.closesSince cutoff trigger verdict = true) :
    ∃ log ∈ logs, log.ClosesSince cutoff := by
  obtain ⟨log, isLog, isEvent⟩ := List.mem_flatMap.mp member
  obtain ⟨since, record, isRecord, -⟩ := closesSince_iff.mp closes
  exact ⟨log, isLog, recorded, isEvent, since, record, isRecord⟩

/-- Nothing is missed in some logs exactly if none of them closes a session since the cutoff. -/
theorem countP_closesSince_eq_zero_iff :
    (∀ trigger verdict, (loggedEvents logs).countP (·.closesSince cutoff trigger verdict) = 0) ↔
      ∀ log ∈ logs, ¬ log.ClosesSince cutoff := by
  constructor
  · rintro none log isLog ⟨recorded, isEvent, since, record, isRecord⟩
    refine List.countP_eq_zero.mp (none record.trigger record.verdict) recorded ?_ ?_
    · exact List.mem_flatMap.mpr ⟨log, isLog, isEvent⟩
    · exact closesSince_iff.mpr ⟨since, record, isRecord, rfl, rfl⟩
  · intro none trigger verdict
    refine List.countP_eq_zero.mpr fun recorded member closes => ?_
    obtain ⟨log, isLog, since⟩ := closesSince_of_mem member closes
    exact none log isLog since

/-- Nothing in a log that was created since the cutoff is older, if its events are not older. -/
theorem countP_closesBefore_eq_zero (created : ∀ log ∈ looked, cutoff ≤ log.createdAt)
    (inOrder : ∀ log ∈ looked, log.InOrder) :
    (loggedEvents looked).countP (·.closesBefore cutoff trigger verdict) = 0 := by
  refine List.countP_eq_zero.mpr fun recorded member before => ?_
  obtain ⟨log, isLog, isEvent⟩ := List.mem_flatMap.mp member
  have since : cutoff ≤ recorded.timestamp :=
    Int.le_trans (created log isLog) (inOrder log isLog recorded isEvent)
  simp [RecordedEvent.closesBefore, since] at before

/-- Where no event is older than its log, nothing but what is missed spoils the counts. -/
theorem counts_exact_iff (all : (looked ++ passed).Perm logs) (unique : logs.Nodup)
    (created : ∀ log ∈ looked, cutoff ≤ log.createdAt) (inOrder : ∀ log ∈ looked, log.InOrder) :
    (∀ trigger verdict, (loggedEvents looked).countP (·.event.closes trigger verdict) =
        (loggedEvents logs).countP (·.closesSince cutoff trigger verdict)) ↔
      ∀ log ∈ logs, log.ClosesSince cutoff → log ∈ looked := by
  have inLogs (log : Log) : log ∈ looked ∨ log ∈ passed ↔ log ∈ logs := by
    rw [← List.mem_append, all.mem_iff]
  have apart := (List.nodup_append.mp (all.nodup_iff.mpr unique)).2.2
  have noneMissed : (∀ trigger verdict,
      (loggedEvents looked).countP (·.event.closes trigger verdict) =
        (loggedEvents logs).countP (·.closesSince cutoff trigger verdict)) ↔
      ∀ trigger verdict,
        (loggedEvents passed).countP (·.closesSince cutoff trigger verdict) = 0 := by
    refine forall_congr' fun trigger => forall_congr' fun verdict => ?_
    have balance := closed_balance cutoff trigger verdict all
    rw [countP_closesBefore_eq_zero created inOrder] at balance
    omega
  rw [noneMissed, countP_closesSince_eq_zero_iff]
  constructor
  · intro none log isLog since
    exact ((inLogs log).mpr isLog).resolve_right fun isPassed => none log isPassed since
  · intro found log isPassed since
    exact apart log (found log ((inLogs log).mp (.inr isPassed)) since) log isPassed rfl

namespace Command

/-- What a table shows for a trigger and a verdict: nothing where there is no row. -/
def cellOf (rows : List (TriggerKind × Tally)) (trigger : TriggerKind) (verdict : Verdict) : Nat :=
  ((rows.lookup trigger).getD .zero).of verdict

theorem Tabulates.cellOf_eq {rows : List (TriggerKind × Tally)} {events : List RecordedEvent}
    (tabulates : Tabulates rows events) (trigger : TriggerKind) (verdict : Verdict) :
    cellOf rows trigger verdict = events.countP (·.event.closes trigger verdict) := by
  rw [cellOf]
  cases found : rows.lookup trigger with
  | some tally =>
      obtain ⟨before, after, rfl, -⟩ := List.lookup_eq_some_iff.mp found
      exact tabulates.cell (trigger, tally) (by simp) verdict
  | none =>
      rw [Option.getD_none, Tally.of_zero, eq_comm, List.countP_eq_zero]
      intro recorded member closes
      obtain ⟨record, isRecord, same, -⟩ := Event.closes_iff.mp closes
      obtain ⟨tally, row⟩ :=
        (tabulates.row trigger).mpr ⟨recorded, member, record, isRecord, same⟩
      simpa using List.lookup_eq_none_iff.mp found (trigger, tally) row

theorem Tabulates.eq_nil_iff {rows : List (TriggerKind × Tally)} {events : List RecordedEvent}
    (tabulates : Tabulates rows events) :
    rows = [] ↔ ∀ recorded ∈ events, ∀ record, recorded.event ≠ .trigger record := by
  constructor
  · rintro rfl recorded member record isRecord
    obtain ⟨tally, row⟩ :=
      (tabulates.row record.trigger).mpr ⟨recorded, member, record, isRecord, rfl⟩
    cases row
  · intro none
    refine List.eq_nil_iff_forall_not_mem.mpr fun row member => ?_
    obtain ⟨recorded, isEvent, record, isRecord, -⟩ := (tabulates.row row.1).mp ⟨row.2, member⟩
    exact none recorded isEvent record isRecord

/-- Only a table without rows reads as the note that there are none. -/
theorem tableText_append_eq_note {days : Nat} {rows : List (TriggerKind × Tally)}
    {tail rest : String} (same : tableText days rows ++ tail = tableText days [] ++ rest) :
    rows = [] := by
  cases rows with
  | nil => rfl
  | cons row rows =>
      have table : (toString "Trigger Decisions (last ").toList.head? = some 'T' := by
        decide +kernel
      have note : (toString "No trigger decisions recorded in the last ").toList.head? =
          some 'N' := by
        decide +kernel
      have heads := congrArg (fun text => text.toList.head?) same
      simp only [tableText, line, String.toList_append, List.head?_append, table, note,
        Option.some_or] at heads
      exact absurd (Option.some.inj heads) (by decide)

/-- Statistics note that no session was closed exactly if there is none in the logs they look at.
What they count there, with what they miss in the other logs, is what was closed since the cutoff,
and what was closed before in newer logs. -/
structure Windows (cutoff : Instant) (days : Nat) (text : String)
    (rows : List (TriggerKind × Tally)) (looked logs : List Log) : Prop where
  reports : Reports days text rows looked
  note : (∃ rest, text = tableText days [] ++ rest) ↔
    ∀ log ∈ looked, ∀ recorded ∈ log.events, ∀ record, recorded.event ≠ .trigger record
  balance : ∃ passed, (looked ++ passed).Perm logs ∧ ∀ trigger verdict,
    cellOf rows trigger verdict +
        (loggedEvents passed).countP (·.closesSince cutoff trigger verdict) =
      (loggedEvents logs).countP (·.closesSince cutoff trigger verdict) +
        (loggedEvents looked).countP (·.closesBefore cutoff trigger verdict)
  exact_iff : (∀ log ∈ looked, log.InOrder) →
    ((∀ trigger verdict, cellOf rows trigger verdict =
        (loggedEvents logs).countP (·.closesSince cutoff trigger verdict)) ↔
      ∀ log ∈ logs, log.ClosesSince cutoff → log ∈ looked)

variable {σ : Type} [Store σ] {place : String → String} {store : σ} {now : Instant} {days : Nat}
  {span : Span}

theorem windows_of_reports {text : String} {rows : List (TriggerKind × Tally)}
    (reports : Reports days text rows looked) (all : (looked ++ passed).Perm logs)
    (unique : logs.Nodup) (created : ∀ log ∈ looked, cutoff ≤ log.createdAt) :
    Windows cutoff days text rows looked logs where
  reports := reports
  note := by
    have none : rows = [] ↔ ∀ log ∈ looked, ∀ recorded ∈ log.events,
        ∀ record, recorded.event ≠ .trigger record := by
      rw [reports.tabulates.eq_nil_iff, loggedEvents, List.forall_mem_flatMap]
    rw [← none, reports.text_eq]
    constructor
    · rintro ⟨rest, same⟩
      exact tableText_append_eq_note same
    · rintro rfl
      exact ⟨_, rfl⟩
  balance := by
    refine ⟨passed, all, fun trigger verdict => ?_⟩
    rw [reports.tabulates.cellOf_eq]
    exact closed_balance cutoff trigger verdict all
  exact_iff inOrder := by
    simp only [reports.tabulates.cellOf_eq]
    exact counts_exact_iff all unique created inOrder

/-- Statistics look at the newest logs, as far as they were created since the cutoff, whenever what
is in them was recorded. -/
def CountsWindow (now : Instant) (days : Nat) (cutoff : Instant) (store : σ) (logs : List Log) :
    Prop :=
  ∃ looked rows text, stats now days store = .ok text ∧
    Windows cutoff days text rows looked logs ∧
    ∃ newest, AreNewest Log.createdAt scanLimit logs newest ∧
      looked = newest.filter (fun log => cutoff ≤ log.createdAt) ∧
      (logs.length ≤ scanLimit → ∀ log, log ∈ looked ↔ log ∈ logs ∧ cutoff ≤ log.createdAt)

theorem countsWindow (lists : Lists place store logs) (unique : logs.Nodup)
    (accepted : daysSpan days = .ok span) (within : cutoffBefore now span = .ok cutoff) :
    CountsWindow now days cutoff store logs := by
  obtain ⟨newest, rows, text, are, told, reports⟩ := countsRecent lists accepted within
  have looked (log : Log) : log ∈ newest.filter (fun log => cutoff ≤ log.createdAt) ↔
      log ∈ newest ∧ cutoff ≤ log.createdAt := by
    rw [List.mem_filter, decide_eq_true_eq]
  refine ⟨_, rows, text, told, ?_, newest, are, rfl, fun few log => ?_⟩
  · obtain ⟨omitted, all, -⟩ := are.rest
    have split := (List.filter_append_perm
      (fun log : Log => decide (cutoff ≤ log.createdAt)) newest).append_right omitted
    rw [List.append_assoc] at split
    exact windows_of_reports reports (split.trans all) unique fun log member =>
      ((looked log).mp member).2
  · rw [looked, (are.perm few).mem_iff]

/-- Whatever calls a store was built by, statistics count the sessions closed in logs that were
created since the cutoff.  They note that there are none exactly if these logs have none, and where
no event is older than its log, they count what was recorded since the cutoff exactly if every log
that closes a session since then is among these logs. -/
theorem stats_exact_iff_no_log_passed_over (calls : List Call)
    (accepted : daysSpan days = .ok span) (within : cutoffBefore now span = .ok cutoff) :
    (∀ store, Reaches MemoryStore.SameLogs .empty calls store →
      ∃ logs, Keeps store (fun _ => True) logs ∧ CountsWindow now days cutoff store logs) ∧
    ∀ directory, Reaches Directory.SameFiles .empty calls directory →
      ∃ logs, Keeps directory (· ≠ "") logs ∧ CountsWindow now days cutoff directory logs := by
  constructor
  · intro store reaches
    have filed := MemoryStore.WellFiled.of_reaches reaches
    exact ⟨_, filed.keeps, countsWindow filed.lists (filed.keeps.once.of_map _) accepted within⟩
  · intro directory reaches
    have filed := Directory.WellFiled.of_reaches reaches
    exact ⟨_, filed.keeps, countsWindow filed.lists (filed.keeps.once.of_map _) accepted within⟩

/-- A log that was opened at the start of 2005 and in which a session was closed at the start of
2020. -/
def longOpenLog : Log :=
  ⟨"session", [⟨"e1", ⟨1577836800000000000⟩, .trigger .acceptedOne⟩], ⟨1104537600000000000⟩,
    ⟨1577836800000000000⟩⟩

theorem daysSpan_fiveThousand : daysSpan (5000 : Nat) = .ok ⟨432000000000000000⟩ := by
  decide +kernel

theorem cutoff_fiveThousandDays :
    cutoffBefore yearLater ⟨432000000000000000⟩ = .ok ⟨1177459200000000000⟩ := by
  decide +kernel

theorem longOpenLog_closesSince : longOpenLog.ClosesSince ⟨1177459200000000000⟩ :=
  ⟨_, List.mem_singleton.mpr rfl, (by decide : (1177459200000000000 : Int) ≤ 1577836800000000000),
    _, rfl⟩

/-- The log that was opened too early is passed over. -/
theorem long_open_log_passed_over :
    let store := Call.run [.put longOpenLog] MemoryStore.empty
    (∃ logs, Keeps store (fun _ => True) logs ∧
      CountsWindow yearLater 5000 ⟨1177459200000000000⟩ store logs) ∧
    stats yearLater 5000 store = .ok (tableText 5000 [] ++ analyzedText 0) := by
  intro store
  obtain ⟨counts, -⟩ := stats_exact_iff_no_log_passed_over [.put longOpenLog]
    daysSpan_fiveThousand cutoff_fiveThousandDays
  exact ⟨counts store (MemoryStore.reaches_foldl _ _), by decide +kernel⟩

theorem parse_render_longOpenLog : Log.parse longOpenLog.render = .ok longOpenLog := by
  refine Log.parse_render ⟨?_, by decide +kernel, by decide +kernel⟩ ?_
  · intro recorded present
    obtain rfl := List.mem_singleton.mp present
    exact ⟨by decide +kernel, TriggerRecord.acceptedOne_fits⟩
  · intro recorded present
    obtain rfl := List.mem_singleton.mp present
    exact TriggerRecord.acceptedOne_realsReadBack

/-- No log is looked at if the only one was created before the cutoff. -/
theorem lookedAt_singleton (older : log.createdAt < cutoff) : lookedAt cutoff [log] = [] := by
  simp [lookedAt, inspected, scanLimit, Instant.not_le.mpr older]

/-- Looking back 5000 days from 2021, statistics of a directory note that no session was closed,
although one was closed in 2020. -/
theorem recent_session_not_counted :
    let directory : Directory := ⟨[("session.json", longOpenLog.render)]⟩
    directory.getLog "session" = .ok (some longOpenLog) ∧
    daysSpan (5000 : Nat) = .ok ⟨432000000000000000⟩ ∧
    cutoffBefore yearLater ⟨432000000000000000⟩ = .ok ⟨1177459200000000000⟩ ∧
    longOpenLog.ClosesSince ⟨1177459200000000000⟩ ∧
    stats yearLater 5000 directory = .ok
      "No trigger decisions recorded in the last 5000 days.\n\nSessions analyzed: 0\n" := by
  intro directory
  have named : Directory.fileName "session" = "session.json" := by decide +kernel
  have file : directory.read? (Directory.fileName "session") = some longOpenLog.render := by
    rw [named]
    rfl
  have filed : directory.WellFiled := by
    refine ⟨List.nodup_singleton _, fun entry member log parsed => ?_⟩
    obtain rfl := List.mem_singleton.mp (List.mem_filter.mp member).1
    obtain rfl : longOpenLog = log := Except.ok.inj (parse_render_longOpenLog.symm.trans parsed)
    exact named
  have logs : directory.readableLogs = [longOpenLog] :=
    readableLogs_cons (by decide +kernel) parse_render_longOpenLog
  have passedOver : lookedAt ⟨1177459200000000000⟩ [longOpenLog] = [] :=
    lookedAt_singleton (by decide)
  refine ⟨Directory.getLog_of_parse file parse_render_longOpenLog, daysSpan_fiveThousand,
    cutoff_fiveThousandDays, longOpenLog_closesSince, ?_⟩
  rw [stats_eq filed.lists daysSpan_fiveThousand cutoff_fiveThousandDays, logs, passedOver]
  have text : surveyText 5000 ⟨0, []⟩ =
      "No trigger decisions recorded in the last 5000 days.\n\nSessions analyzed: 0\n" := by
    decide +kernel
  exact congrArg Except.ok text

end Command
end TriggerLedger
