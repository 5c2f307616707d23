import TriggerLedger.Proofs.Command.Cleaning
import TriggerLedger.Proofs.Command.Tallies
/-!
# Statistics of recent logs

Statistics look at the newest logs that are listed, up to a limit, and of these at the ones
that were created since the cutoff.  Each of them is found again by its id, so the table
tabulates all their events, and the text does not depend on the order of the events.
-/

namespace TriggerLedger

/-- The events of some logs, one log after the other. -/
def loggedEvents (logs : List Log) : List RecordedEvent := logs.flatMap (·.events)

theorem closedSessions_loggedEvents (logs : List Log) :
    closedSessions (loggedEvents logs) = logs.flatMap Log.rollups :=
  List.filterMap_flatMap

theorem closedSessions_perm {visited events : List RecordedEvent} (perm : visited.Perm events) :
    (closedSessions visited).Perm (closedSessions events) :=
  perm.filterMap _

/-- Some logs are all those that a store holds under certain ids, each of them once. -/
structure Keeps {σ : Type} [Store σ] (store : σ) (named : String → Prop) (logs : List Log) :
    Prop where
  once : (logs.map Log.sessionId).Nodup
  mem_iff : ∀ log, log ∈ logs ↔
    named log.sessionId ∧ Store.get store log.sessionId = .ok (some log)

theorem Lists.keeps {σ : Type} [Store σ] {place : String → String} {store : σ} {logs : List Log}
    {named : String → Prop} (lists : Lists place store logs)
    (only : ∀ log ∈ logs, named log.sessionId)
    (all : ∀ log, named log.sessionId → Store.get store log.sessionId = .ok (some log) →
      log ∈ logs) : Keeps store named logs where
  once := by
    have apart := lists.apart
    rw [← Function.comp_def, ← List.map_map] at apart
    exact apart.of_map place
  mem_iff log :=
    ⟨fun member => ⟨only log member, lists.get log member log.sessionId rfl⟩,
      fun found => all log found.1 found.2⟩

theorem MemoryStore.WellFiled.keeps {store : MemoryStore} (filed : store.WellFiled) :
    Keeps store (fun _ => True) (store.logs.map Prod.snd) :=
  filed.lists.keeps (fun _ _ => trivial) fun _ _ found =>
    mem_logs_of_get? filed (Except.ok.inj found)

theorem Directory.WellFiled.keeps {directory : Directory} (filed : directory.WellFiled) :
    Keeps directory (· ≠ "") directory.readableLogs := by
  refine filed.lists.keeps (fun log member empty => ?_) fun log named found =>
    mem_readableLogs_of_getLog filed.unique named found
  exact filed.fileName_ne_of_mem member (congrArg fileName empty)

namespace Command

variable {σ : Type} [Store σ] {place : String → String} {store : σ} {logs : List Log}
  {now cutoff : Instant} {days : Nat} {span : Span}

/-- The logs that statistics look at: of the newest ones those created since the cutoff. -/
def lookedAt (cutoff : Instant) (logs : List Log) : List Log :=
  (inspected logs).filter fun log => cutoff ≤ log.createdAt

/-- Logs that are found by their ids give the closed sessions that are in them. -/
theorem flatMap_rollupsOf
    (found : ∀ log ∈ logs, Store.get store log.sessionId = .ok (some log)) :
    (logs.map Log.summary).flatMap (rollupsOf store) = logs.flatMap Log.rollups := by
  rw [List.flatMap_map]
  refine List.flatMap_congr fun log member => ?_
  rw [rollupsOf, Log.summary, found log member]

theorem survey_eq (lists : Lists place store logs) (cutoff : Instant) :
    survey cutoff store =
      .ok ⟨(lookedAt cutoff logs).length,
        closedSessions (loggedEvents (lookedAt cutoff logs))⟩ := by
  have recent : ((inspected logs).map Log.summary).filter
      (fun summary => decide (cutoff ≤ summary.createdAt)) =
        (lookedAt cutoff logs).map Log.summary :=
    List.filter_map
  have found : ∀ log ∈ lookedAt cutoff logs,
      Store.get store log.sessionId = .ok (some log) := fun log member =>
    lists.get log (mem_of_mem_inspected (List.mem_filter.mp member).1) log.sessionId rfl
  rw [survey, lists.list, ← map_summary_inspected]
  dsimp only
  rw [recent, flatMap_rollupsOf found, closedSessions_loggedEvents, List.length_map]

/-- The table, or the note that there is nothing to show in it. -/
def tableText (days : Nat) : List (TriggerKind × Tally) → String
  | [] => line s!"No trigger decisions recorded in the last {days} days."
  | row :: rows =>
    line s!"Trigger Decisions (last {days} days):" ++ line (rule 72) ++
      line (statsRow "Trigger" ["Total", "Accept", "Reject", "Discard", "Empty"]
        (Text.padLeft 14 "Accept Rate")) ++
      line (rule 72) ++
      String.join ((row :: rows).map fun (trigger, tally) => line (tallyRow trigger tally)) ++
      line (rule 72)

/-- The number of logs below the table. -/
def analyzedText (count : Nat) : String := line "" ++ line s!"Sessions analyzed: {count}"

theorem surveyText_eq (days : Nat) (survey : Survey) :
    surveyText days survey =
      tableText days (tallies survey.rollups) ++ analyzedText survey.sessions := by
  rw [surveyText]
  cases tallies survey.rollups <;> rfl

/-- A text reports on logs: it has a table of their events and their number, and would be the same
if the logs or their events were visited in another order. -/
structure Reports (days : Nat) (text : String) (rows : List (TriggerKind × Tally))
    (logs : List Log) : Prop where
  text_eq : text = tableText days rows ++ analyzedText logs.length
  tabulates : Tabulates rows (loggedEvents logs)
  anyOrder : ∀ visited, visited.Perm (loggedEvents logs) →
    surveyText days ⟨logs.length, closedSessions visited⟩ = text

theorem reports_surveyText (days : Nat) (logs : List Log) :
    Reports days (surveyText days ⟨logs.length, closedSessions (loggedEvents logs)⟩)
      (tallies (closedSessions (loggedEvents logs))) logs where
  text_eq := surveyText_eq days _
  tabulates := tabulates_tallies _
  anyOrder visited perm := by
    rw [surveyText_eq, surveyText_eq]
    dsimp only
    rw [tallies_perm (closedSessions_perm perm)]

theorem stats_eq (lists : Lists place store logs) (accepted : daysSpan days = .ok span)
    (within : cutoffBefore now span = .ok cutoff) :
    stats now days store =
      .ok (surveyText days ⟨(lookedAt cutoff logs).length,
        closedSessions (loggedEvents (lookedAt cutoff logs))⟩) := by
  rw [stats, accepted]
  change (cutoffBefore now span >>= _) = _
  rw [within]
  change (survey cutoff store >>= _) = _
  rw [survey_eq lists]
  rfl

/-- Statistics report on the newest logs, as far as they were created since the cutoff. -/
def CountsRecent (now : Instant) (days : Nat) (cutoff : Instant) (store : σ) (logs : List Log) :
    Prop :=
  ∃ newest rows text, AreNewest Log.createdAt scanLimit logs newest ∧
    stats now days store = .ok text ∧
    Reports days text rows (newest.filter fun log => cutoff ≤ log.createdAt)

theorem countsRecent (lists : Lists place store logs) (accepted : daysSpan days = .ok span)
    (within : cutoffBefore now span = .ok cutoff) : CountsRecent now days cutoff store logs :=
  ⟨inspected logs, _, _, areNewest_take Log.createdAt scanLimit logs,
    stats_eq lists accepted within, reports_surveyText days (lookedAt cutoff logs)⟩

/-- Whatever calls a store was built by, statistics tabulate all the events in those of its newest
logs that were created since the cutoff, and no others. -/
theorem stats_counts_recent_logs (calls : List Call) (accepted : daysSpan days = .ok span)
    (within : cutoffBefore now span = .ok cutoff) :
    (∀ store, Reaches MemoryStore.SameLogs .empty calls store →
      ∃ logs, Keeps store (fun _ => True) logs ∧ CountsRecent now days cutoff store logs) ∧
    ∀ directory, Reaches Directory.SameFiles .empty calls directory →
      ∃ logs, Keeps directory (· ≠ "") logs ∧ CountsRecent now days cutoff directory logs := by
  constructor
  · intro store reaches
    have filed := MemoryStore.WellFiled.of_reaches reaches
    exact ⟨_, filed.keeps, countsRecent filed.lists accepted within⟩
  · intro directory reaches
    have filed := Directory.WellFiled.of_reaches reaches
    exact ⟨_, filed.keeps, countsRecent filed.lists accepted within⟩

/-- A day before the end of the year 2020. -/
def yearEnd : Instant := ⟨1609372800000000000⟩

theorem daysSpan_seven : daysSpan (7 : Nat) = .ok ⟨604800000000000⟩ := by decide +kernel

theorem cutoff_sevenDays :
    cutoffBefore yearLater ⟨604800000000000⟩ = .ok ⟨1608854400000000000⟩ := by
  decide +kernel

/-- A session that was accepted a day ago makes a table of one row. -/
theorem accepted_session_counted :
    let store := Call.run [.record ⟨"id", yearEnd, yearEnd⟩ (.trigger .acceptedOne)]
      MemoryStore.empty
    (∃ logs, Keeps store (fun _ => True) logs ∧
      CountsRecent yearLater 7 ⟨1608854400000000000⟩ store logs) ∧
    stats yearLater 7 store = .ok (tableText 7 [(.automatic, ⟨1, 0, 0, 0⟩)] ++ analyzedText 1) := by
  intro store
  obtain ⟨counts, -⟩ := stats_counts_recent_logs
    [.record ⟨"id", yearEnd, yearEnd⟩ (.trigger .acceptedOne)] daysSpan_seven cutoff_sevenDays
  exact ⟨counts store (MemoryStore.reaches_foldl _ _), by decide +kernel⟩

end Command
end TriggerLedger
