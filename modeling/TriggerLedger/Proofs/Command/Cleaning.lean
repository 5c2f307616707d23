import TriggerLedger.Command.Clean
import TriggerLedger.Proofs.Store.Catalogue
/-!
# Old logs removed

Cleaning inspects the newest logs that are listed, up to a limit.  Of these it
removes the ones that were neither created nor updated since the cutoff, and no
others; what is not listed, or lies beyond the limit, stays however old it is.
-/

namespace TriggerLedger

theorem Instant.not_le {first second : Instant} : ¬ first ≤ second ↔ second < first :=
  Int.not_le

/-- A log that was neither created nor updated since a cutoff. -/
def Log.IsOld (cutoff : Instant) (log : Log) : Prop :=
  log.createdAt < cutoff ∧ log.updatedAt < cutoff

instance (cutoff : Instant) (log : Log) : Decidable (log.IsOld cutoff) :=
  inferInstanceAs (Decidable (_ ∧ _))

namespace Command

variable {σ : Type} [Store σ] {place : String → String} {store : σ} {logs : List Log}
  {now cutoff : Instant} {span : Span}

/-- The newest logs, as many as are looked at. -/
def inspected (logs : List Log) : List Log :=
  (logs.mergeSort fun first second => decide (second.createdAt ≤ first.createdAt)).take scanLimit

/-- The places of the old ones among some logs. -/
def oldPlaces (place : String → String) (cutoff : Instant) (logs : List Log) : List String :=
  (logs.filter (·.IsOld cutoff)).map fun log => place log.sessionId

theorem map_summary_inspected (logs : List Log) :
    (inspected logs).map Log.summary =
      (LogSummary.newestFirst (logs.map Log.summary)).take scanLimit := by
  rw [inspected, List.map_take, LogSummary.newestFirst]
  congr 1
  exact List.map_mergeSort fun _ _ _ _ => rfl

theorem mem_of_mem_inspected {log : Log} (member : log ∈ inspected logs) : log ∈ logs :=
  (List.mergeSort_perm _ _).mem_iff.mp (List.mem_of_mem_take member)

theorem mem_inspected_iff (few : logs.length ≤ scanLimit) {log : Log} :
    log ∈ inspected logs ↔ log ∈ logs := by
  rw [inspected, List.take_of_length_le (by rwa [List.length_mergeSort]),
    (List.mergeSort_perm _ _).mem_iff]

theorem nodup_inspected (lists : Lists place store logs) :
    ((inspected logs).map fun log => place log.sessionId).Nodup :=
  (((List.mergeSort_perm logs _).map _).nodup_iff.mpr lists.apart).sublist
    ((List.take_sublist _ _).map _)

theorem isInUse_of_get {log : Log} (found : Store.get store log.sessionId = .ok (some log)) :
    isInUse cutoff store log.summary = .ok (decide (cutoff ≤ log.updatedAt)) := by
  simp [isInUse, Log.summary, found]

theorem removeOld_cons_of_kept {log : Log} (summaries : List LogSummary)
    (found : Store.get store log.sessionId = .ok (some log)) (stays : ¬ log.IsOld cutoff) :
    removeOld cutoff (log.summary :: summaries) store = removeOld cutoff summaries store := by
  rw [removeOld]
  split
  case isTrue => rfl
  case isFalse created =>
    have inUse : cutoff ≤ log.updatedAt := by
      by_contra outdated
      exact stays ⟨Instant.not_le.mp created, Instant.not_le.mp outdated⟩
    rw [isInUse_of_get found, decide_eq_true inUse]

/-- A log is deleted if its summary is old and the log that is found by it is out of use. -/
theorem removeOld_cons_of_outdated {log : Log} {summary : LogSummary}
    (deletes : DeletesByPlace σ place) (summaries : List LogSummary)
    (found : Store.get store summary.sessionId = .ok (some log))
    (created : summary.createdAt < cutoff) (updated : log.updatedAt < cutoff) :
    removeOld cutoff (summary :: summaries) store =
      let rest := removeOld cutoff summaries (Store.delete store summary.sessionId).1
      (rest.1, rest.2.map (· + 1)) := by
  have deleted : Store.delete store summary.sessionId =
      ((Store.delete store summary.sessionId).1, .ok ()) :=
    Prod.ext rfl (deletes.ok store summary.sessionId)
  have notInUse : isInUse cutoff store summary = .ok false := by
    simp [isInUse, found, Instant.not_le.mpr updated]
  rw [removeOld, if_neg (Instant.not_le.mpr created), notInUse, deleted]

theorem removeOld_cons_of_old {log : Log} (deletes : DeletesByPlace σ place)
    (summaries : List LogSummary) (found : Store.get store log.sessionId = .ok (some log))
    (old : log.IsOld cutoff) :
    removeOld cutoff (log.summary :: summaries) store =
      let rest := removeOld cutoff summaries (Store.delete store log.sessionId).1
      (rest.1, rest.2.map (· + 1)) :=
  removeOld_cons_of_outdated deletes summaries found old.1 old.2

/-- Of logs in different places, removing takes the old ones, and nothing else. -/
theorem removeOld_eq (deletes : DeletesByPlace σ place)
    (apart : (logs.map fun log => place log.sessionId).Nodup)
    (found : ∀ log ∈ logs, Store.get store log.sessionId = .ok (some log)) :
    let removed := removeOld cutoff (logs.map Log.summary) store
    removed.2 = .ok (oldPlaces place cutoff logs).length ∧
      ∀ sessionId, Store.get removed.1 sessionId =
        if place sessionId ∈ oldPlaces place cutoff logs then .ok none
        else Store.get store sessionId := by
  induction logs generalizing store with
  | nil => exact ⟨rfl, fun _ => rfl⟩
  | cons log logs induction =>
      rw [List.map_cons, List.nodup_cons] at apart
      obtain ⟨here, later⟩ := List.forall_mem_cons.mp found
      rw [List.map_cons]
      by_cases old : log.IsOld cutoff
      · have places : oldPlaces place cutoff (log :: logs) =
            place log.sessionId :: oldPlaces place cutoff logs := by
          simp [oldPlaces, old]
        -- Later logs lie in other places, so they are still found when their turn comes.
        have untouched : ∀ other ∈ logs,
            Store.get (Store.delete store log.sessionId).1 other.sessionId = .ok (some other) := by
          intro other member
          rw [deletes.get, if_neg, later other member]
          intro same
          exact apart.1 (same ▸ List.mem_map_of_mem member)
        obtain ⟨count, left⟩ := induction apart.2 untouched
        rw [removeOld_cons_of_old deletes _ here old, places]
        refine ⟨by simp [count, Except.map], fun sessionId => ?_⟩
        dsimp only
        rw [left, deletes.get]
        by_cases same : place sessionId = place log.sessionId <;> simp [same]
      · have places : oldPlaces place cutoff (log :: logs) = oldPlaces place cutoff logs := by
          simp [oldPlaces, old]
        rw [removeOld_cons_of_kept _ here old, places]
        exact induction apart.2 later

/-- Cleaning removes the old ones among the logs that it inspects, and nothing else. -/
theorem cleanLogs_eq (deletes : DeletesByPlace σ place) (lists : Lists place store logs)
    (within : cutoffBefore now span = .ok cutoff) :
    let cleaned := cleanLogs now span store
    cleaned.2 = .ok (oldPlaces place cutoff (inspected logs)).length ∧
      ∀ sessionId, Store.get cleaned.1 sessionId =
        if place sessionId ∈ oldPlaces place cutoff (inspected logs) then .ok none
        else Store.get store sessionId := by
  have found : ∀ log ∈ inspected logs, Store.get store log.sessionId = .ok (some log) :=
    fun log member => lists.get log (mem_of_mem_inspected member) log.sessionId rfl
  rw [cleanLogs, within, lists.list, ← map_summary_inspected]
  exact removeOld_eq deletes (nodup_inspected lists) found

/-- Of the old logs, those are left that are not listed. -/
theorem get_cleanLogs_iff (deletes : DeletesByPlace σ place) (lists : Lists place store logs)
    (within : cutoffBefore now span = .ok cutoff) {sessionId : String} {log : Log}
    (old : log.IsOld cutoff) :
    Store.get (cleanLogs now span store).1 sessionId = .ok (some log) ↔
      Store.get store sessionId = .ok (some log) ∧
        log.summary ∉ (inspected logs).map Log.summary := by
  rw [(cleanLogs_eq deletes lists within).2]
  constructor
  · intro found
    split at found
    case isTrue => cases found
    case isFalse present =>
      refine ⟨found, fun listed => present ?_⟩
      obtain ⟨other, member, same⟩ := List.mem_map.mp listed
      have named : place log.sessionId = place sessionId := lists.own sessionId log found
      have ids : other.sessionId = log.sessionId := congrArg LogSummary.sessionId same
      obtain rfl : other = log :=
        lists.eq_of_place found (mem_of_mem_inspected member) (by rw [ids, named])
      exact List.mem_map.mpr ⟨other, List.mem_filter.mpr ⟨member, by simpa using old⟩, named⟩
  · rintro ⟨found, unlisted⟩
    rw [if_neg]
    · exact found
    · intro isPlace
      obtain ⟨other, chosen, same⟩ := List.mem_map.mp isPlace
      have member := (List.mem_filter.mp chosen).1
      obtain rfl : other = log :=
        lists.eq_of_place found (mem_of_mem_inspected member) same.symm
      exact unlisted (List.mem_map_of_mem member)

theorem not_isOld_of_few (deletes : DeletesByPlace σ place) (lists : Lists place store logs)
    (within : cutoffBefore now span = .ok cutoff) (few : logs.length ≤ scanLimit)
    {sessionId : String} {log : Log} (member : log ∈ logs)
    (left : Store.get (cleanLogs now span store).1 sessionId = .ok (some log)) :
    ¬ log.IsOld cutoff := by
  intro old
  obtain ⟨-, unlisted⟩ := (get_cleanLogs_iff deletes lists within old).mp left
  exact unlisted (List.mem_map_of_mem ((mem_inspected_iff few).mpr member))

/-- Of too many old logs, as many are removed as are looked at, and another one is left. -/
theorem exists_left_of_many (deletes : DeletesByPlace σ place) (lists : Lists place store logs)
    (within : cutoffBefore now span = .ok cutoff) (many : scanLimit < logs.length)
    (allOld : ∀ log ∈ logs, log.IsOld cutoff) :
    (cleanLogs now span store).2 = .ok scanLimit ∧
      ∃ log ∈ logs, Store.get (cleanLogs now span store).1 log.sessionId = .ok (some log) := by
  obtain ⟨count, left⟩ := cleanLogs_eq deletes lists within
  have removed : (oldPlaces place cutoff (inspected logs)).length = scanLimit := by
    have all : (inspected logs).filter (·.IsOld cutoff) = inspected logs := by
      rw [List.filter_eq_self]
      exact fun log member => decide_eq_true (allOld log (mem_of_mem_inspected member))
    rw [oldPlaces, all, List.length_map, inspected, List.length_take, List.length_mergeSort]
    omega
  refine ⟨by rw [count, removed], ?_⟩
  by_contra none
  -- Then the places of all logs would be among those of the logs removed.
  have covered : (logs.map fun log => place log.sessionId) ⊆
      oldPlaces place cutoff (inspected logs) := by
    intro name isPlace
    obtain ⟨log, member, rfl⟩ := List.mem_map.mp isPlace
    by_contra kept
    refine none ⟨log, member, ?_⟩
    rw [left, if_neg kept]
    exact lists.get log member log.sessionId rfl
  have few := (List.subperm_of_subset lists.apart covered).length_le
  rw [List.length_map, removed] at few
  omega

/-- Cleaning succeeds, and the old logs that it leaves are those that are not listed. -/
structure LeavesUnlisted (cutoff : Instant) (store : σ) (cleaned : σ × Except Failure Nat) :
    Prop where
  ok : ∃ removed, cleaned.2 = .ok removed
  left : ∀ sessionId log, log.IsOld cutoff →
    (Store.get cleaned.1 sessionId = .ok (some log) ↔
      Store.get store sessionId = .ok (some log) ∧
        ∀ summaries, Store.list store scanLimit = .ok summaries → log.summary ∉ summaries)

theorem leavesUnlisted (deletes : DeletesByPlace σ place) (lists : Lists place store logs)
    (within : cutoffBefore now span = .ok cutoff) :
    LeavesUnlisted cutoff store (cleanLogs now span store) where
  ok := ⟨_, (cleanLogs_eq deletes lists within).1⟩
  left sessionId log old := by
    rw [get_cleanLogs_iff deletes lists within old, lists.list, ← map_summary_inspected]
    refine and_congr_right fun _ => ⟨?_, fun unlisted => unlisted _ rfl⟩
    rintro unlisted _ ⟨⟩
    exact unlisted

open Directory in
/-- Whatever calls a store was built by, cleaning leaves exactly those old logs that the listing of
the newest logs misses.  In memory these are none unless there are more logs than are listed.  In a
directory it is the same, but for the log of the empty session id, which is never listed. -/
theorem clean_leaves_old_logs_iff_unlisted (calls : List Call)
    (within : cutoffBefore now span = .ok cutoff) :
    (∀ store, Reaches MemoryStore.SameLogs .empty calls store →
      let cleaned := cleanLogs now span store
      LeavesUnlisted cutoff store cleaned ∧
      (store.logs.length ≤ scanLimit →
        ∀ sessionId log, cleaned.1.get? sessionId = some log → ¬ log.IsOld cutoff)) ∧
    ∀ directory, Reaches SameFiles .empty calls directory →
      let cleaned := cleanLogs now span directory
      LeavesUnlisted cutoff directory cleaned ∧
      cleaned.1.getLog "" = directory.getLog "" ∧
      (directory.readableLogs.length ≤ scanLimit → ∀ sessionId log, sessionId ≠ "" →
        cleaned.1.getLog sessionId = .ok (some log) → ¬ log.IsOld cutoff) := by
  constructor
  · intro store reaches cleaned
    have filed := MemoryStore.WellFiled.of_reaches reaches
    have deletes := MemoryStore.deletesByPlace
    refine ⟨leavesUnlisted deletes filed.lists within, fun few sessionId log left old => ?_⟩
    have found := (get_cleanLogs_iff deletes filed.lists within old).mp (congrArg Except.ok left)
    have member := MemoryStore.mem_logs_of_get? filed (Except.ok.inj found.1)
    exact not_isOld_of_few deletes filed.lists within (by rwa [List.length_map]) member
      (congrArg Except.ok left) old
  · intro directory reaches cleaned
    have filed := WellFiled.of_reaches reaches
    refine ⟨leavesUnlisted deletesByPlace filed.lists within, ?_, ?_⟩
    · have unlisted : fileName "" ∉
          oldPlaces fileName cutoff (inspected directory.readableLogs) := by
        intro isPlace
        obtain ⟨log, chosen, same⟩ := List.mem_map.mp isPlace
        have member := mem_of_mem_inspected (List.mem_filter.mp chosen).1
        exact filed.fileName_ne_of_mem member same
      have kept := (cleanLogs_eq deletesByPlace filed.lists within).2 ""
      rwa [if_neg unlisted] at kept
    · intro few sessionId log named left old
      have found := (get_cleanLogs_iff deletesByPlace filed.lists within old).mp left
      have member := mem_readableLogs_of_getLog filed.unique named found.1
      exact not_isOld_of_few deletesByPlace filed.lists within few member left old

/-! ## An aged log

A log of the year 2020 as it is seen from the year 2021. -/

section Aged

/-- A log of the start of the year 2020. -/
def agedLog (sessionId : String) : Log :=
  ⟨sessionId, [], ⟨1577836800000000000⟩, ⟨1577836800000000000⟩⟩

/-- The start of the year 2021. -/
def yearLater : Instant := ⟨1609459200000000000⟩

theorem isOld_agedLog (sessionId : String) : (agedLog sessionId).IsOld yearLater := by
  constructor <;> exact (by decide : (1577836800000000000 : Int) < 1609459200000000000)

theorem cutoff_yearLater : cutoffBefore yearLater ⟨0⟩ = .ok yearLater := by decide +kernel

theorem getLog_of_put_agedLog {sessionId : String}
    (usable : Directory.isUsableName (Directory.fileName sessionId) = true) :
    (Call.run [.put (agedLog sessionId)] Directory.empty).getLog sessionId =
      .ok (some (agedLog sessionId)) := by
  have noEvents (recorded : RecordedEvent) : recorded ∉ (agedLog sessionId).events :=
    List.not_mem_nil
  have inCalendar : Instant.inCalendar ⟨1577836800000000000⟩ = true := by decide +kernel
  rw [Call.run_put]
  exact Directory.getLog_putLog_self usable
    ⟨fun recorded member => absurd member (noEvents recorded), inCalendar, inCalendar⟩
    (fun recorded member => absurd member (noEvents recorded)) rfl

end Aged

/-- A log of 2020 that was put into either store is not found any more after cleaning in 2021. -/
theorem aged_log_removed :
    let store := Call.run [.put (agedLog "aged")] MemoryStore.empty
    let directory := Call.run [.put (agedLog "aged")] Directory.empty
    store.get? "aged" = some (agedLog "aged") ∧
      (cleanLogs yearLater ⟨0⟩ store).1.get? "aged" ≠ some (agedLog "aged") ∧
      directory.getLog "aged" = .ok (some (agedLog "aged")) ∧
      (cleanLogs yearLater ⟨0⟩ directory).1.getLog "aged" ≠ .ok (some (agedLog "aged")) := by
  intro store directory
  obtain ⟨memory, files⟩ :=
    clean_leaves_old_logs_iff_unlisted [.put (agedLog "aged")] cutoff_yearLater
  obtain ⟨-, noneOld⟩ := memory store (MemoryStore.reaches_foldl _ _)
  obtain ⟨-, -, noneOldNamed⟩ := files directory (Directory.reaches_foldl _ _)
  have fewLogs : store.logs.length ≤ scanLimit := by decide +kernel
  have fewFiles : directory.files.length ≤ scanLimit := by decide +kernel
  refine ⟨by decide +kernel, fun left => ?_, getLog_of_put_agedLog (by decide +kernel),
    fun left => ?_⟩
  · exact noneOld fewLogs "aged" _ left (isOld_agedLog "aged")
  · exact noneOldNamed ((List.length_filterMap_le _ _).trans fewFiles) "aged" _ (by decide) left
      (isOld_agedLog "aged")

/-- An id of so many letters. -/
def lettersId (count : Nat) : String := String.ofList (List.replicate count 'a')

def putAged (count : Nat) : List Call :=
  (List.range count).map fun letters => .put (agedLog (lettersId letters))

theorem run_putAged (count : Nat) :
    Call.run (putAged count) MemoryStore.empty =
      ⟨(List.range count).map fun letters => (lettersId letters, agedLog (lettersId letters))⟩ := by
  induction count with
  | zero => rfl
  | succ count induction =>
      have absent : lettersId count ∉ ((List.range count).map fun letters =>
          (lettersId letters, agedLog (lettersId letters))).map Prod.fst := by
        intro member
        obtain ⟨_, isEntry, same⟩ := List.mem_map.mp member
        obtain ⟨letters, fewer, rfl⟩ := List.mem_map.mp isEntry
        have lengths := congrArg (·.toList.length) same
        simp only [lettersId, String.toList_ofList, List.length_replicate] at lengths
        exact absurd (List.mem_range.mp fewer) (by omega)
      rw [putAged, List.range_succ, List.map_append, List.map_singleton, Call.run_concat,
        ← putAged, induction, List.map_append, List.map_singleton]
      exact congrArg MemoryStore.mk (Entries.replace_of_absent absent)

/-- However many logs a memory store holds, cleaning removes no more than it inspects. -/
theorem exists_left_of_putAged {count : Nat} (many : scanLimit < count) :
    let store := Call.run (putAged count) MemoryStore.empty
    let cleaned := cleanLogs yearLater ⟨0⟩ store
    cleaned.2 = .ok scanLimit ∧
      ∃ sessionId log, cleaned.1.get? sessionId = some log ∧ log.IsOld yearLater := by
  intro store cleaned
  have filed : store.WellFiled :=
    MemoryStore.WellFiled.of_reaches (MemoryStore.reaches_foldl (putAged count) _)
  have logs : store.logs.map Prod.snd = (List.range count).map fun letters =>
      agedLog (lettersId letters) := by
    simp only [store, run_putAged, List.map_map]
    rfl
  have allOld : ∀ log ∈ store.logs.map Prod.snd, log.IsOld yearLater := by
    rw [logs]
    intro log member
    obtain ⟨letters, -, rfl⟩ := List.mem_map.mp member
    exact isOld_agedLog _
  obtain ⟨removed, log, member, left⟩ :=
    exists_left_of_many MemoryStore.deletesByPlace filed.lists cutoff_yearLater
      (by rwa [logs, List.length_map, List.length_range]) allOld
  exact ⟨removed, log.sessionId, log, Except.ok.inj left, allOld log member⟩

/-- The log of the empty session id stays in a directory whatever its age, and so does one of
10001 logs in memory. -/
theorem old_logs_left_behind :
    (let directory := Call.run [.put (agedLog "")] Directory.empty
      let cleaned := cleanLogs yearLater ⟨0⟩ directory
      cleaned.2 = .ok 0 ∧ cleaned.1.getLog "" = .ok (some (agedLog ""))) ∧
    (let store := Call.run (putAged 10001) MemoryStore.empty
      let cleaned := cleanLogs yearLater ⟨0⟩ store
      cleaned.2 = .ok 10000 ∧ ∃ sessionId log, cleaned.1.get? sessionId = some log ∧
        log.IsOld yearLater) := by
  refine ⟨?_, exists_left_of_putAged (Nat.lt_succ_self 10000)⟩
  intro directory cleaned
  have unlisted : directory.readableLogs = [] := by decide +kernel
  have filed : directory.WellFiled :=
    Directory.WellFiled.of_reaches (Directory.reaches_foldl [.put (agedLog "")] _)
  obtain ⟨count, left⟩ :=
    cleanLogs_eq Directory.deletesByPlace filed.lists cutoff_yearLater
  have nothing : oldPlaces Directory.fileName yearLater (inspected []) = [] := by
    simp [inspected, oldPlaces]
  rw [unlisted, nothing] at count left
  refine ⟨count, (left "").trans ?_⟩
  rw [if_neg List.not_mem_nil]
  exact getLog_of_put_agedLog (by decide +kernel)

end Command
end TriggerLedger
