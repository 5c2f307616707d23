import TriggerLedger.Proofs.Store.Interruption
/-!
# Places of logs

Whatever calls a store was built by, each of its logs lies in the place of its own
session: under the id in memory, and in the file of the id in a directory.  So a
log that is listed is found again by its id, and deleting by that id deletes this
log and no other.
-/

namespace TriggerLedger

/-- What a store lists are logs that lie in the places of their own sessions, and the log of a
place is found and deleted by every id of the place. -/
structure Lists {σ : Type} [Store σ] (place : String → String) (store : σ) (logs : List Log) :
    Prop where
  list : ∀ limit, Store.list store limit =
    .ok ((LogSummary.newestFirst (logs.map Log.summary)).take limit)
  apart : (logs.map fun log => place log.sessionId).Nodup
  get : ∀ log ∈ logs, ∀ sessionId, place sessionId = place log.sessionId →
    Store.get store sessionId = .ok (some log)
  own : ∀ sessionId log, Store.get store sessionId = .ok (some log) →
    place log.sessionId = place sessionId

theorem Lists.eq_of_place {σ : Type} [Store σ] {place : String → String} {store : σ}
    {logs : List Log} (lists : Lists place store logs) {log other : Log} {sessionId : String}
    (found : Store.get store sessionId = .ok (some log)) (member : other ∈ logs)
    (same : place sessionId = place other.sessionId) : other = log :=
  Option.some.inj (Except.ok.inj ((lists.get other member sessionId same).symm.trans found))

/-- A store that deletes by places. -/
structure DeletesByPlace (σ : Type) [Store σ] (place : String → String) : Prop where
  ok : ∀ (store : σ) sessionId, (Store.delete store sessionId).2 = .ok ()
  get : ∀ (store : σ) sessionId other, Store.get (Store.delete store sessionId).1 other =
    if place other = place sessionId then .ok none else Store.get store other

namespace MemoryStore

/-- Each log lies under its own session. -/
structure WellFiled (store : MemoryStore) : Prop where
  unique : (store.logs.map Prod.fst).Nodup
  own : ∀ entry ∈ store.logs, entry.2.sessionId = entry.1

namespace WellFiled

variable {store : MemoryStore} {sessionId : String} {log : Log}

theorem own_of_get? (filed : store.WellFiled) (found : store.get? sessionId = some log) :
    log.sessionId = sessionId :=
  filed.own (sessionId, log) ((Entries.lookup_eq_some_iff filed.unique).mp found)

theorem insert (filed : store.WellFiled) (named : log.sessionId = sessionId) :
    (store.insert sessionId log).WellFiled where
  unique := Entries.nodup_replace filed.unique
  own entry member := by
    rcases Entries.mem_of_mem_replace filed.unique member with rfl | old
    · exact named
    · exact filed.own entry old

theorem perform (filed : store.WellFiled) (call : Call) : (call.perform store).1.WellFiled := by
  cases call with
  | record stamp event =>
      refine filed.insert ?_
      cases found : store.get? event.key with
      | none => rfl
      | some log =>
          change log.sessionId = event.key
          exact filed.own_of_get? found
  | put log => exact filed.insert rfl
  | get sessionId => exact filed
  | list limit => exact filed
  | delete sessionId =>
      exact ⟨Entries.nodup_erase filed.unique,
        fun entry member => filed.own entry (List.mem_filter.mp member).1⟩

theorem of_reaches {calls : List Call} (reaches : Reaches SameLogs .empty calls store) :
    store.WellFiled := by
  refine reaches.invariant ?_ (fun call filed => filed.perform call)
    ⟨List.nodup_nil, by simp [MemoryStore.empty]⟩
  intro store other same filed
  exact ⟨(same.map Prod.fst).nodup_iff.mp filed.unique,
    fun entry member => filed.own entry (same.mem_iff.mpr member)⟩

theorem lists (filed : store.WellFiled) : Lists id store (store.logs.map Prod.snd) where
  list limit := by
    rw [List.map_map]
    rfl
  apart := by
    have ids : (store.logs.map Prod.snd).map (fun log => id log.sessionId) =
        store.logs.map Prod.fst := by
      rw [List.map_map]
      exact List.map_congr_left filed.own
    rw [ids]
    exact filed.unique
  get log member sessionId same := by
    obtain ⟨entry, isEntry, rfl⟩ := List.mem_map.mp member
    obtain rfl : sessionId = entry.1 := same.trans (filed.own entry isEntry)
    exact congrArg Except.ok ((Entries.lookup_eq_some_iff filed.unique).mpr isEntry)
  own sessionId log found := filed.own_of_get? (Except.ok.inj found)

end WellFiled

theorem mem_logs_of_get? {store : MemoryStore} {sessionId : String} {log : Log}
    (filed : store.WellFiled) (found : store.get? sessionId = some log) :
    log ∈ store.logs.map Prod.snd :=
  List.mem_map.mpr ⟨(sessionId, log), (Entries.lookup_eq_some_iff filed.unique).mp found, rfl⟩

theorem deletesByPlace : DeletesByPlace MemoryStore id where
  ok _ _ := rfl
  get store sessionId other := by
    change Except.ok ((store.erase sessionId).get? other) = _
    split
    case isTrue same =>
      obtain rfl : other = sessionId := same
      exact congrArg Except.ok (Entries.lookup_erase_self _ _)
    case isFalse different => exact congrArg Except.ok (Entries.lookup_erase_of_ne different)

end MemoryStore

namespace Directory

variable {directory : Directory} {sessionId : String} {log : Log}

theorem nodup_perform {step : FileStep} {changed : Directory} (unique : directory.names.Nodup)
    (performed : directory.perform step = .ok changed) : changed.names.Nodup := by
  cases step with
  | write name contents =>
      simp only [perform] at performed
      split at performed
      · obtain rfl := Except.ok.inj performed
        exact Entries.nodup_replace unique
      · cases performed
  | rename source target =>
      simp only [perform] at performed
      split at performed
      · cases performed
      · split at performed
        · cases performed
        · obtain rfl := Except.ok.inj performed
          exact Entries.nodup_replace (Entries.nodup_erase unique)

theorem nodup_performAll (steps : List FileStep) (unique : directory.names.Nodup) :
    (directory.performAll steps).1.names.Nodup := by
  induction steps generalizing directory with
  | nil => exact unique
  | cons step steps induction =>
      rw [performAll]
      cases performed : directory.perform step with
      | error fault => exact unique
      | ok changed => exact induction (nodup_perform unique performed)

theorem exists_contents_of_getLog (found : directory.getLog sessionId = .ok (some log)) :
    ∃ contents, directory.read? (fileName sessionId) = some contents ∧
      Log.parse contents = .ok log := by
  rw [getLog] at found
  split at found
  case h_1 => cases found
  case h_2 contents stored =>
    split at found
    case h_1 => cases found
    case h_2 parsed =>
      cases found
      exact ⟨contents, stored, parsed⟩

theorem readLog?_eq_some_iff {name contents : String} :
    (if isLogName name then (Log.parse contents).toOption else none) = some log ↔
      isLogName name = true ∧ Log.parse contents = .ok log := by
  cases isLogName name <;> cases Log.parse contents <;> simp [Except.toOption]

/-- A log that can be read lies in the file of its own session, unless the file is temporary. -/
structure WellFiled (directory : Directory) : Prop where
  unique : directory.names.Nodup
  own : ∀ entry ∈ directory.settled.files, ∀ log, Log.parse entry.2 = .ok log →
    fileName log.sessionId = entry.1

namespace WellFiled

theorem putLog (filed : directory.WellFiled) (log : Log) : (directory.putLog log).1.WellFiled where
  unique := nodup_performAll _ filed.unique
  own := by
    rw [(settled_putLog directory log).1]
    split
    case isFalse => exact filed.own
    case isTrue =>
      -- Of the files that are not temporary, the put has changed only its own.
      have settledUnique : (directory.settled.files.map Prod.fst).Nodup :=
        filed.unique.sublist (List.filter_sublist.map Prod.fst)
      intro entry member decoded read
      rcases Entries.mem_of_mem_replace settledUnique member with rfl | old
      · rw [Log.sessionId_of_parse_render read]
      · exact filed.own entry old decoded read

theorem remove (filed : directory.WellFiled) (name : String) :
    (directory.remove name).WellFiled where
  unique := Entries.nodup_erase filed.unique
  own entry member := by
    rw [settled_remove] at member
    exact filed.own entry (List.mem_filter.mp member).1

theorem perform (filed : directory.WellFiled) (call : Call) :
    (call.perform directory).1.WellFiled := by
  cases call with
  | record stamp event =>
      change (Store.record directory stamp event).1.WellFiled
      cases stored : directory.getLog event.key with
      | error fault => rwa [record_of_getLog_error stored]
      | ok found =>
          rw [record_of_getLog stored]
          exact filed.putLog _
  | put log => exact filed.putLog log
  | get sessionId => exact filed
  | list limit => exact filed
  | delete sessionId => exact filed.remove _

theorem of_reaches {calls : List Call} (reaches : Reaches SameFiles .empty calls directory) :
    directory.WellFiled := by
  refine reaches.invariant ?_ (fun call filed => filed.perform call)
    ⟨List.nodup_nil, by simp [settled, Directory.empty]⟩
  intro directory other same filed
  exact ⟨(same.map Prod.fst).nodup_iff.mp filed.unique,
    fun entry member => filed.own entry ((same.filter _).mem_iff.mpr member)⟩

theorem mem_settled_of_read? (unique : directory.names.Nodup) {contents : String}
    (stored : directory.read? (fileName sessionId) = some contents) :
    (fileName sessionId, contents) ∈ directory.settled.files :=
  List.mem_filter.mpr ⟨(Entries.lookup_eq_some_iff unique).mp stored,
    by simp [isTemporary_fileName]⟩

theorem own_of_getLog (filed : directory.WellFiled)
    (found : directory.getLog sessionId = .ok (some log)) :
    fileName log.sessionId = fileName sessionId := by
  obtain ⟨contents, stored, parsed⟩ := exists_contents_of_getLog found
  exact filed.own _ (mem_settled_of_read? filed.unique stored) log parsed

theorem own_of_mem_files (filed : directory.WellFiled) {entry : String × String}
    (member : entry ∈ directory.files) (isLog : isLogName entry.1 = true)
    (parsed : Log.parse entry.2 = .ok log) : fileName log.sessionId = entry.1 := by
  refine filed.own entry (List.mem_filter.mpr ⟨member, ?_⟩) log parsed
  cases temporary : isTemporary entry.1 with
  | false => rfl
  | true => exact absurd isLog (by simp [isLogName_of_isTemporary temporary])

theorem lists (filed : directory.WellFiled) : Lists fileName directory directory.readableLogs where
  list _ := rfl
  apart := by
    -- Logs of one file name would come from entries of one name.
    rw [List.Nodup, List.pairwise_map, readableLogs, List.pairwise_filterMap]
    refine (List.pairwise_map.mp filed.unique).imp_of_mem ?_
    intro first second firstMember secondMember different log fromFirst other fromSecond same
    obtain ⟨isLog, parsed⟩ := readLog?_eq_some_iff.mp fromFirst
    obtain ⟨isOther, parsedOther⟩ := readLog?_eq_some_iff.mp fromSecond
    rw [filed.own_of_mem_files firstMember isLog parsed,
      filed.own_of_mem_files secondMember isOther parsedOther] at same
    exact different same
  get log member sessionId same := by
    obtain ⟨entry, isEntry, isRead⟩ := List.mem_filterMap.mp member
    obtain ⟨isLog, parsed⟩ := readLog?_eq_some_iff.mp isRead
    have named : fileName sessionId = entry.1 :=
      same.trans (filed.own_of_mem_files isEntry isLog parsed)
    refine getLog_of_parse ?_ parsed
    rw [named]
    exact (Entries.lookup_eq_some_iff filed.unique).mpr isEntry
  own _ _ found := filed.own_of_getLog found

end WellFiled

/-- A file of the empty session id is not listed, since its name is all extension. -/
theorem isLogName_fileName : isLogName (fileName sessionId) = true ↔ sessionId ≠ "" := by
  rw [isLogName, toList_fileName, List.reverse_append, ne_eq, ← stem_eq_empty_iff,
    ← String.toList_inj, String.toList_empty, ← List.reverse_eq_nil_iff]
  cases (stem sessionId).toList.reverse <;> simp

/-- No log that is listed lies in the file of the empty session id. -/
theorem WellFiled.fileName_ne_of_mem (filed : directory.WellFiled)
    (member : log ∈ directory.readableLogs) : fileName log.sessionId ≠ fileName "" := by
  obtain ⟨entry, isEntry, isRead⟩ := List.mem_filterMap.mp member
  obtain ⟨isLog, parsed⟩ := readLog?_eq_some_iff.mp isRead
  rw [← filed.own_of_mem_files isEntry isLog parsed] at isLog
  intro same
  exact isLogName_fileName.mp (same ▸ isLog) rfl

theorem mem_readableLogs_of_getLog (unique : directory.names.Nodup) (named : sessionId ≠ "")
    (found : directory.getLog sessionId = .ok (some log)) : log ∈ directory.readableLogs := by
  obtain ⟨contents, stored, parsed⟩ := exists_contents_of_getLog found
  exact List.mem_filterMap.mpr ⟨_, (Entries.lookup_eq_some_iff unique).mp stored,
    readLog?_eq_some_iff.mpr ⟨isLogName_fileName.mpr named, parsed⟩⟩

theorem deletesByPlace : DeletesByPlace Directory fileName where
  ok _ _ := rfl
  get directory sessionId other := by
    change (directory.deleteLog sessionId).getLog other = _
    split
    case isTrue same =>
      have gone : (directory.deleteLog sessionId).read? (fileName other) = none := by
        rw [same]
        exact Entries.lookup_erase_self _ _
      rw [getLog, gone]
    case isFalse different => exact getLog_congr (read?_remove_of_ne different)

end Directory
end TriggerLedger
