import TriggerLedger.Proofs.Store.Names
/-!
# A directory refines a store in memory

A directory holds what a store in memory holds when its files are the texts of
the logs, under the names of their sessions.  Every call keeps that, and is
answered alike.
-/

namespace TriggerLedger

namespace Directory

theorem stem_of_plain {sessionId : String} (plain : IsPlainId sessionId) :
    stem sessionId = sessionId :=
  stem_of_safe (List.all_eq_true.mp plain.safe)

/-- Different plain ids have different files. -/
theorem fileName_injective {first second : String} (plainFirst : IsPlainId first)
    (plainSecond : IsPlainId second) (same : fileName first = fileName second) :
    first = second := by
  have stems := fileName_eq_iff.mp same
  rwa [stem_of_plain plainFirst, stem_of_plain plainSecond] at stems

theorem isLogName_of_plain {sessionId : String} (plain : IsPlainId sessionId) :
    isLogName (fileName sessionId) = true := by
  have some : sessionId.toList.reverse ≠ [] := by simpa using plain.nonempty
  rw [fileName, stem_of_plain plain, isLogName]
  cases characters : sessionId.toList.reverse with
  | nil => exact absurd characters some
  | cons c rest => simp [characters]

/-- The file of a log kept for a session. -/
def fileOf (entry : String × Log) : String × String := (fileName entry.1, entry.2.render)

end Directory

/-- An entry whose log is kept under its own plain id and survives its text. -/
structure IsKept (entry : String × Log) : Prop where
  plain : IsPlainId entry.1
  named : entry.2.sessionId = entry.1
  fits : entry.2.Fits
  reals : entry.2.RealsReadBack

/-- The files of a directory are the texts of the logs in memory, in any order. -/
structure Holds (directory : Directory) (store : MemoryStore) : Prop where
  files : directory.files.Perm (store.logs.map Directory.fileOf)
  unique : (store.logs.map Prod.fst).Nodup
  kept : ∀ entry ∈ store.logs, IsKept entry

namespace Directory

variable {sessionId : String} {logs : List (String × Log)}

theorem lookup_fileOf (kept : ∀ entry ∈ logs, IsKept entry) (plain : IsPlainId sessionId) :
    (logs.map fileOf).lookup (fileName sessionId) = (logs.lookup sessionId).map Log.render := by
  induction logs with
  | nil => rfl
  | cons entry logs induction =>
      have rest := induction fun other member => kept other (List.mem_cons_of_mem entry member)
      have first := (kept entry List.mem_cons_self).plain
      rw [List.map_cons, fileOf, List.lookup_cons, List.lookup_cons]
      by_cases same : sessionId = entry.1
      · simp [same]
      · have notFirst : (sessionId == entry.1) = false := by simpa using same
        have notFile : (fileName sessionId == fileName entry.1) = false := by
          simpa using fun equal => same (fileName_injective plain first equal)
        rw [notFile, notFirst, rest]

theorem erase_fileOf (kept : ∀ entry ∈ logs, IsKept entry) (plain : IsPlainId sessionId) :
    Entries.erase (fileName sessionId) (logs.map fileOf) =
      (Entries.erase sessionId logs).map fileOf := by
  induction logs with
  | nil => rfl
  | cons entry logs induction =>
      have rest := induction fun other member => kept other (List.mem_cons_of_mem entry member)
      have first := (kept entry List.mem_cons_self).plain
      rw [Entries.erase] at rest ⊢
      by_cases same : entry.1 = sessionId
      · simp [Entries.erase, fileOf, same, rest]
      · have different : fileName entry.1 ≠ fileName sessionId :=
          fun equal => same (fileName_injective first plain equal)
        simp [Entries.erase, fileOf, same, different, rest]

theorem readableLogs_fileOf (kept : ∀ entry ∈ logs, IsKept entry) :
    readableLogs ⟨logs.map fileOf⟩ = logs.map Prod.snd := by
  induction logs with
  | nil => rfl
  | cons entry logs induction =>
      have rest := induction fun other member => kept other (List.mem_cons_of_mem entry member)
      have first := kept entry List.mem_cons_self
      have parsed : (Log.parse entry.2.render).toOption = some entry.2 := by
        rw [Log.parse_render first.fits first.reals]
        rfl
      rw [readableLogs] at rest ⊢
      rw [List.map_cons, List.filterMap_cons, fileOf, if_pos (isLogName_of_plain first.plain),
        parsed, rest, List.map_cons]

end Directory

namespace Holds

variable {directory : Directory} {store : MemoryStore} {sessionId : String}

theorem empty : Holds .empty .empty where
  files := .refl _
  unique := .nil
  kept := by simp [MemoryStore.empty]

theorem uniqueFiles (holds : Holds directory store) :
    (directory.files.map Prod.fst).Nodup := by
  rw [(holds.files.map Prod.fst).nodup_iff, List.map_map]
  refine List.Nodup.map_on ?_ (List.Nodup.of_map Prod.fst holds.unique)
  intro first firstMember second secondMember same
  have ids : first.1 = second.1 :=
    Directory.fileName_injective (holds.kept first firstMember).plain
      (holds.kept second secondMember).plain same
  exact List.inj_on_of_nodup_map holds.unique firstMember secondMember ids

theorem reorder {otherDirectory : Directory} {otherStore : MemoryStore}
    (holds : Holds directory store) (sameFiles : directory.SameFiles otherDirectory)
    (sameLogs : store.SameLogs otherStore) : Holds otherDirectory otherStore where
  files := sameFiles.symm.trans (holds.files.trans (sameLogs.map _))
  unique := (sameLogs.map Prod.fst).nodup_iff.mp holds.unique
  kept entry member := holds.kept entry (sameLogs.mem_iff.mpr member)

theorem read? (holds : Holds directory store) (plain : IsPlainId sessionId) :
    directory.read? (Directory.fileName sessionId) = (store.get? sessionId).map Log.render := by
  rw [Directory.read?, Entries.lookup_perm holds.uniqueFiles holds.files,
    Directory.lookup_fileOf holds.kept plain]
  rfl

theorem isKept_of_get? {log : Log} (holds : Holds directory store)
    (found : store.get? sessionId = some log) : IsKept (sessionId, log) :=
  holds.kept _ ((Entries.lookup_eq_some_iff holds.unique).mp found)

theorem getLog (holds : Holds directory store) (plain : IsPlainId sessionId) :
    directory.getLog sessionId = .ok (store.get? sessionId) := by
  have stored := holds.read? plain
  cases found : store.get? sessionId with
  | none => simp [Directory.getLog, stored, found]
  | some log =>
      have kept := holds.isKept_of_get? found
      rw [found] at stored
      exact Directory.getLog_of_read? kept.fits kept.reals stored

theorem put (holds : Holds directory store) (log : Log) (kept : IsKept (log.sessionId, log))
    (usable : Directory.isUsableName (Directory.fileName log.sessionId) = true) :
    Holds (directory.putLog log).1 (store.insert log.sessionId log) ∧
      (directory.putLog log).2 = .ok () := by
  -- The temporary file is written and renamed, and no log has a file of its name to lose.
  have noTemporary : Directory.temporaryName log.sessionId ∉ directory.files.map Prod.fst := by
    rw [(holds.files.map Prod.fst).mem_iff, List.map_map, List.mem_map]
    rintro ⟨entry, member, same⟩
    exact Directory.fileName_ne_temporaryName entry.1 log.sessionId same
  have written : (directory.putLog log).1.files =
      Entries.replace (Directory.fileName log.sessionId) log.render directory.files := by
    rw [Directory.putLog_eq directory usable, Directory.filesWith,
      Entries.erase_eq_self noTemporary]
  have inserted : (store.insert log.sessionId log).logs.Perm
      ((log.sessionId, log) :: Entries.erase log.sessionId store.logs) :=
    Entries.replace_perm holds.unique
  have members : ∀ entry ∈ (store.insert log.sessionId log).logs, IsKept entry := by
    intro entry member
    rcases Entries.mem_of_mem_replace holds.unique member with rfl | old
    · exact kept
    · exact holds.kept entry old
  refine ⟨⟨?_, Entries.nodup_replace holds.unique, members⟩,
    by rw [Directory.putLog_eq directory usable]⟩
  have others := Entries.erase_perm (Directory.fileName log.sessionId) holds.files
  rw [Directory.erase_fileOf holds.kept kept.plain] at others
  rw [written]
  refine (Entries.replace_perm holds.uniqueFiles).trans ?_
  exact (others.cons _).trans (inserted.map Directory.fileOf).symm

/-- The log with a further event is kept under the same id. -/
theorem isKept_pushTo {stamp : Stamp} {event : Event} (holds : Holds directory store)
    (plain : IsPlainId event.key)
    (fits : (Call.record stamp event).Fits) (reals : event.RealsReadBack) :
    IsKept (event.key, Log.pushTo (store.get? event.key) stamp event) := by
  have named : (Log.pushTo (store.get? event.key) stamp event).sessionId = event.key := by
    cases found : store.get? event.key with
    | some log => exact (holds.isKept_of_get? found).named
    | none => rfl
  exact ⟨plain, named, .pushTo (fun _ found => (holds.isKept_of_get? found).fits) fits,
    .pushTo (fun _ found => (holds.isKept_of_get? found).reals) reals⟩

/-- Recording by reading a log and putting it back records as in memory. -/
theorem record {stamp : Stamp} {event : Event} (holds : Holds directory store)
    (plain : IsPlainId event.key) (fits : (Call.record stamp event).Fits)
    (reals : event.RealsReadBack)
    (usable : Directory.isUsableName (Directory.fileName event.key) = true) :
    Holds (Store.record directory stamp event).1 (store.record stamp event) ∧
      (Store.record directory stamp event).2 = .ok () := by
  have kept := holds.isKept_pushTo plain fits reals
  have named : (Log.pushTo (store.get? event.key) stamp event).sessionId = event.key := kept.named
  have recorded : Store.record directory stamp event =
      directory.putLog (Log.pushTo (store.get? event.key) stamp event) := by
    change Store.recordByPut Directory.getLog Directory.putLog directory stamp event = _
    rw [Store.recordByPut, holds.getLog plain]
  rw [recorded, MemoryStore.record]
  have put := holds.put (Log.pushTo (store.get? event.key) stamp event)
  rw [named] at put
  exact put kept usable

theorem delete (holds : Holds directory store) (plain : IsPlainId sessionId) :
    Holds (directory.deleteLog sessionId) (store.erase sessionId) where
  files := by
    have files := Entries.erase_perm (Directory.fileName sessionId) holds.files
    rwa [Directory.erase_fileOf holds.kept plain] at files
  unique := Entries.nodup_erase holds.unique
  kept entry member := holds.kept entry (List.mem_filter.mp member).1

theorem readableLogs (holds : Holds directory store) :
    directory.readableLogs.Perm (store.logs.map Prod.snd) := by
  rw [← Directory.readableLogs_fileOf holds.kept]
  exact holds.files.filterMap _

end Holds

/-- A call keeps the two stores alike and is answered alike. -/
theorem Holds.perform {directory : Directory} {store : MemoryStore} {call : Call}
    (holds : Holds directory store) (admissible : call.Admissible) :
    Holds (call.perform directory).1 (call.perform store).1 ∧
      call.Agree store (call.perform directory).2 (call.perform store).2 := by
  cases call with
  | record stamp event =>
      have plain := admissible.plain event.key rfl
      have usable := admissible.writable rfl event.key rfl
      obtain ⟨after, ok⟩ := holds.record plain admissible.fits admissible.reals usable
      refine ⟨after, ?_⟩
      change (Store.record directory stamp event).2.map _ = _
      rw [ok]
      rfl
  | put log =>
      have plain := admissible.plain log.sessionId rfl
      have usable := admissible.writable rfl log.sessionId rfl
      obtain ⟨after, ok⟩ := holds.put log ⟨plain, rfl, admissible.fits, admissible.reals⟩ usable
      refine ⟨after, ?_⟩
      change (directory.putLog log).2.map _ = _
      rw [ok]
      rfl
  | get sessionId =>
      refine ⟨holds, ?_⟩
      change (directory.getLog sessionId).map _ = _
      rw [holds.getLog (admissible.plain sessionId rfl)]
      rfl
  | list limit =>
      refine ⟨holds, ?_⟩
      have summaries : (directory.readableLogs.map Log.summary).Perm
          (store.logs.map fun entry => entry.2.summary) := by
        have same := holds.readableLogs.map Log.summary
        rwa [List.map_map] at same
      exact ⟨_, _, LogSummary.sameUpToTies_newestFirst summaries,
        LogSummary.newestFirst_perm _, rfl, rfl⟩
  | delete sessionId => exact ⟨holds.delete (admissible.plain sessionId rfl), rfl⟩

/-- Stores that hold the same logs still do after the same calls, whatever the order of entries. -/
theorem Holds.reaches {calls : List Call} {directory finalDirectory : Directory}
    {store finalStore : MemoryStore} (holds : Holds directory store)
    (admissible : ∀ call ∈ calls, call.Admissible)
    (directoryReaches : Reaches Directory.SameFiles directory calls finalDirectory)
    (storeReaches : Reaches MemoryStore.SameLogs store calls finalStore) :
    Holds finalDirectory finalStore := by
  induction directoryReaches generalizing store with
  | nil sameFiles =>
      cases storeReaches with
      | nil sameLogs => exact holds.reorder sameFiles sameLogs
  | @cons directory reordered finalDirectory call calls sameFiles rest induction =>
      cases storeReaches with
      | cons sameLogs storeRest =>
          have before := holds.reorder sameFiles sameLogs
          have after := (before.perform (admissible call List.mem_cons_self)).1
          exact induction after
            (fun later member => admissible later (List.mem_cons_of_mem call member)) storeRest

/-- A directory and a store in memory that are empty at first answer all calls alike. -/
theorem directory_refines_memory {calls : List Call} {call : Call} {directory : Directory}
    {store : MemoryStore} (admissible : ∀ called ∈ calls ++ [call], called.Admissible)
    (directoryReaches : Reaches Directory.SameFiles .empty calls directory)
    (storeReaches : Reaches MemoryStore.SameLogs .empty calls store) :
    call.Agree store (call.perform directory).2 (call.perform store).2 := by
  have earlier : ∀ called ∈ calls, called.Admissible :=
    fun called member => admissible called (List.mem_append_left [call] member)
  have holds := Holds.empty.reaches earlier directoryReaches storeReaches
  exact (holds.perform (admissible call (by simp))).2

theorem isPlainId_session : IsPlainId "session" := ⟨by decide, by decide⟩

/-- A log that was put into both stores and extended by an event is read alike from both. -/
theorem acceptedOne_stored_alike :
    let stamp : Stamp := ⟨"next", .earliest, .latest⟩
    let calls : List Call := [.put .acceptedOne, .record stamp (.trigger .acceptedOne)]
    let directory := calls.foldl (fun store call => (call.perform store).1) Directory.empty
    let store := calls.foldl (fun store call => (call.perform store).1) MemoryStore.empty
    ((Call.get "session").perform directory).2 = ((Call.get "session").perform store).2 ∧
      ((Call.get "session").perform store).2 =
        .ok (.log (some (Log.acceptedOne.push stamp (.trigger .acceptedOne)))) := by
  intro stamp calls directory store
  have plain {call : Call} (about : call.sessionId? = some "session") :
      ∀ sessionId ∈ call.sessionId?, IsPlainId sessionId := by
    rw [about]
    rintro _ ⟨rfl⟩
    exact isPlainId_session
  have writable {call : Call} (about : call.sessionId? = some "session") :
      ∀ sessionId ∈ call.sessionId?,
        Directory.isUsableName (Directory.fileName sessionId) = true := by
    rw [about]
    rintro _ ⟨rfl⟩
    decide
  have admissible : ∀ called ∈ calls ++ [Call.get "session"], called.Admissible := by
    intro called member
    rcases List.mem_append.mp member with earlier | last
    · rcases List.mem_cons.mp earlier with rfl | later
      · exact ⟨plain rfl, Log.acceptedOne_fits, Log.acceptedOne_realsReadBack,
          fun _ => writable rfl⟩
      · obtain rfl := List.mem_singleton.mp later
        exact ⟨plain rfl, ⟨by decide +kernel, by decide +kernel, TriggerRecord.acceptedOne_fits⟩,
          TriggerRecord.acceptedOne_realsReadBack, fun _ => writable rfl⟩
    · obtain rfl := List.mem_singleton.mp last
      exact ⟨plain rfl, trivial, trivial, nofun⟩
  have directoryReaches : Reaches Directory.SameFiles .empty calls directory :=
    Reaches.foldl (fun directory => .refl directory.files) calls Directory.empty
  have storeReaches : Reaches MemoryStore.SameLogs .empty calls store :=
    Reaches.foldl (fun store => .refl store.logs) calls MemoryStore.empty
  exact ⟨directory_refines_memory admissible directoryReaches storeReaches, rfl⟩

end TriggerLedger
