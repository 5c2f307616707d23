import TriggerLedger.Proofs.Store.Catalogue
import TriggerLedger.Proofs.Store.Newest
/-!
# Listings

A listing has the summaries of the newest logs, as many as there are or as were asked
for, and a shorter one is the beginning of a longer one.  The logs are those in memory,
or those in the files of a directory that have the extension of logs and can be read,
whatever else lies there.
-/

namespace TriggerLedger

/-- The summary of a log that is kept under a key. -/
def entrySummary (entry : String × Log) : LogSummary := entry.2.summary

/-- A store lists the newest of the logs it keeps, each of them once, and lists more by listing on
where fewer end. -/
structure ListsNewest {σ : Type} [Store σ] (store : σ) (kept : List (String × Log)) : Prop where
  newest : ∀ limit, ∃ shown, Store.list store limit = .ok (shown.map entrySummary) ∧
    AreNewest (fun entry => entry.2.createdAt) limit kept shown ∧
    ((kept.map Prod.fst).Nodup → (shown.map Prod.fst).Nodup)
  extends_shorter : ∀ fewer more, fewer ≤ more → ∃ first second,
    Store.list store fewer = .ok first ∧ Store.list store more = .ok second ∧ first <+: second

/-- Cutting off the summaries in the order of creation lists the newest logs. -/
theorem listsNewest_of_list {σ : Type} [Store σ] {store : σ} {kept : List (String × Log)}
    (list : ∀ limit, Store.list store limit =
      .ok ((LogSummary.newestFirst (kept.map entrySummary)).take limit)) :
    ListsNewest store kept where
  newest limit := by
    have newest := areNewest_take (fun entry : String × Log => entry.2.createdAt) limit kept
    refine ⟨_, ?_, newest, newest.nodup_map⟩
    have sorted : LogSummary.newestFirst (kept.map entrySummary) =
        (byCreation (fun entry : String × Log => entry.2.createdAt) kept).map entrySummary :=
      (map_byCreation entrySummary LogSummary.createdAt kept).symm
    rw [list, sorted, List.map_take]
  extends_shorter fewer more order :=
    ⟨_, _, list fewer, list more, List.take_prefix_take_left order⟩

namespace Directory

variable {directory : Directory} {name : String} {log : Log}

/-- The logs that can be read from the files of logs, under the names of these files. -/
def decodedFiles (directory : Directory) : List (String × Log) :=
  directory.files.filterMap fun entry =>
    (if isLogName entry.1 then (Log.parse entry.2).toOption else none).map (Prod.mk entry.1)

theorem map_snd_decodedFiles (directory : Directory) :
    directory.decodedFiles.map Prod.snd = directory.readableLogs := by
  rw [decodedFiles, List.map_filterMap, readableLogs]
  refine List.filterMap_congr fun entry _ => ?_
  rw [Option.map_map]
  exact Option.map_id'

theorem isLogName_iff : isLogName name = true ↔ ∃ base, base ≠ "" ∧ name = base ++ ".json" := by
  rw [isLogName]
  constructor
  · intro isLog
    split at isLog
    case h_1 last rest reversed =>
      refine ⟨String.ofList (last :: rest).reverse, by simp, ?_⟩
      rw [← String.toList_inj, String.toList_append, String.toList_ofList,
        ← List.reverse_reverse name.toList, reversed]
      simp
    case h_2 => cases isLog
  · rintro ⟨base, named, rfl⟩
    have nonempty : base.toList.reverse ≠ [] := by simpa using named
    obtain ⟨last, rest, reversed⟩ := List.exists_cons_of_ne_nil nonempty
    simp [String.toList_append, reversed]

theorem mem_decodedFiles_iff : (name, log) ∈ directory.decodedFiles ↔
    ∃ contents, (name, contents) ∈ directory.files ∧ isLogName name = true ∧
      Log.parse contents = .ok log := by
  rw [decodedFiles, List.mem_filterMap]
  constructor
  · rintro ⟨⟨file, contents⟩, member, decoded⟩
    obtain ⟨found, isRead, same⟩ := Option.map_eq_some_iff.mp decoded
    obtain ⟨rfl, rfl⟩ := Prod.mk.inj same
    exact ⟨contents, member, readLog?_eq_some_iff.mp isRead⟩
  · rintro ⟨contents, member, isLog⟩
    exact ⟨(name, contents), member,
      Option.map_eq_some_iff.mpr ⟨log, readLog?_eq_some_iff.mpr isLog, rfl⟩⟩

/-- Each file holds at most one log. -/
theorem map_fst_decodedFiles_sublist (directory : Directory) :
    (directory.decodedFiles.map Prod.fst).Sublist directory.names := by
  obtain ⟨files⟩ := directory
  simp only [decodedFiles, names]
  induction files with
  | nil => exact .slnil
  | cons entry files induction =>
      rw [List.filterMap_cons, List.map_cons]
      cases if isLogName entry.1 then (Log.parse entry.2).toOption else none with
      | none => exact induction.cons entry.1
      | some log => exact induction.cons_cons entry.1

theorem list_eq (directory : Directory) (limit : Nat) :
    Store.list directory limit =
      .ok ((LogSummary.newestFirst (directory.decodedFiles.map entrySummary)).take limit) := by
  have summaries : directory.decodedFiles.map entrySummary =
      directory.readableLogs.map Log.summary := by
    rw [← map_snd_decodedFiles, List.map_map]
    rfl
  rw [summaries]
  rfl

end Directory

/-- Every store lists the newest of its logs, for any limit.  In a directory these are the logs
that are decoded from files with the extension of logs, at most one from each file; no other file
matters. -/
theorem newest_logs_listed :
    (∀ store : MemoryStore, ListsNewest store store.logs) ∧
    ∀ directory : Directory, ∃ kept,
      ListsNewest directory kept ∧
      (kept.map Prod.fst).Sublist directory.names ∧
      ∀ name log, (name, log) ∈ kept ↔ ∃ base contents, base ≠ "" ∧ name = base ++ ".json" ∧
        (name, contents) ∈ directory.files ∧ Log.parse contents = .ok log := by
  refine ⟨fun store => listsNewest_of_list fun limit => rfl, fun directory => ?_⟩
  refine ⟨directory.decodedFiles, listsNewest_of_list directory.list_eq,
    directory.map_fst_decodedFiles_sublist, fun name log => ?_⟩
  rw [Directory.mem_decodedFiles_iff, Directory.isLogName_iff]
  constructor
  · rintro ⟨contents, member, ⟨base, nonempty, named⟩, parsed⟩
    exact ⟨base, contents, nonempty, named, member, parsed⟩
  · rintro ⟨base, contents, nonempty, named, member, parsed⟩
    exact ⟨contents, member, ⟨base, nonempty, named⟩, parsed⟩

end TriggerLedger
