import TriggerLedger.Proofs.Command.Durations
import TriggerLedger.Proofs.Command.Removal
/-!
# Logs in use

A log that was created or updated at this moment or later is live.  As long as cleaning
looks back, it keeps every live log that lies in the file of its own session.  It looks
forward only if it is told a duration with a minus, and then live logs are removed, too.
In a directory where files lie under other names a live log can be lost to an older one
that has its session id.
-/

namespace TriggerLedger

/-- A log that was created or updated now or later. -/
def Log.IsLive (now : Instant) (log : Log) : Prop :=
  now ≤ log.createdAt ∨ now ≤ log.updatedAt

theorem Log.IsLive.not_isOld {now cutoff : Instant} {log : Log} (live : log.IsLive now)
    (order : cutoff ≤ now) : ¬ log.IsOld cutoff := by
  rintro ⟨created, updated⟩
  rcases live with late | late
  · exact Instant.not_le.mpr created (Int.le_trans order late)
  · exact Instant.not_le.mpr updated (Int.le_trans order late)

namespace Command

variable {σ : Type} [Store σ] {place : String → String} {store : σ} {logs : List Log}
  {now cutoff : Instant} {span : Span} {retentionDays : Nat} {before : Option String}

/-- Each live log that is found in a store is found in what is left of it. -/
def KeepsLive (now : Instant) (store left : σ) : Prop :=
  ∀ sessionId log, Store.get store sessionId = .ok (some log) → log.IsLive now →
    Store.get left sessionId = .ok (some log)

/-- Cleaning is told a span into the future, up to a cutoff in the calendar. -/
def LooksForward (now : Instant) (retentionDays : Nat) (before : Option String) : Prop :=
  ∃ span, cleanSpan retentionDays before false = .ok span ∧ span.nanoseconds < 0 ∧
    (now.sub? span).isSome = true

theorem clean_of_accepted (accepted : cleanSpan retentionDays before false = .ok span) (store : σ) :
    clean now retentionDays before false store =
      ((cleanLogs now span store).1, (cleanLogs now span store).2.map cleanText) := by
  rw [clean, accepted]

theorem cutoff_le_iff (within : cutoffBefore now span = .ok cutoff) :
    cutoff ≤ now ↔ 0 ≤ span.nanoseconds := by
  change cutoff.nanoseconds ≤ now.nanoseconds ↔ 0 ≤ span.nanoseconds
  rw [nanoseconds_of_cutoffBefore within]
  omega

/-- Cleaning that does not look forward leaves a store alone or removes what is older than a
cutoff in the past. -/
theorem clean_cases (back : ¬ LooksForward now retentionDays before) (store : σ) :
    (clean now retentionDays before false store).1 = store ∨
      ∃ span cutoff, cutoffBefore now span = .ok cutoff ∧ cutoff ≤ now ∧
        (clean now retentionDays before false store).1 = (cleanLogs now span store).1 := by
  cases accepted : cleanSpan retentionDays before false with
  | error failure => exact .inl (by rw [clean, accepted])
  | ok span =>
      rw [clean_of_accepted accepted]
      cases within : cutoffBefore now span with
      | error failure => exact .inl (by rw [cleanLogs, within])
      | ok cutoff =>
          refine .inr ⟨span, cutoff, within, (cutoff_le_iff within).mpr ?_, rfl⟩
          by_contra forward
          exact back ⟨span, accepted, Int.not_le.mp forward,
            Option.isSome_of_eq_some (cutoffBefore_eq_ok_iff.mp within)⟩

theorem keepsLive_cleanLogs (deletes : DeletesByPlace σ place) (lists : Lists place store logs)
    (within : cutoffBefore now span = .ok cutoff) (order : cutoff ≤ now) :
    KeepsLive now store (cleanLogs now span store).1 := by
  intro sessionId log found live
  obtain ⟨gone, removes, -, old⟩ := removes_cleanLogs deletes lists within
  rw [removes.get, if_neg, found]
  intro isPlace
  obtain ⟨other, member, same⟩ := List.mem_map.mp isPlace
  have foundOther := removes.found other member sessionId same.symm
  obtain rfl : other = log := Option.some.inj (Except.ok.inj (foundOther.symm.trans found))
  exact live.not_isOld order (old other member)

theorem keepsLive_clean (deletes : DeletesByPlace σ place) (lists : Lists place store logs)
    (back : ¬ LooksForward now retentionDays before) :
    KeepsLive now store (clean now retentionDays before false store).1 := by
  rcases clean_cases back store with same | ⟨span, cutoff, within, order, same⟩
  · rw [same]
    exact fun _ _ found _ => found
  · rw [same]
    exact keepsLive_cleanLogs deletes lists within order

/-- Looking forward, cleaning removes a log that is opened just now. -/
theorem not_keepsLive_of_looksForward (forward : LooksForward now retentionDays before) :
    let store := Call.run [.put (Log.opened "" now)] MemoryStore.empty
    ¬ KeepsLive now store (clean now retentionDays before false store).1 := by
  intro store keeps
  obtain ⟨span, accepted, negative, isSome⟩ := forward
  obtain ⟨cutoff, found⟩ := Option.isSome_iff_exists.mp isSome
  have within := cutoffBefore_eq_ok_iff.mpr found
  have filed : store.WellFiled := .of_reaches (MemoryStore.reaches_foldl _ _)
  have stored : store.get? "" = some (Log.opened "" now) := rfl
  have left := keeps "" _ (congrArg Except.ok stored) (.inl (Int.le_refl _))
  rw [clean_of_accepted accepted] at left
  have later : now < cutoff := by
    refine Instant.not_le.mp fun order => ?_
    exact Int.not_le.mpr negative ((cutoff_le_iff within).mp order)
  have few : (store.logs.map Prod.snd).length ≤ scanLimit := (by decide : 1 ≤ 10000)
  exact not_isOld_of_few MemoryStore.deletesByPlace filed.lists within few
    (MemoryStore.mem_logs_of_get? filed stored) left ⟨later, later⟩

end Command

namespace Directory

variable {directory : Directory} {sessionId : String} {log : Log} {now cutoff : Instant}

/-- A log that was created now or later, but updated before, while another log in the directory
names its file and was created before. -/
structure Overshadowed (directory : Directory) (now : Instant) (sessionId : String) (log : Log) :
    Prop where
  created : now ≤ log.createdAt
  updated : log.updatedAt < now
  older : ∃ other ∈ directory.readableLogs, fileName other.sessionId = fileName sessionId ∧
    other.createdAt < now

open Command in
/-- A log is removed only by a summary that names its file and is old, and only if the log has not
been updated since the cutoff. -/
theorem exists_of_removeOld {summaries : List LogSummary}
    (found : directory.getLog sessionId = .ok (some log))
    (lost : (removeOld cutoff summaries directory).1.getLog sessionId ≠ .ok (some log)) :
    log.updatedAt < cutoff ∧ ∃ summary ∈ summaries,
      fileName summary.sessionId = fileName sessionId ∧ summary.createdAt < cutoff := by
  induction summaries generalizing directory with
  | nil => exact absurd found lost
  | cons summary summaries induction =>
      -- A log that the first summary has left in place is lost to a later one.
      have later {directory : Directory} (found : directory.getLog sessionId = .ok (some log))
          (lost : (removeOld cutoff summaries directory).1.getLog sessionId ≠ .ok (some log)) :
          log.updatedAt < cutoff ∧ ∃ other ∈ summary :: summaries,
            fileName other.sessionId = fileName sessionId ∧ other.createdAt < cutoff := by
        obtain ⟨outdated, other, member, names⟩ := induction found lost
        exact ⟨outdated, other, List.mem_cons_of_mem _ member, names⟩
      rw [removeOld] at lost
      split at lost
      case isTrue => exact later found lost
      case isFalse created =>
        split at lost
        case h_1 => exact absurd found lost
        case h_2 => exact later found lost
        case h_3 notInUse =>
          by_cases same : fileName summary.sessionId = fileName sessionId
          · have foundHere : Store.get directory summary.sessionId = .ok (some log) :=
              (getLog_eq_of_stem_eq directory (fileName_eq_iff.mp same)).trans found
            simp only [isInUse, foundHere, Except.ok.injEq, decide_eq_false_iff_not] at notInUse
            exact ⟨Instant.not_le.mp notInUse, summary, List.mem_cons_self, same,
              Instant.not_le.mp created⟩
          · have kept : (directory.deleteLog summary.sessionId).getLog sessionId = .ok (some log) :=
              (getLog_congr (read?_remove_of_ne (Ne.symm same))).trans found
            exact later kept lost

open Command in
/-- Looking back, cleaning loses no live log unless an older log names its file. -/
theorem getLog_clean_of_live {retentionDays : Nat} {before : Option String}
    (back : ¬ LooksForward now retentionDays before)
    (found : directory.getLog sessionId = .ok (some log)) (live : log.IsLive now)
    (clear : ¬ directory.Overshadowed now sessionId log) :
    (clean now retentionDays before false directory).1.getLog sessionId = .ok (some log) := by
  rcases clean_cases back directory with same | ⟨span, cutoff, within, order, same⟩
  · rwa [same]
  · rw [same, cleanLogs, within]
    by_contra lost
    obtain ⟨beforeCutoff, summary, listed, names, olderCreated⟩ := exists_of_removeOld found lost
    have member := (List.mergeSort_perm _ _).mem_iff.mp (List.mem_of_mem_take listed)
    obtain ⟨other, isReadable, rfl⟩ := List.mem_map.mp member
    -- The log was not in use, so it can only be live by its creation.
    have updated : log.updatedAt < now := Int.lt_of_lt_of_le beforeCutoff order
    have created : now ≤ log.createdAt := live.resolve_right (Instant.not_le.mpr updated)
    exact clear ⟨created, updated, other, isReadable, names,
      Int.lt_of_lt_of_le olderCreated order⟩

end Directory

namespace Command

variable {now cutoff : Instant} {span : Span} {retentionDays : Nat} {before : Option String}

open Directory in
/-- Of all durations that are accepted, exactly those that are written with a minus and are not zero
look forward.  Cleaning keeps all live logs, whatever calls a store was built by, exactly if it does
not look forward to a cutoff in the calendar; in a directory of any files it then keeps all that are
not overshadowed by a log of their session in another file. -/
theorem clean_keeps_live_logs_iff_looking_back (now : Instant) (retentionDays : Nat)
    (before : Option String) :
    (∀ span, cleanSpan retentionDays before false = .ok span →
      (span.nanoseconds < 0 ↔
        (∃ text ∈ before, (Text.trim text).toList.head? = some '-') ∧ span.nanoseconds ≠ 0)) ∧
    ((∀ calls,
        (∀ store, Reaches MemoryStore.SameLogs .empty calls store →
          KeepsLive now store (clean now retentionDays before false store).1) ∧
        ∀ directory, Reaches SameFiles .empty calls directory →
          KeepsLive now directory (clean now retentionDays before false directory).1) ↔
      ¬ LooksForward now retentionDays before) ∧
    (¬ LooksForward now retentionDays before → ∀ (directory : Directory) sessionId log,
      directory.getLog sessionId = .ok (some log) → log.IsLive now →
      ¬ directory.Overshadowed now sessionId log →
      (clean now retentionDays before false directory).1.getLog sessionId = .ok (some log)) := by
  refine ⟨fun span accepted => cleanSpan_neg_iff accepted, ⟨?_, ?_⟩, ?_⟩
  · intro keeps forward
    refine not_keepsLive_of_looksForward forward ?_
    exact (keeps [.put (Log.opened "" now)]).1 _ (MemoryStore.reaches_foldl _ _)
  · intro back calls
    constructor
    · intro store reaches
      have filed := MemoryStore.WellFiled.of_reaches reaches
      exact keepsLive_clean MemoryStore.deletesByPlace filed.lists back
    · intro directory reaches
      have filed := WellFiled.of_reaches reaches
      exact keepsLive_clean deletesByPlace filed.lists back
  · intro back directory sessionId log found live clear
    exact getLog_clean_of_live back found live clear

/-- The start of the year 2999. -/
def farOff : Instant := ⟨32472144000000000000⟩

theorem farOff_isLive {log : Log} (created : log.createdAt = farOff) : log.IsLive yearLater :=
  .inl (created ▸ (by decide : yearLater ≤ farOff))

theorem parse_render_of_noEvents {log : Log} (noEvents : log.events = [])
    (created : log.createdAt.inCalendar = true) (updated : log.updatedAt.inCalendar = true) :
    Log.parse log.render = .ok log :=
  Log.parse_render ⟨by simp [noEvents], created, updated⟩ (by simp [Log.RealsReadBack, noEvents])

theorem readableLogs_cons {name contents : String} {log : Log} {files : List (String × String)}
    (isLog : Directory.isLogName name = true) (parsed : Log.parse contents = .ok log) :
    (Directory.mk ((name, contents) :: files)).readableLogs =
      log :: (Directory.mk files).readableLogs := by
  simp [Directory.readableLogs, isLog, parsed, Except.toOption]

theorem removeOld_append_of_newer {σ : Type} [Store σ] {newer : List LogSummary}
    (summaries : List LogSummary) (store : σ)
    (late : ∀ summary ∈ newer, cutoff ≤ summary.createdAt) :
    removeOld cutoff (newer ++ summaries) store = removeOld cutoff summaries store := by
  induction newer with
  | nil => rfl
  | cons summary newer induction =>
      obtain ⟨here, rest⟩ := List.forall_mem_cons.mp late
      rw [List.cons_append, removeOld, if_pos here, induction rest]

/-- A log that has not been updated since the cutoff is removed by the oldest summary that names its
session, be it its own or not. -/
theorem clean_of_outdated {directory : Directory} {log : Log} {newer : List LogSummary}
    {summary : LogSummary} (accepted : cleanSpan retentionDays before false = .ok span)
    (within : cutoffBefore now span = .ok cutoff)
    (listed : directory.listLogs scanLimit = newer ++ [summary])
    (late : ∀ other ∈ newer, cutoff ≤ other.createdAt)
    (found : directory.getLog summary.sessionId = .ok (some log))
    (created : summary.createdAt < cutoff) (updated : log.updatedAt < cutoff) :
    clean now retentionDays before false directory =
      (directory.deleteLog summary.sessionId, .ok "Cleaned 1 session(s).\n") := by
  have told : cleanText 1 = "Cleaned 1 session(s).\n" := by decide +kernel
  have removed : cleanLogs now span directory =
      (directory.deleteLog summary.sessionId, .ok 1) := by
    have listing : Store.list directory scanLimit = .ok (newer ++ [summary]) :=
      congrArg Except.ok listed
    simp only [cleanLogs, within, listing]
    rw [removeOld_append_of_newer _ _ late]
    exact removeOld_cons_of_outdated Directory.deletesByPlace [] found created updated
  rw [clean_of_accepted accepted, removed]
  exact congrArg (fun text => (directory.deleteLog summary.sessionId, Except.ok text)) told

/-- A log of the year 2999 is removed in 2021 by a duration with a minus. -/
theorem clean_ahead {text : String} (parsed : Log.parse text = .ok (Log.opened "live" farOff)) :
    let directory : Directory := ⟨[("live.json", text)]⟩
    directory.getLog "live" = .ok (some (Log.opened "live" farOff)) ∧
      clean yearLater 7 (some "-400000d") false directory =
        (.empty, .ok "Cleaned 1 session(s).\n") := by
  intro directory
  have file : directory.read? (Directory.fileName "live") = some text := by
    rw [(by decide +kernel : Directory.fileName "live" = "live.json")]
    rfl
  have found : directory.getLog "live" = .ok (some (Log.opened "live" farOff)) :=
    Directory.getLog_of_parse file parsed
  refine ⟨found, ?_⟩
  have accepted : cleanSpan 7 (some "-400000d") false = .ok ⟨-34560000000000000000⟩ := by
    decide +kernel
  have within : cutoffBefore yearLater ⟨-34560000000000000000⟩ = .ok ⟨36169459200000000000⟩ := by
    decide +kernel
  have late : farOff < ⟨36169459200000000000⟩ :=
    (by decide : (32472144000000000000 : Int) < 36169459200000000000)
  have listed : directory.listLogs scanLimit = [] ++ [(Log.opened "live" farOff).summary] := by
    rw [Directory.listLogs, readableLogs_cons (by decide +kernel) parsed]
    simp [Directory.readableLogs, LogSummary.newestFirst, scanLimit]
  have left : directory.deleteLog "live" = .empty := by
    rw [Directory.deleteLog, (by decide +kernel : Directory.fileName "live" = "live.json")]
    simp [directory, Directory.remove, Directory.empty, Entries.erase]
  rw [clean_of_outdated accepted within listed (by simp) found late late]
  exact congrArg (·, _) left

/-- A log that was created in 2999 and updated in 2020. -/
def farOffLog : Log := ⟨"b", [], farOff, (agedLog "b").updatedAt⟩

/-- A log of the year 2999 that was updated in 2020 is removed if a file with another name holds an
old log of its session; of the two this is the one that stays. -/
theorem clean_beside_misfiled {text aged : String} (parsed : Log.parse text = .ok farOffLog)
    (parsedAged : Log.parse aged = .ok (agedLog "b")) :
    let directory : Directory := ⟨[("b.json", text), ("a.json", aged)]⟩
    directory.getLog "b" = .ok (some farOffLog) ∧
      clean yearLater 7 (some "7d") false directory =
        (⟨[("a.json", aged)]⟩, .ok "Cleaned 1 session(s).\n") := by
  intro directory
  have named : Directory.fileName "b" = "b.json" := by decide +kernel
  have file : directory.read? (Directory.fileName "b") = some text := by
    rw [named]
    rfl
  have found : directory.getLog "b" = .ok (some farOffLog) := Directory.getLog_of_parse file parsed
  refine ⟨found, ?_⟩
  have accepted : cleanSpan 7 (some "7d") false = .ok ⟨604800000000000⟩ := by decide +kernel
  have within : cutoffBefore yearLater ⟨604800000000000⟩ = .ok ⟨1608854400000000000⟩ := by
    decide +kernel
  have late : (⟨1608854400000000000⟩ : Instant) ≤ farOffLog.createdAt := by decide
  have old : (⟨1577836800000000000⟩ : Instant) < ⟨1608854400000000000⟩ := by decide
  have listed : directory.listLogs scanLimit = [farOffLog.summary] ++ [(agedLog "b").summary] := by
    rw [Directory.listLogs, readableLogs_cons (by decide +kernel) parsed,
      readableLogs_cons (by decide +kernel) parsedAged]
    have sorted : LogSummary.newestFirst [farOffLog.summary, (agedLog "b").summary] =
        [farOffLog.summary, (agedLog "b").summary] :=
      List.mergeSort_of_pairwise (by decide +kernel)
    rw [Directory.readableLogs, List.filterMap_nil, List.map_cons, List.map_singleton, sorted]
    rfl
  have left : directory.deleteLog "b" = ⟨[("a.json", aged)]⟩ := by
    rw [Directory.deleteLog, named]
    simp [directory, Directory.remove, Entries.erase]
  rw [clean_of_outdated accepted within listed (List.forall_mem_singleton.mpr late) found
    old old]
  exact congrArg (·, _) left

/-- A log of the year 2999 is removed in 2021 by a duration with a minus, and by an ordinary one if
the log was updated in 2020 and another file holds an old log of its session. -/
theorem live_logs_removed :
    (let log := Log.opened "live" farOff
      let directory : Directory := ⟨[("live.json", log.render)]⟩
      log.IsLive yearLater ∧ directory.getLog "live" = .ok (some log) ∧
        clean yearLater 7 (some "-400000d") false directory =
          (.empty, .ok "Cleaned 1 session(s).\n")) ∧
    (let log := farOffLog
      let directory : Directory := ⟨[("b.json", log.render), ("a.json", (agedLog "b").render)]⟩
      log.IsLive yearLater ∧ directory.getLog "b" = .ok (some log) ∧
        clean yearLater 7 (some "7d") false directory =
          (⟨[("a.json", (agedLog "b").render)]⟩, .ok "Cleaned 1 session(s).\n")) := by
  have ahead : farOff.inCalendar = true := by decide +kernel
  have past : (agedLog "b").updatedAt.inCalendar = true := by decide +kernel
  constructor
  · exact ⟨farOff_isLive rfl, clean_ahead (parse_render_of_noEvents rfl ahead ahead)⟩
  · exact ⟨farOff_isLive rfl, clean_beside_misfiled (parse_render_of_noEvents rfl ahead past)
      (parse_render_of_noEvents rfl past past)⟩

end Command
end TriggerLedger
