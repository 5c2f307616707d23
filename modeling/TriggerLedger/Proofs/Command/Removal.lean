import TriggerLedger.Proofs.Command.Cleaning
/-!
# What cleaning removes

Cleaning removes logs that were neither created nor updated since the cutoff, tells
how many they were, and leaves every other log as it was.  The further it looks back
the fewer logs it removes, and where it would look out of the calendar it fails and
removes none.
-/

namespace TriggerLedger

theorem Log.IsOld.mono {cutoff later : Instant} {log : Log} (order : cutoff ≤ later)
    (old : log.IsOld cutoff) : log.IsOld later :=
  ⟨Int.lt_of_lt_of_le old.1 order, Int.lt_of_lt_of_le old.2 order⟩

namespace Command

variable {σ : Type} [Store σ] {place : String → String} {store left : σ} {logs gone : List Log}
  {now cutoff : Instant} {span : Span}

/-- Some logs, each found in a place of its own, were removed from a store, and all other places are
as they were. -/
structure Removes (place : String → String) (store : σ) (gone : List Log) (left : σ) : Prop where
  apart : (gone.map fun log => place log.sessionId).Nodup
  found : ∀ log ∈ gone, ∀ sessionId, place sessionId = place log.sessionId →
    Store.get store sessionId = .ok (some log)
  get : ∀ sessionId, Store.get left sessionId =
    if place sessionId ∈ gone.map (fun log => place log.sessionId) then .ok none
    else Store.get store sessionId

theorem cutoffBefore_eq_ok_iff : cutoffBefore now span = .ok cutoff ↔ now.sub? span = some cutoff := by
  rw [cutoffBefore]
  cases now.sub? span <;> simp

/-- A cutoff is as much earlier as the span is longer. -/
theorem nanoseconds_of_cutoffBefore (within : cutoffBefore now span = .ok cutoff) :
    cutoff.nanoseconds = now.nanoseconds - span.nanoseconds := by
  rw [cutoffBefore_eq_ok_iff, Instant.sub?, Instant.add?] at within
  split at within
  case isTrue => exact (congrArg Instant.nanoseconds (Option.some.inj within)).symm
  case isFalse => cases within

theorem removes_cleanLogs (deletes : DeletesByPlace σ place) (lists : Lists place store logs)
    (within : cutoffBefore now span = .ok cutoff) :
    ∃ gone, Removes place store gone (cleanLogs now span store).1 ∧
      (cleanLogs now span store).2 = .ok gone.length ∧ ∀ log ∈ gone, log.IsOld cutoff := by
  obtain ⟨count, get⟩ := cleanLogs_eq deletes lists within
  have member {log : Log} (chosen : log ∈ (inspected logs).filter (·.IsOld cutoff)) : log ∈ logs :=
    mem_of_mem_inspected (List.mem_filter.mp chosen).1
  refine ⟨(inspected logs).filter (·.IsOld cutoff), ⟨?_, ?_, get⟩, ?_, ?_⟩
  · have apart : ((inspected logs).map fun log => place log.sessionId).Nodup := nodup_inspected lists
    exact apart.sublist (List.filter_sublist.map _)
  · exact fun log chosen => lists.get log (member chosen)
  · rw [count, oldPlaces, List.length_map]
  · exact fun log chosen => of_decide_eq_true (List.mem_filter.mp chosen).2

/-- What is removed by looking back further is removed by looking back less far, too. -/
theorem get_cleanLogs_of_longer {longer : Span} (deletes : DeletesByPlace σ place)
    (lists : Lists place store logs) (within : cutoffBefore now span = .ok cutoff)
    (order : span.nanoseconds ≤ longer.nanoseconds) {sessionId : String} {log : Log}
    (found : Store.get store sessionId = .ok (some log))
    (removed : Store.get (cleanLogs now longer store).1 sessionId = .ok none) :
    Store.get (cleanLogs now span store).1 sessionId = .ok none := by
  cases reached : cutoffBefore now longer with
  | error failure =>
      -- Out of the calendar nothing is removed.
      simp only [cleanLogs, reached, found] at removed
      cases removed
  | ok earlier =>
      have earlierCutoff : earlier ≤ cutoff := by
        have first := nanoseconds_of_cutoffBefore reached
        have second := nanoseconds_of_cutoffBefore within
        change earlier.nanoseconds ≤ cutoff.nanoseconds
        omega
      rw [(cleanLogs_eq deletes lists reached).2] at removed
      rw [(cleanLogs_eq deletes lists within).2, if_pos]
      split at removed
      case isTrue isPlace =>
        obtain ⟨other, chosen, same⟩ := List.mem_map.mp isPlace
        obtain ⟨member, old⟩ := List.mem_filter.mp chosen
        have older : other.IsOld cutoff := .mono earlierCutoff (of_decide_eq_true old)
        exact List.mem_map.mpr ⟨other, List.mem_filter.mpr ⟨member, decide_eq_true older⟩, same⟩
      case isFalse =>
        rw [found] at removed
        cases removed

/-- Cleaning a store removes nothing but old logs, counts them, and removes the fewer the further it
looks back; it fails and removes nothing if the cutoff is not in the calendar. -/
structure RemovesOldOnly (place : String → String) (now : Instant) (span : Span) (store : σ) :
    Prop where
  outside : now.sub? span = none →
    cleanLogs now span store = (store, .error (.invalidState (.lookBack span)))
  within : ∀ cutoff, now.sub? span = some cutoff →
    ∃ gone, Removes place store gone (cleanLogs now span store).1 ∧
      (cleanLogs now span store).2 = .ok gone.length ∧ ∀ log ∈ gone, log.IsOld cutoff
  longer : (now.sub? span).isSome = true → ∀ longer : Span,
    span.nanoseconds ≤ longer.nanoseconds → ∀ sessionId log,
      Store.get store sessionId = .ok (some log) →
      Store.get (cleanLogs now longer store).1 sessionId = .ok none →
      Store.get (cleanLogs now span store).1 sessionId = .ok none

theorem removesOldOnly (deletes : DeletesByPlace σ place) (lists : Lists place store logs)
    (now : Instant) (span : Span) : RemovesOldOnly place now span store where
  outside noCutoff := by simp only [cleanLogs, cutoffBefore, noCutoff]
  within cutoff found := removes_cleanLogs deletes lists (cutoffBefore_eq_ok_iff.mpr found)
  longer isSome longer order sessionId log found removed := by
    obtain ⟨cutoff, within⟩ := Option.isSome_iff_exists.mp isSome
    exact get_cleanLogs_of_longer deletes lists (cutoffBefore_eq_ok_iff.mpr within) order found
      removed

open Directory in
/-- Whatever calls a store was built by, with session ids of any kind, cleaning removes only logs
that are older than the cutoff, and says how many; the log of every other place, which is the id in
memory and the file of the id in a directory, is as it was. -/
theorem clean_removes_old_logs_only (now : Instant) (span : Span) (calls : List Call) :
    (∀ store, Reaches MemoryStore.SameLogs .empty calls store →
      RemovesOldOnly id now span store) ∧
    ∀ directory, Reaches SameFiles .empty calls directory →
      RemovesOldOnly fileName now span directory := by
  constructor
  · intro store reaches
    have filed := MemoryStore.WellFiled.of_reaches reaches
    exact removesOldOnly MemoryStore.deletesByPlace filed.lists now span
  · intro directory reaches
    have filed := WellFiled.of_reaches reaches
    exact removesOldOnly deletesByPlace filed.lists now span

end Command
end TriggerLedger
