import Mathlib.Data.List.DropRight
import TriggerLedger.Proofs.Store.Calls
import TriggerLedger.Proofs.Store.Entries
/-!
# Filing events in memory

The log of a key holds the events that were recorded under the key since it was
deleted last, in the order of the calls.  Every event is filed under one key.
-/

namespace TriggerLedger

namespace Event

/-- The session that an event names, which may be an empty name. -/
def namedSession? : Event → Option String
  | .invocation record => record.sessionId
  | .decision record => record.sessionId
  | .trigger record => some record.sessionId
  | .latency record => some record.sessionId

theorem sessionId_eq (event : Event) : event.sessionId = event.namedSession?.bind nonEmpty := by
  cases event <;> rfl

theorem key_of_named {event : Event} {name : String} (named : name ∈ event.namedSession?)
    (some : name ≠ "") : event.key = name := by
  rw [key, sessionId_eq, Option.mem_def.mp named]
  simp [nonEmpty, some]

theorem key_of_unnamed {event : Event} (unnamed : ∀ name ∈ event.namedSession?, name = "") :
    event.key = "_unscoped" := by
  rw [key, sessionId_eq]
  cases named : event.namedSession? with
  | none => rfl
  | some name => simp [unnamed name named, nonEmpty, unscopedKey]

theorem trigger?_eq_some_iff {event : Event} {record : TriggerRecord} :
    event.trigger? = some record ↔ event = .trigger record := by
  cases event <;> simp [trigger?]

end Event

/-- The verdict of a log is the one of the last closed session that it tells of. -/
theorem Log.verdict?_eq_some_iff {log : Log} {verdict : Verdict} :
    log.verdict? = some verdict ↔
      ∃ before record after, log.events.map (·.event) = before ++ .trigger record :: after ∧
        (∀ event ∈ after, event.trigger? = none) ∧ record.verdict = verdict := by
  have last : log.rollups.getLast? =
      (log.events.map (·.event)).reverse.findSome? Event.trigger? := by
    rw [rollups, ← List.getLast?_filterMap, List.filterMap_map]
    rfl
  rw [verdict?, last]
  constructor
  · intro found
    obtain ⟨record, isLast, same⟩ := Option.map_eq_some_iff.mp found
    obtain ⟨after, event, before, split, isTrigger, noTrigger⟩ :=
      List.findSome?_eq_some_iff.mp isLast
    obtain rfl := Event.trigger?_eq_some_iff.mp isTrigger
    refine ⟨before.reverse, record, after.reverse, ?_, ?_, same⟩
    · simpa using congrArg List.reverse split
    · simpa using noTrigger
  · rintro ⟨before, record, after, split, noTrigger, rfl⟩
    refine Option.map_eq_some_iff.mpr ⟨record, List.findSome?_eq_some_iff.mpr ?_, rfl⟩
    exact ⟨after.reverse, .trigger record, before.reverse, by simp [split], rfl,
      by simpa using noTrigger⟩

namespace Call

/-- Whether a call deletes the log of a key. -/
def deletes (key : String) : Call → Bool
  | .delete sessionId => sessionId == key
  | _ => false

/-- The event that a call records under a key. -/
def recordedUnder? (key : String) : Call → Option RecordedEvent
  | .record stamp event =>
    if event.key = key then some ⟨stamp.eventId, stamp.recorded, event⟩ else none
  | _ => none

/-- The events recorded under a key since it was deleted last. -/
def recordedSince (key : String) (calls : List Call) : List RecordedEvent :=
  (calls.rtakeWhile fun call => !call.deletes key).filterMap (recordedUnder? key)

theorem recordedSince_concat (key : String) (calls : List Call) (call : Call) :
    recordedSince key (calls ++ [call]) =
      if call.deletes key then []
      else recordedSince key calls ++ (call.recordedUnder? key).toList := by
  rw [recordedSince, List.rtakeWhile_concat]
  cases call.deletes key with
  | true => simp
  | false => cases found : call.recordedUnder? key <;> simp [recordedSince, found]

end Call

namespace MemoryStore

/-- The events of a key, as its log keeps them. -/
def filed? (key : String) (events : List RecordedEvent) : Option (String × List RecordedEvent) :=
  if events.isEmpty then none else some (key, events)

/-- The logs of a store are those of the events that calls have recorded. -/
structure Files (calls : List Call) (store : MemoryStore) : Prop where
  unique : (store.logs.map Prod.fst).Nodup
  contents : ∀ key, (store.get? key).map (fun log => (log.sessionId, log.events)) =
    filed? key (Call.recordedSince key calls)

namespace Files

variable {calls : List Call} {store other : MemoryStore} {key : String}

theorem empty : empty.Files [] where
  unique := List.nodup_nil
  contents _ := rfl

theorem reordered (files : store.Files calls) (same : SameLogs store other) :
    other.Files calls where
  unique := (same.map Prod.fst).nodup_iff.mp files.unique
  contents key := by
    have found : store.get? key = other.get? key := Entries.lookup_perm files.unique same
    rw [← found, files.contents]

theorem get?_eq_none_iff (files : store.Files calls) :
    store.get? key = none ↔ Call.recordedSince key calls = [] := by
  have absent : (store.get? key).map (fun log => (log.sessionId, log.events)) = none ↔
      store.get? key = none := Option.map_eq_none_iff
  rw [← absent, files.contents]
  cases Call.recordedSince key calls <;> simp [filed?]

theorem of_get? (files : store.Files calls) {log : Log} (found : log ∈ store.get? key) :
    log.sessionId = key ∧ log.events = Call.recordedSince key calls := by
  have contents := files.contents key
  rw [Option.mem_def.mp found] at contents
  cases events : Call.recordedSince key calls with
  | nil => simp [events, filed?] at contents
  | cons => simpa [events, filed?] using contents

/-- The log that an event is appended to is the one of its key, opened if there is none. -/
theorem pushTo (files : store.Files calls) (stamp : Stamp) (event : Event) :
    let log := Log.pushTo (store.get? event.key) stamp event
    log.sessionId = event.key ∧ log.events =
      Call.recordedSince event.key calls ++ [⟨stamp.eventId, stamp.recorded, event⟩] := by
  intro log
  cases found : store.get? event.key with
  | none =>
      rw [files.get?_eq_none_iff.mp found]
      simp only [log, found]
      exact ⟨rfl, rfl⟩
  | some old =>
      obtain ⟨named, events⟩ := files.of_get? found
      rw [← events]
      simp only [log, found]
      exact ⟨named, rfl⟩

theorem record (files : store.Files calls) (stamp : Stamp) (event : Event) :
    (store.record stamp event).Files (calls ++ [.record stamp event]) where
  unique := Entries.nodup_replace files.unique
  contents key := by
    rw [Call.recordedSince_concat]
    by_cases same : event.key = key
    · subst same
      have found : (store.record stamp event).get? event.key =
          some (Log.pushTo (store.get? event.key) stamp event) := Entries.lookup_replace_self ..
      obtain ⟨named, events⟩ := files.pushTo stamp event
      rw [found, Option.map_some, named, events]
      simp [Call.deletes, Call.recordedUnder?, filed?]
    · have kept : (store.record stamp event).get? key = store.get? key :=
        Entries.lookup_replace_of_ne (Ne.symm same)
      rw [kept, files.contents]
      simp [Call.deletes, Call.recordedUnder?, same]

theorem delete (files : store.Files calls) (sessionId : String) :
    (store.erase sessionId).Files (calls ++ [.delete sessionId]) where
  unique := Entries.nodup_erase files.unique
  contents key := by
    rw [Call.recordedSince_concat]
    by_cases same : sessionId = key
    · subst same
      simp [Call.deletes, MemoryStore.get?, MemoryStore.erase, filed?]
    · have kept : (store.erase sessionId).get? key = store.get? key :=
        Entries.lookup_erase_of_ne (Ne.symm same)
      rw [kept, files.contents]
      simp [Call.deletes, Call.recordedUnder?, same]

/-- Every call but one that puts a log files what it records and forgets what it deletes. -/
theorem perform (files : store.Files calls) {call : Call} (notPut : ∀ log, call ≠ .put log) :
    (call.perform store).1.Files (calls ++ [call]) := by
  have unchanged (quiet : ∀ key, call.deletes key = false ∧ call.recordedUnder? key = none) :
      store.Files (calls ++ [call]) := by
    refine ⟨files.unique, fun key => ?_⟩
    rw [files.contents, Call.recordedSince_concat]
    simp [quiet key]
  cases call with
  | record stamp event => exact files.record stamp event
  | put log => exact absurd rfl (notPut log)
  | get sessionId => exact unchanged fun _ => ⟨rfl, rfl⟩
  | list limit => exact unchanged fun _ => ⟨rfl, rfl⟩
  | delete sessionId => exact files.delete sessionId

theorem of_reaches {later : List Call} (files : store.Files calls)
    (noPut : ∀ log, .put log ∉ later) (reaches : Reaches SameLogs store later other) :
    other.Files (calls ++ later) := by
  induction reaches generalizing calls with
  | nil same => simpa using files.reordered same
  | @cons store reordered final call later same _ induction =>
      have next : (call.perform reordered).1.Files (calls ++ [call]) := by
        refine (files.reordered same).perform fun log isPut => noPut log ?_
        rw [isPut]
        exact List.mem_cons_self
      have rest := induction next fun log member => noPut log (List.mem_cons_of_mem call member)
      rwa [List.append_assoc] at rest

end Files
end MemoryStore
end TriggerLedger
