import TriggerLedger.Proofs.Replay.Reports
import TriggerLedger.Proofs.Store.Filing
/-!
# The logs of a replay

A store in memory files what a replay hands out by its keys.  So the logs that a
replay leaves part its events: each event is in one log, as often as it was handed
out, and each log keeps its events in order.
-/

namespace TriggerLedger

/-- Where every item has one of some different keys, picking out the items key by key gives all. -/
theorem flatMap_filter_perm {α : Type} (key : α → String) {keys : List String}
    (unique : keys.Nodup) {items : List α} (covered : ∀ item ∈ items, key item ∈ keys) :
    (keys.flatMap fun name => items.filter (key · == name)).Perm items := by
  induction keys generalizing items with
  | nil =>
      have none : items = [] := List.eq_nil_iff_forall_not_mem.mpr fun item member =>
        List.not_mem_nil (covered item member)
      simp [none]
  | cons first keys induction =>
      rw [List.nodup_cons] at unique
      have others : (keys.flatMap fun name => items.filter (key · == name)) =
          keys.flatMap fun name => (items.filter (!key · == first)).filter (key · == name) := by
        refine List.flatMap_congr fun name member => ?_
        rw [List.filter_filter]
        refine List.filter_congr fun item _ => ?_
        by_cases same : key item = name
        · have different : name ≠ first := fun isFirst => unique.1 (isFirst ▸ member)
          simp [same, different]
        · simp [same]
      have covers : ∀ item ∈ items.filter (!key · == first), key item ∈ keys := by
        intro item member
        obtain ⟨isItem, different⟩ := List.mem_filter.mp member
        exact (List.mem_cons.mp (covered item isItem)).resolve_left (by simpa using different)
      rw [List.flatMap_cons, others]
      exact ((induction unique.2 covers).append_left _).trans (List.filter_append_perm _ items)

namespace Script.Run

/-- The calls by which a sink records events. -/
def recordCalls (stamps : Nat → Stamp) (offered : Nat) (events : List Event) : List Call :=
  (events.zipIdx offered).map fun (event, index) => .record (stamps index) event

theorem put_not_mem_recordCalls (stamps : Nat → Stamp) (offered : Nat) (events : List Event)
    (log : Log) : .put log ∉ recordCalls stamps offered events := by
  simp [recordCalls]

theorem offer_ofStore {σ : Type} [Store σ] (stamps : Nat → Stamp) (events : List Event)
    (state : StampedStore σ) :
    (offer (Sink.ofStore stamps) state events).store =
      (recordCalls stamps state.offered events).foldl (fun store call => (call.perform store).1)
        state.store := by
  induction events generalizing state with
  | nil => rfl
  | cons event events induction => exact induction _

theorem recordedSince_recordCalls (key : String) (stamps : Nat → Stamp) (offered : Nat)
    (events : List Event) :
    (Call.recordedSince key (recordCalls stamps offered events)).map (·.event) =
      events.filter (·.key == key) := by
  have noDeletion : (recordCalls stamps offered events).rtakeWhile (fun call => !call.deletes key) =
      recordCalls stamps offered events := by
    rw [List.rtakeWhile_eq_self_iff]
    rintro _ member
    obtain ⟨position, -, rfl⟩ := List.mem_map.mp member
    rfl
  rw [Call.recordedSince, noDeletion]
  clear noDeletion
  induction events generalizing offered with
  | nil => rfl
  | cons event events induction =>
      have rest := induction (offered + 1)
      rw [recordCalls] at rest ⊢
      by_cases same : event.key = key
      · simpa [Call.recordedUnder?, same] using rest
      · simpa [Call.recordedUnder?, same] using rest

end Script.Run

/-- The logs of a store part some events by their keys: each event is in the log of its key and in
no other, and each log has some of them, in order. -/
structure MemoryStore.Parts (events : List Event) (store : MemoryStore) : Prop where
  unique : (store.logs.map Prod.fst).Nodup
  filed : ∀ entry ∈ store.logs, entry.2.sessionId = entry.1 ∧ entry.2.events ≠ [] ∧
    entry.2.events.map (·.event) = events.filter (·.key == entry.1)
  found : ∀ event ∈ events, ∃ log ∈ store.get? event.key, event ∈ log.events.map (·.event)
  all : store.allEvents.Perm events

open Script (Run) in
/-- What is recorded call by call is parted. -/
theorem MemoryStore.Files.parts {stamps : Nat → Stamp} {offered : Nat} {events : List Event}
    {store : MemoryStore} (files : store.Files (Run.recordCalls stamps offered events)) :
    store.Parts events := by
  have recorded (key : String) :=
    Run.recordedSince_recordCalls key stamps offered events
  have filed : ∀ entry ∈ store.logs, entry.2.sessionId = entry.1 ∧ entry.2.events ≠ [] ∧
      entry.2.events.map (·.event) = events.filter (·.key == entry.1) := by
    intro entry member
    have found : store.get? entry.1 = some entry.2 :=
      (Entries.lookup_eq_some_iff files.unique).mpr member
    obtain ⟨named, kept⟩ := files.of_get? found
    refine ⟨named, ?_, by rw [kept, recorded]⟩
    rw [kept, ne_eq, ← files.get?_eq_none_iff, found]
    nofun
  have found : ∀ event ∈ events,
      ∃ log ∈ store.get? event.key, event ∈ log.events.map (·.event) := by
    intro event member
    have isRecorded : event ∈ (Call.recordedSince event.key
        (Run.recordCalls stamps offered events)).map (·.event) := by
      simpa [recorded] using member
    cases isFiled : store.get? event.key with
    | none =>
        rw [files.get?_eq_none_iff.mp isFiled] at isRecorded
        cases isRecorded
    | some log =>
        refine ⟨log, rfl, ?_⟩
        rwa [(files.of_get? isFiled).2]
  refine ⟨files.unique, filed, found, ?_⟩
  have byKey : store.allEvents =
      (store.logs.map Prod.fst).flatMap fun key => events.filter (·.key == key) := by
    rw [List.flatMap_map]
    exact List.flatMap_congr fun entry member => (filed entry member).2.2
  rw [byKey]
  refine flatMap_filter_perm Event.key files.unique fun event member => ?_
  obtain ⟨log, isFiled, -⟩ := found event member
  exact List.mem_map_of_mem ((Entries.lookup_eq_some_iff files.unique).mp isFiled)

open Script in
/-- However events are recorded and logs are deleted, the log of a key holds the events recorded
under the key since it was deleted last, in order, and there is no log if there are none.  Its
summary counts them and has the verdict of the last closed session among them.  An event has the key
of the session that it names, if that is not empty.  So the logs after a replay part what it handed
out. -/
theorem events_filed_by_key {γ : Type} (client : Remote.Client γ) (background : Bool)
    (stamps : Nat → Stamp) (settings : Settings) (clock : Instant) (state : γ) :
    (∀ (calls : List Call) (store : MemoryStore), (∀ log, .put log ∉ calls) →
      Reaches MemoryStore.SameLogs .empty calls store → ∀ key,
        let events := Call.recordedSince key calls
        ∃ found, Store.get store key = .ok found ∧ (found = none ↔ events = []) ∧
        ∀ log ∈ found, log.sessionId = key ∧ log.events = events ∧
          log.summary.sessionId = key ∧ log.summary.eventCount = events.length ∧
          ∀ verdict, log.summary.verdict = some verdict ↔ ∃ before record after,
            events.map (·.event) = before ++ .trigger record :: after ∧
              (∀ event ∈ after, event.trigger? = none) ∧ record.verdict = verdict) ∧
    (∀ event : Event, ((∀ name ∈ event.namedSession?, name = "") → event.key = "_unscoped") ∧
      ∀ name ∈ event.namedSession?, name ≠ "" → event.key = name) ∧
    ∀ steps final,
      Run.Reaches ⟨.ofStore stamps, client, background⟩ settings
        (.start clock ⟨MemoryStore.empty, 0⟩ state) steps final →
      final.sink.store.Parts
        (((Replay.start clock).history settings steps).flatMap (·.emission.events)) := by
  refine ⟨?_, fun event => ⟨Event.key_of_unnamed, fun name => Event.key_of_named⟩, ?_⟩
  · intro calls store noPut reaches key events
    have files : store.Files calls := MemoryStore.Files.empty.of_reaches noPut reaches
    refine ⟨store.get? key, rfl, files.get?_eq_none_iff, fun log found => ?_⟩
    obtain ⟨named, kept⟩ : log.sessionId = key ∧ log.events = events := files.of_get? found
    refine ⟨named, kept, named, congrArg List.length kept, fun verdict => ?_⟩
    rw [← kept]
    exact Log.verdict?_eq_some_iff
  · intro steps final reaches
    let emitted := ((Replay.start clock).applyAll settings steps).2.events
    have recorded : final.sink.store =
        (Run.recordCalls stamps 0 emitted).foldl (fun store call => (call.perform store).1)
          .empty := by
      rw [reaches.sink]
      exact Run.offer_ofStore stamps emitted _
    have files : final.sink.store.Files (Run.recordCalls stamps 0 emitted) := by
      rw [recorded]
      exact MemoryStore.Files.empty.of_reaches (Run.put_not_mem_recordCalls stamps 0 emitted)
        (MemoryStore.reaches_foldl _ _)
    rw [← (Replay.applyAll_emission settings steps _).1]
    exact files.parts

open Script in
/-- A log is opened anew after it was deleted, and tells of what was recorded since. -/
theorem filed_anew_after_deletion :
    let stamp (eventId : String) : Stamp := ⟨eventId, ⟨0⟩, ⟨0⟩⟩
    let rejected : Event := .trigger { TriggerRecord.acceptedOne with verdict := .reject }
    let accepted : Event := .trigger .acceptedOne
    let latency (sessionId : String) : Event :=
      .latency ⟨"r", sessionId, 0, 0, 0, 0, 0, 0, .line, .onDemand, "go", "Control"⟩
    let calls : List Call := [.record (stamp "1") rejected, .delete "session",
      .record (stamp "2") accepted, .record (stamp "3") (latency ""),
      .record (stamp "4") (latency "session")]
    let store := calls.foldl (fun store call => (call.perform store).1) MemoryStore.empty
    let outlets : Outlets (StampedStore MemoryStore) Unit :=
      ⟨.ofStore fun _ => stamp "e", .silent, true⟩
    let steps : List Step := [.emptyList ⟨"r", "s", 0, none⟩, .emptyList ⟨"r", "", 0, none⟩]
    let final := (Run.start ⟨0⟩ ⟨MemoryStore.empty, 0⟩ ()).applyAll outlets plainSettings steps
    ((∀ log, .put log ∉ calls) ∧ Reaches MemoryStore.SameLogs .empty calls store ∧
      (latency "").namedSession? = some "" ∧
      Run.Reaches outlets plainSettings (.start ⟨0⟩ ⟨.empty, 0⟩ ()) steps final) ∧
    (∃ log, Store.get store "session" = .ok (some log) ∧
      log.events.map (·.event) = [accepted, latency "session"] ∧
      log.summary.eventCount = 2 ∧ log.summary.verdict = some .accept) ∧
    (latency "").key = "_unscoped" ∧ Store.get store "_unscoped" ≠ .ok none ∧
    final.sink.store.logs.map Prod.fst = ["s", "_unscoped"] ∧
    final.sink.store.Parts
      (((Replay.start ⟨0⟩).history plainSettings steps).flatMap (·.emission.events)) := by
  intro stamp rejected accepted latency calls store outlets steps final
  have noPut : ∀ log, .put log ∉ calls := by simp [calls]
  have reaches : Reaches MemoryStore.SameLogs .empty calls store :=
    MemoryStore.reaches_foldl calls .empty
  have runs := Run.reaches_applyAll outlets plainSettings steps (.start ⟨0⟩ ⟨.empty, 0⟩ ())
  obtain ⟨filed, keyed, parted⟩ :=
    events_filed_by_key .silent true (fun _ => stamp "e") plainSettings ⟨0⟩ ()
  have unnamed : ∀ name ∈ (latency "").namedSession?, name = "" := by
    simp [latency, Event.namedSession?]
  refine ⟨⟨noPut, reaches, rfl, runs⟩, ?_, (keyed _).1 unnamed, ?_, by decide +kernel,
    parted steps final runs⟩
  · have events : Call.recordedSince "session" calls =
        [⟨"2", ⟨0⟩, accepted⟩, ⟨"4", ⟨0⟩, latency "session"⟩] := by decide +kernel
    obtain ⟨found, isFound, absent, present⟩ := filed calls store noPut reaches "session"
    cases found with
    | none => exact absurd (absent.mp rfl) (by simp [events])
    | some log =>
        obtain ⟨-, kept, -, count, verdict⟩ := present log rfl
        rw [events] at kept count verdict
        refine ⟨log, isFound, by rw [kept]; rfl, count, (verdict .accept).mpr ?_⟩
        exact ⟨[], .acceptedOne, [latency "session"], rfl, by simp [latency, Event.trigger?], rfl⟩
  · obtain ⟨found, isFound, absent, -⟩ := filed calls store noPut reaches "_unscoped"
    rw [isFound]
    rintro ⟨rfl⟩
    have events : Call.recordedSince "_unscoped" calls ≠ [] := by decide +kernel
    exact events (absent.mp rfl)

end TriggerLedger
