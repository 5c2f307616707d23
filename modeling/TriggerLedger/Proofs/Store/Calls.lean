import TriggerLedger.Proofs.Store.Newest
import TriggerLedger.Proofs.Store.ReadsBack
import TriggerLedger.Store.Memory
/-!
# Calls of a store

A store is called any number of times, and may put its entries into any order
before each call, since neither a directory nor a table in memory keeps one.
-/

namespace TriggerLedger

/-- A call of a store. -/
inductive Call where
  | record (stamp : Stamp) (event : Event)
  | put (log : Log)
  | get (sessionId : String)
  | list (limit : Nat)
  | delete (sessionId : String)

/-- What a call gives when it succeeds. -/
inductive Answer where
  | done
  | log (found : Option Log)
  | listing (summaries : List LogSummary)

namespace Call

/-- Call a store: what is left, and what it replies. -/
def perform {σ : Type} [Store σ] (store : σ) : Call → σ × Except StoreFault Answer
  | .record stamp event =>
    let (next, result) := Store.record store stamp event
    (next, result.map fun _ => .done)
  | .put log =>
    let (next, result) := Store.put store log
    (next, result.map fun _ => .done)
  | .get sessionId => (store, (Store.get store sessionId).map .log)
  | .list limit => (store, (Store.list store limit).map .listing)
  | .delete sessionId =>
    let (next, result) := Store.delete store sessionId
    (next, result.map fun _ => .done)

/-- The session that a call is about. -/
def sessionId? : Call → Option String
  | .record _ event => some event.key
  | .put log => some log.sessionId
  | .get sessionId => some sessionId
  | .list _ => none
  | .delete sessionId => some sessionId

/-- Whether a call writes a file. -/
def writes : Call → Bool
  | .record _ _ => true
  | .put _ => true
  | _ => false

/-- The numbers in a call fit their fields, and its times are in the calendar. -/
def Fits : Call → Prop
  | .record stamp event =>
    stamp.opened.inCalendar = true ∧ stamp.recorded.inCalendar = true ∧ event.Fits
  | .put log => log.Fits
  | _ => True

/-- The classifier values in a call survive their own digits. -/
def RealsReadBack : Call → Prop
  | .record _ event => event.RealsReadBack
  | .put log => log.RealsReadBack
  | _ => True

end Call

theorem Log.Fits.pushTo {found : Option Log} {stamp : Stamp} {event : Event}
    (found_fits : ∀ log ∈ found, log.Fits) (fits : (Call.record stamp event).Fits) :
    (Log.pushTo found stamp event).Fits := by
  have start : (found.getD (.opened event.key stamp.opened)).Fits := by
    cases found with
    | none => exact ⟨by simp [Log.opened], fits.1, fits.1⟩
    | some log => exact found_fits log rfl
  refine ⟨?_, start.createdAt, fits.2.1⟩
  intro recorded member
  rcases List.mem_append.mp member with old | new
  · exact start.events recorded old
  · obtain rfl := List.mem_singleton.mp new
    exact ⟨fits.2.1, fits.2.2⟩

theorem Log.RealsReadBack.pushTo {found : Option Log} {stamp : Stamp} {event : Event}
    (found_reals : ∀ log ∈ found, log.RealsReadBack) (reals : event.RealsReadBack) :
    (Log.pushTo found stamp event).RealsReadBack := by
  have start : (found.getD (.opened event.key stamp.opened)).RealsReadBack := by
    cases found with
    | none => simp [Log.RealsReadBack, Log.opened]
    | some log => exact found_reals log rfl
  intro recorded member
  rcases List.mem_append.mp member with old | new
  · exact start recorded old
  · obtain rfl := List.mem_singleton.mp new
    exact reals

/-- A session id that is safe as it is in the name of a file. -/
structure IsPlainId (sessionId : String) : Prop where
  nonempty : sessionId ≠ ""
  safe : sessionId.toList.all Directory.isSafe = true

/-- A call with a plain session id and with values that survive their text, whose file can be
written if it has one. -/
structure Call.Admissible (call : Call) : Prop where
  plain : ∀ sessionId ∈ call.sessionId?, IsPlainId sessionId
  fits : call.Fits
  reals : call.RealsReadBack
  writable : call.writes = true → ∀ sessionId ∈ call.sessionId?,
    Directory.isUsableName (Directory.fileName sessionId) = true

/-- The same files in any order. -/
def Directory.SameFiles (first second : Directory) : Prop := first.files.Perm second.files

/-- The same logs in any order. -/
def MemoryStore.SameLogs (first second : MemoryStore) : Prop := first.logs.Perm second.logs

/-- The stores that calls may lead to, where the order of entries may change between them. -/
inductive Reaches {σ : Type} [Store σ] (same : σ → σ → Prop) : σ → List Call → σ → Prop where
  | nil {store final : σ} : same store final → Reaches same store [] final
  | cons {store reordered final : σ} {call : Call} {calls : List Call} : same store reordered →
      Reaches same (call.perform reordered).1 calls final →
      Reaches same store (call :: calls) final

/-- Calls made one after the other, without any change of order, reach what they leave. -/
theorem Reaches.foldl {σ : Type} [Store σ] {same : σ → σ → Prop} (refl : ∀ store, same store store)
    (calls : List Call) (store : σ) :
    Reaches same store calls (calls.foldl (fun store call => (call.perform store).1) store) := by
  induction calls generalizing store with
  | nil => exact .nil (refl store)
  | cons call calls induction => exact .cons (refl store) (induction (call.perform store).1)

theorem Directory.reaches_foldl (calls : List Call) (directory : Directory) :
    Reaches SameFiles directory calls
      (calls.foldl (fun store call => (call.perform store).1) directory) :=
  Reaches.foldl (fun directory : Directory => List.Perm.refl directory.files) calls directory

theorem MemoryStore.reaches_foldl (calls : List Call) (store : MemoryStore) :
    Reaches SameLogs store calls
      (calls.foldl (fun store call => (call.perform store).1) store) :=
  Reaches.foldl (fun store : MemoryStore => List.Perm.refl store.logs) calls store

/-- What every call and every change of order keeps holds of all stores that calls lead to. -/
theorem Reaches.invariant {σ : Type} [Store σ] {same : σ → σ → Prop} {motive : σ → Prop}
    (reorder : ∀ {store other : σ}, same store other → motive store → motive other)
    (perform : ∀ {store : σ} (call : Call), motive store → motive (call.perform store).1)
    {store final : σ} {calls : List Call} (reaches : Reaches same store calls final)
    (holds : motive store) : motive final := by
  induction reaches with
  | nil ordered => exact reorder ordered holds
  | @cons _ _ _ call _ ordered _ induction => exact induction (perform call (reorder ordered holds))

/-- Lists of summaries that differ only in the order of summaries of the same age. -/
def LogSummary.SameUpToTies (first second : List LogSummary) : Prop :=
  first.Perm second ∧ first.map (·.createdAt) = second.map (·.createdAt)

/-- Replies to a call that agree: they are the same, but two listings are cut off from lists of
the stored logs that may have logs of the same age in different orders. -/
def Call.Agree (store : MemoryStore) (first second : Except StoreFault Answer) : Call → Prop
  | .list limit => ∃ all others, LogSummary.SameUpToTies all others ∧
      others.Perm (store.logs.map fun entry => entry.2.summary) ∧
      first = .ok (.listing (all.take limit)) ∧ second = .ok (.listing (others.take limit))
  | _ => first = second

namespace LogSummary

theorem newestFirst_perm (summaries : List LogSummary) :
    (newestFirst summaries).Perm summaries :=
  byCreation_perm LogSummary.createdAt summaries

theorem newestFirst_pairwise (summaries : List LogSummary) :
    ((newestFirst summaries).map (·.createdAt)).Pairwise fun first second =>
      second.nanoseconds ≤ first.nanoseconds := by
  rw [List.pairwise_map]
  exact pairwise_byCreation LogSummary.createdAt summaries

/-- The same summaries in two orders are listed the same way but for summaries of one age. -/
theorem sameUpToTies_newestFirst {first second : List LogSummary} (same : first.Perm second) :
    SameUpToTies (newestFirst first) (newestFirst second) := by
  have sorted : (newestFirst first).Perm (newestFirst second) :=
    (newestFirst_perm first).trans (same.trans (newestFirst_perm second).symm)
  refine ⟨sorted, List.Perm.eq_of_pairwise ?_ (newestFirst_pairwise first)
    (newestFirst_pairwise second) (sorted.map _)⟩
  intro earlier later _ _ notLater notEarlier
  exact congrArg Instant.mk (Int.le_antisymm notEarlier notLater)

end LogSummary
end TriggerLedger
