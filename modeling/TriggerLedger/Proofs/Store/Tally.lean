import Mathlib.Logic.Function.Basic
/-!
# Counting the events of a shared file

Clients read a log and put it back with one event more.  As long as no two of them
hold it at once, the file has as many events as were put.  If two do, an event is
missing from then on, in the file or in a copy that will override it.
-/

namespace TriggerLedger

/-- How many events there are in a file and in the copies of its log that clients hold, and how many
there should be. -/
structure Tally (ι : Type) where
  file : Nat
  held : ι → Option Nat
  due : Nat

namespace Tally

/-- The file and all copies have fewer events than a bound. -/
structure Under {ι : Type} (bound : Nat) (tally : Tally ι) : Prop where
  file : tally.file < bound
  held : ∀ client, ∀ count ∈ tally.held client, count < bound

/-- An event is missing for good: of two clients that hold the log, the one that puts it back first
will be overridden, and a copy with too few events overrides those of the others. -/
inductive Short {ι : Type} (tally : Tally ι) : Prop where
  | two {first second : ι} (different : first ≠ second) (one : tally.held first ≠ none)
      (other : tally.held second ≠ none)
  | holder {client : ι} {count : Nat} (held : tally.held client = some count)
      (few : count < tally.due)
  | all (under : tally.Under tally.due)

variable {ι : Type} {tally next : Tally ι} {client other : ι} {bound count file : Nat}

theorem Under.mono (under : tally.Under bound) : tally.Under (bound + 1) where
  file := Nat.lt_succ_of_lt under.file
  held client count held := Nat.lt_succ_of_lt (under.held client count held)

variable [DecidableEq ι]

def read (tally : Tally ι) (client : ι) : Tally ι :=
  { tally with held := Function.update tally.held client (some tally.file) }

def put (tally : Tally ι) (client : ι) (file : Nat) : Tally ι where
  file := file
  held := Function.update tally.held client none
  due := tally.due + 1

inductive Moves (tally : Tally ι) : Tally ι → Prop where
  | stay : Moves tally tally
  | read {client : ι} (idle : tally.held client = none) : Moves tally (tally.read client)
  | put {client : ι} {count file : Nat} (held : tally.held client = some count)
      (left : file = count + 1 ∨ file = tally.file) : Moves tally (tally.put client file)

theorem held_read_of_ne (different : other ≠ client) :
    (tally.read client).held other = tally.held other :=
  Function.update_of_ne different _ _

theorem held_put_of_ne (different : other ≠ client) :
    (tally.put client file).held other = tally.held other :=
  Function.update_of_ne different _ _

theorem Under.read (under : tally.Under bound) (client : ι) : (tally.read client).Under bound where
  file := under.file
  held := by
    refine (Function.forall_update_iff _ fun _ held => ∀ count ∈ held, count < bound).mpr
      ⟨?_, fun other _ => under.held other⟩
    rintro _ ⟨rfl⟩
    exact under.file

theorem Under.put (under : tally.Under bound) (client : ι) (few : file < bound) :
    (tally.put client file).Under bound where
  file := few
  held := (Function.forall_update_iff _ fun _ held => ∀ count ∈ held, count < bound).mpr
    ⟨nofun, fun other _ => under.held other⟩

/-- There are never too many events. -/
theorem Under.moves (under : tally.Under (tally.due + 1)) (moves : Moves tally next) :
    next.Under (next.due + 1) := by
  cases moves with
  | stay => exact under
  | @read client idle => exact under.read client
  | @put client count file held left =>
      have few := under.held client count held
      have old := under.file
      refine under.mono.put client ?_
      omega

theorem Short.read (short : tally.Short) (idle : tally.held client = none) :
    (tally.read client).Short := by
  have kept {other : ι} (holds : tally.held other ≠ none) :
      (tally.read client).held other = tally.held other := by
    refine held_read_of_ne ?_
    rintro rfl
    exact holds idle
  cases short with
  | two different one other => exact .two different (by rwa [kept one]) (by rwa [kept other])
  | holder held few => exact .holder ((kept (by simp [held])).trans held) few
  | all under => exact .all (under.read client)

/-- The event that a client puts back is not in a copy that another one holds, and if there were
too few events before, there still are. -/
theorem Short.put (short : tally.Short) (under : tally.Under (tally.due + 1))
    (held : tally.held client = some count) (left : file = count + 1 ∨ file = tally.file) :
    (tally.put client file).Short := by
  have others {other : ι} (different : other ≠ client) (holds : tally.held other ≠ none) :
      (tally.put client file).Short := by
    obtain ⟨copied, otherHeld⟩ := Option.ne_none_iff_exists'.mp holds
    exact .holder ((held_put_of_ne different).trans otherHeld) (under.held other copied otherHeld)
  have old := under.file
  cases short with
  | @two first second different one other =>
      by_cases same : first = client
      · exact others (same ▸ different.symm) other
      · exact others same one
  | @holder holder fewer holderHeld few =>
      by_cases same : holder = client
      · obtain rfl : fewer = count := Option.some.inj (holderHeld.symm.trans (same ▸ held))
        exact .all (under.put client (by omega))
      · exact others same (by simp [holderHeld])
  | all few =>
      have copied := few.held client count held
      have file := few.file
      exact .all (under.put client (by omega))

theorem Short.moves (short : tally.Short) (under : tally.Under (tally.due + 1))
    (moves : Moves tally next) : next.Short := by
  cases moves with
  | stay => exact short
  | read idle => exact short.read idle
  | put held left => exact short.put under held left

end Tally

end TriggerLedger
