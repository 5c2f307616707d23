import Mathlib.Algebra.BigOperators.Group.List.Basic
import Mathlib.Data.List.Perm.Basic
import TriggerLedger.Proofs.Command.Rates
/-!
# Tallies

A tally has the number of closed sessions of each verdict, so tallying the closed sessions
in recorded events splits the number of these events without loss: each is counted in one
cell of the row of its trigger.  The order of the events does not matter.
-/

namespace TriggerLedger

/-- Whether an event closes a session of a trigger with a verdict. -/
def Event.closes (trigger : TriggerKind) (verdict : Verdict) (event : Event) : Bool :=
  event.trigger?.any fun record => record.trigger == trigger && record.verdict == verdict

theorem Event.closes_iff {trigger : TriggerKind} {verdict : Verdict} {event : Event} :
    event.closes trigger verdict = true ↔
      ∃ record, event = .trigger record ∧ record.trigger = trigger ∧ record.verdict = verdict := by
  rw [closes]
  cases event <;> simp [trigger?]

/-- The closed sessions in recorded events. -/
def closedSessions (events : List RecordedEvent) : List TriggerRecord :=
  events.filterMap (·.event.trigger?)

namespace Command

namespace Tally

/-- The number of sessions with a verdict. -/
def of (tally : Tally) : Verdict → Nat
  | .accept => tally.accept
  | .reject => tally.reject
  | .discard => tally.discard
  | .empty => tally.empty

theorem ext_of {first second : Tally} (same : ∀ verdict, first.of verdict = second.of verdict) :
    first = second := by
  cases first
  cases second
  congr 1
  exacts [same .accept, same .reject, same .discard, same .empty]

theorem of_zero (verdict : Verdict) : zero.of verdict = 0 := by cases verdict <;> rfl

theorem of_count (tally : Tally) (counted verdict : Verdict) :
    (tally.count counted).of verdict =
      tally.of verdict + if counted == verdict then 1 else 0 := by
  cases counted <;> cases verdict <;> rfl

theorem total_count (tally : Tally) (counted : Verdict) :
    (tally.count counted).total = tally.total + 1 := by
  cases counted <;> simp only [count, total] <;> omega

/-- Counting on from any tally adds the sessions of each verdict. -/
theorem of_foldl_count (records : List TriggerRecord) (tally : Tally) (verdict : Verdict) :
    (records.foldl (fun tally record => tally.count record.verdict) tally).of verdict =
      tally.of verdict + records.countP (·.verdict == verdict) := by
  induction records generalizing tally with
  | nil => rfl
  | cons record records induction =>
      rw [List.foldl_cons, induction, of_count, List.countP_cons]
      omega

theorem total_foldl_count (records : List TriggerRecord) (tally : Tally) :
    (records.foldl (fun tally record => tally.count record.verdict) tally).total =
      tally.total + records.length := by
  induction records generalizing tally with
  | nil => rfl
  | cons record records induction =>
      rw [List.foldl_cons, induction, total_count, List.length_cons]
      omega

end Tally

variable {trigger : TriggerKind} {verdict : Verdict} {tally : Tally}
  {rollups visited : List TriggerRecord}

theorem of_tallyFor (trigger : TriggerKind) (rollups : List TriggerRecord) (verdict : Verdict) :
    (tallyFor trigger rollups).of verdict =
      rollups.countP fun record => record.trigger == trigger && record.verdict == verdict := by
  rw [tallyFor, Tally.of_foldl_count, Tally.of_zero, Nat.zero_add, List.countP_filter]
  exact List.countP_congr fun record _ => by rw [Bool.and_comm]

theorem total_tallyFor (trigger : TriggerKind) (rollups : List TriggerRecord) :
    (tallyFor trigger rollups).total = rollups.countP (·.trigger == trigger) := by
  rw [tallyFor, Tally.total_foldl_count, List.countP_eq_length_filter]
  exact Nat.zero_add _

theorem tallyFor_perm (perm : visited.Perm rollups) (trigger : TriggerKind) :
    tallyFor trigger visited = tallyFor trigger rollups := by
  refine Tally.ext_of fun verdict => ?_
  rw [of_tallyFor, of_tallyFor, perm.countP_eq]

/-- The triggers of any closed sessions. -/
def triggersOf (rollups : List TriggerRecord) : List TriggerKind :=
  [.automatic, .onDemand].filter fun trigger => rollups.any (·.trigger == trigger)

theorem tallies_eq (rollups : List TriggerRecord) :
    tallies rollups = (triggersOf rollups).map fun trigger => (trigger, tallyFor trigger rollups) := by
  rw [triggersOf, ← List.filterMap_eq_map, List.filterMap_filter]
  rfl

theorem mem_triggersOf_iff :
    trigger ∈ triggersOf rollups ↔ ∃ record ∈ rollups, record.trigger = trigger := by
  have known : trigger ∈ [TriggerKind.automatic, .onDemand] := by cases trigger <;> decide
  simp only [triggersOf, List.mem_filter, known, true_and, List.any_eq_true, beq_iff_eq]

theorem mem_tallies_iff : (trigger, tally) ∈ tallies rollups ↔
    (∃ record ∈ rollups, record.trigger = trigger) ∧ tally = tallyFor trigger rollups := by
  rw [tallies_eq, List.mem_map, ← mem_triggersOf_iff]
  constructor
  · rintro ⟨other, member, row⟩
    obtain ⟨rfl, rfl⟩ := Prod.mk.inj row
    exact ⟨member, rfl⟩
  · rintro ⟨member, rfl⟩
    exact ⟨trigger, member, rfl⟩

theorem nodup_tallies (rollups : List TriggerRecord) :
    ((tallies rollups).map Prod.fst).Nodup := by
  have triggers : (tallies rollups).map Prod.fst = triggersOf rollups := by
    rw [tallies_eq, List.map_map]
    exact List.map_id _
  rw [triggers]
  exact List.Nodup.filter _ (by decide)

/-- The rows of a table share out all the sessions. -/
theorem sum_total_tallies (rollups : List TriggerRecord) :
    ((tallies rollups).map (·.2.total)).sum = rollups.length := by
  have absent {trigger : TriggerKind}
      (none : ¬ rollups.any (fun record => record.trigger == trigger) = true) :
      (tallyFor trigger rollups).total = 0 := by
    rw [total_tallyFor, List.countP_eq_zero]
    exact List.any_eq_false.mp (Bool.eq_false_of_not_eq_true none)
  have both : (tallyFor .automatic rollups).total + (tallyFor .onDemand rollups).total =
      rollups.length := by
    rw [total_tallyFor, total_tallyFor,
      rollups.length_eq_countP_add_countP fun record => record.trigger == .automatic]
    congr 1
    refine List.countP_congr fun record _ => ?_
    cases record.trigger <;> decide
  rw [tallies_eq, List.map_map, ← both, triggersOf, List.filter_cons, List.filter_cons,
    List.filter_nil]
  split
  case isTrue =>
    split
    case isTrue => simp
    case isFalse noneOnDemand => simp [absent noneOnDemand]
  case isFalse noneAutomatic =>
    split
    case isTrue => simp [absent noneAutomatic]
    case isFalse noneOnDemand => simp [absent noneAutomatic, absent noneOnDemand]

theorem tallies_perm (perm : visited.Perm rollups) : tallies visited = tallies rollups := by
  refine List.filterMap_congr fun trigger _ => ?_
  rw [tallyFor_perm perm, perm.any_eq]

/-- A table counts recorded events: each closed session once, in a cell of the row of its trigger,
with the percentage of those accepted. -/
structure Tabulates (rows : List (TriggerKind × Tally)) (events : List RecordedEvent) : Prop where
  once : (rows.map Prod.fst).Nodup
  row : ∀ trigger, (∃ tally, (trigger, tally) ∈ rows) ↔ ∃ recorded ∈ events,
    ∃ record, recorded.event = .trigger record ∧ record.trigger = trigger
  cell : ∀ row ∈ rows, ∀ verdict, row.2.of verdict = events.countP (·.event.closes row.1 verdict)
  total : (rows.map (·.2.total)).sum = events.countP (·.event.trigger?.isSome)
  rate : ∀ row ∈ rows, row.2.total < word32 →
    row.2.acceptanceRate.IsPercentage row.2.accept (row.2.accept + row.2.reject)

theorem mem_closedSessions_iff {events : List RecordedEvent} {record : TriggerRecord} :
    record ∈ closedSessions events ↔ ∃ recorded ∈ events, recorded.event = .trigger record := by
  rw [closedSessions, List.mem_filterMap]
  refine exists_congr fun recorded => and_congr_right fun _ => ?_
  cases recorded.event <;> simp [Event.trigger?]

theorem countP_closedSessions (events : List RecordedEvent) (trigger : TriggerKind)
    (verdict : Verdict) :
    (closedSessions events).countP (fun record =>
      record.trigger == trigger && record.verdict == verdict) =
      events.countP (·.event.closes trigger verdict) := by
  rw [closedSessions, List.countP_filterMap]
  refine List.countP_congr fun recorded _ => ?_
  simp only [Event.closes]
  cases recorded.event.trigger? <;> rfl

theorem tabulates_tallies (events : List RecordedEvent) :
    Tabulates (tallies (closedSessions events)) events where
  once := nodup_tallies _
  row trigger := by
    simp only [mem_tallies_iff, exists_and_left, exists_eq, and_true, mem_closedSessions_iff]
    constructor
    · rintro ⟨record, ⟨recorded, member, closed⟩, same⟩
      exact ⟨recorded, member, record, closed, same⟩
    · rintro ⟨recorded, member, record, closed, same⟩
      exact ⟨record, ⟨recorded, member, closed⟩, same⟩
  cell row member verdict := by
    obtain ⟨-, counted⟩ := mem_tallies_iff.mp member
    rw [counted, of_tallyFor, countP_closedSessions]
  total := by
    rw [sum_total_tallies, closedSessions, List.length_filterMap_eq_countP]
  rate row _ few := by
    refine Tally.isPercentage_acceptanceRate (Nat.lt_of_le_of_lt ?_ few)
    simp only [Tally.total]
    omega

end Command
end TriggerLedger
