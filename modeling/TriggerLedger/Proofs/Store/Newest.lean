import Mathlib.Data.List.Perm.Basic
import TriggerLedger.Instant.Basic
/-!
# The newest of some items

Items are put into the order of their creation, the latest first, and cut off at a
limit.  What is left are the newest of them: as many as there may be, each once, and
none that was left out is newer.
-/

namespace TriggerLedger

variable {α β : Type} {created : α → Instant} {limit : Nat} {items newest : List α}

/-- Items in the order of their creation, the latest first; items of one time keep their order. -/
def byCreation (created : α → Instant) (items : List α) : List α :=
  items.mergeSort fun first second => decide (created second ≤ created first)

theorem byCreation_perm (created : α → Instant) (items : List α) :
    (byCreation created items).Perm items :=
  List.mergeSort_perm _ _

theorem pairwise_byCreation (created : α → Instant) (items : List α) :
    (byCreation created items).Pairwise fun first second => created second ≤ created first := by
  have transitive (first second third : α) (newer : decide (created second ≤ created first) = true)
      (newest : decide (created third ≤ created second) = true) :
      decide (created third ≤ created first) = true := by
    rw [decide_eq_true_eq] at newer newest ⊢
    exact Int.le_trans newest newer
  have total (first second : α) :
      (decide (created second ≤ created first) || decide (created first ≤ created second)) =
        true := by
    rw [Bool.or_eq_true, decide_eq_true_eq, decide_eq_true_eq]
    exact Int.le_total _ _
  refine (List.pairwise_mergeSort transitive total items).imp ?_
  intro first second newer
  exact of_decide_eq_true newer

theorem map_byCreation (get : α → β) (created : β → Instant) (items : List α) :
    (byCreation (fun item => created (get item)) items).map get =
      byCreation created (items.map get) :=
  List.map_mergeSort fun _ _ _ _ => rfl

/-- Some items are the newest of others: as many as the limit allows, the latest first, and the
ones left out are no newer. -/
structure AreNewest (created : α → Instant) (limit : Nat) (items newest : List α) : Prop where
  length : newest.length = min limit items.length
  sorted : newest.Pairwise fun first second => created second ≤ created first
  rest : ∃ omitted, (newest ++ omitted).Perm items ∧
    ∀ item ∈ newest, ∀ other ∈ omitted, created other ≤ created item

theorem areNewest_take (created : α → Instant) (limit : Nat) (items : List α) :
    AreNewest created limit items ((byCreation created items).take limit) := by
  have sorted := pairwise_byCreation created items
  rw [← List.take_append_drop limit (byCreation created items), List.pairwise_append] at sorted
  refine ⟨?_, sorted.1, (byCreation created items).drop limit, ?_, sorted.2.2⟩
  · rw [List.length_take, (byCreation_perm created items).length_eq]
  · rw [List.take_append_drop]
    exact byCreation_perm created items

namespace AreNewest

/-- Where there are no more items than the limit allows, all of them are the newest. -/
theorem perm (are : AreNewest created limit items newest) (few : items.length ≤ limit) :
    newest.Perm items := by
  obtain ⟨omitted, all, -⟩ := are.rest
  have lengths := all.length_eq
  rw [List.length_append, are.length, Nat.min_eq_right few] at lengths
  obtain rfl : omitted = [] := List.length_eq_zero_iff.mp (by omega)
  rwa [List.append_nil] at all

theorem nodup_map (are : AreNewest created limit items newest) {get : α → β}
    (apart : (items.map get).Nodup) : (newest.map get).Nodup := by
  obtain ⟨omitted, all, -⟩ := are.rest
  have both := (all.map get).nodup_iff.mpr apart
  rw [List.map_append] at both
  exact (List.nodup_append.mp both).1

end AreNewest
end TriggerLedger
