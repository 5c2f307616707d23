import Mathlib.Data.Option.Basic
import TriggerLedger.Suggestion.Verdict
/-!
# Dispositions

What a report makes of a suggestion: it is accepted or rejected only if nothing is told
of displays or it was showed, and empty only if it was displayed as such.
-/

namespace TriggerLedger.Disposition

variable {index : Nat} {accepted : Option Nat} {displays : Option (ByIndex Display)}

theorem ofReport_none_eq_accept_iff :
    ofReport index accepted none = .accept ↔ accepted = some index := by
  cases accepted with
  | none => simp [ofReport]
  | some chosen => by_cases same : chosen = index <;> simp [ofReport, same]

theorem ofReport_none_eq_reject_iff :
    ofReport index accepted none = .reject ↔ accepted = none := by
  cases accepted with
  | none => simp [ofReport]
  | some chosen => by_cases same : chosen = index <;> simp [ofReport, same]

theorem ofReport_none_ne_empty : ofReport index accepted none ≠ .empty := by
  cases accepted with
  | none => simp [ofReport]
  | some chosen => by_cases same : chosen = index <;> simp [ofReport, same]

/-- Only for a suggestion that was showed does it matter what was accepted. -/
theorem ofReport_some (index : Nat) (accepted : Option Nat) (table : ByIndex Display) :
    ofReport index accepted (some table) =
      match table.get? index with
      | some .showed => ofReport index accepted none
      | some .empty => .empty
      | some .filter => .filter
      | some .discard => .discard
      | some .unseen => .unseen
      | none => .unseen := by
  cases reported : table.get? index with
  | none => simp [ofReport, reported]
  | some display => cases display <;> simp [ofReport, reported, Display.forced?]

theorem ofReport_eq_accept_iff : ofReport index accepted displays = .accept ↔
    accepted = some index ∧ ∀ table ∈ displays, table.get? index = some .showed := by
  cases displays with
  | none => simpa using ofReport_none_eq_accept_iff
  | some table =>
      rw [ofReport_some]
      split <;> simp_all [ofReport_none_eq_accept_iff]

theorem ofReport_eq_reject_iff : ofReport index accepted displays = .reject ↔
    accepted = none ∧ ∀ table ∈ displays, table.get? index = some .showed := by
  cases displays with
  | none => simpa using ofReport_none_eq_reject_iff
  | some table =>
      rw [ofReport_some]
      split <;> simp_all [ofReport_none_eq_reject_iff]

theorem ofReport_eq_empty_iff : ofReport index accepted displays = .empty ↔
    ∃ table ∈ displays, table.get? index = some .empty := by
  cases displays with
  | none => simpa using ofReport_none_ne_empty
  | some table =>
      rw [ofReport_some]
      split <;> simp_all [ofReport_none_ne_empty]

/-- Of the displays only the one of the suggestion itself matters. -/
theorem ofReport_congr {others : Option (ByIndex Display)}
    (told : displays.isSome = others.isSome)
    (same : ∀ table ∈ displays, ∀ other ∈ others, table.get? index = other.get? index) :
    ofReport index accepted displays = ofReport index accepted others := by
  cases displays with
  | none => simp_all
  | some table =>
      obtain ⟨other, rfl⟩ := Option.isSome_iff_exists.mp told.symm
      rw [ofReport_some, ofReport_some, same table rfl other rfl]

end TriggerLedger.Disposition
