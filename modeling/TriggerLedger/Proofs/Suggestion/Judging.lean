import Mathlib.Data.List.Basic
import TriggerLedger.Suggestion.Verdict
/-!
# Judging in one pass

A verdict is reached by reading dispositions one after the other.  An accepted one settles it
whatever comes after, so stopping there gives the verdict on all of them.
-/

namespace TriggerLedger.Verdict

namespace Progress

/-- The verdict after reading everything. -/
def readAll (progress : Progress) (dispositions : List Disposition) : Verdict :=
  (dispositions.foldl read progress).verdict

variable {progress : Progress} {dispositions : List Disposition}

theorem foldl_read (progress : Progress) (dispositions : List Disposition) :
    dispositions.foldl read progress =
      ⟨progress.accepted || decide (.accept ∈ dispositions),
        progress.rejected || decide (.reject ∈ dispositions),
        progress.othersEmpty && decide (∀ disposition ∈ dispositions,
          disposition ∈ [.accept, .reject, .empty])⟩ := by
  induction dispositions generalizing progress with
  | nil => simp
  | cons disposition dispositions induction =>
      rw [List.foldl_cons, induction]
      cases disposition <;> simp [read]

/-- Nothing that is read later undoes an acceptance. -/
theorem readAll_of_accepted (accepted : progress.accepted = true) :
    progress.readAll dispositions = .accept := by
  rw [readAll, foldl_read, verdict, accepted, Bool.true_or, if_pos rfl]

theorem readUntilAccepted_eq_readAll (progress : Progress) (dispositions : List Disposition) :
    progress.readUntilAccepted dispositions = progress.readAll dispositions := by
  induction dispositions generalizing progress with
  | nil => rfl
  | cons disposition dispositions induction =>
      cases disposition with
      | accept =>
          have settled : (progress.read .accept).readAll dispositions = .accept :=
            readAll_of_accepted rfl
          exact settled.symm
      | reject | ignore | unseen | empty | filter | discard => exact induction _

end Progress

theorem ofDispositions_eq_readAll (dispositions : List Disposition) :
    ofDispositions dispositions = Progress.start.readAll dispositions :=
  Progress.readUntilAccepted_eq_readAll .start dispositions

theorem ofDispositions_eq (dispositions : List Disposition) :
    ofDispositions dispositions =
      if .accept ∈ dispositions then .accept
      else if .reject ∈ dispositions then .reject
      else if ∀ disposition ∈ dispositions, disposition = .empty then .empty
      else .discard := by
  rw [ofDispositions_eq_readAll, Progress.readAll, Progress.foldl_read, Progress.verdict]
  by_cases accepted : .accept ∈ dispositions
  · simp [accepted]
  by_cases rejected : .reject ∈ dispositions
  · simp [accepted, rejected, Progress.start]
  -- Without accepted and rejected ones, the others are all there are.
  have others : (∀ disposition ∈ dispositions, disposition ∈ [.accept, .reject, .empty]) ↔
      ∀ disposition ∈ dispositions, disposition = .empty := by
    refine forall₂_congr fun disposition member => ?_
    have notAccepted : disposition ≠ .accept := fun same => accepted (same ▸ member)
    have notRejected : disposition ≠ .reject := fun same => rejected (same ▸ member)
    simp [notAccepted, notRejected]
  simp only [Progress.start, Bool.false_or, Bool.true_and, decide_eq_true_eq, accepted, rejected,
    others, if_false]

end TriggerLedger.Verdict
