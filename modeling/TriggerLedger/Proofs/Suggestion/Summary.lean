import Mathlib.Algebra.Order.Ring.Nat
import Mathlib.Data.List.Forall2
import TriggerLedger.Proofs.Suggestion.Judging
import TriggerLedger.Session.Ledger
/-!
# Flat summaries

The record of a request sums up its decisions, and the record of a session sums
up the records of its requests.  Summing up in two stages gives what summing up
all decisions at once gives, however they are grouped.  Since a verdict tells which
dispositions there are, their order and their repetition do not matter either.
-/

namespace TriggerLedger

theorem total_eq_sum (numbers : List Nat) : total numbers = numbers.sum := by
  induction numbers with
  | nil => rfl
  | cons number numbers induction => simp [total, List.sum_cons, ← induction]

namespace Verdict

/-- A verdict depends on which dispositions there are, not on their order or number. -/
theorem ofDispositions_congr {first second : List Disposition}
    (same : ∀ disposition, disposition ∈ first ↔ disposition ∈ second) :
    ofDispositions first = ofDispositions second := by
  simp only [ofDispositions_eq, same]

theorem combine_congr {first second : List Verdict}
    (same : ∀ verdict, verdict ∈ first ↔ verdict ∈ second) : combine first = combine second := by
  refine ofDispositions_congr fun disposition => ?_
  simp only [List.mem_map, same]

theorem ofDispositions_eq_accept_iff {dispositions : List Disposition} :
    ofDispositions dispositions = .accept ↔ .accept ∈ dispositions := by
  rw [ofDispositions_eq]
  split_ifs <;> simp_all

theorem ofDispositions_eq_reject_iff {dispositions : List Disposition} :
    ofDispositions dispositions = .reject ↔
      .accept ∉ dispositions ∧ .reject ∈ dispositions := by
  rw [ofDispositions_eq]
  split_ifs <;> simp_all

theorem ofDispositions_eq_empty_iff {dispositions : List Disposition} :
    ofDispositions dispositions = .empty ↔
      ∀ disposition ∈ dispositions, disposition = .empty := by
  rw [ofDispositions_eq]
  split_ifs with accepted rejected allEmpty
  · simpa using ⟨_, accepted, by decide⟩
  · simpa using ⟨_, rejected, by decide⟩
  · simpa using allEmpty
  · simpa using allEmpty

theorem toDisposition_eq_accept_iff {verdict : Verdict} :
    verdict.toDisposition = .accept ↔ verdict = .accept := by
  cases verdict <;> simp [toDisposition]

theorem toDisposition_eq_reject_iff {verdict : Verdict} :
    verdict.toDisposition = .reject ↔ verdict = .reject := by
  cases verdict <;> simp [toDisposition]

theorem toDisposition_eq_empty_iff {verdict : Verdict} :
    verdict.toDisposition = .empty ↔ verdict = .empty := by
  cases verdict <;> simp [toDisposition]

/-- Verdicts on groups combine to the verdict on all members. -/
theorem combine_map_ofDispositions (groups : List (List Disposition)) :
    combine (groups.map ofDispositions) = ofDispositions groups.flatten := by
  have accepted : .accept ∈ (groups.map ofDispositions).map toDisposition ↔
      .accept ∈ groups.flatten := by
    simp [toDisposition_eq_accept_iff, ofDispositions_eq_accept_iff]
  have rejected (none : .accept ∉ groups.flatten) :
      .reject ∈ (groups.map ofDispositions).map toDisposition ↔
        .reject ∈ groups.flatten := by
    simp only [List.mem_flatten, not_exists, not_and] at none
    simp only [List.mem_map, exists_exists_and_eq_and, toDisposition_eq_reject_iff,
      ofDispositions_eq_reject_iff, List.mem_flatten]
    exact exists_congr fun group =>
      and_congr_right fun member => and_iff_right (none group member)
  have allEmpty : (∀ disposition ∈ (groups.map ofDispositions).map toDisposition,
      disposition = .empty) ↔ ∀ disposition ∈ groups.flatten, disposition = .empty := by
    simp only [List.mem_map, forall_exists_index, and_imp, forall_apply_eq_imp_iff₂,
      toDisposition_eq_empty_iff, ofDispositions_eq_empty_iff, List.mem_flatten]
    exact ⟨fun all disposition group inGroups member => all group inGroups disposition member,
      fun all group inGroups disposition member => all disposition group inGroups member⟩
  rw [combine, ofDispositions_eq, ofDispositions_eq]
  by_cases some : .accept ∈ groups.flatten
  · rw [if_pos some, if_pos (accepted.mpr some)]
  · rw [if_neg some, if_neg (mt accepted.mp some)]
    simp only [rejected some, allEmpty]

end Verdict

namespace Shape

theorem eq_of_block_iff {first second : Shape} (same : first = .block ↔ second = .block) :
    first = second := by
  cases first <;> cases second <;> simp_all

theorem combine_eq_block_iff {shapes : List Shape} :
    combine shapes = .block ↔ .block ∈ shapes := by
  simp [combine]

theorem combine_congr {first second : List Shape}
    (same : ∀ shape, shape ∈ first ↔ shape ∈ second) : combine first = combine second := by
  apply eq_of_block_iff
  rw [combine_eq_block_iff, combine_eq_block_iff, same]

theorem combine_map_combine (groups : List (List Shape)) :
    combine (groups.map combine) = combine groups.flatten := by
  apply eq_of_block_iff
  simp only [combine_eq_block_iff, List.mem_map, List.mem_flatten]

end Shape

theorem total_map_total (groups : List (List Nat)) :
    total (groups.map total) = total groups.flatten := by
  simp only [funext total_eq_sum, List.sum_flatten]

/-- A record sums up decisions: it is accepted if any is, otherwise rejected if any is, otherwise
empty if all are, and it counts their suggestions and imports. -/
structure TriggerRecord.SumsUp (record : TriggerRecord) (decisions : List DecisionRecord) :
    Prop where
  verdict : record.verdict =
    if ∃ decision ∈ decisions, decision.disposition = .accept then .accept
    else if ∃ decision ∈ decisions, decision.disposition = .reject then .reject
    else if ∀ decision ∈ decisions, decision.disposition = .empty then .empty
    else .discard
  shape : record.shape =
    if ∃ decision ∈ decisions, decision.shape = .block then .block else .line
  suggestionCount : record.suggestionCount = decisions.length
  importCount : record.importCount = (decisions.map (·.importCount)).sum

namespace TriggerRecord

/-- Summing up in terms of the combining functions. -/
theorem sumsUp_iff {record : TriggerRecord} {decisions : List DecisionRecord} :
    record.SumsUp decisions ↔
      record.verdict = .ofDispositions (decisions.map (·.disposition)) ∧
      record.shape = .combine (decisions.map (·.shape)) ∧
      record.suggestionCount = decisions.length ∧
      record.importCount = total (decisions.map (·.importCount)) := by
  have verdicts : Verdict.ofDispositions (decisions.map (·.disposition)) =
      if ∃ decision ∈ decisions, decision.disposition = .accept then .accept
      else if ∃ decision ∈ decisions, decision.disposition = .reject then .reject
      else if ∀ decision ∈ decisions, decision.disposition = .empty then .empty
      else .discard := by
    simp [Verdict.ofDispositions_eq]
  have shapes : Shape.combine (decisions.map (·.shape)) =
      if ∃ decision ∈ decisions, decision.shape = .block then .block else .line := by
    simp [Shape.combine]
  rw [verdicts, shapes, total_eq_sum]
  exact ⟨fun ⟨verdict, shape, count, imports⟩ => ⟨verdict, shape, count, imports⟩,
    fun ⟨verdict, shape, count, imports⟩ => ⟨verdict, shape, count, imports⟩⟩

/-- Records that sum up groups are combined by summing up all members. -/
theorem combine_of_forall₂_sumsUp {records : List TriggerRecord}
    {groups : List (List DecisionRecord)} (sumUp : List.Forall₂ SumsUp records groups) :
    Verdict.combine (records.map (·.verdict)) =
        .ofDispositions (groups.flatten.map (·.disposition)) ∧
      Shape.combine (records.map (·.shape)) = .combine (groups.flatten.map (·.shape)) ∧
      total (records.map (·.suggestionCount)) = groups.flatten.length ∧
      total (records.map (·.importCount)) = total (groups.flatten.map (·.importCount)) := by
  have field {α β : Type} (get : TriggerRecord → α) (combine : List β → α)
      (member : DecisionRecord → β)
      (same : ∀ record group, record.SumsUp group → get record = combine (group.map member)) :
      records.map get = (groups.map (List.map member)).map combine := by
    induction sumUp with
    | nil => rfl
    | cons first _ induction => simp [same _ _ first, induction]
  refine ⟨?_, ?_, ?_, ?_⟩
  · rw [field (·.verdict) .ofDispositions (·.disposition)
      fun _ _ sums => (sumsUp_iff.mp sums).1, Verdict.combine_map_ofDispositions, List.map_flatten]
  · rw [field (·.shape) .combine (·.shape) fun _ _ sums => (sumsUp_iff.mp sums).2.1,
      Shape.combine_map_combine, List.map_flatten]
  · rw [field (·.suggestionCount) List.length id fun _ _ sums => by simp [sums.suggestionCount],
      total_eq_sum]
    simp [List.length_flatten]
  · rw [field (·.importCount) total (·.importCount) fun _ _ sums => (sumsUp_iff.mp sums).2.2.2,
      total_map_total, List.map_flatten]

end TriggerRecord

/-- A summary that is the same for rearranged members and for members of which some are repeated. -/
structure IsUnordered {Member Summary : Type} (summary : List Member → Summary) : Prop where
  perm {first second : List Member} (rearranged : first.Perm second) :
    summary first = summary second
  repeated {copies members : List Member} (copied : copies ⊆ members) :
    summary (copies ++ members) = summary members

theorem IsUnordered.of_congr {Member Summary : Type} {summary : List Member → Summary}
    (congr : ∀ {first second : List Member}, (∀ member, member ∈ first ↔ member ∈ second) →
      summary first = summary second) : IsUnordered summary where
  perm rearranged := congr fun _ => rearranged.mem_iff
  repeated copied := congr fun _ => by rw [List.mem_append, or_iff_right_of_imp (copied ·)]

/-- However dispositions are split into groups, the verdict on the verdicts of the groups is the verdict
on all dispositions.  Reading them may stop at the first accepted one.  Verdicts, also those on
verdicts, and shapes do not depend on the order or the repetition of what they sum up. -/
theorem summaries_ignore_grouping_and_order :
    (∀ (dispositions : List Disposition) (groups : List (List Disposition)),
      groups.flatten = dispositions →
        Verdict.combine (groups.map .ofDispositions) = .ofDispositions dispositions) ∧
    (∀ dispositions : List Disposition,
      Verdict.Progress.start.readUntilAccepted dispositions = .ofDispositions dispositions ∧
      Verdict.Progress.start.readAll dispositions = .ofDispositions dispositions) ∧
    IsUnordered Verdict.ofDispositions ∧ IsUnordered Verdict.combine ∧
      IsUnordered Shape.combine := by
  refine ⟨?_, fun dispositions => ⟨rfl, (Verdict.ofDispositions_eq_readAll dispositions).symm⟩,
    .of_congr Verdict.ofDispositions_congr, .of_congr Verdict.combine_congr,
    .of_congr Shape.combine_congr⟩
  rintro dispositions groups rfl
  exact Verdict.combine_map_ofDispositions groups

/-- Among the groups a mixed one counts as discarded, and one without members as empty. -/
theorem mixed_groups_discarded :
    let groups : List (List Disposition) := [[.ignore, .empty], [], [.unseen]]
    let dispositions : List Disposition := [.ignore, .empty, .unseen]
    groups.flatten = dispositions ∧
      groups.map Verdict.ofDispositions = [.discard, .empty, .discard] ∧
      Verdict.combine (groups.map .ofDispositions) = .ofDispositions dispositions ∧
      Verdict.ofDispositions [.unseen, .empty, .unseen, .ignore] = .ofDispositions dispositions ∧
      Verdict.ofDispositions dispositions = .discard := by
  intro groups dispositions
  have split : groups.flatten = dispositions := by decide
  obtain ⟨regrouped, -, unordered, -, -⟩ := summaries_ignore_grouping_and_order
  have rearranged : Verdict.ofDispositions [.unseen, .empty, .unseen, .ignore] =
      .ofDispositions dispositions :=
    calc
      Verdict.ofDispositions [.unseen, .empty, .unseen, .ignore]
        = .ofDispositions ([.unseen] ++ dispositions) := unordered.perm (by decide)
      _ = .ofDispositions dispositions := unordered.repeated (by simp [dispositions])
  exact ⟨split, by decide, regrouped dispositions groups split, rearranged, by decide⟩

end TriggerLedger
