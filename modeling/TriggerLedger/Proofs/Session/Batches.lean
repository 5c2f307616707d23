import Mathlib.Data.List.Induction
import Mathlib.Data.List.Nodup
import TriggerLedger.Proofs.Session.Closing
import TriggerLedger.Proofs.Suggestion.Dispositions
/-!
# Batches judged

Each suggestion of a batch is recorded once, in order, and what becomes of it and of
the batch follows from what was accepted and from which suggestions count as shown.
What is told of suggestions that the batch does not have makes no difference.
-/

namespace TriggerLedger

namespace DecisionBatch

/-- A suggestion of a batch counts as shown if nothing is told of displays, or if it has content and
was showed. -/
def Shows (batch : DecisionBatch) (index : Nat) : Prop :=
  ∃ suggestion, batch.suggestions[index]? = some suggestion ∧
    ∀ displays ∈ batch.displays, suggestion.content ≠ "" ∧ displays.get? index = some .showed

/-- Displays are told of a batch, and every suggestion has no content or was displayed as empty. -/
def IsBlank (batch : DecisionBatch) : Prop :=
  ∃ displays ∈ batch.displays, ∀ index suggestion, batch.suggestions[index]? = some suggestion →
    suggestion.content = "" ∨ displays.get? index = some .empty

/-- The verdict on a batch: accepted if the accepted suggestion was shown, rejected if nothing was
accepted although something was shown, empty if it is blank, and discarded in every other case. -/
structure Deserves (batch : DecisionBatch) (verdict : Verdict) : Prop where
  accept : verdict = .accept ↔ ∃ index ∈ batch.accepted, batch.Shows index
  reject : verdict = .reject ↔ batch.accepted = none ∧ ∃ index, batch.Shows index
  empty : verdict = .empty ↔ batch.IsBlank
  discard : verdict = .discard ↔ ¬ (∃ index ∈ batch.accepted, batch.Shows index) ∧
    ¬ (batch.accepted = none ∧ ∃ index, batch.Shows index) ∧ ¬ batch.IsBlank

end DecisionBatch

/-- Values that are the same at every index below a bound. -/
def ByIndex.AgreeBelow {α : Type} (bound : Nat) (first second : ByIndex α) : Prop :=
  ∀ index < bound, first.get? index = second.get? index

namespace Session

variable {settings : Settings} {now : Instant} {session : Session} {batch : DecisionBatch}
  {index : Nat} {suggestion : Suggestion}

/-- Displays after a suggestion without content at an index has been noted as empty. -/
def noteBlank (displays : ByIndex Display) (entry : Suggestion × Nat) : ByIndex Display :=
  if entry.1.content.isEmpty then displays.insert entry.2 .empty else displays

theorem get?_noteBlank (displays : ByIndex Display) (entry : Suggestion × Nat) (index : Nat) :
    (noteBlank displays entry).get? index =
      if entry.1.content = "" ∧ index = entry.2 then some .empty else displays.get? index := by
  rw [noteBlank]
  by_cases blank : entry.1.content = ""
  · by_cases here : index = entry.2
    · simp [blank, here, ByIndex.get?_insert_self]
    · simp [blank, here, ByIndex.get?_insert_of_ne]
  · simp [blank]

theorem get?_foldl_noteBlank (suggestions : List Suggestion) (displays : ByIndex Display)
    (index : Nat) :
    (suggestions.zipIdx.foldl noteBlank displays).get? index =
      if ∃ suggestion, suggestions[index]? = some suggestion ∧ suggestion.content = "" then
        some .empty
      else displays.get? index := by
  induction suggestions using List.reverseRecOn with
  | nil => simp
  | append_singleton suggestions last induction =>
      rw [List.zipIdx_append, List.foldl_append, List.zipIdx_singleton, List.foldl_cons,
        List.foldl_nil, get?_noteBlank, induction, Nat.zero_add]
      by_cases here : index = suggestions.length
      · simp [here]
      · have others : (suggestions ++ [last])[index]? = suggestions[index]? := by
          rcases Nat.lt_or_gt_of_ne here with before | beyond
          · exact List.getElem?_append_left before
          · rw [List.getElem?_eq_none (Nat.le_of_lt beyond), List.getElem?_eq_none]
            rw [List.length_append, List.length_singleton]
            exact beyond
        simp [here, others]

theorem effectiveDisplays_eq (batch : DecisionBatch) :
    effectiveDisplays batch =
      batch.displays.map fun displays => batch.suggestions.zipIdx.foldl noteBlank displays :=
  rfl

/-- The suggestions that were effectively showed are those that count as shown. -/
theorem forall_showed_iff (found : batch.suggestions[index]? = some suggestion) :
    (∀ table ∈ effectiveDisplays batch, table.get? index = some .showed) ↔ batch.Shows index := by
  rw [effectiveDisplays_eq]
  cases told : batch.displays with
  | none => simp [DecisionBatch.Shows, found, told]
  | some displays =>
      simp only [Option.map_some, Option.mem_some_iff, forall_eq', get?_foldl_noteBlank,
        DecisionBatch.Shows, found, told]
      by_cases blank : suggestion.content = "" <;> simp [blank]

theorem exists_empty_iff (found : batch.suggestions[index]? = some suggestion) :
    (∃ table ∈ effectiveDisplays batch, table.get? index = some .empty) ↔
      ∃ displays ∈ batch.displays,
        suggestion.content = "" ∨ displays.get? index = some .empty := by
  rw [effectiveDisplays_eq]
  cases told : batch.displays with
  | none => simp
  | some displays =>
      simp only [Option.map_some, Option.mem_some_iff, exists_eq_left', get?_foldl_noteBlank, found]
      by_cases blank : suggestion.content = "" <;> simp [blank]

theorem map_index_decisionRecords :
    (session.decisionRecords settings batch).map (·.index) =
      (List.range batch.suggestions.length).map some := by
  have positions : batch.suggestions.zipIdx.map Prod.snd = List.range batch.suggestions.length := by
    rw [List.zipIdx_map_snd, List.range_eq_range']
  rw [← positions, decisionRecords, List.map_map, List.map_map]
  rfl

/-- The record of a suggestion tells what became of it. -/
theorem mem_decisionRecords {record : DecisionRecord}
    (member : record ∈ session.decisionRecords settings batch) :
    ∃ index suggestion, batch.suggestions[index]? = some suggestion ∧ record.index = some index ∧
      record.disposition = .ofReport index batch.accepted (effectiveDisplays batch) := by
  obtain ⟨⟨suggestion, index⟩, isEntry, rfl⟩ := List.mem_map.mp member
  exact ⟨index, suggestion, List.mem_zipIdx_iff_getElem?.mp isEntry, rfl, rfl⟩

theorem exists_decisionRecord (found : batch.suggestions[index]? = some suggestion) :
    ∃ record ∈ session.decisionRecords settings batch, record.index = some index ∧
      record.disposition = .ofReport index batch.accepted (effectiveDisplays batch) :=
  ⟨session.decisionRecord settings batch index suggestion,
    List.mem_map.mpr ⟨(suggestion, index), List.mem_zipIdx_iff_getElem?.mpr found, rfl⟩, rfl, rfl⟩

theorem disposition_eq_accept_iff {record : DecisionRecord}
    (member : record ∈ session.decisionRecords settings batch) :
    record.disposition = .accept ↔
      ∃ index, record.index = some index ∧ batch.accepted = some index ∧ batch.Shows index := by
  obtain ⟨index, suggestion, found, position, disposition⟩ := mem_decisionRecords member
  rw [disposition, Disposition.ofReport_eq_accept_iff, forall_showed_iff found, position]
  simp

theorem disposition_eq_reject_iff {record : DecisionRecord}
    (member : record ∈ session.decisionRecords settings batch) :
    record.disposition = .reject ↔
      ∃ index, record.index = some index ∧ batch.accepted = none ∧ batch.Shows index := by
  obtain ⟨index, suggestion, found, position, disposition⟩ := mem_decisionRecords member
  rw [disposition, Disposition.ofReport_eq_reject_iff, forall_showed_iff found, position]
  simp

/-- At most one record of a batch is accepted, since all have different indices. -/
theorem length_accepted_le_one :
    ((session.decisionRecords settings batch).filter (·.disposition = .accept)).length ≤ 1 := by
  have indices : (((session.decisionRecords settings batch).filter
      (·.disposition = .accept)).map (·.index)).Nodup := by
    have all : ((session.decisionRecords settings batch).map (·.index)).Nodup := by
      rw [map_index_decisionRecords]
      exact List.Nodup.map (Option.some_injective Nat) List.nodup_range
    exact all.sublist (List.filter_sublist.map _)
  have same : ∀ position ∈ ((session.decisionRecords settings batch).filter
      (·.disposition = .accept)).map (·.index), position = batch.accepted := by
    intro position isPosition
    obtain ⟨record, chosen, rfl⟩ := List.mem_map.mp isPosition
    obtain ⟨member, isAccept⟩ := List.mem_filter.mp chosen
    obtain ⟨index, position, accepted, -⟩ :=
      (disposition_eq_accept_iff member).mp (of_decide_eq_true isAccept)
    rw [position, accepted]
  rw [List.eq_replicate_of_mem same, List.nodup_replicate, List.length_map] at indices
  exact indices

theorem disposition_eq_empty_iff {record : DecisionRecord}
    (found : batch.suggestions[index]? = some suggestion)
    (disposition : record.disposition = .ofReport index batch.accepted (effectiveDisplays batch)) :
    record.disposition = .empty ↔
      ∃ displays ∈ batch.displays, suggestion.content = "" ∨ displays.get? index = some .empty := by
  rw [disposition, Disposition.ofReport_eq_empty_iff, exists_empty_iff found]

/-- The verdict on the records of a batch. -/
def recordsVerdict (settings : Settings) (batch : DecisionBatch) (session : Session) : Verdict :=
  .ofDispositions ((session.decisionRecords settings batch).map (·.disposition))

theorem recordsVerdict_eq_accept_iff :
    session.recordsVerdict settings batch = .accept ↔
      ∃ index ∈ batch.accepted, batch.Shows index := by
  rw [recordsVerdict, Verdict.ofDispositions_eq_accept_iff, List.mem_map]
  constructor
  · rintro ⟨record, member, isAccept⟩
    obtain ⟨index, -, accepted, shown⟩ := (disposition_eq_accept_iff member).mp isAccept
    exact ⟨index, accepted, shown⟩
  · rintro ⟨index, accepted, shown⟩
    obtain ⟨suggestion, found, -⟩ := id shown
    obtain ⟨record, member, position, -⟩ := exists_decisionRecord found
    exact ⟨record, member,
      (disposition_eq_accept_iff member).mpr ⟨index, position, accepted, shown⟩⟩

theorem recordsVerdict_eq_reject_iff :
    session.recordsVerdict settings batch = .reject ↔
      batch.accepted = none ∧ ∃ index, batch.Shows index := by
  rw [recordsVerdict, Verdict.ofDispositions_eq_reject_iff, List.mem_map, List.mem_map]
  constructor
  · rintro ⟨-, record, member, isReject⟩
    obtain ⟨index, -, nothing, shown⟩ := (disposition_eq_reject_iff member).mp isReject
    exact ⟨nothing, index, shown⟩
  · rintro ⟨nothing, index, shown⟩
    constructor
    · rintro ⟨record, member, isAccept⟩
      obtain ⟨chosen, -, accepted, -⟩ := (disposition_eq_accept_iff member).mp isAccept
      rw [nothing] at accepted
      cases accepted
    · obtain ⟨suggestion, found, -⟩ := id shown
      obtain ⟨record, member, position, -⟩ := exists_decisionRecord found
      exact ⟨record, member,
        (disposition_eq_reject_iff member).mpr ⟨index, position, nothing, shown⟩⟩

theorem recordsVerdict_eq_empty_iff (some : batch.suggestions ≠ []) :
    session.recordsVerdict settings batch = .empty ↔ batch.IsBlank := by
  rw [recordsVerdict, Verdict.ofDispositions_eq_empty_iff]
  simp only [List.mem_map, forall_exists_index, and_imp, forall_apply_eq_imp_iff₂]
  constructor
  · intro allEmpty
    have blank (index : Nat) (suggestion : Suggestion)
        (found : batch.suggestions[index]? = .some suggestion) :
        ∃ displays ∈ batch.displays,
          suggestion.content = "" ∨ displays.get? index = .some .empty := by
      obtain ⟨record, member, -, disposition⟩ := exists_decisionRecord found
      exact (disposition_eq_empty_iff found disposition).mp (allEmpty record member)
    -- Displays were told of the batch, since its first suggestion is empty.
    obtain ⟨first, rest, isFirst⟩ := List.exists_cons_of_ne_nil some
    obtain ⟨displays, told, -⟩ := blank 0 first (by rw [isFirst, List.getElem?_cons_zero])
    refine ⟨displays, told, fun index suggestion found => ?_⟩
    obtain ⟨others, alsoTold, isBlank⟩ := blank index suggestion found
    obtain rfl := Option.mem_unique told alsoTold
    exact isBlank
  · rintro ⟨displays, told, blank⟩ record member
    obtain ⟨index, suggestion, found, -, disposition⟩ := mem_decisionRecords member
    exact (disposition_eq_empty_iff found disposition).mpr
      ⟨displays, told, blank index suggestion found⟩

/-- The verdict on the records of a batch, if there are any, is the one that the batch deserves. -/
theorem deserves_recordsVerdict (some : batch.suggestions ≠ []) :
    batch.Deserves (session.recordsVerdict settings batch) where
  accept := recordsVerdict_eq_accept_iff
  reject := recordsVerdict_eq_reject_iff
  empty := recordsVerdict_eq_empty_iff some
  discard := by
    have accept : session.recordsVerdict settings batch = .accept ↔ _ := recordsVerdict_eq_accept_iff
    have reject : session.recordsVerdict settings batch = .reject ↔ _ := recordsVerdict_eq_reject_iff
    have empty : session.recordsVerdict settings batch = .empty ↔ _ :=
      recordsVerdict_eq_empty_iff some
    rw [← accept, ← reject, ← empty]
    cases session.recordsVerdict settings batch <;> simp

/-- Displays told of suggestions that a batch does not have change none of its records. -/
theorem decisionRecords_congr {shapes : ByIndex Shape} {displays : Option (ByIndex Display)}
    (sameShapes : shapes.AgreeBelow batch.suggestions.length batch.shapes)
    (told : displays.isSome = batch.displays.isSome)
    (sameDisplays : ∀ table ∈ displays, ∀ other ∈ batch.displays,
      table.AgreeBelow batch.suggestions.length other) :
    session.decisionRecords settings { batch with shapes, displays } =
      session.decisionRecords settings batch := by
  refine List.map_congr_left fun ⟨suggestion, index⟩ isEntry => ?_
  have found := List.mem_zipIdx_iff_getElem?.mp isEntry
  have within : index < batch.suggestions.length := (List.getElem?_eq_some_iff.mp found).1
  have shape : Shape.atIndex index shapes = Shape.atIndex index batch.shapes := by
    rw [Shape.atIndex, Shape.atIndex, sameShapes index within]
  have disposition :
      Disposition.ofReport index batch.accepted (effectiveDisplays { batch with shapes, displays }) =
        .ofReport index batch.accepted (effectiveDisplays batch) := by
    rw [effectiveDisplays_eq, effectiveDisplays_eq]
    refine Disposition.ofReport_congr (by simpa using told) ?_
    intro noted isNoted otherNoted isOther
    obtain ⟨table, isTable, rfl⟩ := Option.map_eq_some_iff.mp isNoted
    obtain ⟨other, isOld, rfl⟩ := Option.map_eq_some_iff.mp isOther
    rw [get?_foldl_noteBlank, get?_foldl_noteBlank, sameDisplays table isTable other isOld index within]
  simp only [decisionRecord, shape, disposition]

theorem recordDecisions_congr {shapes : ByIndex Shape} {displays : Option (ByIndex Display)}
    (same : session.decisionRecords settings { batch with shapes, displays } =
      session.decisionRecords settings batch) :
    session.recordDecisions settings now { batch with shapes, displays } =
      session.recordDecisions settings now batch := by
  simp only [recordDecisions, gather, same]
  rfl

/-- The verdict on a session that a batch closes combines those on its requests. -/
theorem verdict_of_completedRecord? {record : TriggerRecord}
    (completed : session.completedRecord? settings now batch = some record) :
    record.verdict = .combine ((session.gather settings batch).decisions.map (·.verdict)) := by
  rw [completedRecord?] at completed
  split at completed
  case isTrue =>
    obtain ⟨first, -, rfl⟩ := Option.map_eq_some_iff.mp completed
    rfl
  case isFalse => cases completed

/-- What recording a batch hands out and gathers: a record for each suggestion, then the record of
the session if the batch closes it. -/
structure JudgesBatch (session : Session) (batch : DecisionBatch) (outcome : Outcome) : Prop where
  records : ∃ records : List DecisionRecord,
    outcome.events = records.map .decision ++
      (outcome.rollup.map fun rollup => Event.trigger rollup.record).toList ∧
    records.map (·.index) = (List.range batch.suggestions.length).map some ∧
    (∀ record ∈ records, record.disposition = .accept ↔
      ∃ index, record.index = some index ∧ batch.accepted = some index ∧ batch.Shows index) ∧
    (records.filter (·.disposition = .accept)).length ≤ 1 ∧
    ((∃ record ∈ records, record.disposition = .accept) →
      ∀ record ∈ records, record.disposition ≠ .reject)
  aggregate : ∃ aggregate : Option TriggerRecord,
    (aggregate.isSome = true ↔
      batch.suggestions ≠ [] ∧ batch.requestId ∈ session.invocations.filterMap (·.requestId)) ∧
    (∀ record ∈ aggregate, batch.Deserves record.verdict) ∧
    (outcome.rollup = none →
      outcome.session.decisions = session.decisions ++ aggregate.toList) ∧
    ∀ rollup ∈ outcome.rollup, rollup.record.verdict =
      .combine ((session.decisions ++ aggregate.toList).map (·.verdict))

/-- A batch is recorded suggestion by suggestion.  It is accepted, rejected, empty or discarded by
what was accepted and shown, and what is told of indices beyond its suggestions has no effect. -/
theorem batch_judged_by_what_was_shown (settings : Settings) (now : Instant) (batch : DecisionBatch)
    (session : Session) :
    let outcome := session.recordDecisions settings now batch
    JudgesBatch session batch outcome ∧
    ∀ shapes displays, shapes.AgreeBelow batch.suggestions.length batch.shapes →
      displays.isSome = batch.displays.isSome →
      (∀ table ∈ displays, ∀ other ∈ batch.displays,
        table.AgreeBelow batch.suggestions.length other) →
      session.recordDecisions settings now { batch with shapes, displays } = outcome := by
  intro outcome
  refine ⟨⟨?_, ?_⟩, fun shapes displays sameShapes told sameDisplays =>
    recordDecisions_congr (decisionRecords_congr sameShapes told sameDisplays)⟩
  · refine ⟨session.decisionRecords settings batch, ?_, map_index_decisionRecords,
      fun record member => disposition_eq_accept_iff member, length_accepted_le_one, ?_⟩
    · rw [recordDecisions_events, ← recordDecisions_rollup, Option.toList_map, Option.toList_map,
        List.map_map]
      rfl
    · rintro ⟨accepted, isAccepted, isAccept⟩ record member isReject
      obtain ⟨chosen, -, some, -⟩ := (disposition_eq_accept_iff isAccepted).mp isAccept
      obtain ⟨-, -, nothing, -⟩ := (disposition_eq_reject_iff member).mp isReject
      rw [some] at nothing
      cases nothing
  · refine ⟨session.requestRecord? settings batch (session.decisionRecords settings batch),
      requestRecord?_isSome_iff, ?_, ?_, ?_⟩
    · intro record found
      have some : batch.suggestions ≠ [] :=
        (requestRecord?_isSome_iff.mp (Option.isSome_of_mem found)).1
      rw [(TriggerRecord.sumsUp_iff.mp (sumsUp_of_requestRecord? found)).1]
      exact deserves_recordsVerdict some
    · intro unclosed
      have incomplete : session.completedRecord? settings now batch = none := by
        rw [← recordDecisions_rollup, unclosed, Option.map_none]
      rw [recordDecisions_session, incomplete, gather_decisions]
    · intro rollup closed
      rw [← gather_decisions]
      have completed : session.completedRecord? settings now batch = some rollup.record := by
        rw [← recordDecisions_rollup, closed, Option.map_some]
      exact verdict_of_completedRecord? completed

end Session
end TriggerLedger
