import Mathlib.Data.List.Perm.Subperm
import TriggerLedger.Proofs.Json.Codecs
import TriggerLedger.Proofs.Session.Closing
/-!
# Licenses told

The record of a suggestion lists the license names of its references, each of them where
it comes first.  The list is a JSON text that reads back, whatever characters the names
have, and a batch that lists any license marks the session as one with references.
-/

namespace TriggerLedger

open Json

namespace Suggestion

variable {seen names : List String} {name : String} {suggestion : Suggestion}

theorem mem_firstSeen : name ∈ firstSeen seen names ↔ name ∈ names ∧ name ∉ seen := by
  induction names generalizing seen with
  | nil => simp [firstSeen]
  | cons head names induction =>
      rw [firstSeen]
      by_cases known : head ∈ seen
      · rw [if_pos known, induction, List.mem_cons]
        refine and_congr_left fun unseen => ⟨.inr, fun member => ?_⟩
        exact member.resolve_left fun same => unseen (same ▸ known)
      · rw [if_neg known, List.mem_cons, induction, List.mem_cons, List.mem_cons]
        by_cases same : name = head <;> simp [same, known]

/-- Names are kept in the order of their first appearance. -/
theorem pairwise_firstSeen (seen names : List String) :
    (firstSeen seen names).Pairwise fun first second =>
      names.idxOf first < names.idxOf second := by
  induction names generalizing seen with
  | nil => exact .nil
  | cons head names induction =>
      -- Whatever is kept of the rest differs from the head, so it comes one place later.
      have later {kept : List String} (headKnown : head ∈ kept) :
          (firstSeen kept names).Pairwise fun first second =>
            (head :: names).idxOf first < (head :: names).idxOf second := by
        refine (induction kept).imp_of_mem fun {first second} isFirst isSecond before => ?_
        have other {name : String} (member : name ∈ firstSeen kept names) : head ≠ name := by
          rintro rfl
          exact (mem_firstSeen.mp member).2 headKnown
        rw [List.idxOf_cons_ne _ (other isFirst), List.idxOf_cons_ne _ (other isSecond)]
        exact Nat.succ_lt_succ before
      rw [firstSeen]
      by_cases known : head ∈ seen
      · rw [if_pos known]
        exact later known
      · rw [if_neg known]
        refine List.pairwise_cons.mpr ⟨fun name member => ?_, later List.mem_cons_self⟩
        have other : head ≠ name := by
          rintro rfl
          exact (mem_firstSeen.mp member).2 List.mem_cons_self
        rw [List.idxOf_cons_self, List.idxOf_cons_ne _ other]
        exact Nat.succ_pos _

/-- The license names of the references, as often as they come. -/
def licenseNames (suggestion : Suggestion) : List String :=
  suggestion.references.filterMap (·.license)

theorem licenses_eq (suggestion : Suggestion) :
    suggestion.licenses = firstSeen [] suggestion.licenseNames :=
  rfl

theorem mem_licenses : name ∈ suggestion.licenses ↔ name ∈ suggestion.licenseNames := by
  rw [licenses_eq, mem_firstSeen, and_iff_left List.not_mem_nil]

theorem pairwise_licenses (suggestion : Suggestion) :
    suggestion.licenses.Pairwise fun first second =>
      suggestion.licenseNames.idxOf first < suggestion.licenseNames.idxOf second :=
  pairwise_firstSeen [] suggestion.licenseNames

theorem nodup_licenses (suggestion : Suggestion) : suggestion.licenses.Nodup := by
  refine suggestion.pairwise_licenses.imp fun {first second} before => ?_
  rintro rfl
  exact Nat.lt_irrefl _ before

/-- There are no more names than references. -/
theorem length_licenses_le (suggestion : Suggestion) :
    suggestion.licenses.length ≤ suggestion.references.length :=
  calc
    suggestion.licenses.length ≤ suggestion.licenseNames.length :=
      (List.subperm_of_subset suggestion.nodup_licenses fun _ => mem_licenses.mp).length_le
    _ ≤ suggestion.references.length := List.length_filterMap_le _ _

theorem licenses_eq_nil_iff :
    suggestion.licenses = [] ↔ ∀ reference ∈ suggestion.references, reference.license = none := by
  rw [List.eq_nil_iff_forall_not_mem]
  simp only [mem_licenses, licenseNames, List.mem_filterMap, not_exists, not_and]
  constructor
  · intro none reference member
    exact Option.eq_none_iff_forall_ne_some.mpr fun name => none name reference member
  · intro none name reference member named
    rw [none reference member] at named
    cases named

end Suggestion

/-- The record of a suggestion tells the licenses of its references and counts the references. -/
structure DecisionRecord.TellsLicenses (record : DecisionRecord) (suggestion : Suggestion) :
    Prop where
  count : record.referenceCount = suggestion.references.length
  absent : record.licenses = none ↔
    ∀ reference ∈ suggestion.references, reference.license = none
  present : ∀ text ∈ record.licenses, ∃ names : List String,
    Codec.string.list.decode.run text = .ok names ∧
    names.Nodup ∧
    (∀ name, name ∈ names ↔
      ∃ reference ∈ suggestion.references, reference.license = some name) ∧
    (names.Pairwise fun first second =>
      suggestion.licenseNames.idxOf first < suggestion.licenseNames.idxOf second) ∧
    names.length ≤ record.referenceCount

namespace Session

variable {settings : Settings} {now : Instant} {session : Session} {batch : DecisionBatch}

theorem licenseText_eq (suggestion : Suggestion) :
    licenseText suggestion =
      if suggestion.licenses = [] then none
      else some (Codec.string.list.encode suggestion.licenses).compact := by
  rw [licenseText]
  cases suggestion.licenses <;> rfl

theorem run_licenseText {suggestion : Suggestion} {text : String}
    (told : licenseText suggestion = some text) :
    Codec.string.list.decode.run text = .ok suggestion.licenses := by
  rw [licenseText_eq] at told
  split at told
  case isTrue => cases told
  case isFalse =>
    obtain rfl := Option.some.inj told
    have readsBack : Codec.string.list.ReadsBack 1 suggestion.licenses :=
      .list fun name _ => .string name
    exact readsBack.run_compact (by decide)

theorem tellsLicenses_decisionRecord (settings : Settings) (session : Session)
    (batch : DecisionBatch) (index : Nat) (suggestion : Suggestion) :
    (session.decisionRecord settings batch index suggestion).TellsLicenses suggestion where
  count := rfl
  absent := by
    rw [← Suggestion.licenses_eq_nil_iff]
    change licenseText suggestion = none ↔ _
    rw [licenseText_eq]
    split <;> simp_all
  present text told :=
    ⟨suggestion.licenses, run_licenseText told, suggestion.nodup_licenses,
      fun name => by rw [Suggestion.mem_licenses, Suggestion.licenseNames, List.mem_filterMap],
      suggestion.pairwise_licenses, suggestion.length_licenses_le⟩

theorem forall₂_tellsLicenses (settings : Settings) (session : Session) (batch : DecisionBatch) :
    List.Forall₂ DecisionRecord.TellsLicenses (session.decisionRecords settings batch)
      batch.suggestions := by
  have entries : List.Forall₂ DecisionRecord.TellsLicenses
      (session.decisionRecords settings batch) (batch.suggestions.zipIdx.map Prod.fst) := by
    rw [decisionRecords, List.forall₂_map_left_iff, List.forall₂_map_right_iff, List.forall₂_same]
    exact fun entry _ => tellsLicenses_decisionRecord settings session batch entry.2 entry.1
  rwa [List.zipIdx_map_fst] at entries

/-- A suggestion with a license has a reference. -/
theorem hasReferences_of_licenses {record : DecisionRecord}
    (member : record ∈ session.decisionRecords settings batch) (told : record.licenses ≠ none) :
    (session.gather settings batch).hasReferences = true := by
  obtain ⟨⟨suggestion, index⟩, isEntry, rfl⟩ := List.mem_map.mp member
  have tells := tellsLicenses_decisionRecord settings session batch index suggestion
  have counted :
      (session.decisionRecord settings batch index suggestion).referenceCount ≠ 0 := by
    rw [tells.count, ne_eq, List.length_eq_zero_iff]
    intro nothing
    exact told (tells.absent.mpr (by simp [nothing]))
  have some : DecisionRecord.anyReferences (session.decisionRecords settings batch) = true :=
    List.any_eq_true.mpr ⟨_, member, bne_iff_ne.mpr counted⟩
  simp [gather, some]

/-- Every suggestion of a batch has a record that tells the licenses of its references in the order of
their first appearance, as a JSON list that reads back.  A batch for which any are told marks the
session: the mark is kept, or the endpoint is told of it if the batch closes the session. -/
theorem licenses_told_by_first_appearance (settings : Settings) (now : Instant)
    (batch : DecisionBatch) (session : Session) :
    let outcome := session.recordDecisions settings now batch
    let records := outcome.events.filterMap Event.decision?
    List.Forall₂ DecisionRecord.TellsLicenses records batch.suggestions ∧
    ((∃ record ∈ records, record.licenses ≠ none) →
      (session.gather settings batch).hasReferences = true ∧
      (outcome.rollup = none → outcome.session.hasReferences = true) ∧
      (outcome.rollup ≠ none → ∃ report, outcome.requests = [.trigger report] ∧
        report.referenceCount = 1)) := by
  intro outcome records
  have own : records = session.decisionRecords settings batch :=
    filterMap_decision?_recordDecisions
  rw [own]
  refine ⟨forall₂_tellsLicenses settings session batch, ?_⟩
  rintro ⟨record, member, told⟩
  have marked := hasReferences_of_licenses member told
  have rollup : outcome.rollup.map (·.record) = session.completedRecord? settings now batch :=
    recordDecisions_rollup
  refine ⟨marked, fun unclosed => ?_, fun closed => ?_⟩
  · rw [unclosed, Option.map_none] at rollup
    have kept : outcome.session = session.gather settings batch := by
      rw [recordDecisions_session, ← rollup]
    rw [kept, marked]
  · obtain ⟨closing, isClosing⟩ := Option.ne_none_iff_exists'.mp closed
    rw [isClosing, Option.map_some] at rollup
    have requests : outcome.requests = (session.completedRecord? settings now batch).toList.map _ :=
      recordDecisions_requests
    rw [← rollup] at requests
    exact ⟨_, requests, by simp [closingReport, triggerReport, marked]⟩

/-- A name with quotes, a backslash and a line feed between two references to one license. -/
theorem awkward_license_marks_session :
    let references : List CodeReference :=
      [⟨some "MIT", none⟩, ⟨none, some "lib"⟩, ⟨some "\"B\\\n\"", none⟩, ⟨some "MIT", none⟩]
    let batch : DecisionBatch :=
      ⟨"r", "s", [⟨"x", references, []⟩], none, none, 0, .empty, none, none⟩
    let outcome := initial.recordDecisions ⟨"Control", true, .ofSeconds 120⟩ ⟨0⟩ batch
    let records := outcome.events.filterMap Event.decision?
    records.map (·.licenses) = [some "[\"MIT\",\"\\\"B\\\\\\n\\\"\"]"] ∧
      records.map (·.referenceCount) = [4] ∧ outcome.session.hasReferences = true := by
  intro references batch outcome records
  have texts : records.map (·.licenses) = [some "[\"MIT\",\"\\\"B\\\\\\n\\\"\"]"] := by
    decide +kernel
  have told : ∃ record ∈ records, record.licenses ≠ none := by decide +kernel
  have unclosed : outcome.rollup = none := by decide +kernel
  obtain ⟨-, marked⟩ := licenses_told_by_first_appearance ⟨"Control", true, .ofSeconds 120⟩ ⟨0⟩
    batch initial
  exact ⟨texts, by decide +kernel, (marked told).2.1 unclosed⟩

end Session
end TriggerLedger
