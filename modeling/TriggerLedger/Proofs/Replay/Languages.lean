import TriggerLedger.Proofs.Replay.Reports
/-!
# Languages of what is handed out

All records name languages canonically, and so do the requests about closed
sessions.  A request about a code scan passes on the name that it was given.
-/

namespace TriggerLedger

namespace Language

/-- A name of a language that stands for itself. -/
def IsCanonical (name : String) : Prop := canonical (some name) = name

instance (name : String) : Decidable (IsCanonical name) :=
  inferInstanceAs (Decidable (canonical (some name) = name))

/-- What names are mapped to is mapped to itself. -/
theorem isCanonical_canonical (editorName : Option String) :
    IsCanonical (canonical editorName) := by
  have table : ∀ entry ∈ canonicalNames, IsCanonical entry.2 := by decide +kernel
  have other : IsCanonical plaintext := by decide +kernel
  cases editorName with
  | none => exact other
  | some editorName =>
      rw [canonical]
      cases found : canonicalNames.lookup (normalized editorName) with
      | none => exact other
      | some name =>
          obtain ⟨before, after, split, -⟩ := List.lookup_eq_some_iff.mp found
          exact table (normalized editorName, name) (by simp [split])

end Language

open TriggerLedger.Language (IsCanonical)

def Event.language : Event → String
  | .invocation record => record.language
  | .decision record => record.language
  | .trigger record => record.language
  | .latency record => record.language

def Remote.Request.language : Remote.Request → String
  | .trigger report => report.language
  | .scan report => report.language

/-- The body of a request has a name as that of its language. -/
def Remote.Request.BodyNames (name : String) (request : Remote.Request) : Prop :=
  ∃ kind fields,
    request.encode = .object [("telemetryEvent", .object [(kind, .object fields)])] ∧
      fields.lookup "programmingLanguage" = some (.object [("languageName", .string name)])

theorem Remote.Request.bodyNames_language (request : Remote.Request) :
    request.BodyNames request.language := by
  cases request with
  | trigger report => exact ⟨_, _, rfl, rfl⟩
  | scan report => exact ⟨_, _, rfl, rfl⟩

namespace Session

variable {settings : Settings} {session : Session} {batch : DecisionBatch}

theorem isCanonical_decisionRecords :
    ∀ record ∈ session.decisionRecords settings batch, IsCanonical record.language := by
  intro record member
  obtain ⟨position, -, rfl⟩ := List.mem_map.mp member
  exact Language.isCanonical_canonical batch.language

/-- The record of a batch takes over the language of its first suggestion. -/
theorem isCanonical_of_requestRecord? {record : TriggerRecord}
    (found : session.requestRecord? settings batch (session.decisionRecords settings batch) =
      some record) : IsCanonical record.language := by
  have canonical : ∀ record ∈ session.decisionRecords settings batch, IsCanonical record.language :=
    isCanonical_decisionRecords
  unfold requestRecord? at found
  split at found
  case h_1 first rest _ records =>
    obtain rfl := Option.some.inj found
    exact canonical first (by simp [records])
  case h_2 => cases found

theorem isCanonical_of_latencyRecord? {language : Option String} {record : LatencyRecord}
    (found : session.latencyRecord? settings language = some record) :
    IsCanonical record.language := by
  simp only [latencyRecord?] at found
  split at found
  case h_1 =>
    obtain rfl := Option.some.inj found
    exact Language.isCanonical_canonical language
  case h_2 => cases found

end Session

namespace Script

variable {settings : Settings}

namespace Replay

theorem isCanonical_ownEvents (settings : Settings) (step : Step) (replay : Replay) :
    ∀ event ∈ replay.ownEvents settings step, IsCanonical event.language := by
  intro event member
  cases step with
  | invocation report =>
      obtain rfl := List.mem_singleton.mp member
      exact Language.isCanonical_canonical (some report.language)
  | decisions batch =>
      obtain ⟨record, isRecord, rfl⟩ := List.mem_map.mp member
      exact Session.isCanonical_decisionRecords record isRecord
  | emptyList list =>
      obtain rfl := List.mem_singleton.mp member
      exact Language.isCanonical_canonical list.language
  | clientLatency language =>
      obtain ⟨record, found, rfl⟩ := List.mem_map.mp member
      exact Session.isCanonical_of_latencyRecord? (Option.mem_toList.mp found)
  | _ => cases member

/-- The records that a session has gathered name their languages canonically. -/
theorem isCanonical_gathered (settings : Settings) (clock : Instant) (steps : List Step)
    (step : Step) :
    ∀ record ∈ (((start clock).run settings steps).gathered settings step).decisions,
      IsCanonical record.language :=
  (forall_mem_decisions settings (IsCanonical ·.language)
    (fun _ _ _ found => Session.isCanonical_of_requestRecord? found) clock steps).2 step

/-- The record of a closed session takes over the language of its first request. -/
theorem isCanonical_of_rollup? {clock : Instant} {steps : List Step} {step : Step}
    {record : TriggerRecord}
    (found : ((start clock).run settings steps).rollup? settings step = some record) :
    IsCanonical record.language := by
  obtain ⟨first, isFirst, rfl⟩ := Option.map_eq_some_iff.mp (closingRecord?_of_rollup? found)
  exact isCanonical_gathered settings clock steps step first (List.mem_of_mem_head? isFirst)

theorem sessionReport?_of_mem_requests {replay : Replay} {step : Step}
    {report : Remote.TriggerReport}
    (member : .trigger report ∈ (replay.moment settings step).emission.requests) :
    replay.sessionReport? settings step = some report := by
  rw [moment_requests] at member
  simpa using member

theorem isCanonical_of_sessionReport? {clock : Instant} {steps : List Step} {step : Step}
    {report : Remote.TriggerReport}
    (found : ((start clock).run settings steps).sessionReport? settings step = some report) :
    IsCanonical report.language := by
  obtain ⟨closing, -, reported⟩ := Option.bind_eq_some_iff.mp found
  obtain ⟨record, closed, rfl⟩ := Option.map_eq_some_iff.mp reported
  exact isCanonical_of_rollup? closed

theorem isCanonical_applyAll (settings : Settings) (clock : Instant) (steps : List Step) :
    let emission := ((start clock).applyAll settings steps).2
    (∀ event ∈ emission.events, IsCanonical event.language) ∧
      ∀ report, .trigger report ∈ emission.requests → IsCanonical report.language := by
  induction steps using List.reverseRecOn with
  | nil =>
      exact ⟨fun _ member => absurd member List.not_mem_nil,
        fun _ member => absurd member List.not_mem_nil⟩
  | append_singleton steps step induction =>
      rw [applyAll_concat]
      refine ⟨fun event member => ?_, fun report member => ?_⟩
      · rcases List.mem_append.mp member with earlier | now
        · exact induction.1 event earlier
        rw [moment_events] at now
        rcases List.mem_append.mp now with own | closing
        · exact isCanonical_ownEvents settings step _ event own
        · obtain ⟨record, found, rfl⟩ := List.mem_map.mp closing
          exact isCanonical_of_rollup? (Option.mem_toList.mp found)
      · rcases List.mem_append.mp member with earlier | now
        · exact induction.2 report earlier
        exact isCanonical_of_sessionReport? (sessionReport?_of_mem_requests now)

/-- The requests about scans are those of the steps that report a scan. -/
theorem codeScan_mem_iff (settings : Settings) (clock : Instant) (steps : List Step)
    (scan : CodeScan) :
    .codeScan scan ∈ steps ↔
      ∃ report, .scan report ∈ ((start clock).applyAll settings steps).2.requests ∧
        CodeScan.mk report.language report.jobId = scan := by
  have given (step : Step) : step.codeScan? = some scan ↔ step = .codeScan scan := by
    cases step <;> simp [Step.codeScan?]
  have isScan (request : Remote.Request) (report : Remote.ScanReport) :
      request.scan? = some report ↔ request = .scan report := by
    cases request <;> simp [Remote.Request.scan?]
  have scans : ((((start clock).applyAll settings steps).2.requests.filterMap
      Remote.Request.scan?).map fun report => CodeScan.mk report.language report.jobId) =
      steps.filterMap Step.codeScan? := by
    rw [(applyAll_emission settings steps _).2, List.filterMap_flatMap]
    exact scans_history steps _
  have member : .codeScan scan ∈ steps ↔ scan ∈ steps.filterMap Step.codeScan? := by
    simp [given]
  rw [member, ← scans]
  simp [isScan]

end Replay

/-- Whatever a replay is given, the events that are offered to its sink name their languages
canonically.  So do the requests that are handed to its client, but for those about scans, which
name what the steps named: all requests do if and only if all steps that report a scan did. -/
theorem languages_canonical_iff_scans_canonical {σ γ : Type} (sink : Sink σ)
    (client : Remote.Client γ) (sinkState : σ) (clientState : γ) (settings : Settings)
    (clock : Instant) (steps : List Step)
    {final : Run (List Event × σ) (List Remote.Request × γ)} :
    let outlets : Outlets σ γ := ⟨sink, client, true⟩
    Run.Reaches outlets.listing settings (.start clock ([], sinkState) ([], clientState)) steps
        final →
    let handed := (final.settle outlets.listing).client.1
    (∀ event ∈ final.sink.1, IsCanonical event.language) ∧
    (∀ request ∈ handed, request.BodyNames request.language ∧
      (IsCanonical request.language ∨
        ∃ scan, .codeScan scan ∈ steps ∧ request.language = scan.language)) ∧
    ((∀ request ∈ handed, IsCanonical request.language) ↔
      ∀ scan, .codeScan scan ∈ steps → IsCanonical scan.language) := by
  intro outlets reaches handed
  let emission := ((Replay.start clock).applyAll settings steps).2
  have offered : final.sink.1 = emission.events :=
    (congrArg Prod.fst reaches.sink).trans
      (congrArg Prod.fst (Run.offer_listing sink [] _ sinkState))
  have sent (request : Remote.Request) : request ∈ handed ↔ request ∈ emission.requests :=
    reaches.settled.mem_iff
  obtain ⟨events, reports⟩ := Replay.isCanonical_applyAll settings clock steps
  have named : ∀ request ∈ handed, IsCanonical request.language ∨
      ∃ scan, .codeScan scan ∈ steps ∧ request.language = scan.language := by
    intro request member
    rw [sent] at member
    cases request with
    | trigger report => exact .inl (reports report member)
    | scan report =>
        exact .inr ⟨⟨report.language, report.jobId⟩,
          (Replay.codeScan_mem_iff settings clock steps _).mpr ⟨report, member, rfl⟩, rfl⟩
  refine ⟨offered ▸ events,
    fun request member => ⟨request.bodyNames_language, named request member⟩, ?_, ?_⟩
  · intro canonical scan given
    obtain ⟨report, member, rfl⟩ := (Replay.codeScan_mem_iff settings clock steps scan).mp given
    exact canonical (.scan report) ((sent _).mpr member)
  · intro canonical request member
    rcases named request member with already | ⟨scan, given, same⟩
    · exact already
    · rw [same]
      exact canonical scan given

/-- The name that an editor has for a language, in a record and in a request about a scan. -/
theorem record_and_scan_named :
    let outlets : Outlets Unit Unit := ⟨.refusing, .silent, true⟩
    let steps : List Step :=
      [.codeScan ⟨"go", "1"⟩, .emptyList ⟨"r", "s", 0, some " TypeScriptReact"⟩]
    let final := (Run.start ⟨0⟩ ([], ()) ([], ())).applyAll outlets.listing plainSettings steps
    let handed := (final.settle outlets.listing).client.1
    Run.Reaches outlets.listing plainSettings (.start ⟨0⟩ ([], ()) ([], ())) steps final ∧
      final.sink.1.map (·.language) = ["tsx"] ∧ handed.map (·.language) = ["go"] ∧
      (∀ event ∈ final.sink.1, IsCanonical event.language) ∧
      ∀ request ∈ handed, IsCanonical request.language := by
  intro outlets steps final handed
  have reaches := Run.reaches_applyAll outlets.listing plainSettings steps
    (.start ⟨0⟩ ([], ()) ([], ()))
  obtain ⟨events, -, all⟩ := languages_canonical_iff_scans_canonical .refusing .silent () ()
    plainSettings ⟨0⟩ steps reaches
  refine ⟨reaches, by decide +kernel, by decide +kernel, events, all.mpr ?_⟩
  intro scan given
  obtain rfl : scan = ⟨"go", "1"⟩ := by simpa [steps] using given
  decide +kernel

/-- A scan is reported under a name that is not canonical. -/
theorem scan_names_editor_language :
    let outlets : Outlets Unit (List Remote.Request) := ⟨.refusing, .recording none, true⟩
    let script := "\x7b\"code_scan\":\x7b\"language\":\"javascriptreact\",\"job_id\":\"j1\"\x7d\x7d"
    let final := ((Run.start ⟨0⟩ () []).runScript outlets plainSettings script).1.settle outlets
    final.client.map (·.language) = ["javascriptreact"] ∧
      Language.canonical (some "javascriptreact") = "jsx" ∧
      ¬∀ request ∈ final.client, IsCanonical request.language := by
  decide +kernel

end Script
end TriggerLedger
