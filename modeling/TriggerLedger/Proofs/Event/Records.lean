import TriggerLedger.Event.Codec
import TriggerLedger.Proofs.Json.Records
/-!
# Records of events read back

A record fits when each number has the width of its field.  Any record that fits
reads back apart from its two classifier values, which are read from their digits
and have to survive these.
-/

namespace TriggerLedger

open Json

theorem TriggerKind.codec_readsBack {depth : Nat} (kind : TriggerKind) :
    TriggerKind.codec.ReadsBack depth kind :=
  .choice (by cases kind <;> decide) (by decide)

theorem AutomaticCause.codec_readsBack {depth : Nat} (cause : AutomaticCause) :
    AutomaticCause.codec.ReadsBack depth cause :=
  .choice (by cases cause <;> decide) (by decide)

theorem RequestOutcome.codec_readsBack {depth : Nat} (outcome : RequestOutcome) :
    RequestOutcome.codec.ReadsBack depth outcome :=
  .choice (by cases outcome <;> decide) (by decide)

theorem Shape.codec_readsBack {depth : Nat} (shape : Shape) : Shape.codec.ReadsBack depth shape :=
  .choice (by cases shape <;> decide) (by decide)

theorem Disposition.codec_readsBack {depth : Nat} (disposition : Disposition) :
    Disposition.codec.ReadsBack depth disposition :=
  .choice (by cases disposition <;> decide) (by decide)

theorem Verdict.codec_readsBack {depth : Nat} (verdict : Verdict) :
    Verdict.codec.ReadsBack depth verdict :=
  .choice (by cases verdict <;> decide) (by decide)

/-- Whether a signed number fits 64 bits. -/
def FitsSigned (value : Int) : Prop := -half64 ≤ value ∧ value < half64

/-- The numbers of a supplemental context fit their fields. -/
structure SupplementalContext.Fits (context : SupplementalContext) : Prop where
  latency : context.latency < word64
  contentLength : context.contentLength < word64

/-- The numbers of the record of a request fit their fields. -/
structure InvocationRecord.Fits (record : InvocationRecord) : Prop where
  lastSuggestionIndex : ∀ index ∈ record.lastSuggestionIndex, index < word64
  duration : record.duration < word64
  line : record.line < word32
  cursorOffset : record.cursorOffset < word64
  supplemental : ∀ context ∈ record.supplemental, context.Fits

/-- The numbers of the record of a suggestion fit their fields. -/
structure DecisionRecord.Fits (record : DecisionRecord) : Prop where
  page : record.page < word64
  index : ∀ index ∈ record.index, index < word64
  referenceCount : record.referenceCount < word64
  importCount : record.importCount < word64
  supplemental : ∀ context ∈ record.supplemental, context.Fits

/-- The whole numbers of the record of a request or session fit their fields. -/
structure TriggerRecord.Fits (record : TriggerRecord) : Prop where
  suggestionCount : record.suggestionCount < word64
  line : record.line < word32
  cursorOffset : record.cursorOffset < word64
  importCount : record.importCount < word64
  typeaheadLength : record.typeaheadLength < word64
  sinceDocumentChange : ∀ milliseconds ∈ record.sinceDocumentChange, FitsSigned milliseconds
  sinceLastDecision : ∀ milliseconds ∈ record.sinceLastDecision, FitsSigned milliseconds
  toFirstRecommendation : FitsSigned record.toFirstRecommendation
  supplemental : ∀ context ∈ record.supplemental, context.Fits

/-- The numbers of the record of a latency fit their fields. -/
structure LatencyRecord.Fits (record : LatencyRecord) : Prop where
  firstCompletion : FitsSigned record.firstCompletion
  endToEnd : FitsSigned record.endToEnd
  allCompletions : FitsSigned record.allCompletions
  postprocessing : FitsSigned record.postprocessing
  credentialFetch : FitsSigned record.credentialFetch
  preprocessing : FitsSigned record.preprocessing

/-- The classifier values of a record survive their own digits. -/
def TriggerRecord.RealsReadBack (record : TriggerRecord) : Prop :=
  (∀ value ∈ record.classifierResult, value.ReadsBack) ∧
    ∀ value ∈ record.classifierThreshold, value.ReadsBack

/-- The record that is read where the classifier values of a record are read from their digits. -/
inductive TriggerRecord.RealsReadAs (record : TriggerRecord) : TriggerRecord → Prop where
  | read {result threshold : Option Binary64} :
      Option.Rel Binary64.ReadsAs record.classifierResult result →
      Option.Rel Binary64.ReadsAs record.classifierThreshold threshold →
      RealsReadAs record
        { record with classifierResult := result, classifierThreshold := threshold }

theorem TriggerRecord.RealsReadBack.readsAs {record : TriggerRecord}
    (reals : record.RealsReadBack) : record.RealsReadAs record :=
  .read (option_rel_self reals.1) (option_rel_self reals.2)

theorem SupplementalContext.codec_readsBack {depth : Nat} {context : SupplementalContext}
    (fits : context.Fits) : SupplementalContext.codec.ReadsBack (depth + 1) context :=
  .record <| (Layout.ReadsAs.empty _)
    |>.also (.required (.bool _)) (by decide)
    |>.also (.required (.bool _)) (by decide)
    |>.also (.required (.unsigned fits.latency)) (by decide)
    |>.also (.required (.count fits.contentLength)) (by decide)

theorem SupplementalContext.codec_readsBack_option {depth : Nat}
    {context? : Option SupplementalContext} (fit : ∀ context ∈ context?, context.Fits) :
    ∀ context ∈ context?, SupplementalContext.codec.ReadsBack (depth + 1) context :=
  fun context present => codec_readsBack (fit context present)

/-- Records of requests read back, and have no key for the kind of an event. -/
theorem InvocationRecord.layout_readsBack (depth : Nat) {record : InvocationRecord}
    (fits : record.Fits) :
    ∃ names, Event.kindKey ∉ names ∧ layout.ReadsAs names (depth + 1) record record := by
  refine ⟨_, ?_, (Layout.ReadsAs.empty _)
    |>.also (.nullable (fun _ _ => .string _) nofun) (by decide)
    |>.also (.nullable (fun _ _ => .string _) nofun) (by decide)
    |>.also (.nullable (fun index present => .count (fits.lastSuggestionIndex index present)) nofun)
      (by decide)
    |>.also (.required (TriggerKind.codec_readsBack _)) (by decide)
    |>.also (.nullable (fun _ _ => AutomaticCause.codec_readsBack _) nofun) (by decide)
    |>.also (.required (RequestOutcome.codec_readsBack _)) (by decide)
    |>.also (.required (.unsigned fits.duration)) (by decide)
    |>.also (.required (.shortUnsigned fits.line)) (by decide)
    |>.also (.required (.count fits.cursorOffset)) (by decide)
    |>.also (.required (.string _)) (by decide)
    |>.also (.sparse (fun _ _ => .string _) nofun) (by decide)
    |>.also (.required (.string _)) (by decide)
    |>.also (.required (.bool _)) (by decide)
    |>.also (.sparse (SupplementalContext.codec_readsBack_option fits.supplemental) nofun)
      (by decide)⟩
  decide

theorem DecisionRecord.layout_readsBack (depth : Nat) {record : DecisionRecord}
    (fits : record.Fits) :
    ∃ names, Event.kindKey ∉ names ∧ layout.ReadsAs names (depth + 1) record record := by
  refine ⟨_, ?_, (Layout.ReadsAs.empty _)
    |>.also (.required (.string _)) (by decide)
    |>.also (.nullable (fun _ _ => .string _) nofun) (by decide)
    |>.also (.required (.count fits.page)) (by decide)
    |>.also (.required (TriggerKind.codec_readsBack _)) (by decide)
    |>.also (.nullable (fun index present => .count (fits.index index present)) nofun) (by decide)
    |>.also (.required (Disposition.codec_readsBack _)) (by decide)
    |>.also (.sparse (fun _ _ => .string _) nofun) (by decide)
    |>.also (.required (.count fits.referenceCount)) (by decide)
    |>.also (.required (.count fits.importCount)) (by decide)
    |>.also (.required (Shape.codec_readsBack _)) (by decide)
    |>.also (.required (.string _)) (by decide)
    |>.also (.required (.string _)) (by decide)
    |>.also (.sparse (SupplementalContext.codec_readsBack_option fits.supplemental) nofun)
      (by decide)⟩
  decide

theorem TriggerRecord.layout_readsAs (depth : Nat) {record other : TriggerRecord}
    (fits : record.Fits) (reals : record.RealsReadAs other) :
    ∃ names, Event.kindKey ∉ names ∧ layout.ReadsAs names (depth + 1) record other := by
  obtain ⟨result, threshold⟩ := reals
  refine ⟨_, ?_, (Layout.ReadsAs.empty _)
    |>.also (.required (.string _)) (by decide)
    |>.also (.required (.string _)) (by decide)
    |>.also (.required (Shape.codec_readsBack _)) (by decide)
    |>.also (.required (.string _)) (by decide)
    |>.also (.required (TriggerKind.codec_readsBack _)) (by decide)
    |>.also (.required (.count fits.suggestionCount)) (by decide)
    |>.also (.nullable (fun _ _ => AutomaticCause.codec_readsBack _) nofun) (by decide)
    |>.also (.required (.shortUnsigned fits.line)) (by decide)
    |>.also (.required (.count fits.cursorOffset)) (by decide)
    |>.also (.required (Verdict.codec_readsBack _)) (by decide)
    |>.also (.required (.count fits.importCount)) (by decide)
    |>.also (.required (.count fits.typeaheadLength)) (by decide)
    |>.also (.sparse (fun value present => .signed (fits.sinceDocumentChange value present)) nofun)
      (by decide)
    |>.also (.sparse (fun value present => .signed (fits.sinceLastDecision value present)) nofun)
      (by decide)
    |>.also (.required (.signed fits.toFirstRecommendation)) (by decide)
    |>.also (.sparse (fun _ _ => .string _) nofun) (by decide)
    |>.also (.sparse (fun _ _ => Verdict.codec_readsBack _) nofun) (by decide)
    |>.also (.sparse_rel (Codec.ReadsAs.real_rel result) nofun) (by decide)
    |>.also (.sparse_rel (Codec.ReadsAs.real_rel threshold) nofun) (by decide)
    |>.also (.required (.string _)) (by decide)
    |>.also (.sparse (SupplementalContext.codec_readsBack_option fits.supplemental) nofun)
      (by decide)⟩
  decide

theorem LatencyRecord.layout_readsBack (depth : Nat) {record : LatencyRecord}
    (fits : record.Fits) :
    ∃ names, Event.kindKey ∉ names ∧ layout.ReadsAs names (depth + 1) record record := by
  refine ⟨_, ?_, (Layout.ReadsAs.empty _)
    |>.also (.required (.string _)) (by decide)
    |>.also (.required (.string _)) (by decide)
    |>.also (.required (.signed fits.firstCompletion)) (by decide)
    |>.also (.required (.signed fits.endToEnd)) (by decide)
    |>.also (.required (.signed fits.allCompletions)) (by decide)
    |>.also (.required (.signed fits.postprocessing)) (by decide)
    |>.also (.required (.signed fits.credentialFetch)) (by decide)
    |>.also (.required (.signed fits.preprocessing)) (by decide)
    |>.also (.required (Shape.codec_readsBack _)) (by decide)
    |>.also (.required (TriggerKind.codec_readsBack _)) (by decide)
    |>.also (.required (.string _)) (by decide)
    |>.also (.required (.string _)) (by decide)⟩
  decide

end TriggerLedger
