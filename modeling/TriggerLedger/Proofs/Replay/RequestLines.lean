import TriggerLedger.Proofs.Event.Records
import TriggerLedger.Proofs.Json.Printable
import TriggerLedger.Proofs.Replay.SignificantLines
/-!
# Requests written as lines

The report of a request, written as a compact object under the name of its step, is a line
of a script.  Whatever strings the report has, none of them breaks the line or makes it a
comment, so that the line gives this one step wherever it stands.
-/

namespace TriggerLedger

open Json

/-- The numbers of the report of a request fit their fields. -/
structure InvocationReport.Fits (report : InvocationReport) : Prop where
  lastSuggestionIndex : ∀ index ∈ report.lastSuggestionIndex, index < word64
  duration : ∀ milliseconds ∈ report.duration, milliseconds < word64
  line : ∀ line ∈ report.line, line < word32
  supplemental : ∀ context ∈ report.supplemental, context.Fits

/-- Reports read back, with `null` for whatever they leave open. -/
theorem InvocationReport.codec_readsBack {depth : Nat} {report : InvocationReport}
    (fits : report.Fits) : InvocationReport.codec.ReadsBack (depth + 2) report :=
  .record <| (Layout.ReadsAs.empty _)
    |>.also (.required (.string _)) (by decide)
    |>.also (.required (.string _)) (by decide)
    |>.also (.optional (fun index present => .count (fits.lastSuggestionIndex index present)) nofun)
      (by decide)
    |>.also (.defaulted (TriggerKind.codec_readsBack _)) (by decide)
    |>.also (.optional (fun _ _ => AutomaticCause.codec_readsBack _) nofun) (by decide)
    |>.also (.required (RequestOutcome.codec_readsBack _)) (by decide)
    |>.also (.optional (fun time present => .unsigned (fits.duration time present)) nofun)
      (by decide)
    |>.also (.optional (fun line present => .shortUnsigned (fits.line line present)) nofun)
      (by decide)
    |>.also (.required (.string _)) (by decide)
    |>.also (.defaulted (.string _)) (by decide)
    |>.also (.optional (SupplementalContext.codec_readsBack_option fits.supplemental) nofun)
      (by decide)

namespace Script

open Text

namespace Step

/-- The name of a step settles its payload. -/
theorem decodeName_escape {name : String} {payload : Payload} (member : (name, payload) ∈ table)
    (reading : Reading) :
    decodeName reading (.text (Literal.escape name.toList)) = .ok payload := by
  have found : Decoder.findName table Prod.fst name = .ok (name, payload) :=
    Codec.ReadsAs.findName_name member (by decide)
  simp [decodeName, Decoder.name, found]

/-- A record that reads back also does so under the name of its step. -/
theorem readsBack_tagged {α : Type} {codec : Codec α} {make : α → Step} {name : String}
    {depth : Nat} {record : α} (member : (name, recordPayload codec make) ∈ table)
    (readsBack : codec.ReadsBack depth record) {reading : Reading}
    (room : reading.HasRoom (depth + 1)) :
    (tagged name (codec.encode record)).Readable (depth + 1) ∧
      decode reading (tagged name (codec.encode record)).toNode = .ok (make record) := by
  obtain ⟨inner, entered, innerRoom⟩ := room.enter
  refine ⟨⟨by omega, readsBack.readable, trivial⟩, ?_⟩
  simp [tagged, toNode, toMemberNodes, decode, entered, decodeName_escape member, decodePayload,
    recordPayload, readsBack.decode innerRoom, bind, Except.bind]

theorem codec_readsBack_invocation {depth : Nat} {report : InvocationReport}
    (fits : report.Fits) : codec.ReadsBack (depth + 3) (.invocation report) := by
  have member : ("invocation", recordPayload InvocationReport.codec .invocation) ∈ table := by
    simp [table]
  have report : InvocationReport.codec.ReadsBack (depth + 2) report :=
    InvocationReport.codec_readsBack fits
  exact ⟨(readsBack_tagged member report (Reading.kept_hasRoom _)).1,
    fun room => (readsBack_tagged member report room).2⟩

end Step

/-- The line of a request: an object with its report under the name of the step. -/
def requestLine (report : InvocationReport) : String :=
  "\x7b\"invocation\":" ++ (InvocationReport.codec.encode report).compact ++ "\x7d"

theorem requestLine_eq (report : InvocationReport) :
    requestLine report = (Step.codec.encode (.invocation report)).compact := by
  have name : quoted "invocation" = "\"invocation\"".toList := by decide
  refine String.toList_injective ?_
  simp [requestLine, Step.codec, Step.encode, Step.tagged, compact, compactChars, compactMembers,
    name]

theorem toList_requestLine (report : InvocationReport) :
    ∃ body, (requestLine report).toList = '{' :: (body ++ ['}']) :=
  ⟨"\"invocation\":".toList ++ (InvocationReport.codec.encode report).compactChars, by
    simp [requestLine, compact]⟩

theorem newline_not_mem_requestLine (report : InvocationReport) :
    '\n' ∉ (requestLine report).toList := by
  rw [requestLine_eq, compact, String.toList_ofList]
  exact (arePrintable_compactChars _).newline_not_mem

/-- White space within a line does not matter to trimming, if there is none around it. -/
theorem trimChars_requestLine (report : InvocationReport) :
    trimChars (requestLine report).toList = (requestLine report).toList := by
  obtain ⟨body, text⟩ := toList_requestLine report
  rw [text]
  simp [trimChars, trimStart, isBlank]

theorem readsAs_requestLine {report : InvocationReport} (fits : report.Fits) :
    ReadsAs (requestLine report).toList (.invocation report) := by
  refine ⟨?_, nofun⟩
  rw [String.ofList_toList, requestLine_eq]
  have readsBack : Step.codec.ReadsBack 3 (.invocation report) :=
    Step.codec_readsBack_invocation fits
  exact readsBack.run_compact (by decide)

/-- Whether a line gives a step: trimmed, it is neither empty nor a comment. -/
def givesStep (line : List Char) : Bool :=
  trimChars line ≠ [] ∧ (trimChars line).head? ≠ some '#'

theorem givesStep_requestLine (report : InvocationReport) :
    givesStep (requestLine report).toList = true := by
  obtain ⟨body, text⟩ := toList_requestLine report
  rw [givesStep, trimChars_requestLine, text]
  simp

theorem map_text_significantLines (script : String) :
    (significantLines script).map (·.text) =
      ((lines script.toList).filter givesStep).map trimChars := by
  have texts (number : Nat) (trimmed : List (List Char)) :
      (numbered number trimmed).map (·.text) = trimmed := by
    rw [numbered, List.map_map]
    exact List.zipIdx_map_fst number trimmed
  have counts : NumberedLine.counts =
      (fun text : List Char => decide (text ≠ [] ∧ text.head? ≠ some '#')) ∘ (·.text) :=
    rfl
  rw [significantLines, counts, ← List.filter_map, texts, List.filter_map]
  rfl

/-- A script is accepted if all lines that give steps are read as steps. -/
theorem parse_eq_ok_iff {script : String} {steps : List Step} :
    parse script = .ok steps ↔
      List.Forall₂ (fun line step => ReadsAs (trimChars line) step)
        ((lines script.toList).filter givesStep) steps := by
  rw [← List.forall₂_map_left_iff, ← map_text_significantLines, List.forall₂_map_left_iff]
  simp only [parse_eq_mapM, mapM_eq_ok_iff, readLine_eq_ok_iff]

/-- A further line that gives a step adds it after the steps of the lines in front. -/
theorem forall₂_insertIdx {line : List Char} {step : Step} (gives : givesStep line = true)
    (reads : ReadsAs (trimChars line) step) {lines : List (List Char)} {steps : List Step}
    (accepted : List.Forall₂ (fun line step => ReadsAs (trimChars line) step)
      (lines.filter givesStep) steps) {position : Nat} (within : position ≤ lines.length) :
    List.Forall₂ (fun line step => ReadsAs (trimChars line) step)
      ((lines.insertIdx position line).filter givesStep)
      (steps.insertIdx ((lines.take position).countP givesStep) step) := by
  induction position generalizing lines steps with
  | zero =>
      rw [List.insertIdx_zero, List.filter_cons_of_pos gives]
      exact .cons reads accepted
  | succ position induction =>
      cases lines with
      | nil => simp at within
      | cons first lines =>
          have rest : position ≤ lines.length := Nat.le_of_succ_le_succ within
          rw [List.insertIdx_succ_cons, List.take_succ_cons]
          by_cases counts : givesStep first = true
          · rw [List.filter_cons_of_pos counts] at accepted ⊢
            rw [List.countP_cons_of_pos counts]
            cases accepted with
            | cons head tail => exact .cons head (induction tail rest)
          · rw [List.filter_cons_of_neg counts] at accepted ⊢
            rw [List.countP_cons_of_neg counts]
            exact induction accepted rest

/-- Whichever way its line ends, a request that is put between two lines is a line between them. -/
theorem lines_append_requestLine {before : String} (ends : EndsLine before)
    (report : InvocationReport) {ending : String} (isEnding : ending = "\n" ∨ ending = "\r\n")
    (after : String) :
    lines (before ++ (requestLine report ++ ending ++ after)).toList =
      (lines (before ++ after).toList).insertIdx (lines before.toList).length
        (requestLine report).toList := by
  have whole := newline_not_mem_requestLine report
  have rest : SplitsInto after.toList (lines after.toList) := splitsInto_iff.mpr rfl
  have own : lines (requestLine report ++ ending ++ after).toList =
      (requestLine report).toList :: lines after.toList := by
    refine splitsInto_iff.mp ?_
    rcases isEnding with rfl | rfl
    · have bare : (requestLine report).toList.getLast? ≠ some '\r' := by
        obtain ⟨body, text⟩ := toList_requestLine report
        rw [text, ← List.cons_append, List.getLast?_concat]
        decide
      simpa using SplitsInto.lf whole bare rest
    · simpa using SplitsInto.crlf whole rest
  rw [lines_append ends, lines_append ends, own]
  exact (List.modifyTailIdx_add ((requestLine report).toList :: ·) 0 _ _).symm

/-- The line of a request is a script of one step.  Put at any place among the lines of an accepted
script it adds this step, after the steps of the lines in front of it; and there is a text with the
lines so put, for instance where the line is written between two lines with an end of its own. -/
theorem request_line_adds_step {report : InvocationReport} (fits : report.Fits) :
    let line := requestLine report
    let step : Step := .invocation report
    parse line = .ok [step] ∧
    (∀ script steps, parse script = .ok steps → ∀ position ≤ (lines script.toList).length,
      (∃ longer : String,
        lines longer.toList = (lines script.toList).insertIdx position line.toList) ∧
      ∀ longer : String,
        lines longer.toList = (lines script.toList).insertIdx position line.toList →
        parse longer =
          .ok (steps.insertIdx (((lines script.toList).take position).countP givesStep) step)) ∧
    ∀ before ending after : String, EndsLine before → ending = "\n" ∨ ending = "\r\n" →
      lines (before ++ (line ++ ending ++ after)).toList =
        (lines (before ++ after).toList).insertIdx (lines before.toList).length line.toList := by
  intro line step
  have gives : givesStep line.toList = true := givesStep_requestLine report
  have reads : ReadsAs (trimChars line.toList) step := by
    rw [trimChars_requestLine]
    exact readsAs_requestLine fits
  have whole : '\n' ∉ line.toList := newline_not_mem_requestLine report
  refine ⟨?_, fun script steps accepted position within => ⟨?_, fun longer placed => ?_⟩,
    fun before ending after ends isEnding =>
      lines_append_requestLine ends report isEnding after⟩
  · have alone : lines line.toList = [line.toList] := by
      refine splitsInto_iff.mp (.openLine ?_ whole)
      rintro nothing
      rw [nothing] at gives
      cases gives
    rw [parse_eq_ok_iff, alone, List.filter_cons_of_pos gives]
    exact .cons reads .nil
  · obtain ⟨longer, placed⟩ := exists_lines_insertIdx within whole
    exact ⟨String.ofList longer, by rw [String.toList_ofList, placed]⟩
  · rw [parse_eq_ok_iff] at accepted ⊢
    rw [placed]
    exact forall₂_insertIdx gives reads accepted within

/-- A request whose strings have line ends, a comment mark and white space, put between a comment and
a step. -/
theorem request_line_after_comment :
    let report : InvocationReport :=
      ⟨"# r\n", "\u2028s\r\n", some 18446744073709551615, .automatic, none, .failed, none,
        some 4294967295, "", " \"\\\" ", none⟩
    report.Fits ∧
      parse ("# comment\n" ++ (requestLine report ++ "\r\n" ++ "\"api_call_start\"")) =
        .ok [.invocation report, .apiCallStart] := by
  intro report
  have fits : report.Fits := ⟨by decide, by decide, by decide, nofun⟩
  refine ⟨fits, ?_⟩
  have accepted : parse ("# comment\n" ++ "\"api_call_start\"") = .ok [.apiCallStart] := by
    decide +kernel
  obtain ⟨-, placed, between⟩ := request_line_adds_step fits
  have longer := between "# comment\n" "\r\n" "\"api_call_start\"" (.inr ⟨"# comment", by decide⟩)
    (.inr rfl)
  have position : (lines "# comment\n".toList).length ≤
      (lines ("# comment\n" ++ "\"api_call_start\"").toList).length := by decide +kernel
  rw [(placed _ _ accepted _ position).2 _ longer]
  decide +kernel

end Script
end TriggerLedger
