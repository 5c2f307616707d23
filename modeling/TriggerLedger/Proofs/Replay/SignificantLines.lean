import TriggerLedger.Proofs.Replay.Scripts
import TriggerLedger.Proofs.Text.Lines
/-!
# Lines of scripts

A script is read if every line that counts is a step, and gives these steps in
order.  Otherwise the first line that is none tells the fault, under its number
among all lines.
-/

namespace TriggerLedger.Script

open Text

/-- A trimmed line with its number among all lines. -/
structure NumberedLine where
  number : Nat
  text : List Char

/-- Trimmed lines of which the first one has the given number. -/
def numbered (number : Nat) (trimmed : List (List Char)) : List NumberedLine :=
  (trimmed.zipIdx number).map fun line => ⟨line.2, line.1⟩

/-- Whether a trimmed line is neither empty nor a comment. -/
def NumberedLine.counts (line : NumberedLine) : Bool :=
  line.text ≠ [] ∧ line.text.head? ≠ some '#'

/-- The lines of a script that count. -/
def significantLines (script : String) : List NumberedLine :=
  (numbered 1 ((lines script.toList).map trimChars)).filter NumberedLine.counts

/-- A trimmed line is read as a step, which moves the clock by a day at most. -/
def ReadsAs (text : List Char) (step : Step) : Prop :=
  Step.codec.decode.run (String.ofList text) = .ok step ∧
    ∀ milliseconds, step = .advance milliseconds → 0 ≤ milliseconds ∧ milliseconds ≤ 86400000

/-- A trimmed line is no step, or it moves the clock back or too far. -/
def Offends (text : List Char) : LineFault → Prop
  | .undecodable fault => Step.codec.decode.run (String.ofList text) = .error fault
  | .advanceOutOfRange milliseconds =>
    Step.codec.decode.run (String.ofList text) = .ok (.advance milliseconds) ∧
      ¬(0 ≤ milliseconds ∧ milliseconds ≤ 86400000)

def readLine (line : NumberedLine) : Except Fault Step :=
  (parseLine line.text).mapError (Fault.mk line.number)

theorem isSignificant_text (line : NumberedLine) : isSignificant line.text = line.counts := by
  obtain ⟨number, text⟩ := line
  cases text with
  | nil => rfl
  | cons c text =>
      by_cases comment : c = '#'
      · subst comment
        rfl
      · simp [NumberedLine.counts, isSignificant, comment]

/-- A step is refused exactly if it moves the clock back or too far. -/
theorem check_cases (step : Step) :
    step.check = .ok step ∧
        (∀ milliseconds, step = .advance milliseconds →
          0 ≤ milliseconds ∧ milliseconds ≤ 86400000) ∨
      ∃ milliseconds, step = .advance milliseconds ∧
        ¬(0 ≤ milliseconds ∧ milliseconds ≤ 86400000) ∧
        step.check = .error (.advanceOutOfRange milliseconds) := by
  cases step with
  | advance milliseconds =>
      by_cases inRange : 0 ≤ milliseconds ∧ milliseconds ≤ 86400000
      · refine .inl ⟨if_pos inRange, ?_⟩
        rintro _ ⟨⟩
        exact inRange
      · exact .inr ⟨milliseconds, rfl, inRange, if_neg inRange⟩
  | _ => exact .inl ⟨rfl, nofun⟩

theorem parseLine_eq_ok_iff {text : List Char} {step : Step} :
    parseLine text = .ok step ↔ ReadsAs text step := by
  rw [parseLine, ReadsAs]
  cases Step.codec.decode.run (String.ofList text) with
  | error fault => exact ⟨nofun, nofun⟩
  | ok decoded =>
      rcases check_cases decoded with ⟨passed, inRange⟩ | ⟨milliseconds, rfl, outside, refused⟩
      · simp only [passed, Except.ok.injEq]
        exact ⟨fun same => ⟨same, same ▸ inRange⟩, And.left⟩
      · simp only [refused, Except.ok.injEq, reduceCtorEq, false_iff, not_and]
        rintro rfl inRange
        exact outside (inRange milliseconds rfl)

theorem parseLine_eq_error_iff {text : List Char} {fault : LineFault} :
    parseLine text = .error fault ↔ Offends text fault := by
  unfold parseLine Offends
  cases Step.codec.decode.run (String.ofList text) with
  | error undecodable => cases fault <;> simp
  | ok decoded =>
      rcases check_cases decoded with ⟨passed, inRange⟩ | ⟨milliseconds, rfl, outside, refused⟩
      · simp only [passed, reduceCtorEq, false_iff]
        cases fault with
        | undecodable fault => nofun
        | advanceOutOfRange milliseconds =>
            rintro ⟨same, outside⟩
            exact outside (inRange milliseconds (Except.ok.inj same))
      · simp only [refused, Except.error.injEq]
        cases fault with
        | undecodable fault => exact ⟨nofun, nofun⟩
        | advanceOutOfRange others =>
            constructor
            · rintro ⟨⟩
              exact ⟨rfl, outside⟩
            · rintro ⟨⟨⟩, -⟩
              rfl

theorem readLine_eq_ok_iff {line : NumberedLine} {step : Step} :
    readLine line = .ok step ↔ ReadsAs line.text step := by
  rw [← parseLine_eq_ok_iff, readLine]
  cases parseLine line.text <;> simp [Except.mapError]

theorem readLine_eq_error_iff {line : NumberedLine} {fault : Fault} :
    readLine line = .error fault ↔ fault.line = line.number ∧ Offends line.text fault.fault := by
  obtain ⟨number, lineFault⟩ := fault
  rw [← parseLine_eq_error_iff, readLine]
  cases parseLine line.text <;> simp [Except.mapError, eq_comm]

/-- The lines that count are read one after the other. -/
theorem parseLines_eq_mapM (number : Nat) (lines : List (List Char)) :
    parseLines number lines =
      ((numbered number (lines.map trimChars)).filter NumberedLine.counts).mapM readLine := by
  induction lines generalizing number with
  | nil => rfl
  | cons line lines induction =>
      rw [parseLines, List.map_cons, numbered, List.zipIdx_cons, List.map_cons, ← numbered,
        List.filter_cons, induction, ← isSignificant_text]
      dsimp only
      split
      · rw [List.mapM_cons, readLine]
        cases parseLine (trimChars line) with
        | error fault => rfl
        | ok step =>
            cases ((numbered (number + 1) (lines.map trimChars)).filter
              NumberedLine.counts).mapM readLine <;> rfl
      · rfl

section FirstFault

variable {α β ε : Type} {read : α → Except ε β} {inputs : List α}

/-- What is read one after the other is read if each of it is. -/
theorem mapM_eq_ok_iff {outputs : List β} :
    inputs.mapM read = .ok outputs ↔
      List.Forall₂ (fun input output => read input = .ok output) inputs outputs := by
  induction inputs generalizing outputs with
  | nil => simp [pure, Except.pure, eq_comm]
  | cons input inputs induction =>
      rw [List.mapM_cons, List.forall₂_cons_left_iff]
      cases first : read input with
      | error fault => simp [bind, Except.bind]
      | ok output =>
          simp only [Except.ok.injEq, ← induction]
          cases inputs.mapM read with
          | error fault => simp [bind, Except.bind]
          | ok rest => simp [bind, Except.bind, pure, Except.pure, eq_comm]

theorem mapM_cons_eq_error_iff {input : α} {fault : ε} :
    (input :: inputs).mapM read = .error fault ↔
      read input = .error fault ∨
        (∃ output, read input = .ok output) ∧ inputs.mapM read = .error fault := by
  rw [List.mapM_cons]
  cases read input with
  | error refused => simp [bind, Except.bind]
  | ok output => cases inputs.mapM read <;> simp [bind, Except.bind, pure, Except.pure]

/-- The fault is the first one that is met. -/
theorem mapM_eq_error_iff {fault : ε} :
    inputs.mapM read = .error fault ↔
      ∃ before input after, inputs = before ++ input :: after ∧
        (∀ earlier ∈ before, ∃ output, read earlier = .ok output) ∧ read input = .error fault := by
  induction inputs with
  | nil => simp [pure, Except.pure]
  | cons input inputs induction =>
      rw [mapM_cons_eq_error_iff, induction]
      constructor
      · rintro (refused | ⟨first, before, offending, after, rfl, earlier, refused⟩)
        · exact ⟨[], input, inputs, rfl, fun _ member => absurd member List.not_mem_nil, refused⟩
        · exact ⟨input :: before, offending, after, rfl,
            List.forall_mem_cons.mpr ⟨first, earlier⟩, refused⟩
      · rintro ⟨before, offending, after, split, earlier, refused⟩
        cases before with
        | nil =>
            obtain ⟨rfl, -⟩ := List.cons.inj split
            exact .inl refused
        | cons first before =>
            obtain ⟨rfl, rfl⟩ := List.cons.inj split
            obtain ⟨first, earlier⟩ := List.forall_mem_cons.mp earlier
            exact .inr ⟨first, before, offending, after, rfl, earlier, refused⟩

end FirstFault

theorem parse_eq_mapM (script : String) : parse script = (significantLines script).mapM readLine :=
  parseLines_eq_mapM 1 (lines script.toList)

/-- Which characters end its lines makes no difference to a script. -/
theorem parse_withCarriageReturns (script : String) :
    parse (String.ofList (withCarriageReturns script.toList)) = parse script := by
  rw [parse_eq_mapM, parse_eq_mapM, significantLines, String.toList_ofList,
    trimmed_lines_withCarriageReturns, significantLines]

/-- A script gives the steps of the lines that count, in order, if all of them are steps, and else the
fault of the first one that is none, with its number among all lines.  So a text that ends its last
line is read before what follows, whose lines count on; and it makes no difference whether lines end
with LF or CRLF. -/
theorem parse_reads_significant_lines (script : String) :
    (∀ split, SplitsInto script.toList split ↔ lines script.toList = split) ∧
    (∀ steps, parse script = .ok steps ↔
      List.Forall₂ ReadsAs ((significantLines script).map (·.text)) steps) ∧
    (∀ fault, parse script = .error fault ↔
      ∃ before line after, significantLines script = before ++ line :: after ∧
        (∀ earlier ∈ before, ∃ step, ReadsAs earlier.text step) ∧
        fault.line = line.number ∧ Offends line.text fault.fault) ∧
    (EndsLine script → ∀ second, parse (script ++ second) =
      match parse script, parse second with
      | .error fault, _ => .error fault
      | .ok _, .error fault =>
        .error { fault with line := fault.line + (lines script.toList).length }
      | .ok steps, .ok others => .ok (steps ++ others)) ∧
    parse (String.ofList (withCarriageReturns script.toList)) = parse script := by
  refine ⟨fun split => splitsInto_iff, fun steps => ?_, fun fault => ?_, fun ends second => ?_,
    parse_withCarriageReturns script⟩
  · simp only [parse_eq_mapM, mapM_eq_ok_iff, readLine_eq_ok_iff, List.forall₂_map_left_iff]
  · simp only [parse_eq_mapM, mapM_eq_error_iff, readLine_eq_ok_iff, readLine_eq_error_iff]
  · rw [parse_append ends]
    cases parse script with
    | error fault => rfl
    | ok steps => cases parse second <;> rfl

/-- A clock that is set back in the second line after a comment and a blank line. -/
theorem fault_numbered_among_all_lines :
    let first := "# comment\r\n\xa0\n"
    let second := "\"api_call_end\"\n\x7b\"advance\":\x7b\"ms\":-1\x7d\x7d"
    EndsLine first ∧ parse (first ++ second) = .error ⟨4, .advanceOutOfRange (-1)⟩ := by
  intro first second
  have ends : EndsLine first := .inr ⟨"# comment\r\n\xa0", by decide⟩
  have blank : parse first = .ok [] := by decide +kernel
  have faulty : parse second = .error ⟨2, .advanceOutOfRange (-1)⟩ := by decide +kernel
  have twoLines : (lines first.toList).length = 2 := by decide +kernel
  obtain ⟨-, -, -, continued, -⟩ := parse_reads_significant_lines first
  refine ⟨ends, ?_⟩
  rw [continued ends, blank, faulty, twoLines]

end TriggerLedger.Script
