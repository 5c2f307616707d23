import TriggerLedger.Proofs.Replay.Outlets
/-!
# Scripts taken apart

A script is applied as a whole or not at all.  Where a text ends its last line,
what follows has lines of its own: both texts run as one script like the one after
the other, whenever requests are sent, and a fault in the second keeps the steps
of the first from being applied.
-/

namespace TriggerLedger

namespace Text

/-- A text without an open line at its end. -/
def EndsLine (text : String) : Prop := text = "" ∨ ∃ body, text = body ++ "\n"

theorem linesFrom_append (current before after : List Char) :
    linesFrom current (before ++ '\n' :: after) =
      linesFrom current (before ++ ['\n']) ++ lines after := by
  induction before generalizing current with
  | nil => rfl
  | cons c before induction =>
      by_cases isEnd : c = '\n'
      · subst isEnd
        simp only [List.cons_append, linesFrom, induction]
      · have openLine (rest : List Char) :
            linesFrom current (c :: rest) = linesFrom (c :: current) rest := by
          simp only [linesFrom]
        rw [List.cons_append, List.cons_append, openLine, openLine, induction]

/-- The lines of a text and of what follows it. -/
theorem lines_append {first : String} (ends : EndsLine first) (second : String) :
    lines (first ++ second).toList = lines first.toList ++ lines second.toList := by
  rcases ends with rfl | ⟨body, rfl⟩
  · rfl
  · have characters : (body ++ "\n" ++ second).toList = body.toList ++ '\n' :: second.toList := by
      simp
    have own : (body ++ "\n").toList = body.toList ++ ['\n'] := by simp
    rw [characters, own, lines, linesFrom_append]
    rfl

end Text

namespace Script

open Text

/-- A fault in lines that come after others. -/
def Fault.after (count : Nat) (fault : Fault) : Fault := { fault with line := fault.line + count }

theorem parseLines_add (number count : Nat) (lines : List (List Char)) :
    parseLines (number + count) lines =
      (parseLines number lines).mapError (Fault.after count) := by
  induction lines generalizing number with
  | nil => rfl
  | cons line lines induction =>
      have rest := induction (number + 1)
      rw [Nat.add_right_comm] at rest
      simp only [parseLines, rest]
      split
      · cases parseLine (trimChars line) with
        | error fault => rfl
        | ok step => cases parseLines (number + 1) lines <;> rfl
      · rfl

theorem parseLines_append (number : Nat) (first second : List (List Char)) :
    parseLines number (first ++ second) =
      match parseLines number first with
      | .error fault => .error fault
      | .ok steps => (parseLines (number + first.length) second).map (steps ++ ·) := by
  induction first generalizing number with
  | nil =>
      simp only [List.nil_append, parseLines, List.length_nil, Nat.add_zero]
      cases parseLines number second <;> rfl
  | cons line first induction =>
      have rest := induction (number + 1)
      rw [Nat.add_right_comm, Nat.add_assoc] at rest
      simp only [List.cons_append, parseLines, rest, List.length_cons]
      split
      · cases parseLine (trimChars line) with
        | error fault => rfl
        | ok step =>
            cases parseLines (number + 1) first with
            | error fault => rfl
            | ok steps => cases parseLines (number + (first.length + 1)) second <;> rfl
      · rfl

/-- A text that ends its last line and what follows it are read one after the other. -/
theorem parse_append {first : String} (ends : EndsLine first) (second : String) :
    parse (first ++ second) =
      match parse first with
      | .error fault => .error fault
      | .ok steps =>
        ((parse second).mapError (Fault.after (lineCount first))).map (steps ++ ·) := by
  have later := parseLines_add 1 (lineCount first) (lines second.toList)
  rw [parse, lines_append ends, parseLines_append, ← lineCount, later]
  rfl

theorem parse_append_of_ok {first second : String} {steps later : List Step}
    (ends : EndsLine first) (parsed : parse first = .ok steps)
    (parsedLater : parse second = .ok later) :
    parse (first ++ second) = .ok (steps ++ later) := by
  rw [parse_append ends, parsed, parsedLater]
  rfl

namespace Run

variable {σ γ : Type} {outlets : Outlets σ γ} {settings : Settings} {run final : Run σ γ}

theorem runScript_of_parse {script : String} {steps : List Step}
    (parsed : parse script = .ok steps) :
    run.runScript outlets settings script = (run.applyAll outlets settings steps, .ok ()) := by
  rw [runScript, parsed]

theorem runScript_of_fault {script : String} {fault : Fault}
    (faulty : parse script = .error fault) :
    run.runScript outlets settings script = (run, .error fault) := by
  rw [runScript, faulty]

theorem applyAll_append (first second : List Step) :
    run.applyAll outlets settings (first ++ second) =
      (run.applyAll outlets settings first).applyAll outlets settings second :=
  List.foldl_append

theorem Reaches.append {middle : Run σ γ} {first second : List Step}
    (toMiddle : Reaches outlets settings run first middle)
    (fromMiddle : Reaches outlets settings middle second final) :
    Reaches outlets settings run (first ++ second) final := by
  induction toMiddle with
  | done run => exact fromMiddle
  | step leads rest induction => exact .step leads (induction fromMiddle)
  | send pending rest induction => exact .send pending (induction fromMiddle)

theorem Reaches.split {steps first second : List Step}
    (reaches : Reaches outlets settings run steps final) (all : steps = first ++ second) :
    ∃ middle, Reaches outlets settings run first middle ∧
      Reaches outlets settings middle second final := by
  induction reaches generalizing first with
  | done run =>
      obtain ⟨rfl, rfl⟩ := List.append_eq_nil_iff.mp all.symm
      exact ⟨run, .done run, .done run⟩
  | @step run final step steps replay delivery leads rest induction =>
      cases first with
      | nil =>
          obtain rfl : step :: steps = second := all
          exact ⟨run, .done run, .step leads rest⟩
      | cons head first =>
          obtain ⟨rfl, others⟩ := List.cons.inj all
          obtain ⟨middle, toMiddle, fromMiddle⟩ := induction others
          exact ⟨middle, .step leads toMiddle, fromMiddle⟩
  | send pending rest induction =>
      obtain ⟨middle, toMiddle, fromMiddle⟩ := induction all
      exact ⟨middle, .send pending toMiddle, fromMiddle⟩

theorem settle_settle : (run.settle outlets).settle outlets = run.settle outlets := by
  obtain ⟨⟨sink, client, pending, refused, failed⟩, replay⟩ := run
  obtain ⟨last, unsent, sends⟩ := Delivery.transmit_frame outlets pending client failed
  have settled := sends sink [] refused
  rw [List.append_nil] at settled
  simp only [settle, settled, List.foldl_nil]

/-- Requests that are sent before a step are sent as well at the end. -/
theorem settle_apply_settle (step : Step) :
    ((run.settle outlets).apply outlets settings step).settle outlets =
      (run.apply outlets settings step).settle outlets := by
  obtain ⟨⟨sink, client, pending, refused, failed⟩, replay⟩ := run
  obtain ⟨last, unsent, sends⟩ := Delivery.transmit_frame outlets pending client failed
  obtain ⟨result, stored, later, warned, runs⟩ :=
    Delivery.run_frame outlets (replay.applying settings step) sink refused
  have settled := sends sink [] refused
  rw [List.append_nil] at settled
  simp only [settle, apply, settled, runs, List.nil_append, List.foldl_append, sends]

theorem settle_applyAll_settle (steps : List Step) :
    ((run.settle outlets).applyAll outlets settings steps).settle outlets =
      (run.applyAll outlets settings steps).settle outlets := by
  induction steps generalizing run with
  | nil => exact settle_settle
  | cons step steps induction =>
      change (((run.settle outlets).apply outlets settings step).applyAll outlets settings
        steps).settle outlets = ((run.apply outlets settings step).applyAll outlets settings
          steps).settle outlets
      rw [← induction, settle_apply_settle, induction]

/-- A script that is refused leaves everything as it was, and one that is accepted is applied step by
step.  A text that ends its last line is run with what follows as the one after the other, also
when requests are sent in between or at any other time; if what follows is at fault, nothing of
either is applied. -/
theorem scripts_apply_whole_and_compose (outlets : Outlets σ γ) (settings : Settings)
    (run : Run σ γ) :
    (∀ script fault, (run.runScript outlets settings script).2 = .error fault →
      (run.runScript outlets settings script).1 = run) ∧
    (∀ script, (run.runScript outlets settings script).2 = .ok () →
      ∃ steps, parse script = .ok steps ∧
        (run.runScript outlets settings script).1 =
          steps.foldl (fun run step => run.apply outlets settings step) run) ∧
    ∀ first second steps, EndsLine first → parse first = .ok steps →
      (∀ fault, parse second = .error fault → run.runScript outlets settings (first ++ second) =
        (run, .error (fault.after (lineCount first)))) ∧
      ∀ others, parse second = .ok others →
        parse (first ++ second) = .ok (steps ++ others) ∧
        run.runScript outlets settings (first ++ second) =
          (run.runScript outlets settings first).1.runScript outlets settings second ∧
        (run.runScript outlets settings (first ++ second)).1.settle outlets =
          (((run.runScript outlets settings first).1.settle outlets).runScript outlets settings
            second).1.settle outlets ∧
        ∀ final, Reaches outlets settings run (steps ++ others) final ↔
          ∃ middle, Reaches outlets settings run steps middle ∧
            Reaches outlets settings middle others final := by
  refine ⟨?_, ?_, ?_⟩
  · intro script fault refused
    cases parsed : parse script with
    | error _ => rw [runScript_of_fault parsed]
    | ok steps =>
        rw [runScript_of_parse parsed] at refused
        cases refused
  · intro script accepted
    cases parsed : parse script with
    | error fault =>
        rw [runScript_of_fault parsed] at accepted
        cases accepted
    | ok steps => exact ⟨steps, rfl, by rw [runScript_of_parse parsed]; rfl⟩
  · intro first second steps ends parsed
    have both := parse_append ends second
    rw [parsed] at both
    refine ⟨fun fault faulty => ?_, fun others parsedOthers => ?_⟩
    · rw [faulty] at both
      exact runScript_of_fault both
    · rw [parsedOthers] at both
      have whole : parse (first ++ second) = .ok (steps ++ others) := both
      refine ⟨whole, ?_, ?_, fun final => ⟨fun reaches => reaches.split rfl, ?_⟩⟩
      · rw [runScript_of_parse whole, runScript_of_parse parsed, runScript_of_parse parsedOthers,
          applyAll_append]
      · rw [runScript_of_parse whole, runScript_of_parse parsed, runScript_of_parse parsedOthers,
          applyAll_append, settle_applyAll_settle]
      · rintro ⟨middle, toMiddle, fromMiddle⟩
        exact toMiddle.append fromMiddle

/-- A text whose third line moves the clock too far marks nothing, though its first line by itself
does. -/
theorem far_advance_applies_nothing :
    let marking := "\"api_call_start\"\n"
    let tooFar := "# more than a day\n\x7b\"advance\":\x7b\"ms\":86400001\x7d\x7d"
    let settings : Settings := ⟨"Control", true, .ofSeconds 120⟩
    let outlets : Outlets Unit Unit := ⟨.refusing, .silent, true⟩
    let run := Run.start ⟨0⟩ () ()
    run.runScript outlets settings (marking ++ tooFar) =
        (run, .error ⟨3, .advanceOutOfRange 86400001⟩) ∧
      (run.runScript outlets settings (marking ++ marking)).1 =
        (run.apply outlets settings .apiCallStart).apply outlets settings .apiCallStart := by
  intro marking tooFar settings outlets run
  have ends : EndsLine marking := .inr ⟨"\"api_call_start\"", rfl⟩
  have parsed : parse marking = .ok [.apiCallStart] := by decide +kernel
  have faulty : parse tooFar = .error ⟨2, .advanceOutOfRange 86400001⟩ := by decide +kernel
  have oneLine : lineCount marking = 1 := by decide +kernel
  obtain ⟨-, -, composed⟩ := scripts_apply_whole_and_compose outlets settings run
  have refused := (composed marking tooFar [.apiCallStart] ends parsed).1 _ faulty
  constructor
  · rw [refused, oneLine]
    rfl
  · obtain ⟨-, same, -⟩ := (composed marking marking [.apiCallStart] ends parsed).2 _ parsed
    rw [same, runScript_of_parse parsed, runScript_of_parse parsed]
    rfl

end Run
end Script
end TriggerLedger
