import TriggerLedger.Text.Blank
/-!
# Texts split into lines

A line ends before LF or CRLF, and the last one may have no end.  There is one
way to split a text like that.  A carriage return at the end of a line is white
space, so trimmed lines are the same for both line ends.
-/

namespace TriggerLedger.Text

/-- Lines that a text is split into at LF and CRLF; the last line may be open. -/
inductive SplitsInto : List Char → List (List Char) → Prop where
  | done : SplitsInto [] []
  | openLine {line : List Char} (filled : line ≠ []) (whole : '\n' ∉ line) :
      SplitsInto line [line]
  | lf {line rest : List Char} {lines : List (List Char)} (whole : '\n' ∉ line)
      (bare : line.getLast? ≠ some '\r') (others : SplitsInto rest lines) :
      SplitsInto (line ++ '\n' :: rest) (line :: lines)
  | crlf {line rest : List Char} {lines : List (List Char)} (whole : '\n' ∉ line)
      (others : SplitsInto rest lines) :
      SplitsInto (line ++ '\r' :: '\n' :: rest) (line :: lines)

theorem linesFrom_cons {c : Char} (inside : c ≠ '\n') (current text : List Char) :
    linesFrom current (c :: text) = linesFrom (c :: current) text := by
  simp only [linesFrom]

/-- Characters of the open line are put in front of it one by one. -/
theorem linesFrom_line {line : List Char} (whole : '\n' ∉ line) (current rest : List Char) :
    linesFrom current (line ++ rest) = linesFrom (line.reverse ++ current) rest := by
  induction line generalizing current with
  | nil => rfl
  | cons c line induction =>
      rw [List.mem_cons, not_or] at whole
      rw [List.cons_append, linesFrom_cons (Ne.symm whole.1), induction whole.2,
        List.reverse_cons, List.append_assoc]
      rfl

theorem splitsInto_linesFrom (current text : List Char) (whole : '\n' ∉ current) :
    SplitsInto (current.reverse ++ text) (linesFrom current text) := by
  induction text generalizing current with
  | nil =>
      rw [linesFrom, List.append_nil]
      split
      case isTrue empty => rw [List.isEmpty_iff.mp empty]; exact .done
      case isFalse filled => exact .openLine (by simpa using filled) (by simpa using whole)
  | cons c text induction =>
      by_cases isEnd : c = '\n'
      · subst isEnd
        have others : SplitsInto text (linesFrom [] text) := induction [] List.not_mem_nil
        rw [linesFrom]
        unfold closeLine
        split
        -- A carriage return that was read last belongs to the end of the line.
        case h_1 line =>
          rw [List.reverse_cons, List.append_assoc]
          exact .crlf (fun member => whole (.tail _ (List.mem_reverse.mp member))) others
        case h_2 line bare =>
          refine .lf (by simpa using whole) ?_ others
          rw [List.getLast?_reverse]
          intro first
          obtain ⟨rest, rfl⟩ := List.head?_eq_some_iff.mp first
          exact bare rest rfl
      · rw [linesFrom_cons isEnd]
        have opened := induction (c :: current) (by simp [whole, Ne.symm isEnd])
        rwa [List.reverse_cons, List.append_assoc] at opened

/-- There is one way to split a text into lines. -/
theorem splitsInto_iff {text : List Char} {split : List (List Char)} :
    SplitsInto text split ↔ lines text = split := by
  constructor
  · intro splits
    induction splits with
    | done => rfl
    | @openLine line filled whole =>
        rw [← List.append_nil line, lines, linesFrom_line whole, List.append_nil, linesFrom]
        simp [filled]
    | @lf line rest split whole bare others induction =>
        rw [lines, linesFrom_line whole, List.append_nil, linesFrom]
        unfold closeLine
        split
        case h_1 body reversed =>
          rw [← List.head?_reverse, reversed] at bare
          exact absurd rfl bare
        case h_2 => rw [List.reverse_reverse, ← lines, induction]
    | @crlf line rest split whole others induction =>
        rw [lines, linesFrom_line whole, List.append_nil, linesFrom_cons (by decide), linesFrom,
          closeLine, List.reverse_reverse, ← lines, induction]
  · rintro rfl
    exact splitsInto_linesFrom [] text List.not_mem_nil

/-- No line has a line feed in it. -/
theorem SplitsInto.whole {text : List Char} {split : List (List Char)}
    (splits : SplitsInto text split) : ∀ line ∈ split, '\n' ∉ line := by
  induction splits with
  | done => exact fun _ member => absurd member List.not_mem_nil
  | openLine filled whole => exact List.forall_mem_singleton.mpr whole
  | lf whole bare others induction => exact List.forall_mem_cons.mpr ⟨whole, induction⟩
  | crlf whole others induction => exact List.forall_mem_cons.mpr ⟨whole, induction⟩

/-- Any lines are the lines of some text: each of them is ended by CRLF, since a carriage return of
its own before LF would be lost. -/
theorem lines_flatMap_crlf {split : List (List Char)} (whole : ∀ line ∈ split, '\n' ∉ line) :
    lines (split.flatMap (· ++ ['\r', '\n'])) = split := by
  refine splitsInto_iff.mp ?_
  induction split with
  | nil => exact .done
  | cons line split induction =>
      obtain ⟨first, others⟩ := List.forall_mem_cons.mp whole
      rw [List.flatMap_cons, List.append_assoc]
      exact .crlf first (induction others)

/-- A further line can be put at any place among the lines of a text. -/
theorem exists_lines_insertIdx {text line : List Char} {position : Nat}
    (within : position ≤ (lines text).length) (whole : '\n' ∉ line) :
    ∃ longer, lines longer = (lines text).insertIdx position line := by
  refine ⟨_, lines_flatMap_crlf fun other member => ?_⟩
  rcases (List.mem_insertIdx within).mp member with rfl | present
  · exact whole
  · exact (splitsInto_iff.mpr rfl : SplitsInto text (lines text)).whole other present

/-- White space at the end of a text does not count. -/
theorem trimChars_concat {c : Char} (blank : isBlank c = true) (text : List Char) :
    trimChars (text ++ [c]) = trimChars text := by
  rw [trimChars, trimChars, trimStart, trimStart, List.dropWhile_append]
  split
  case isTrue nothing => simp [List.isEmpty_iff.mp nothing, blank, trimStart]
  case isFalse =>
    rw [List.reverse_append, List.reverse_singleton, List.singleton_append, trimStart,
      List.dropWhile_cons_of_pos blank]
    rfl

theorem trimChars_closeLine (reversed : List Char) :
    trimChars (closeLine reversed) = trimChars reversed.reverse := by
  unfold closeLine
  split
  case h_1 line => rw [List.reverse_cons, trimChars_concat (by decide)]
  case h_2 => rfl

/-- A text with a carriage return before every line feed. -/
def withCarriageReturns (text : List Char) : List Char :=
  text.flatMap fun c => if c = '\n' then ['\r', '\n'] else [c]

theorem trimmed_lines_withCarriageReturns (text : List Char) :
    (lines (withCarriageReturns text)).map trimChars = (lines text).map trimChars := by
  suffices opened : ∀ current, (linesFrom current (withCarriageReturns text)).map trimChars =
      (linesFrom current text).map trimChars from opened []
  induction text with
  | nil => exact fun _ => rfl
  | cons c text induction =>
      intro current
      rw [withCarriageReturns, List.flatMap_cons, ← withCarriageReturns]
      split
      case isTrue isEnd =>
        subst isEnd
        rw [List.cons_append, List.singleton_append, linesFrom_cons (by decide), linesFrom,
          linesFrom, List.map_cons, List.map_cons, induction, closeLine, trimChars_closeLine]
      case isFalse inside =>
        rw [List.singleton_append, linesFrom_cons inside, linesFrom_cons inside, induction]

end TriggerLedger.Text
