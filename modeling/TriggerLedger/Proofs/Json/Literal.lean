import Mathlib.Tactic.SplitIfs
import TriggerLedger.Json.Basic
/-!
# String literals read back

A literal that was written by escaping ends at its own closing quote, and undoing
the escapes gives the characters back, whatever they are.
-/

namespace TriggerLedger.Json.Literal

theorem hexDigit?_hexChar (value : Nat) (small : value < 16) :
    hexDigit? (hexChar value) = some value := by
  decide +revert

theorem hexUnit?_hexChar (value : Nat) (small : value < 256) :
    hexUnit? '0' '0' (hexChar (value / 16)) (hexChar (value % 16)) = some value := by
  have high := hexDigit?_hexChar (value / 16) (by omega)
  have low := hexDigit?_hexChar (value % 16) (by omega)
  have zero : hexDigit? '0' = some 0 := by decide
  simp only [hexUnit?, high, low, zero, Option.bind_eq_bind, Option.bind_some]
  change some _ = some value
  congr 1
  omega

/-- How a character is written, case by case. -/
theorem escapeChar_cases (c : Char) :
    (∃ letter, shortEscape? letter = some c ∧ letter ≠ 'u' ∧ escapeChar c = ['\\', letter]) ∨
    (c.toNat < 0x20 ∧ escapeChar c =
      ['\\', 'u', '0', '0', hexChar (c.toNat / 16), hexChar (c.toNat % 16)]) ∨
    (c ≠ '"' ∧ c ≠ '\\' ∧ ¬ c.toNat < 0x20 ∧ escapeChar c = [c]) := by
  unfold escapeChar
  split_ifs with quote backslash backspace formFeed lineFeed carriageReturn tab control
  · exact .inl ⟨'"', by simp [shortEscape?, quote], by decide, rfl⟩
  · exact .inl ⟨'\\', by simp [shortEscape?, backslash], by decide, rfl⟩
  · exact .inl ⟨'b', by simp [shortEscape?, backspace], by decide, rfl⟩
  · exact .inl ⟨'f', by simp [shortEscape?, formFeed], by decide, rfl⟩
  · exact .inl ⟨'n', by simp [shortEscape?, lineFeed], by decide, rfl⟩
  · exact .inl ⟨'r', by simp [shortEscape?, carriageReturn], by decide, rfl⟩
  · exact .inl ⟨'t', by simp [shortEscape?, tab], by decide, rfl⟩
  · exact .inr (.inl ⟨control, rfl⟩)
  · exact .inr (.inr ⟨quote, backslash, control, rfl⟩)

theorem scanFrom_escapeChar (seen : List Char) (c : Char) (rest : List Char) :
    scanFrom seen (escapeChar c ++ rest) =
      scanFrom ((escapeChar c).reverse ++ seen) rest := by
  rcases escapeChar_cases c with ⟨letter, short, notUnicode, written⟩ | ⟨control, written⟩ |
    ⟨notQuote, notBackslash, plain, written⟩
  · simp [written, scanFrom, short, notUnicode]
  · simp [written, scanFrom, hexUnit?_hexChar c.toNat (by omega)]
  · simp [written, scanFrom, notBackslash, plain]

/-- Scanning stops at the quote after an escaped text, and nowhere before. -/
theorem scan_escape (characters rest : List Char) :
    scan (escape characters ++ '"' :: rest) = some (escape characters, rest) := by
  have scanned (seen : List Char) :
      scanFrom seen (escape characters ++ '"' :: rest) =
        some (seen.reverse ++ escape characters, rest) := by
    induction characters generalizing seen with
    | nil => simp [escape, scanFrom]
    | cons c characters induction =>
        have split : escape (c :: characters) = escapeChar c ++ escape characters := by
          simp [escape]
        rw [split, List.append_assoc, scanFrom_escapeChar, induction]
        simp
  exact scanned []

theorem unescapeFrom_escapeChar (done : List Char) (c : Char) (rest : List Char) :
    unescapeFrom done (escapeChar c ++ rest) = unescapeFrom (c :: done) rest := by
  rcases escapeChar_cases c with ⟨letter, short, notUnicode, written⟩ | ⟨control, written⟩ |
    ⟨notQuote, notBackslash, plain, written⟩
  · simp [written, unescapeFrom, short, notUnicode]
  · have unit := hexUnit?_hexChar c.toNat (by omega)
    have notLow : isLowSurrogate c.toNat = false := by simp [isLowSurrogate]; omega
    have notHigh : isHighSurrogate c.toNat = false := by simp [isHighSurrogate]; omega
    simp [written, unescapeFrom, unit, notLow, notHigh]
  · simp [written, unescapeFrom, notBackslash]

/-- Undoing the escapes of an escaped text gives the text back. -/
@[simp]
theorem unescape_escape (characters : List Char) :
    unescape (escape characters) = some characters := by
  have undone (done : List Char) :
      unescapeFrom done (escape characters) = some (done.reverse ++ characters) := by
    induction characters generalizing done with
    | nil => simp [escape, unescapeFrom]
    | cons c characters induction =>
        have split : escape (c :: characters) = escapeChar c ++ escape characters := by
          simp [escape]
        rw [split, unescapeFrom_escapeChar, induction]
        simp
  exact undone []

@[simp]
theorem toString?_escape (text : String) : toString? (escape text.toList) = some text := by
  simp [toString?]

end TriggerLedger.Json.Literal
