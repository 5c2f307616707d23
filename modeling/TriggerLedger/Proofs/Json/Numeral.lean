import Mathlib.Data.List.TakeWhile
import Mathlib.Tactic.IntervalCases
import TriggerLedger.Binary64.Shortest
import TriggerLedger.Json.Numeral
import TriggerLedger.Proofs.Text.Digits
/-!
# Numerals read back

A numeral is split off in front of any text that does not continue it.  The
digits of an integer of 64 bits are a numeral with the integer as its value.
-/

namespace TriggerLedger

namespace Json.Numeral

open Text

/-- Whether a character may come next in a numeral that has been read. -/
def continues (c : Char) : Bool :=
  c.isDigit || c == '.' || c == 'e' || c == 'E'

/-- A text that does not continue a numeral in front of it. -/
def Stops (rest : List Char) : Prop := ∀ c ∈ rest.head?, continues c = false

theorem stops_nil : Stops [] := by simp [Stops]

theorem stops_cons {c : Char} {rest : List Char} (stop : continues c = false) :
    Stops (c :: rest) := by
  simpa [Stops] using stop

theorem spanDigits_append {text digits left rest : List Char} (stops : Stops rest)
    (split : spanDigits text = (digits, left)) :
    spanDigits (text ++ rest) = (digits, left ++ rest) := by
  rw [spanDigits, List.span_eq_takeWhile_dropWhile, Prod.mk.injEq] at split
  obtain ⟨rfl, rfl⟩ := split
  have areDigits : AreDigits (text.takeWhile Char.isDigit) :=
    fun c member => List.mem_takeWhile_imp member
  rw [spanDigits]
  nth_rewrite 1 [← List.takeWhile_append_dropWhile (p := Char.isDigit) (l := text)]
  rw [List.append_assoc]
  refine span_isDigit_append areDigits ?_
  have next := List.head?_dropWhile_not Char.isDigit text
  cases after : text.dropWhile Char.isDigit with
  | nil =>
      intro c member
      have stop := stops c member
      simp only [continues, Bool.or_eq_false_iff] at stop
      exact stop.1.1.1
  | cons c left => simpa [after] using next

theorem lexWhole_append {text whole left rest : List Char} (stops : Stops rest)
    (split : lexWhole text = some (whole, left)) :
    lexWhole (text ++ rest) = some (whole, left ++ rest) := by
  unfold lexWhole at split ⊢
  cases spanned : spanDigits text with
  | mk digits after =>
      rw [spanned] at split
      rw [spanDigits_append stops spanned]
      split at split <;> simp_all

theorem lexFraction_append {text fraction left rest : List Char} (stops : Stops rest)
    (split : lexFraction text = some (fraction, left)) :
    lexFraction (text ++ rest) = some (fraction, left ++ rest) := by
  cases text with
  | nil =>
      obtain ⟨rfl, rfl⟩ : [] = fraction ∧ [] = left := by simpa [lexFraction] using split
      cases rest with
      | nil => rfl
      | cons c rest =>
          have notPoint : c ≠ '.' := by
            rintro rfl
            exact absurd (stops '.' rfl) (by decide)
          simp [lexFraction, notPoint]
  | cons c text =>
      by_cases point : c = '.'
      · subst point
        simp only [lexFraction, List.cons_append] at split ⊢
        cases spanned : spanDigits text with
        | mk digits after =>
            rw [spanned] at split
            rw [spanDigits_append stops spanned]
            split at split <;> simp_all
      · obtain ⟨rfl, rfl⟩ : [] = fraction ∧ c :: text = left := by
          simpa [lexFraction, point] using split
        simp [lexFraction, point]

theorem lexExponentDigits_append {negative : Bool} {text left rest : List Char}
    {exponent : Option (Bool × List Char)} (stops : Stops rest)
    (split : lexExponentDigits negative text = some (exponent, left)) :
    lexExponentDigits negative (text ++ rest) = some (exponent, left ++ rest) := by
  unfold lexExponentDigits at split ⊢
  cases spanned : spanDigits text with
  | mk digits after =>
      rw [spanned] at split
      rw [spanDigits_append stops spanned]
      split at split <;> simp_all

theorem lexExponent_plus {c : Char} {text : List Char} (mark : c = 'e' ∨ c = 'E') :
    lexExponent (c :: '+' :: text) = lexExponentDigits false text := by
  rcases mark with rfl | rfl <;> rfl

theorem lexExponent_minus {c : Char} {text : List Char} (mark : c = 'e' ∨ c = 'E') :
    lexExponent (c :: '-' :: text) = lexExponentDigits true text := by
  rcases mark with rfl | rfl <;> rfl

theorem lexExponent_unsigned {c sign : Char} {text : List Char} (mark : c = 'e' ∨ c = 'E')
    (notPlus : sign ≠ '+') (notMinus : sign ≠ '-') :
    lexExponent (c :: sign :: text) = lexExponentDigits false (sign :: text) := by
  rcases mark with rfl | rfl <;> simp [lexExponent, notPlus, notMinus]

theorem lexExponent_append {text left rest : List Char}
    {exponent : Option (Bool × List Char)} (stops : Stops rest)
    (split : lexExponent text = some (exponent, left)) :
    lexExponent (text ++ rest) = some (exponent, left ++ rest) := by
  cases text with
  | nil =>
      obtain ⟨rfl, rfl⟩ : none = exponent ∧ [] = left := by simpa [lexExponent] using split
      cases rest with
      | nil => rfl
      | cons c rest =>
          have notMark : c ≠ 'e' ∧ c ≠ 'E' := by
            constructor <;>
              (rintro rfl; exact absurd (stops _ rfl) (by decide))
          simp [lexExponent, notMark]
  | cons c text =>
      by_cases mark : c = 'e' ∨ c = 'E'
      · cases text with
        | nil =>
            rcases mark with rfl | rfl <;>
              simp [lexExponent, lexExponentDigits, spanDigits, List.span, List.span.loop]
                at split
        | cons sign text =>
            rw [List.cons_append, List.cons_append]
            by_cases plus : sign = '+'
            · subst plus
              rw [lexExponent_plus mark] at split ⊢
              exact lexExponentDigits_append stops split
            · by_cases minus : sign = '-'
              · subst minus
                rw [lexExponent_minus mark] at split ⊢
                exact lexExponentDigits_append stops split
              · rw [lexExponent_unsigned mark plus minus] at split ⊢
                exact lexExponentDigits_append stops split
      · obtain ⟨notLower, notUpper⟩ := not_or.mp mark
        obtain ⟨rfl, rfl⟩ : none = exponent ∧ c :: text = left := by
          simpa [lexExponent, notLower, notUpper] using split
        simp [lexExponent, notLower, notUpper]

theorem lexUnsigned_append {negative : Bool} {text left rest : List Char} {numeral : Numeral}
    (stops : Stops rest) (split : lexUnsigned negative text = some (numeral, left)) :
    lexUnsigned negative (text ++ rest) = some (numeral, left ++ rest) := by
  simp only [lexUnsigned, Option.bind_eq_bind, Option.bind_eq_some_iff] at split
  obtain ⟨⟨whole, afterWhole⟩, wholeEq, ⟨fraction, afterFraction⟩, fractionEq,
    ⟨exponent, afterExponent⟩, exponentEq, result⟩ := split
  obtain ⟨rfl, rfl⟩ : _ = numeral ∧ _ = left := by
    simpa using result
  simp only [lexUnsigned, lexWhole_append stops wholeEq, Option.bind_eq_bind, Option.bind_some,
    lexFraction_append stops fractionEq, lexExponent_append stops exponentEq]
  rfl

theorem lex_of_ne_minus {c : Char} {text : List Char} (notMinus : c ≠ '-') :
    lex (c :: text) = lexUnsigned false (c :: text) := by
  simp [lex, notMinus]

/-- A numeral is split off in front of any text that does not continue it. -/
theorem lex_append {text left rest : List Char} {numeral : Numeral} (stops : Stops rest)
    (split : lex text = some (numeral, left)) :
    lex (text ++ rest) = some (numeral, left ++ rest) := by
  cases text with
  | nil => simp [lex, lexUnsigned, lexWhole, spanDigits, List.span, List.span.loop] at split
  | cons c text =>
      by_cases minus : c = '-'
      · subst minus
        exact lexUnsigned_append stops split
      · rw [lex_of_ne_minus minus] at split
        rw [List.cons_append, lex_of_ne_minus minus]
        exact lexUnsigned_append stops split

/-- A numeral starts with a minus sign or a digit. -/
theorem head_of_lex {text left : List Char} {numeral : Numeral}
    (split : lex text = some (numeral, left)) :
    ∃ c rest, text = c :: rest ∧ (c = '-' ∨ c.isDigit = true) := by
  cases text with
  | nil => simp [lex, lexUnsigned, lexWhole, spanDigits, List.span, List.span.loop] at split
  | cons c rest =>
      refine ⟨c, rest, rfl, ?_⟩
      by_contra neither
      obtain ⟨notMinus, notDigit⟩ := not_or.mp neither
      simp [lex, notMinus, lexUnsigned, lexWhole, spanDigits,
        List.span_eq_takeWhile_dropWhile, notDigit] at split

/-- A number other than zero is not written with a zero in front. -/
theorem head_toDigits_ne {value : Nat} (positive : 0 < value) :
    (Nat.toDigits 10 value).head? ≠ some '0' := by
  induction value using Nat.strong_induction_on with
  | _ value induction =>
      rw [Nat.toDigits_eq_if (by decide)]
      split
      case isTrue small =>
        interval_cases value <;> decide
      case isFalse large =>
        have first := induction (value / 10) (by omega) (by omega)
        cases digits : Nat.toDigits 10 (value / 10) with
        | nil => exact absurd digits Nat.toDigits_ne_nil
        | cons c rest => simpa [digits] using first

/-- The numeral of an integer. -/
def ofInt (value : Int) : Numeral :=
  ⟨decide (value < 0), Nat.toDigits 10 value.natAbs, [], none⟩

theorem lexWhole_toDigits (value : Nat) :
    lexWhole (Nat.toDigits 10 value) = some (Nat.toDigits 10 value, []) := by
  have spanned : spanDigits (Nat.toDigits 10 value) = (Nat.toDigits 10 value, []) := by
    simpa [spanDigits] using
      @span_isDigit_append (Nat.toDigits 10 value) [] (areDigits_toDigits value) (by simp)
  rw [lexWhole, spanned]
  split
  case h_1 digits equal => simp at equal
  case h_2 c digits rest equal =>
    exfalso
    rw [Prod.mk.injEq] at equal
    rcases Nat.eq_zero_or_pos value with rfl | positive
    · simp at equal
    · exact head_toDigits_ne positive (by rw [equal.1]; rfl)
  case h_3 => rfl

/-- The text of an integer is a numeral. -/
theorem lex_toString (value : Int) :
    lex (toString value).toList = some (ofInt value, []) := by
  have unsigned (negative : Bool) (magnitude : Nat) :
      lexUnsigned negative (Nat.toDigits 10 magnitude) =
        some (⟨negative, Nat.toDigits 10 magnitude, [], none⟩, []) := by
    rw [lexUnsigned, lexWhole_toDigits]
    rfl
  rw [Int.toString_eq_repr, Int.repr_eq_if]
  split
  case isTrue nonnegative =>
    have notNegative : ¬ value < 0 := by omega
    have magnitude : value.natAbs = value.toNat := by omega
    rw [Nat.toList_repr]
    cases digits : Nat.toDigits 10 value.toNat with
    | nil => exact absurd digits Nat.toDigits_ne_nil
    | cons c rest =>
        have notMinus : c ≠ '-' := by
          rintro rfl
          exact absurd (areDigits_toDigits value.toNat '-' (by simp [digits])) (by decide)
        rw [lex_of_ne_minus notMinus, ← digits, unsigned]
        simp [ofInt, notNegative, magnitude]
  case isFalse negative =>
    have isNegative : value < 0 := by omega
    have magnitude : (-value).toNat = value.natAbs := by omega
    rw [String.toList_append, Nat.toList_repr, magnitude]
    change lexUnsigned true (Nat.toDigits 10 value.natAbs) = _
    rw [unsigned]
    simp [ofInt, isNegative]

theorem value?_ofInt_natural {value : Nat} (fits : value < word64) :
    (ofInt value).value? = some (.natural value) := by
  simp [value?, ofInt, isWhole, fits]

theorem value?_ofInt_negative {value : Int} (negative : value < 0) (fits : -half64 ≤ value) :
    (ofInt value).value? = some (.negative value) := by
  have small : value.natAbs < word64 := by
    simp only [half64, word64] at fits ⊢
    omega
  have inRange : value.natAbs ≠ 0 ∧ value.natAbs ≤ half64 := by omega
  simp [value?, ofInt, isWhole, small, negative, inRange, abs_of_neg negative]

end Json.Numeral

/-- The text of a value is a numeral that has `other` as its value. -/
def Binary64.ReadsAs (value other : Binary64) : Prop :=
  ∃ numeral, Json.Numeral.lex value.render = some (numeral, []) ∧
    numeral.value? = some (.real other)

/-- The text of a value is a numeral with the value itself as its value. -/
def Binary64.ReadsBack (value : Binary64) : Prop := value.ReadsAs value

end TriggerLedger
