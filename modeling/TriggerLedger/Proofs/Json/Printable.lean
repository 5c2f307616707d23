import TriggerLedger.Proofs.Json.Literal
import TriggerLedger.Proofs.Text.Digits
/-!
# Texts on one line

The compact text of a value has no control characters, whatever strings are in it.  So
it has no line feed, and stands on one line.
-/

namespace TriggerLedger

/-- A text without control characters. -/
def ArePrintable (text : List Char) : Prop := ∀ c ∈ text, 0x20 ≤ c.toNat

instance (text : List Char) : Decidable (ArePrintable text) :=
  List.decidableBAll (fun c : Char => 0x20 ≤ c.toNat) text

namespace ArePrintable

@[simp]
theorem nil : ArePrintable [] := by simp [ArePrintable]

@[simp]
theorem cons_iff {c : Char} {text : List Char} :
    ArePrintable (c :: text) ↔ 0x20 ≤ c.toNat ∧ ArePrintable text :=
  List.forall_mem_cons

@[simp]
theorem append_iff {first second : List Char} :
    ArePrintable (first ++ second) ↔ ArePrintable first ∧ ArePrintable second :=
  List.forall_mem_append

theorem of_subset {first second : List Char} (subset : first ⊆ second)
    (printable : ArePrintable second) : ArePrintable first :=
  fun c member => printable c (subset member)

theorem replicate {c : Char} (printable : 0x20 ≤ c.toNat) (count : Nat) :
    ArePrintable (List.replicate count c) := by
  intro other member
  rwa [List.eq_of_mem_replicate member]

theorem of_areDigits {text : List Char} (digits : Text.AreDigits text) : ArePrintable text := by
  intro c member
  have digit := digits c member
  simp only [Char.isDigit, Bool.and_eq_true, decide_eq_true_eq] at digit
  have least : ('0' : Char).toNat ≤ c.toNat := digit.1
  exact Nat.le_trans (by decide) least

theorem newline_not_mem {text : List Char} (printable : ArePrintable text) : '\n' ∉ text :=
  fun member => absurd (printable '\n' member) (by decide)

theorem toDigits (value : Nat) : ArePrintable (Nat.toDigits 10 value) :=
  of_areDigits (Text.areDigits_toDigits value)

theorem toString_int (value : Int) : ArePrintable (toString value).toList := by
  rw [Int.toString_eq_repr, Int.repr_eq_if]
  split
  · rw [Nat.toList_repr]
    exact toDigits _
  · rw [String.toList_append, Nat.toList_repr]
    exact append_iff.mpr ⟨by decide, toDigits _⟩

end ArePrintable

namespace Binary64

theorem arePrintable_dropFinalZeros {digits : List Char} (printable : ArePrintable digits) :
    ArePrintable (dropFinalZeros digits) := by
  have kept : (digits.reverse.dropWhile (· == '0')).reverse ⊆ digits := fun c member =>
    List.mem_reverse.mp ((List.dropWhile_sublist _).mem (List.mem_reverse.mp member))
  rw [dropFinalZeros]
  split
  · decide
  · exact printable.of_subset kept

theorem arePrintable_positional {number : Digits} (printable : ArePrintable number.digits) :
    ArePrintable number.positional := by
  have part (count : Nat) : ArePrintable (number.digits.take count) ∧
      ArePrintable (number.digits.drop count) :=
    ⟨printable.of_subset (List.take_subset count _), printable.of_subset (List.drop_subset count _)⟩
  have zeros (count : Nat) : ArePrintable (List.replicate count '0') := .replicate (by decide) count
  rw [Digits.positional]
  split
  · simp [zeros, printable]
  · dsimp only
    split <;> simp [zeros, part]

theorem arePrintable_scientific {number : Digits} (printable : ArePrintable number.digits) :
    ArePrintable number.scientific := by
  have part (count : Nat) : ArePrintable (number.digits.take count) ∧
      ArePrintable (number.digits.drop count) :=
    ⟨printable.of_subset (List.take_subset count _), printable.of_subset (List.drop_subset count _)⟩
  simp only [Digits.scientific]
  split <;> split <;> simp [part, ArePrintable.toDigits, -List.drop_one]

theorem arePrintable_render (value : Binary64) : ArePrintable value.render := by
  have digits : ArePrintable value.shortest.digits := by
    refine arePrintable_dropFinalZeros ?_
    rw [Nat.toString_eq_repr, Nat.toList_repr]
    exact .toDigits _
  have sign : ArePrintable (if value.negative then ['-'] else []) := by split <;> decide
  rw [render]
  dsimp only
  split
  · exact ArePrintable.append_iff.mpr ⟨sign, by decide⟩
  · refine ArePrintable.append_iff.mpr ⟨sign, ?_⟩
    split
    · exact arePrintable_positional digits
    · exact arePrintable_scientific digits

end Binary64

namespace Json

theorem Literal.arePrintable_hexChar (value : Nat) (small : value < 16) :
    0x20 ≤ (hexChar value).toNat := by
  decide +revert

theorem Literal.printable_of_shortEscape? {letter c : Char} (escaped : shortEscape? letter = some c) :
    0x20 ≤ letter.toNat := by
  unfold shortEscape? at escaped
  split at escaped <;> first | decide | cases escaped

/-- Control characters are written as escapes. -/
theorem Literal.arePrintable_escape (characters : List Char) :
    ArePrintable (escape characters) := by
  intro c member
  obtain ⟨original, -, written⟩ := List.mem_flatMap.mp member
  suffices printable : ArePrintable (escapeChar original) from printable c written
  rcases escapeChar_cases original with ⟨letter, short, -, text⟩ | ⟨control, text⟩ |
    ⟨-, -, plain, text⟩
  · rw [text]
    simp [printable_of_shortEscape? short]
  · rw [text]
    simp [arePrintable_hexChar (original.toNat / 16) (by omega),
      arePrintable_hexChar (original.toNat % 16) (by omega)]
  · rw [text]
    simpa using plain

theorem arePrintable_quoted (text : String) : ArePrintable (quoted text) := by
  simp [quoted, Literal.arePrintable_escape]

theorem arePrintable_leafText (value : Json) : ArePrintable value.leafText := by
  cases value with
  | null => decide
  | bool value => cases value <;> decide
  | integer value => exact .toString_int value
  | real value => exact Binary64.arePrintable_render value
  | string value => exact arePrintable_quoted value
  | array items => exact (by decide : ArePrintable ['[', ']'])
  | object members => exact (by decide : ArePrintable ['{', '}'])

mutual

/-- The compact text of a value has no control characters. -/
theorem arePrintable_compactChars : (value : Json) → ArePrintable value.compactChars
  | .array [] | .object [] | .null | .bool _ | .integer _ | .real _ | .string _ => by
      rw [compactChars]
      · exact arePrintable_leafText _
      all_goals simp
  | .array (item :: items) => by
      simp [compactChars, arePrintable_compactChars item, arePrintable_compactItems items]
  | .object ((name, value) :: members) => by
      simp [compactChars, arePrintable_quoted, arePrintable_compactChars value,
        arePrintable_compactMembers members]

theorem arePrintable_compactItems : (items : List Json) → ArePrintable (compactItems items)
  | [] => by decide
  | item :: items => by
      simp [compactItems, arePrintable_compactChars item, arePrintable_compactItems items]

theorem arePrintable_compactMembers :
    (members : List (String × Json)) → ArePrintable (compactMembers members)
  | [] => by decide
  | (name, value) :: members => by
      simp [compactMembers, arePrintable_quoted, arePrintable_compactChars value,
        arePrintable_compactMembers members]

end

end Json
end TriggerLedger
