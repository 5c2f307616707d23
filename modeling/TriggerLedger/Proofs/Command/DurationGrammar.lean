import TriggerLedger.Command.LookBack
import TriggerLedger.Proofs.Text.Digits
/-!
# The grammar of durations

A duration is an optional sign, decimal digits and the letter of a unit; without a letter
it counts days.  It is read if its number fits 64 bits and the span is not too long, and
what is read is then the exact product.
-/

namespace TriggerLedger.Command

/-- The signs of a number, each with the factor that it stands for. -/
def signs : List (List Char × Int) := [([], 1), (['+'], 1), (['-'], -1)]

/-- The letters of the units, each with its milliseconds; no letter stands for days. -/
def unitLetters : List (List Char × Int) :=
  [([], 24 * 60 * 60 * 1000), (['d'], 24 * 60 * 60 * 1000), (['h'], 60 * 60 * 1000),
    (['m'], 60 * 1000)]

/-- A text that writes an integer of any size: an optional sign and decimal digits. -/
def WritesInteger (text : List Char) (value : Int) : Prop :=
  ∃ sign factor digits, (sign, factor) ∈ signs ∧ digits ≠ [] ∧ Text.AreDigits digits ∧
    text = sign ++ digits ∧ value = factor * (Nat.ofDigitChars 10 digits 0 : Nat)

/-- A text that writes a number of units, where a unit is given in milliseconds. -/
def WritesDuration (text : List Char) (number unit : Int) : Prop :=
  ∃ integer letter, WritesInteger integer number ∧ (letter, unit) ∈ unitLetters ∧
    text = integer ++ letter

/-- A number of 64 bits with a sign. -/
def IsWord (number : Int) : Prop := -2 ^ 63 ≤ number ∧ number < 2 ^ 63

/-- Milliseconds that a span can have. -/
def IsSpanLength (milliseconds : Int) : Prop :=
  -(2 ^ 63 - 1) ≤ milliseconds ∧ milliseconds ≤ 2 ^ 63 - 1

instance (milliseconds : Int) : Decidable (IsSpanLength milliseconds) := instDecidableAnd

/-- The span that a trimmed text stands for: seven days if it is empty, else the exact product
of a number and a unit. -/
inductive Denotes : String → Span → Prop where
  | empty : Denotes "" (.ofMillis (7 * (24 * 60 * 60 * 1000)))
  | units {text : String} {number unit : Int} (written : WritesDuration text.toList number unit)
      (fits : IsWord number) (short : IsSpanLength (number * unit)) :
      Denotes text (.ofMillis (number * unit))

/-- What is wrong with a trimmed text that stands for no span. -/
inductive IsRefused : String → InvalidState → Prop where
  | noDuration {text : String} (present : text ≠ "")
      (refused : ∀ number unit, WritesDuration text.toList number unit → ¬ IsWord number) :
      IsRefused text (.duration text)
  | tooLong {text : String} {number unit : Int} (written : WritesDuration text.toList number unit)
      (fits : IsWord number) (long : ¬ IsSpanLength (number * unit)) :
      IsRefused text (.durationRange text)

/-! ## Numbers -/

theorem readMagnitude_eq_some_iff {digits : List Char} {magnitude : Nat} :
    readMagnitude digits = some magnitude ↔
      digits ≠ [] ∧ Text.AreDigits digits ∧ magnitude = Nat.ofDigitChars 10 digits 0 := by
  simp only [readMagnitude, Text.digitsValue_eq_ofDigitChars, Text.AreDigits]
  split
  case isTrue refused => grind
  case isFalse accepted => grind

/-- A number with a sign in front, if it fits 64 bits. -/
def readSigned (factor : Int) (digits : List Char) : Option Int :=
  ((readMagnitude digits).map fun magnitude : Nat => factor * magnitude).filter
    fun value => -(half64 : Int) ≤ value && value < (half64 : Int)

theorem readSigned_eq_some_iff {factor value : Int} {digits : List Char} :
    readSigned factor digits = some value ↔
      (digits ≠ [] ∧ Text.AreDigits digits ∧
        value = factor * (Nat.ofDigitChars 10 digits 0 : Nat)) ∧ IsWord value := by
  simp only [readSigned, Option.filter_eq_some_iff, Option.map_eq_some_iff,
    readMagnitude_eq_some_iff, Bool.and_eq_true, decide_eq_true_eq]
  constructor
  · rintro ⟨⟨magnitude, ⟨present, areDigits, rfl⟩, rfl⟩, fits⟩
    exact ⟨⟨present, areDigits, rfl⟩, fits⟩
  · rintro ⟨⟨present, areDigits, rfl⟩, fits⟩
    exact ⟨⟨_, ⟨present, areDigits, rfl⟩, rfl⟩, fits⟩

theorem map_readMagnitude (factor : Int → Int) (digits : List Char) :
    Option.map factor (do let magnitude ← readMagnitude digits; return (magnitude : Int)) =
      (readMagnitude digits).map fun magnitude : Nat => factor magnitude := by
  cases readMagnitude digits <;> rfl

/-- What stands before the digits decides the factor. -/
theorem exists_sign (text : List Char) :
    ∃ sign factor digits, (sign, factor) ∈ signs ∧ text = sign ++ digits ∧
      readInteger text = readSigned factor digits := by
  unfold readInteger
  simp only [map_readMagnitude]
  split
  case h_1 digits =>
    refine ⟨['-'], -1, digits, by decide, rfl, ?_⟩
    simp only [readSigned, Int.neg_one_mul]
  case h_2 digits =>
    refine ⟨['+'], 1, digits, by decide, rfl, ?_⟩
    simp only [readSigned, Int.one_mul]
  case h_3 =>
    refine ⟨[], 1, text, by decide, rfl, ?_⟩
    simp only [readSigned, Int.one_mul]

theorem readInteger_of_areDigits {digits : List Char} (areDigits : Text.AreDigits digits) :
    readInteger digits = readSigned 1 digits := by
  unfold readInteger
  simp only [map_readMagnitude]
  split
  case h_1 rest => exact absurd (areDigits '-' List.mem_cons_self) (by decide)
  case h_2 rest => exact absurd (areDigits '+' List.mem_cons_self) (by decide)
  case h_3 => simp only [readSigned, Int.one_mul]

/-- A sign is no digit, so the digits after a sign are read with it alone. -/
theorem readInteger_append {sign digits : List Char} {factor : Int}
    (known : (sign, factor) ∈ signs) (areDigits : Text.AreDigits digits) :
    readInteger (sign ++ digits) = readSigned factor digits := by
  simp only [signs, List.mem_cons, Prod.mk.injEq, List.not_mem_nil, or_false] at known
  obtain ⟨rfl, rfl⟩ | ⟨rfl, rfl⟩ | ⟨rfl, rfl⟩ := known
  · exact readInteger_of_areDigits areDigits
  · simp only [List.cons_append, List.nil_append, readInteger, map_readMagnitude, readSigned,
      Int.one_mul]
  · simp only [List.cons_append, List.nil_append, readInteger, map_readMagnitude, readSigned,
      Int.neg_one_mul]

theorem readInteger_eq_some_iff {text : List Char} {value : Int} :
    readInteger text = some value ↔ WritesInteger text value ∧ IsWord value := by
  constructor
  · intro read
    obtain ⟨sign, factor, digits, known, rfl, same⟩ := exists_sign text
    obtain ⟨⟨present, areDigits, isValue⟩, fits⟩ := readSigned_eq_some_iff.mp (same ▸ read)
    exact ⟨⟨sign, factor, digits, known, present, areDigits, rfl, isValue⟩, fits⟩
  · rintro ⟨⟨sign, factor, digits, known, present, areDigits, rfl, isValue⟩, fits⟩
    rw [readInteger_append known areDigits]
    exact readSigned_eq_some_iff.mpr ⟨⟨present, areDigits, isValue⟩, fits⟩

/-! ## Units -/

theorem WritesInteger.reverse {text : List Char} {value : Int} (written : WritesInteger text value) :
    ∃ digit reversed, digit.isDigit = true ∧ text.reverse = digit :: reversed := by
  obtain ⟨sign, -, digits, -, present, areDigits, rfl, -⟩ := written
  obtain ⟨digit, reversed, split⟩ := List.exists_cons_of_ne_nil (List.reverse_ne_nil_iff.mpr present)
  refine ⟨digit, reversed ++ sign.reverse, areDigits digit ?_, ?_⟩
  · exact List.mem_reverse.mp (split ▸ List.mem_cons_self)
  · rw [List.reverse_append, split, List.cons_append]

theorem WritesInteger.ne_nil {text : List Char} {value : Int} (written : WritesInteger text value) :
    text ≠ [] := by
  obtain ⟨digit, reversed, -, ending⟩ := written.reverse
  rintro rfl
  cases ending

/-- The unit of a duration stands at its end. -/
theorem splitUnit_spec (text : List Char) :
    ∃ letter, (letter, (splitUnit text).1) ∈ unitLetters ∧
      text = (splitUnit text).2 ++ letter := by
  have ending {letter : Char} {reversed : List Char} (known : text.reverse = letter :: reversed) :
      text = reversed.reverse ++ [letter] := by
    rw [← List.reverse_cons, ← known, List.reverse_reverse]
  unfold splitUnit
  split
  case h_1 known => exact ⟨['d'], by simp [unitLetters], ending known⟩
  case h_2 known => exact ⟨['h'], by simp [unitLetters], ending known⟩
  case h_3 known => exact ⟨['m'], by simp [unitLetters], ending known⟩
  case h_4 => exact ⟨[], by simp [unitLetters], (List.append_nil text).symm⟩

theorem splitUnit_of_isDigit {text reversed : List Char} {digit : Char}
    (ending : text.reverse = digit :: reversed) (isDigit : digit.isDigit = true) :
    splitUnit text = (86400000, text) := by
  have noLetter {letter : Char} {rest : List Char} (known : text.reverse = letter :: rest) :
      letter.isDigit = true := by
    rwa [← (List.cons.inj (ending.symm.trans known)).1]
  unfold splitUnit
  split
  case h_1 known => exact absurd (noLetter known) (by decide)
  case h_2 known => exact absurd (noLetter known) (by decide)
  case h_3 known => exact absurd (noLetter known) (by decide)
  case h_4 => rfl

/-- A number ends with a digit, which is no letter of a unit. -/
theorem splitUnit_append {integer letter : List Char} {number unit : Int}
    (written : WritesInteger integer number) (known : (letter, unit) ∈ unitLetters) :
    splitUnit (integer ++ letter) = (unit, integer) := by
  simp only [unitLetters, List.mem_cons, Prod.mk.injEq, List.not_mem_nil, or_false] at known
  obtain ⟨rfl, rfl⟩ | known := known
  · obtain ⟨digit, reversed, isDigit, ending⟩ := written.reverse
    rw [List.append_nil]
    exact splitUnit_of_isDigit ending isDigit
  · obtain ⟨rfl, rfl⟩ | ⟨rfl, rfl⟩ | ⟨rfl, rfl⟩ := known <;> simp [splitUnit]

theorem writesDuration_iff {text : List Char} {number unit : Int} :
    WritesDuration text number unit ↔
      WritesInteger (splitUnit text).2 number ∧ (splitUnit text).1 = unit := by
  constructor
  · rintro ⟨integer, letter, written, known, rfl⟩
    rw [splitUnit_append written known]
    exact ⟨written, rfl⟩
  · rintro ⟨written, rfl⟩
    obtain ⟨letter, known, whole⟩ := splitUnit_spec text
    exact ⟨(splitUnit text).2, letter, written, known, whole⟩

/-! ## Durations -/

/-- A duration that is read up to its range: its number fits 64 bits. -/
theorem readInteger_splitUnit_iff {text : List Char} {number unit : Int} :
    readInteger (splitUnit text).2 = some number ∧ (splitUnit text).1 = unit ↔
      WritesDuration text number unit ∧ IsWord number := by
  rw [readInteger_eq_some_iff, writesDuration_iff]
  exact and_right_comm

theorem WritesDuration.ne_nil {text : List Char} {number unit : Int}
    (written : WritesDuration text number unit) : text ≠ [] := by
  obtain ⟨integer, letter, written, -, rfl⟩ := written
  exact List.append_ne_nil_of_left_ne_nil written.ne_nil letter

theorem ofUnits?_eq (unit count : Int) :
    Span.ofUnits? unit count =
      if IsSpanLength (count * unit) then some (.ofMillis (count * unit)) else none :=
  rfl

theorem parseDuration_of_written {text : String} {number unit : Int}
    (written : WritesDuration (Text.trim text).toList number unit) (fits : IsWord number) :
    parseDuration text =
      if IsSpanLength (number * unit) then .ok (.ofMillis (number * unit))
      else .error (.invalidState (.durationRange (Text.trim text))) := by
  have present : Text.trim text ≠ "" := by
    intro empty
    exact written.ne_nil (by rw [empty]; rfl)
  obtain ⟨read, rfl⟩ := readInteger_splitUnit_iff.mpr ⟨written, fits⟩
  simp only [parseDuration, String.isEmpty_iff, if_neg present, read, ofUnits?_eq]
  by_cases short : IsSpanLength (number * (splitUnit (Text.trim text).toList).1)
  · simp only [if_pos short]
  · simp only [if_neg short]

theorem parseDuration_of_not_written {text : String} (present : Text.trim text ≠ "")
    (refused : ∀ number unit, WritesDuration (Text.trim text).toList number unit → ¬ IsWord number) :
    parseDuration text = .error (.invalidState (.duration (Text.trim text))) := by
  cases read : readInteger (splitUnit (Text.trim text).toList).2 with
  | none => simp only [parseDuration, String.isEmpty_iff, if_neg present, read]
  | some number =>
      obtain ⟨written, fits⟩ := readInteger_splitUnit_iff.mp ⟨read, rfl⟩
      exact absurd fits (refused number _ written)

theorem parseDuration_of_denotes {text trimmed : String} {span : Span}
    (denotes : Denotes trimmed span) (trims : Text.trim text = trimmed) :
    parseDuration text = .ok span := by
  cases denotes with
  | empty =>
      simp only [parseDuration, trims, String.isEmpty_iff, if_true]
      rfl
  | units written fits short =>
      subst trims
      rw [parseDuration_of_written written fits, if_pos short]

theorem parseDuration_of_isRefused {text trimmed : String} {state : InvalidState}
    (refused : IsRefused trimmed state) (trims : Text.trim text = trimmed) :
    parseDuration text = .error (.invalidState state) := by
  subst trims
  cases refused with
  | noDuration present refused => exact parseDuration_of_not_written present refused
  | tooLong written fits long => rw [parseDuration_of_written written fits, if_neg long]

/-- A trimmed text stands for a span or is refused. -/
theorem denotes_or_isRefused (text : String) :
    (∃ span, Denotes text span) ∨ ∃ state, IsRefused text state := by
  by_cases empty : text = ""
  · exact .inl ⟨_, empty ▸ Denotes.empty⟩
  by_cases read : ∃ number unit, WritesDuration text.toList number unit ∧ IsWord number
  · obtain ⟨number, unit, written, fits⟩ := read
    by_cases short : IsSpanLength (number * unit)
    · exact .inl ⟨_, .units written fits short⟩
    · exact .inr ⟨_, .tooLong written fits short⟩
  · exact .inr ⟨_, .noDuration empty fun number unit written fits =>
      read ⟨number, unit, written, fits⟩⟩

theorem parseDuration_eq_ok_iff {text : String} {span : Span} :
    parseDuration text = .ok span ↔ Denotes (Text.trim text) span := by
  refine ⟨fun parsed => ?_, fun denotes => parseDuration_of_denotes denotes rfl⟩
  obtain ⟨other, denotes⟩ | ⟨state, refused⟩ := denotes_or_isRefused (Text.trim text)
  · obtain rfl := Except.ok.inj (parsed.symm.trans (parseDuration_of_denotes denotes rfl))
    exact denotes
  · cases parsed.symm.trans (parseDuration_of_isRefused refused rfl)

theorem parseDuration_eq_error_iff {text : String} {failure : Failure} :
    parseDuration text = .error failure ↔
      ∃ state, failure = .invalidState state ∧ IsRefused (Text.trim text) state := by
  constructor
  · intro failed
    obtain ⟨span, denotes⟩ | ⟨state, refused⟩ := denotes_or_isRefused (Text.trim text)
    · cases failed.symm.trans (parseDuration_of_denotes denotes rfl)
    · exact ⟨state, Except.error.inj (failed.symm.trans (parseDuration_of_isRefused refused rfl)),
        refused⟩
  · rintro ⟨state, rfl, refused⟩
    exact parseDuration_of_isRefused refused rfl

/-- A duration is read exactly if what is left of it without the white space around it is
empty or an optional sign, decimal digits and at most one letter of a unit, with a number that
fits 64 bits and a span that is not too long.  What is read is seven days or the exact product,
and everything else is an invalid state that holds the text. -/
theorem parseDuration_follows_grammar (text : String) :
    (∀ span, parseDuration text = .ok span ↔ Denotes (Text.trim text) span) ∧
      ∀ failure, parseDuration text = .error failure ↔
        ∃ state, failure = .invalidState state ∧ IsRefused (Text.trim text) state :=
  ⟨fun _ => parseDuration_eq_ok_iff, fun _ => parseDuration_eq_error_iff⟩

-- The largest number of days that is short enough, and the next one.
example : parseDuration " +0106751991167d\n" = .ok (.ofMillis 9223372036828800000) := by
  decide +kernel

example : parseDuration "-106751991168" =
    .error (.invalidState (.durationRange "-106751991168")) := by
  decide +kernel

end TriggerLedger.Command
