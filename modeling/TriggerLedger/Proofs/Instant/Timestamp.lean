import TriggerLedger.Instant.Timestamp
import TriggerLedger.Proofs.Instant.Calendar
import TriggerLedger.Proofs.Json.Codecs
/-!
# Timestamps read back

The timestamp of an instant of the calendar is read as the same instant, to the
nanosecond.
-/

namespace TriggerLedger.Instant

open Text

theorem isBlank_of_isDigit {c : Char} (digit : c.isDigit = true) : isBlank c = false := by
  have bounds : 48 ≤ c.toNat ∧ c.toNat ≤ 57 := by
    simp only [Char.isDigit, Bool.and_eq_true, decide_eq_true_eq] at digit
    exact digit
  simp only [isBlank, Bool.or_eq_false_iff, Bool.and_eq_false_iff, decide_eq_false_iff_not,
    beq_eq_false_iff_ne, ne_eq]
  omega

theorem trimStart_cons {c : Char} {rest : List Char} (notBlank : isBlank c = false) :
    trimStart (c :: rest) = c :: rest := by
  simp [trimStart, notBlank]

theorem trimStart_digits {digits rest : List Char} (areDigits : AreDigits digits)
    (some : digits ≠ []) : trimStart (digits ++ rest) = digits ++ rest := by
  cases digits with
  | nil => exact absurd rfl some
  | cons c digits => exact trimStart_cons (isBlank_of_isDigit (areDigits c List.mem_cons_self))

/-- A number that fills its width is read, whatever comes after it. -/
theorem readNumber_padded {width value : Nat} {rest : List Char} (positive : 0 < width)
    (fits : value < 10 ^ width) :
    readNumber width (paddedDigits width value ++ rest) = some (value, rest) := by
  have areDigits := areDigits_paddedDigits width value
  have length := length_paddedDigits positive fits
  have taken : (paddedDigits width value ++ rest).take width = paddedDigits width value := by
    rw [List.take_append_of_le_length length.ge, List.take_of_length_le length.le]
  have all : (paddedDigits width value).takeWhile Char.isDigit = paddedDigits width value :=
    List.takeWhile_eq_self_iff.mpr areDigits
  simp [readNumber, trimStart_digits areDigits (paddedDigits_ne_nil width value), taken, all,
    paddedDigits_ne_nil]

theorem readDigits_padded {width value : Nat} {c : Char} {rest : List Char}
    (notDigit : c.isDigit = false) :
    readDigits (paddedDigits width value ++ c :: rest) = some (value, c :: rest) := by
  have stops : ∀ next ∈ (c :: rest).head?, next.isDigit = false := by simpa using notDigit
  rw [readDigits, span_isDigit_append (areDigits_paddedDigits width value) stops]
  cases digits : paddedDigits width value with
  | nil => exact absurd digits (paddedDigits_ne_nil width value)
  | cons first others =>
      simp [← digits]

theorem readMark_cons (mark : Char) {rest : List Char} (notBlank : isBlank mark = false) :
    readMark mark (mark :: rest) = some rest := by
  simp [readMark, trimStart_cons notBlank]

theorem readYear_minus {rest : List Char} :
    readYear ('-' :: rest) = (readDigits rest).map fun (year, rest) => (-(year : Int), rest) := by
  simp [readYear, trimStart_cons (c := '-') rfl]

theorem readYear_plus {rest : List Char} :
    readYear ('+' :: rest) = (readDigits rest).map fun (year, rest) => ((year : Int), rest) := by
  simp [readYear, trimStart_cons (c := '+') rfl]

theorem readYear_padded {width value : Nat} {rest : List Char} :
    readYear (paddedDigits width value ++ rest) =
      (readNumber 4 (paddedDigits width value ++ rest)).map fun (year, rest) =>
        ((year : Int), rest) := by
  have areDigits := areDigits_paddedDigits width value
  rw [readYear, trimStart_digits areDigits (paddedDigits_ne_nil width value)]
  cases digits : paddedDigits width value with
  | nil => exact absurd digits (paddedDigits_ne_nil width value)
  | cons c others =>
      have digit : c.isDigit = true := areDigits c (by simp [digits])
      have notMinus : c ≠ '-' := by rintro rfl; simp at digit
      have notPlus : c ≠ '+' := by rintro rfl; simp at digit
      simp [notMinus, notPlus]

/-- Every year is read back in front of a hyphen. -/
theorem readYear_yearText (year : Int) (rest : List Char) :
    readYear ((yearText year).toList ++ '-' :: rest) = some (year, '-' :: rest) := by
  rw [yearText]
  split
  case isTrue plain =>
    rw [toList_zeroPadded, readYear_padded, readNumber_padded (by decide) (by omega)]
    simp [plain.1]
  case isFalse signed =>
    rw [String.toList_append, toList_zeroPadded, List.append_assoc]
    split
    case isTrue negative =>
      change readYear ('-' :: (paddedDigits 4 year.natAbs ++ '-' :: rest)) = _
      rw [readYear_minus, readDigits_padded rfl]
      simp [abs_of_neg negative]
    case isFalse positive =>
      change readYear ('+' :: (paddedDigits 4 year.natAbs ++ '-' :: rest)) = _
      rw [readYear_plus, readDigits_padded rfl]
      simp [abs_of_nonneg (not_lt.mp positive)]

theorem inCalendar_iff {instant : Instant} :
    instant.inCalendar = true ↔
      earliest.nanoseconds ≤ instant.nanoseconds ∧ instant.nanoseconds ≤ latest.nanoseconds := by
  simp [inCalendar]

theorem year_date {instant : Instant} (inside : instant.inCalendar = true) :
    firstYear ≤ instant.date.year ∧ instant.date.year ≤ lastYear := by
  obtain ⟨low, high⟩ := inCalendar_iff.mp inside
  simp only [earliest, latest, nanosPerDay, secondsPerDay, nanosPerSecond] at low high
  refine Date.year_ofDayNumber ?_ ?_ <;> simp only [nanosPerDay, secondsPerDay, nanosPerSecond] <;>
    omega

theorem readDate_dateText {instant : Instant} (inside : instant.inCalendar = true)
    (rest : List Char) :
    readDate (instant.dateText.toList ++ rest) = some (instant.date, rest) := by
  have valid : instant.date.isValid = true := Date.isValid_ofDayNumber _
  have years := year_date inside
  have bounds : instant.date.month < 10 ^ 2 ∧ instant.date.day < 10 ^ 2 := by
    have days := valid
    simp only [Date.isValid, Bool.and_eq_true, decide_eq_true_eq] at days
    have month : Date.monthLength instant.date.year instant.date.month ≤ 31 := by
      unfold Date.monthLength
      split
      · split <;> omega
      · omega
      · omega
      · omega
      · omega
      · omega
    omega
  have text : instant.dateText.toList ++ rest =
      (yearText instant.date.year).toList ++ '-' :: (paddedDigits 2 instant.date.month ++
        '-' :: (paddedDigits 2 instant.date.day ++ rest)) := by
    simp [dateText, toList_zeroPadded]
  simp only [text, readDate, readYear_yearText, readMark_cons '-' rfl,
    readNumber_padded (by decide : 0 < 2) bounds.1, readNumber_padded (by decide : 0 < 2) bounds.2,
    Option.bind_eq_bind, Option.bind_some]
  rw [if_pos ⟨valid, years⟩]
  rfl

theorem readFraction_fractionText {nanoseconds : Nat} (small : nanoseconds < 10 ^ 9)
    (rest : List Char) :
    readFraction ((fractionText nanoseconds).toList ++ 'Z' :: rest) =
      some (nanoseconds, 'Z' :: rest) := by
  have read {width value : Nat} (positive : 0 < width) (narrow : width ≤ 9)
      (fits : value < 10 ^ width) :
      readFraction ('.' :: (paddedDigits width value ++ 'Z' :: rest)) =
        some (value * tenPow (9 - width), 'Z' :: rest) := by
    have length := length_paddedDigits positive fits
    have kept : (paddedDigits width value).take 9 = paddedDigits width value :=
      List.take_of_length_le (by omega)
    rw [readFraction, span_isDigit_append (areDigits_paddedDigits width value) (by simp)]
    cases digits : paddedDigits width value with
    | nil => exact absurd digits (paddedDigits_ne_nil width value)
    | cons first others =>
        simp only [← digits, kept, digitsValue_paddedDigits, length]
  have point (text : String) : ("." ++ text).toList = '.' :: text.toList := by simp
  rw [fractionText]
  split_ifs with none thousands hundreds
  · simp [readFraction, none]
  · rw [point, toList_zeroPadded, List.cons_append, read (by decide) (by decide) (by omega)]
    simp [tenPow]
    omega
  · rw [point, toList_zeroPadded, List.cons_append, read (by decide) (by decide) (by omega)]
    simp [tenPow]
    omega
  · rw [point, toList_zeroPadded, List.cons_append, read (by decide) (by decide) (by omega)]
    simp [tenPow]

theorem readTime_timeText (instant : Instant) (rest : List Char) :
    readTime (instant.timeText.toList ++
        ((fractionText instant.nanosOfSecond).toList ++ 'Z' :: rest)) =
      some (instant.nanosOfDay, 'Z' :: rest) := by
  have day : instant.nanosOfDay < 86400000000000 := by
    simp only [nanosOfDay, nanosPerDay, secondsPerDay, nanosPerSecond]
    omega
  have hours : instant.hour < 24 := by
    simp only [hour]
    omega
  have minutes : instant.minute < 60 := by
    simp only [minute]
    omega
  have seconds : instant.second < 60 := by
    simp only [second]
    omega
  have nanoseconds : instant.nanosOfSecond < 10 ^ 9 := by
    simp only [nanosOfSecond]
    omega
  have text : instant.timeText.toList ++
      ((fractionText instant.nanosOfSecond).toList ++ 'Z' :: rest) =
      paddedDigits 2 instant.hour ++ ':' :: (paddedDigits 2 instant.minute ++
        ':' :: (paddedDigits 2 instant.second ++
          ((fractionText instant.nanosOfSecond).toList ++ 'Z' :: rest))) := by
    simp [timeText, hourMinuteText, toList_zeroPadded]
  have sum : ((instant.hour * 60 + instant.minute) * 60 + instant.second) * 1000000000 +
      instant.nanosOfSecond = instant.nanosOfDay := by
    simp only [hour, minute, second, nanosOfSecond]
    omega
  simp only [text, readTime, readMark_cons ':' rfl,
    readNumber_padded (by decide : 0 < 2) (by omega : instant.hour < 10 ^ 2),
    readNumber_padded (by decide : 0 < 2) (by omega : instant.minute < 10 ^ 2),
    readNumber_padded (by decide : 0 < 2) (by omega : instant.second < 10 ^ 2),
    readFraction_fractionText nanoseconds, Option.bind_eq_bind, Option.bind_some]
  rw [if_pos ⟨hours, minutes, by omega⟩, sum]
  rfl

/-- The timestamp of an instant of the calendar is read as that instant. -/
theorem readTimestamp_timestamp {instant : Instant} (inside : instant.inCalendar = true) :
    readTimestamp instant.timestamp.toList = some instant := by
  have text : instant.timestamp.toList = instant.dateText.toList ++ 'T' ::
      (instant.timeText.toList ++ ((fractionText instant.nanosOfSecond).toList ++ ['Z'])) := by
    simp [timestamp]
  have number : instant.date.toDayNumber * nanosPerDay + instant.nanosOfDay - 0 * nanosPerSecond =
      instant.nanoseconds := by
    rw [date, Date.toDayNumber_ofDayNumber]
    simp only [nanosOfDay, nanosPerDay, secondsPerDay, nanosPerSecond]
    omega
  rw [text]
  simp only [readTimestamp, readDate_dateText inside, readTimeMark, readTime_timeText,
    trimStart_cons (c := 'Z') rfl, readOffset, Option.bind_eq_bind, Option.bind_some, number]
  simp [trimStart, inside]

theorem codec_readsBack {instant : Instant} {depth : Nat} (inside : instant.inCalendar = true) :
    codec.ReadsBack depth instant where
  readable := trivial
  decode _ := by simp [codec, Json.toNode, readTimestamp_timestamp inside]

end TriggerLedger.Instant
