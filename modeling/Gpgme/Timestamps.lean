import Mathlib.Data.List.GetD
import Gpgme.Lib.Numerals
import Gpgme.Operation.VerifySafety

/-! Where `_gpgme_parse_timestamp` reports that it stopped, and which time it returns. -/

namespace Gpgme

open CString

variable {s text : Str}

-----------------------------------------------------------------------------------------
-- What the strings denote
-----------------------------------------------------------------------------------------

/-- The test of the function for the ISO 8601 format. -/
def LooksLikeDate (s : Str) : Prop := 15 ≤ s.length ∧ s.getD 8 0 = 84

instance (s : Str) : Decidable (LooksLikeDate s) := inferInstanceAs (Decidable (_ ∧ _))

/-- The positions of the digits of `YYYYMMDDThhmmss`. -/
def datePositions : List Nat := [0, 1, 2, 3, 4, 5, 6, 7, 9, 10, 11, 12, 13, 14]

/-- The string starts with `YYYYMMDDThhmmss`, in digits. -/
def StartsWithDate (s : Str) : Prop :=
  LooksLikeDate s ∧ ∀ pos ∈ datePositions, isDigit (s.getD pos 0) = true

instance (s : Str) : Decidable (StartsWithDate s) := inferInstanceAs (Decidable (_ ∧ _))

def StartsWithDigit (s : Str) : Prop := isDigit (s.getD 0 0) = true

instance (s : Str) : Decidable (StartsWithDigit s) := inferInstanceAs (Decidable (_ = _))

/-- The number in a field of a date. -/
def dateField (s : Str) (pos length : Nat) : Nat := numeral ((s.drop pos).take length)

/-- The time of a date at the start of the string. -/
def dateTime (s : Str) : Int :=
  timegm (dateField s 0 4) (dateField s 4 2 - 1 : Int) (dateField s 6 2) (dateField s 9 2)
    (dateField s 11 2) (dateField s 13 2)

/-- The text of the time at the start of a string: a date, else a decimal number, else whatever
the function reads there.
-/
def timeText (s : Str) : Str :=
  if StartsWithDate s then s.take 15
  else if StartsWithDigit s then leadingDigits s
  else if LooksLikeDate s then s.take 15
  else s.take (s.length - (strtoul 10 s).tail.length)

/-- The end pointers that `_gpgme_parse_timestamp_ul` looks at. -/
def timestampUlReads (timestamp : Str) : List TailRead :=
  if timestamp = [] then [] else timestampRead timestamp .uninitialised

/-- The end pointers that `parse_sig_created` looks at behind the timestamp; before it the variable
points to the end of the number in front of it.
-/
def sigCreatedReads (args : Str) : List TailRead := timestampRead args .leftOver

/-- The promise for a string with its leading blanks removed. The end is assigned, only the text of
the time stands in front of it, and that is the time which is returned.
-/
structure ReportsEnd (text : Str) : Prop where
  assigned : ∃ tail, (parseTimestamp text).2 = some tail
    ∧ skipBlanks text = timeText (skipBlanks text) ++ tail
  date : StartsWithDate (skipBlanks text) → 1900 ≤ dateField (skipBlanks text) 0 4 →
    (parseTimestamp text).1 = dateTime (skipBlanks text)
  number : StartsWithDigit (skipBlanks text) → ¬StartsWithDate (skipBlanks text) →
    numeral (leadingDigits (skipBlanks text)) < 2 ^ 63 →
    (parseTimestamp text).1 = numeral (leadingDigits (skipBlanks text))
  callers : ∀ read ∈ timestampUlReads text ++ sigCreatedReads text, read = .assigned

-----------------------------------------------------------------------------------------
-- Fields of dates
-----------------------------------------------------------------------------------------

/-- The value of a digit. -/
theorem atoi1_of_isDigit {c : UInt8} (digit : isDigit c = true)
    : atoi1 c = ((c.toNat - 48 : Nat) : Int) := by
  obtain ⟨low, high⟩ := isDigit_iff.mp digit
  have plain : c < 128 := by
    rw [UInt8.lt_iff_toNat_lt]
    exact Nat.lt_of_le_of_lt high (by decide)
  rw [atoi1, if_pos plain]
  omega

/-- The bytes of a field that lies within the string. -/
theorem take_two {pos : Nat} (inside : pos + 1 < s.length)
    : (s.drop pos).take 2 = [s.getD pos 0, s.getD (pos + 1) 0] := by
  rw [List.getD_eq_getElem s 0 (by omega : pos < s.length), List.getD_eq_getElem s 0 inside,
    List.drop_eq_getElem_cons (by omega : pos < s.length), List.drop_eq_getElem_cons inside]
  rfl

/-- Two digits are read as their number. -/
theorem atoi2_digits {pos : Nat} (inside : pos + 1 < s.length)
    (first : isDigit (s.getD pos 0) = true) (second : isDigit (s.getD (pos + 1) 0) = true)
    : atoi2 s pos = dateField s pos 2 := by
  rw [atoi2, atoi1_of_isDigit first, atoi1_of_isDigit second, dateField, take_two inside, numeral]
  simp only [numeralFrom, List.foldl_cons, List.foldl_nil]
  push_cast
  ring

/-- Four digits are read as their number. -/
theorem atoi4_digits (inside : 3 < s.length) (digits : ∀ pos < 4, isDigit (s.getD pos 0) = true)
    : atoi4 s 0 = dateField s 0 4 := by
  have whole : (s.drop 0).take 4 = (s.drop 0).take 2 ++ (s.drop 2).take 2 := by
    rw [List.drop_zero, ← List.take_add]
  rw [atoi4, atoi2_digits (by omega) (digits 0 (by omega)) (digits 1 (by omega)),
    atoi2_digits (by omega) (digits 2 (by omega)) (digits 3 (by omega)), dateField, dateField,
    dateField, whole, take_two (by omega), take_two (by omega)]
  simp only [numeral, numeralFrom, List.cons_append, List.nil_append, List.foldl_cons,
    List.foldl_nil]
  push_cast
  ring

/-- A date is computed from the numbers in its fields. -/
theorem StartsWithDate.fields (date : StartsWithDate s)
    : atoi4 s 0 = dateField s 0 4
      ∧ timegm (atoi4 s 0) (atoi2 s 4 - 1) (atoi2 s 6) (atoi2 s 9) (atoi2 s 11) (atoi2 s 13)
        = dateTime s := by
  obtain ⟨⟨long, -⟩, digits⟩ := date
  have year := atoi4_digits (s := s) (by omega) fun pos below =>
    digits pos (by simp [datePositions]; omega)
  have field : ∀ pos ∈ [4, 6, 9, 11, 13], atoi2 s pos = dateField s pos 2 := by
    intro pos member
    simp only [List.mem_cons, List.not_mem_nil, or_false] at member
    exact atoi2_digits (by omega) (digits pos (by simp [datePositions]; omega))
      (digits (pos + 1) (by simp [datePositions]; omega))
  refine ⟨year, ?_⟩
  rw [year, field 4 (by decide), field 6 (by decide), field 9 (by decide), field 11 (by decide),
    field 13 (by decide), dateTime]

-----------------------------------------------------------------------------------------
-- The outcomes of the function
-----------------------------------------------------------------------------------------

/-- The function behind the blanks. -/
theorem parseTimestamp_behind (filled : skipBlanks text ≠ [])
    : parseTimestamp text
      = if LooksLikeDate (skipBlanks text) then
          if atoi4 (skipBlanks text) 0 < 1900 then (-1, none)
          else
            (timegm (atoi4 (skipBlanks text) 0) (atoi2 (skipBlanks text) 4 - 1)
              (atoi2 (skipBlanks text) 6) (atoi2 (skipBlanks text) 9)
              (atoi2 (skipBlanks text) 11) (atoi2 (skipBlanks text) 13),
              some ((skipBlanks text).drop 15))
        else
          (CInt.toOff (strtoul 10 (skipBlanks text)).value,
            some (strtoul 10 (skipBlanks text)).tail) := by
  unfold parseTimestamp
  split
  · next empty => exact absurd empty filled
  · rfl

/-- An end that is assigned is the one that the callers look at. -/
theorem callers_read_assigned {tail : Str} (assigned : (parseTimestamp text).2 = some tail)
    : ∀ read ∈ timestampUlReads text ++ sigCreatedReads text, read = .assigned := by
  have either : ∀ before, ∀ read ∈ timestampRead text before, read = .assigned := by
    intro before read member
    unfold timestampRead at member
    simp only [assigned, Option.isSome_some, if_true] at member
    split at member
    · exact absurd member List.not_mem_nil
    · exact List.mem_singleton.mp member
  intro read member
  rcases List.mem_append.mp member with member | member
  · unfold timestampUlReads at member
    split at member
    · exact absurd member List.not_mem_nil
    · exact either _ _ member
  · exact either _ _ member

/-- A number at the start, as `strtoul` reads it. -/
theorem StartsWithDigit.strtoul (digit : StartsWithDigit s)
    : (strtoul 10 s).tail = s.dropWhile isDigit
      ∧ (numeral (leadingDigits s) ≤ maxUlong →
          (CString.strtoul 10 s).value = numeral (leadingDigits s)) := by
  cases s with
  | nil => exact absurd digit (by decide)
  | cons c rest => exact strtoul_leading digit

/-- The end that the function assigns behind a decimal number or other text. -/
theorem strtoul_text (s : Str) (noDate : ¬LooksLikeDate s)
    : s = timeText s ++ (strtoul 10 s).tail := by
  have noDate' : ¬StartsWithDate s := fun date => noDate date.1
  rw [timeText, if_neg noDate']
  by_cases digit : StartsWithDigit s
  · rw [if_pos digit]
    rw [digit.strtoul.1, leadingDigits, List.takeWhile_append_dropWhile]
  · rw [if_neg digit, if_neg noDate]
    obtain ⟨front, whole⟩ := strtoul_suffix s
    generalize (strtoul 10 s).tail = tail at whole
    subst whole
    rw [List.length_append, Nat.add_sub_cancel, List.take_left]

-----------------------------------------------------------------------------------------
-- When the end is reported
-----------------------------------------------------------------------------------------

/-- The strings for which the promise is kept: there is something behind the blanks, and what looks
like a date is not older than 1900 and, where it starts with a digit, has digits in all its fields.
-/
def TimestampSound (s : Str) : Prop :=
  s ≠ []
  ∧ (LooksLikeDate s → 1900 ≤ atoi4 s 0)
  ∧ (LooksLikeDate s → StartsWithDigit s → StartsWithDate s)

instance (s : Str) : Decidable (TimestampSound s) := inferInstanceAs (Decidable (_ ∧ _))

/-- The digits of a number that only looks like a date end in front of the `T`. -/
theorem leadingDigits_short (date : LooksLikeDate s) : (leadingDigits s).length ≤ 8 := by
  by_contra long
  rw [Nat.not_le] at long
  have inside : 8 < s.length := Nat.lt_of_lt_of_le (by decide) date.1
  have digit : isDigit (leadingDigits s)[8] = true := List.mem_takeWhile_imp (List.getElem_mem long)
  have same : (leadingDigits s)[8] = s[8] := (List.takeWhile_prefix isDigit).getElem long
  have letter : s[8] = 84 := (List.getD_eq_getElem s 0 _).symm.trans date.2
  rw [same, letter] at digit
  exact absurd digit (by decide)

/-- The end is reported for these strings. -/
theorem TimestampSound.reportsEnd (sound : TimestampSound (skipBlanks text)) : ReportsEnd text := by
  obtain ⟨filled, modern, digits⟩ := sound
  have parsed := parseTimestamp_behind filled
  by_cases date : LooksLikeDate (skipBlanks text)
  · rw [if_pos date, if_neg (by have := modern date; omega)] at parsed
    have assigned : (parseTimestamp text).2 = some ((skipBlanks text).drop 15) := by rw [parsed]
    have taken : timeText (skipBlanks text) = (skipBlanks text).take 15 := by
      unfold timeText
      by_cases digit : StartsWithDigit (skipBlanks text)
      · rw [if_pos (digits date digit)]
      · rw [if_neg digit, if_pos date, ite_self]
    refine ⟨⟨_, assigned, ?_⟩, ?_, ?_, callers_read_assigned assigned⟩
    · rw [taken, List.take_append_drop]
    · intro starts _
      rw [parsed, ← starts.fields.2]
    · exact fun digit other => absurd (digits date digit) other
  · rw [if_neg date] at parsed
    have assigned : (parseTimestamp text).2 = some (strtoul 10 (skipBlanks text)).tail := by
      rw [parsed]
    refine ⟨⟨_, assigned, strtoul_text _ date⟩, ?_, ?_, callers_read_assigned assigned⟩
    · exact fun starts => absurd starts.1 date
    · intro digit _ small
      rw [parsed]
      rw [digit.strtoul.2 (by unfold maxUlong; omega)]
      unfold CInt.toOff
      omega

/-- The function reports where it stopped, and the time, for exactly these strings. -/
theorem reportsEnd_iff (text : Str) : ReportsEnd text ↔ TimestampSound (skipBlanks text) := by
  refine ⟨fun reports => ?_, TimestampSound.reportsEnd⟩
  obtain ⟨tail, assigned, text_tail⟩ := reports.assigned
  have filled : skipBlanks text ≠ [] := by
    intro empty
    rw [parseTimestamp_blank empty] at assigned
    exact absurd assigned (by simp)
  have parsed := parseTimestamp_behind filled
  by_cases date : LooksLikeDate (skipBlanks text)
  · rw [if_pos date] at parsed
    by_cases ancient : atoi4 (skipBlanks text) 0 < 1900
    · rw [parsed, if_pos ancient] at assigned
      exact absurd assigned (by simp)
    rw [if_neg ancient] at parsed
    refine ⟨filled, fun _ => Int.not_lt.mp ancient, fun _ digit => ?_⟩
    -- A number of at most eight digits is not all that stands in front of the end.
    by_contra other
    rw [parsed] at assigned
    obtain rfl := Option.some.inj assigned
    have lengths := congrArg List.length text_tail
    rw [timeText, if_neg other, if_pos digit, List.length_append, List.length_drop] at lengths
    have short := leadingDigits_short date
    have long := date.1
    omega
  · exact ⟨filled, fun looks => absurd looks date, fun looks => absurd looks date⟩

/-- A blank and a date of 1899 leave the end pointer alone. A number in front of a `T` is taken for
a date, whose fields are computed from letters.
-/
theorem timestamp_ends_not_reported
    : ¬ReportsEnd (str " ") ∧ ¬ReportsEnd (str "18991231T235959")
      ∧ ¬ReportsEnd (str "20390815Tacct-7") := by
  refine ⟨fun reports => ?_, fun reports => ?_, fun reports => ?_⟩
  · obtain ⟨tail, assigned, -⟩ := reports.assigned
    exact absurd (show none = some tail from assigned) (by simp)
  · obtain ⟨tail, assigned, -⟩ := reports.assigned
    exact absurd (show none = some tail from assigned) (by simp)
  · exact absurd (reports.number (by decide) (by decide) (by decide)) (by decide)

end Gpgme
