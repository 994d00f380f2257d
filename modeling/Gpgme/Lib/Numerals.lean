import Mathlib.Tactic
import Gpgme.Lib.CString

/-! The numbers that strings of decimal digits denote, and that `strtoul` reads them. -/

namespace CString

def isDigit (c : UInt8) : Bool := 48 ≤ c && c ≤ 57

/-- The digits at the start of a string. -/
def leadingDigits (s : Str) : Str := s.takeWhile isDigit

/-- The number that follows from one that stands in front of more digits. -/
def numeralFrom (value : Nat) (digits : Str) : Nat :=
  digits.foldl (fun value c => value * 10 + (c.toNat - 48)) value

/-- The number that a string of digits denotes. -/
def numeral (digits : Str) : Nat := numeralFrom 0 digits

variable {c : UInt8} {s : Str}

/-- The digits in ASCII. -/
theorem isDigit_iff : isDigit c = true ↔ 48 ≤ c.toNat ∧ c.toNat ≤ 57 := by
  simp [isDigit, UInt8.le_iff_toNat_le]

/-- The value of a decimal digit. -/
theorem digitValue_of_isDigit (digit : isDigit c = true) : digitValue c = c.toNat - 48 := by
  rw [digitValue, if_pos]
  simpa [isDigit] using digit

/-- Every byte that is a digit in base 10 is a decimal digit. -/
theorem digitValue_lt_ten_iff : digitValue c < 10 ↔ isDigit c = true := by
  rw [isDigit_iff]
  simp only [digitValue, UInt8.le_iff_toNat_le, UInt8.reduceToNat]
  split_ifs <;> omega

/-- The scan for digits ends behind the leading ones, by induction on the string. -/
theorem scanDigits_leading (value : Nat) (s : Str)
    : scanDigits 10 value s = (numeralFrom value (leadingDigits s), s.dropWhile isDigit) := by
  induction s generalizing value with
  | nil => rfl
  | cons c s ih =>
      rw [scanDigits, leadingDigits]
      by_cases digit : isDigit c = true
      · rw [if_pos (digitValue_lt_ten_iff.mpr digit), ih, digitValue_of_isDigit digit,
          List.takeWhile_cons_of_pos digit, List.dropWhile_cons_of_pos digit]
        rfl
      · rw [if_neg (fun small => digit (digitValue_lt_ten_iff.mp small)),
          List.takeWhile_cons_of_neg digit, List.dropWhile_cons_of_neg digit]
        rfl

/-- A number without a sign in front of it. -/
theorem scanNumber_leading (digit : isDigit c = true)
    : scanNumber 10 (c :: s)
      = some (false, numeral (leadingDigits (c :: s)), (c :: s).dropWhile isDigit) := by
  obtain ⟨low, high⟩ := isDigit_iff.mp digit
  have noSpace : isspace c = false := by
    simp only [isspace, Bool.or_eq_false_iff, beq_eq_false_iff_ne, Bool.and_eq_false_iff,
      decide_eq_false_iff_not, UInt8.le_iff_toNat_le, UInt8.reduceToNat]
    refine ⟨?_, .inr (by omega)⟩
    rintro rfl
    exact absurd digit (by decide)
  have noSign : takeSign (c :: s) = (false, c :: s) := by
    unfold takeSign
    split
    · next same =>
        obtain ⟨rfl, -⟩ := List.cons.inj same
        exact absurd digit (by decide)
    · next same =>
        obtain ⟨rfl, -⟩ := List.cons.inj same
        exact absurd digit (by decide)
    · rfl
  have scanned := scanDigits_leading 0 (c :: s)
  simp only [scanNumber, List.dropWhile_cons_of_neg (Bool.eq_false_iff.mp noSpace), noSign,
    selectBase, if_pos (digitValue_lt_ten_iff.mpr digit), scanned]
  rfl

/-- The end of a number, which is followed by a suffix of the string. -/
theorem scanDigits_suffix (base value : Nat) (s : Str) : (scanDigits base value s).2 <:+ s := by
  induction s generalizing value with
  | nil => exact List.suffix_refl []
  | cons c s ih =>
      rw [scanDigits]
      split
      · exact (ih _).trans (List.suffix_cons c s)
      · exact List.suffix_refl _

/-- Behind the sign stands the end of the string. -/
theorem takeSign_suffix (s : Str) : (takeSign s).2 <:+ s := by
  unfold takeSign
  split
  · exact List.suffix_cons _ _
  · exact List.suffix_cons _ _
  · exact List.suffix_refl s

/-- `strtoul` stops within the string. -/
theorem strtoul_suffix (s : Str) : (strtoul 10 s).tail <:+ s := by
  have signed : (takeSign (s.dropWhile isspace)).2 <:+ s :=
    (takeSign_suffix _).trans (List.dropWhile_suffix _)
  have found : ∀ negative magnitude tail,
      scanNumber 10 s = some (negative, magnitude, tail) → tail <:+ s := by
    intro negative magnitude tail scanned
    simp only [scanNumber, selectBase] at scanned
    split at scanned
    · cases scanned
    · next c rest first =>
        split at scanned
        · cases scanned
          exact (scanDigits_suffix 10 0 _).trans signed
        · cases scanned
  unfold strtoul
  split
  · exact List.suffix_refl s
  · next scanned => split_ifs <;> exact found _ _ _ scanned

/-- `strtoul` reads a number without a sign, and stops behind its digits. -/
theorem strtoul_leading (digit : isDigit c = true)
    : (strtoul 10 (c :: s)).tail = (c :: s).dropWhile isDigit
      ∧ (numeral (leadingDigits (c :: s)) ≤ maxUlong →
          (strtoul 10 (c :: s)).value = numeral (leadingDigits (c :: s))) := by
  unfold strtoul
  rw [scanNumber_leading digit]
  dsimp only
  by_cases large : maxUlong < numeral (leadingDigits (c :: s))
  · rw [if_pos large]
    exact ⟨rfl, fun small => absurd large (Nat.not_lt.mpr small)⟩
  · rw [if_neg large]
    exact ⟨rfl, fun _ => rfl⟩

end CString
