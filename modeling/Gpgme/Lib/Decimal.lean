import Mathlib.Tactic.IntervalCases
import Gpgme.Lib.CString

/-! Numbers as `snprintf` writes them, and that `strtol` and `strtoul` read them back. -/

namespace CString

/-- What the conversion `%u` writes. -/
def decimal (n : Nat) : Str := (Nat.toDigits 10 n).map (fun c => UInt8.ofNat c.toNat)

/-- What the conversion `%i` writes. -/
def decimalInt (n : Int) : Str := if n < 0 then 45 :: decimal n.natAbs else decimal n.natAbs

/-- The code of a digit. -/
def digitCode (d : Nat) : UInt8 := UInt8.ofNat (48 + d)

theorem digitValue_digitCode {d : Nat} (small : d < 10) : digitValue (digitCode d) = d := by
  interval_cases d <;> rfl

theorem ofNat_digitChar {d : Nat} (small : d < 10)
    : UInt8.ofNat (Nat.digitChar d).toNat = digitCode d := by
  interval_cases d <;> rfl

theorem decimal_small {n : Nat} (small : n < 10) : decimal n = [digitCode n] := by
  rw [decimal, Nat.toDigits_of_lt_base small, List.map_singleton, ofNat_digitChar small]

theorem decimal_large {n : Nat} (large : 10 ≤ n)
    : decimal n = decimal (n / 10) ++ [digitCode (n % 10)] := by
  have last : n % 10 < 10 := Nat.mod_lt n (by omega)
  rw [decimal, Nat.toDigits_of_base_le (by omega) large, List.map_append, List.map_singleton,
    ofNat_digitChar last, decimal]

theorem decimal_digits (n : Nat)
    : ∃ first rest,
        decimal n = digitCode first :: rest
        ∧ first < 10
        ∧ (first = 0 → n = 0 ∧ rest = [])
        ∧ ∀ c ∈ rest, ∃ d < 10, c = digitCode d := by
  induction n using Nat.strongRecOn with
  | ind n ih =>
      rcases Nat.lt_or_ge n 10 with small | large
      · exact ⟨n, [], decimal_small small, small, fun zero => ⟨zero, rfl⟩, by simp⟩
      · obtain ⟨first, rest, digits, below, zero, others⟩ := ih (n / 10) (by omega)
        refine ⟨first, rest ++ [digitCode (n % 10)], ?_, below, ?_, ?_⟩
        · rw [decimal_large large, digits, List.cons_append]
        · intro none
          have short := (zero none).1
          omega
        · intro c member
          rcases List.mem_append.mp member with member | member
          · exact others c member
          · exact ⟨n % 10, Nat.mod_lt n (by omega), List.mem_singleton.mp member⟩

theorem scanDigits_concat {base value : Nat} {s : Str} {c : UInt8} {value' : Nat}
    (scanned : scanDigits base value s = (value', [])) (digit : digitValue c < base)
    : scanDigits base value (s ++ [c]) = (value' * base + digitValue c, []) := by
  induction s generalizing value with
  | nil =>
      rw [scanDigits] at scanned
      cases scanned
      rw [List.nil_append, scanDigits, if_pos digit, scanDigits]
  | cons d rest ih =>
      rw [scanDigits] at scanned
      split at scanned
      · next inside =>
          rw [List.cons_append, scanDigits, if_pos inside]
          exact ih scanned
      · cases scanned

theorem scanDigits_decimal (n : Nat) : scanDigits 10 0 (decimal n) = (n, []) := by
  induction n using Nat.strongRecOn with
  | ind n ih =>
      rcases Nat.lt_or_ge n 10 with small | large
      · have value := digitValue_digitCode small
        rw [decimal_small small, scanDigits, value, if_pos small, scanDigits]
        simp
      · have last : digitValue (digitCode (n % 10)) = n % 10 :=
          digitValue_digitCode (Nat.mod_lt n (by omega))
        rw [decimal_large large, scanDigits_concat (ih (n / 10) (by omega)) (by omega), last]
        congr 1
        omega

theorem scanNumber_signed {s : Str} {negative : Bool} {n : Nat}
    (signed : takeSign (s.dropWhile isspace) = (negative, decimal n))
    : scanNumber 0 s = some (negative, n, []) := by
  unfold scanNumber
  rw [signed]
  dsimp only
  by_cases none : n = 0
  · subst none
    rfl
  · obtain ⟨first, rest, digits, below, zero, _⟩ := decimal_digits n
    have selected : selectBase 0 (digitCode first :: rest) = (10, digitCode first :: rest) := by
      have positive : first ≠ 0 := fun first_zero => none (zero first_zero).1
      interval_cases first
      · exact absurd rfl positive
      all_goals rfl
    have digit : digitValue (digitCode first) < 10 := by
      rw [digitValue_digitCode below]
      exact below
    have scanned := scanDigits_decimal n
    rw [digits] at scanned ⊢
    simp only [selected, if_pos digit, scanned]

theorem takeSign_decimal (n : Nat)
    : takeSign ((decimal n).dropWhile isspace) = (false, decimal n) := by
  obtain ⟨first, rest, digits, below, _, _⟩ := decimal_digits n
  rw [digits]
  interval_cases first <;> rfl

theorem strtoul_decimal {n : Nat} (small : n ≤ maxUlong) : (strtoul 0 (decimal n)).value = n := by
  unfold strtoul
  rw [scanNumber_signed (takeSign_decimal n)]
  simp [Nat.not_lt.mpr small]

theorem strtol_decimalInt {n : Int} (low : minLong ≤ n) (high : n ≤ maxLong)
    : (strtol 0 (decimalInt n)).value = n := by
  have scanned : scanNumber 0 (decimalInt n) = some (decide (n < 0), n.natAbs, []) := by
    unfold decimalInt
    split
    · next negative =>
        rw [decide_eq_true negative]
        exact scanNumber_signed rfl
    · next positive =>
        rw [decide_eq_false positive]
        exact scanNumber_signed (takeSign_decimal n.natAbs)
  have value : (if decide (n < 0) = true then -(n.natAbs : Int) else n.natAbs) = n := by
    simp only [decide_eq_true_eq]
    split <;> omega
  unfold strtol
  simp only [scanned, value]
  rw [if_neg (by omega), if_neg (by omega)]

end CString
