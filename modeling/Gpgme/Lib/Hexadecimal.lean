import Gpgme.Lib.Decimal

/-! Numbers in hexadecimal and decimal notation, and functions that read them. -/

namespace CString

/-- What the conversion `%x` writes. -/
def hexadecimal (n : Nat) : Str := (Nat.toDigits 16 n).map (fun c => UInt8.ofNat c.toNat)

/-- The number that a sequence of digits denotes. -/
def digitsValue (base : Nat) (digits : Str) : Nat :=
  digits.foldl (fun value c => value * base + digitValue c) 0

/-- A number without a sign, and nothing behind it. -/
def readDigits (base : Nat) (s : Str) : Option Nat :=
  if s ≠ [] ∧ s.all fun c => digitValue c < base then some (digitsValue base s) else none

/-- A hexadecimal number, with `0x` in front of it or not. -/
def readHexadecimal (s : Str) : Option Nat :=
  readDigits 16 (if startsWith s [48, 120] then s.drop 2 else s)

def readDecimal (s : Str) : Option Nat := readDigits 10 s

theorem digitValue_hexDigit {d : Nat} (small : d < 16)
    : digitValue (UInt8.ofNat (Nat.digitChar d).toNat) = d := by
  interval_cases d <;> rfl

theorem hexadecimal_small {n : Nat} (small : n < 16)
    : hexadecimal n = [UInt8.ofNat (Nat.digitChar n).toNat] := by
  rw [hexadecimal, Nat.toDigits_of_lt_base small, List.map_singleton]

theorem hexadecimal_large {n : Nat} (large : 16 ≤ n)
    : hexadecimal n
      = hexadecimal (n / 16) ++ [UInt8.ofNat (Nat.digitChar (n % 16)).toNat] := by
  rw [hexadecimal, Nat.toDigits_of_base_le (by omega) large, List.map_append, List.map_singleton,
    hexadecimal]

theorem hexadecimal_spec (n : Nat)
    : hexadecimal n ≠ []
      ∧ (∀ c ∈ hexadecimal n, digitValue c < 16)
      ∧ digitsValue 16 (hexadecimal n) = n := by
  induction n using Nat.strong_induction_on with
  | _ n ih =>
      by_cases small : n < 16
      · rw [hexadecimal_small small]
        refine ⟨by simp, ?_, ?_⟩
        · intro c member
          rw [List.mem_singleton.mp member, digitValue_hexDigit small]
          exact small
        · simp [digitsValue, digitValue_hexDigit small]
      · have last : n % 16 < 16 := Nat.mod_lt n (by omega)
        obtain ⟨-, digits, value⟩ := ih (n / 16) (by omega)
        rw [hexadecimal_large (by omega)]
        refine ⟨by simp, ?_, ?_⟩
        · intro c member
          rcases List.mem_append.mp member with before | now
          · exact digits c before
          · rw [List.mem_singleton.mp now, digitValue_hexDigit last]
            exact last
        · unfold digitsValue at value ⊢
          rw [List.foldl_append, value, List.foldl_cons, List.foldl_nil, digitValue_hexDigit last]
          omega

theorem length_hexadecimal {k n : Nat} (bound : n < 16 ^ (k + 1))
    : (hexadecimal n).length ≤ k + 1 := by
  induction k generalizing n with
  | zero =>
      rw [hexadecimal_small (by simpa using bound)]
      simp
  | succ k ih =>
      by_cases small : n < 16
      · rw [hexadecimal_small small]
        simp
      · rw [hexadecimal_large (by omega), List.length_append, List.length_singleton]
        have less : n / 16 < 16 ^ (k + 1) := by
          rw [Nat.div_lt_iff_lt_mul (by omega), ← Nat.pow_succ]
          exact bound
        exact Nat.succ_le_succ (ih less)

theorem length_decimal {k n : Nat} (bound : n < 10 ^ (k + 1)) : (decimal n).length ≤ k + 1 := by
  induction k generalizing n with
  | zero =>
      rw [decimal_small (by simpa using bound)]
      simp
  | succ k ih =>
      by_cases small : n < 10
      · rw [decimal_small small]
        simp
      · rw [decimal_large (by omega), List.length_append, List.length_singleton]
        have less : n / 10 < 10 ^ (k + 1) := by
          rw [Nat.div_lt_iff_lt_mul (by omega), ← Nat.pow_succ]
          exact bound
        exact Nat.succ_le_succ (ih less)

theorem readHexadecimal_hexadecimal (n : Nat)
    : readHexadecimal ([48, 120] ++ hexadecimal n) = some n := by
  obtain ⟨some, digits, value⟩ := hexadecimal_spec n
  have marked : startsWith ([48, 120] ++ hexadecimal n) [48, 120] := by
    unfold startsWith
    exact beq_self_eq_true _
  unfold readHexadecimal
  rw [if_pos marked]
  change readDigits 16 (hexadecimal n) = _
  unfold readDigits
  rw [if_pos ⟨some, List.all_eq_true.mpr fun c member => decide_eq_true (digits c member)⟩, value]

end CString
