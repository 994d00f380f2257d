import Mathlib.Tactic

/-! Conversions between the C integer types of the LP64 data model.
Values are mathematical integers; a conversion reduces them to the range of its target type.
-/

namespace CInt

/-- Conversion to a 64-bit unsigned type (`size_t`, `uint64_t`, `unsigned long`). -/
def toSize (value : Int) : Nat := (value % 18446744073709551616).toNat

/-- Conversion to a 64-bit signed type (`ssize_t`, `off_t`, `long`). -/
def toOff (value : Int) : Int :=
  (value + 9223372036854775808) % 18446744073709551616 - 9223372036854775808

/-- Conversion to a 32-bit unsigned type (`unsigned int`). -/
def toUnsigned (value : Int) : Nat := (value % 4294967296).toNat

/-- Conversion to a 32-bit signed type (`int`). -/
def toInt (value : Int) : Int := (value + 2147483648) % 4294967296 - 2147483648

theorem toSize_ofNat {value : Nat} (h : value < 2 ^ 64) : toSize value = value := by
  unfold toSize
  omega

theorem toSize_of_range {value : Int} (low : 0 ≤ value) (high : value < 2 ^ 64)
    : toSize value = value.toNat := by
  unfold toSize
  omega

theorem toOff_of_range {value : Int} (low : -2 ^ 63 ≤ value) (high : value < 2 ^ 63)
    : toOff value = value := by
  unfold toOff
  omega

theorem toInt_of_range {value : Int} (low : -2 ^ 31 ≤ value) (high : value < 2 ^ 31)
    : toInt value = value := by
  unfold toInt
  omega

theorem toUnsigned_of_range {value : Int} (low : 0 ≤ value) (high : value < 2 ^ 32)
    : toUnsigned value = value.toNat := by
  unfold toUnsigned
  omega

end CInt
