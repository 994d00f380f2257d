import Gpgme.Lib.CInt

/-! Memory for a number of bytes that is counted in an `int`. -/

/-- `malloc`, which has no objects of half the address space. -/
structure Malloc where
  succeeds : Nat → Bool
  bounded : ∀ size, 2 ^ 63 ≤ size → succeeds size = false

namespace Malloc

/-- A system with memory for all that fits the address space. -/
def large : Malloc where
  succeeds size := decide (size < 2 ^ 63)
  bounded _ tooLarge := decide_eq_false (Nat.not_lt.mpr tooLarge)

/-- There is memory for a count only if it is not negative. -/
theorem notNegative {malloc : Malloc} {count : Int}
    (succeeded : malloc.succeeds (CInt.toSize (CInt.toInt count)) = true)
    : 0 ≤ CInt.toInt count := by
  by_contra negative
  have tooLarge := malloc.bounded (CInt.toSize (CInt.toInt count)) (by
    unfold CInt.toInt at negative ⊢
    unfold CInt.toSize
    omega)
  rw [tooLarge] at succeeded
  cases succeeded

end Malloc

namespace CInt

/-- A count that is almost as large as the bytes that are written is enough for them exactly where
it has no overflow.
-/
theorem le_toInt_iff {written count : Nat} (fits : written ≤ count)
    (slack : count < written + 2 ^ 31) (notNegative : 0 ≤ toInt count)
    : written ≤ toInt count ↔ count < 2 ^ 31 := by
  unfold toInt at notNegative ⊢
  omega

/-- A count is exact where it has no overflow. -/
theorem eq_toInt_iff (count : Nat) : (count : Int) = toInt count ↔ count < 2 ^ 31 := by
  unfold toInt
  omega

end CInt
