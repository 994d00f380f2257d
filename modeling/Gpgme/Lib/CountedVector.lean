import Mathlib.Tactic

/-! A vector that is allocated for a counted number of cells and a terminator, and is then filled
from the front. Nothing checks a write against the allocation, so that the indices that were
written are recorded.
-/

/-- The allocated cells, the index of the next write and the indices written so far. -/
structure CountedVector (α : Type*) where
  cells : List (Option α)
  next : Nat := 0
  written : List Nat := []

namespace CountedVector

variable {α : Type*}

/-- A new vector whose cells are all null. -/
def allocate (count : Nat) : CountedVector α where
  cells := List.replicate (count + 1) none

/-- Write the next cell; a write behind the end of the cells is not seen in them. -/
def put (vector : CountedVector α) (value : Option α) : CountedVector α :=
  { vector with
    cells := vector.cells.set vector.next value,
    written := vector.written ++ [vector.next] }

/-- Write the next cell and go on to the one behind it. -/
def push (vector : CountedVector α) (value : α) : CountedVector α :=
  { vector.put (some value) with next := vector.next + 1 }

/-- The index of every write lies in front of the terminator. -/
def Fits (vector : CountedVector α) (count : Nat) : Prop :=
  ∀ index ∈ vector.written, index < count

theorem Fits.mono {vector : CountedVector α} {count more : Nat} (fits : vector.Fits count)
    (larger : count ≤ more)
    : vector.Fits more :=
  fun index member => (fits index member).trans_le larger

/-- The vector was filled with exactly these values. -/
structure Holds (vector : CountedVector α) (values : List α) : Prop where
  next : vector.next = values.length
  cells : ∀ index < vector.cells.length, vector.cells[index]? = some values[index]?
  written : ∀ index, index ∈ vector.written ↔ index < values.length

theorem allocate_holds (count : Nat) : (allocate count : CountedVector α).Holds [] where
  next := rfl
  cells := by
    intro index inside
    have within : index < count + 1 := by simpa [allocate] using inside
    simp [allocate, within]
  written := by simp [allocate]

theorem length_push (vector : CountedVector α) (value : α)
    : (vector.push value).cells.length = vector.cells.length :=
  List.length_set

theorem Holds.push {vector : CountedVector α} {values : List α} (holds : vector.Holds values)
    (value : α)
    : (vector.push value).Holds (values ++ [value]) where
  next := by simp [CountedVector.push, holds.next]
  cells := by
    intro index inside
    rw [length_push] at inside
    have filled := holds.cells index inside
    simp only [CountedVector.push, put, holds.next]
    by_cases last : index = values.length
    · subst last
      simp [inside]
    · rw [List.getElem?_set_ne (Ne.symm last), filled]
      by_cases earlier : index < values.length
      · rw [List.getElem?_append_left earlier]
      · rw [List.getElem?_eq_none (by omega), List.getElem?_eq_none (by simp; omega)]
  written := by
    intro index
    simp only [CountedVector.push, put, List.mem_append, List.mem_singleton, holds.written,
      holds.next, List.length_append, List.length_singleton]
    omega

theorem Holds.fits_iff {vector : CountedVector α} {values : List α} {count : Nat}
    (holds : vector.Holds values)
    : vector.Fits count ↔ values.length ≤ count := by
  constructor
  · intro fits
    by_contra long
    have last := fits count ((holds.written count).mpr (by omega))
    omega
  · intro short index member
    have := (holds.written index).mp member
    omega

theorem Holds.put_fits {vector : CountedVector α} {values : List α} {count : Nat}
    (holds : vector.Holds values) (short : values.length < count) (value : Option α)
    : (vector.put value).Fits count := by
  intro index member
  simp only [put, List.mem_append, List.mem_singleton, holds.written, holds.next] at member
  omega

theorem Holds.terminated {vector : CountedVector α} {values : List α} {count : Nat}
    (holds : vector.Holds values) (length : vector.cells.length = count + 1)
    (fits : vector.Fits count)
    : vector.cells[count]? = some none := by
  rw [holds.cells count (by omega), List.getElem?_eq_none (holds.fits_iff.mp fits)]

theorem Holds.lookup {vector : CountedVector α} {values : List α} {count : Nat}
    (holds : vector.Holds values) (length : vector.cells.length = count + 1)
    (fits : vector.Fits count) (index : Nat)
    : vector.cells[index]?.join = values[index]? := by
  by_cases inside : index < vector.cells.length
  · rw [holds.cells index inside, Option.join_some]
  · have short := holds.fits_iff.mp fits
    rw [List.getElem?_eq_none (by omega), List.getElem?_eq_none (by omega), Option.join_none]

end CountedVector
