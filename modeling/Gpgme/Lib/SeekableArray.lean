import Mathlib.Tactic

/-! A seekable array: a finite sequence of elements with a current position inside it.
Reading and writing start at the position and advance it; writing past the end extends
the sequence.
-/

/-- A sequence with a position that never lies behind its end. -/
@[ext]
structure SeekableArray (α : Type*) where
  contents : List α
  pos : Nat
  bounded : pos ≤ contents.length

namespace SeekableArray

variable {α : Type*}

/-- The array holding `contents`, positioned at its start. -/
def start (contents : List α) : SeekableArray α := ⟨contents, 0, Nat.zero_le _⟩

/-- The next `size` elements, or all remaining ones when there are fewer. -/
def next (array : SeekableArray α) (size : Nat) : List α :=
  (array.contents.drop array.pos).take size

/-- Overwrite the elements from position `at` on, extending the list when needed. -/
def overwrite (contents : List α) (start : Nat) (items : List α) : List α :=
  contents.take start ++ items ++ contents.drop (start + items.length)

theorem length_overwrite {contents : List α} {start : Nat} (items : List α)
    (inside : start ≤ contents.length)
    : (overwrite contents start items).length
      = max contents.length (start + items.length) := by
  simp only [overwrite, List.length_append, List.length_take, List.length_drop]
  omega

/-- Reading advances the position over the elements it returns. -/
def read (array : SeekableArray α) (size : Nat) : SeekableArray α where
  contents := array.contents
  pos := array.pos + min size (array.contents.length - array.pos)
  bounded := by
    have := array.bounded
    omega

/-- Writing replaces the elements at the position and moves behind them. -/
def write (array : SeekableArray α) (items : List α) : SeekableArray α where
  contents := overwrite array.contents array.pos items
  pos := array.pos + items.length
  bounded := by
    rw [length_overwrite items array.bounded]
    omega

/-- Seeking moves to `target` when it lies in the array and is refused otherwise. -/
def seek (array : SeekableArray α) (target : Int) : Option (SeekableArray α) :=
  if inside : 0 ≤ target ∧ target ≤ array.contents.length then
    some ⟨array.contents, target.toNat, by omega⟩
  else
    none

theorem length_next (array : SeekableArray α) (size : Nat)
    : (array.next size).length = min size (array.contents.length - array.pos) := by
  simp [next]

theorem overwrite_take {contents : List α} {start size : Nat} (items : List α)
    (inside : start ≤ size) (available : start ≤ contents.length)
    : (overwrite contents start items).take (max size (start + items.length))
      = overwrite (contents.take size) start items := by
  have kept : (contents.take start ++ items).length = start + items.length := by
    simp [Nat.min_eq_left available]
  simp only [overwrite]
  rw [List.take_append, List.take_of_length_le (by omega), List.take_take,
    Nat.min_eq_left inside, List.drop_take]
  congr 2
  omega

end SeekableArray
