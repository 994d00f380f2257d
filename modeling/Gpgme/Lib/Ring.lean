import Mathlib.Tactic

/-! Positions in a ring of a given size, between a position to read from and one to write to. One
element is never used, so that an empty ring can be told from a full one.
-/

namespace Ring

variable {α : Type*} {size readpos writepos : Nat}

/-- The number of elements from the read position to the write position. -/
def used (size readpos writepos : Nat) : Nat := (writepos + size - readpos) % size

/-- The elements of a buffer from a position on. -/
def contents (size : Nat) (buffer : Nat → α) (start count : Nat) : List α :=
  (List.range count).map (fun i => buffer ((start + i) % size))

/-- Put elements into a buffer from a position on. -/
def put (buffer : Nat → α) (start : Nat) (elements : List α) : Nat → α :=
  fun i => if start ≤ i then (elements[i - start]?).getD (buffer i) else buffer i

theorem mod_of_lt_double {a : Nat} (low : a < 2 * size)
    : a % size = if a < size then a else a - size := by
  split
  · next small => exact Nat.mod_eq_of_lt small
  · next large =>
      rw [Nat.mod_eq_sub_mod (by omega)]
      exact Nat.mod_eq_of_lt (by omega)

section Positions

variable (read : readpos < size) (write : writepos < size)

include read write

theorem used_eq
    : used size readpos writepos
      = if readpos ≤ writepos then writepos - readpos else writepos + size - readpos := by
  unfold used
  rw [mod_of_lt_double (by omega)]
  split <;> split <;> omega

theorem used_lt : used size readpos writepos < size := by
  rw [used_eq read write]
  split <;> omega

theorem used_eq_zero_iff : used size readpos writepos = 0 ↔ readpos = writepos := by
  rw [used_eq read write]
  split <;> omega

theorem free_eq
    : (readpos + size - writepos - 1) % size = size - 1 - used size readpos writepos := by
  rw [used_eq read write, mod_of_lt_double (by omega)]
  split <;> split <;> omega

theorem full_iff
    : (writepos + 1) % size = readpos ↔ used size readpos writepos = size - 1 := by
  rw [used_eq read write, mod_of_lt_double (by omega)]
  split <;> split <;> omega

theorem used_write {count : Nat} (room : used size readpos writepos + count < size)
    : used size readpos ((writepos + count) % size) = used size readpos writepos + count := by
  have next : (writepos + count) % size < size := Nat.mod_lt _ (by omega)
  have before := used_eq read write
  rw [used_eq read next]
  rw [mod_of_lt_double (by omega)]
  rw [before] at room ⊢
  split at room <;> split <;> split <;> omega

theorem used_read {count : Nat} (available : count ≤ used size readpos writepos)
    : used size ((readpos + count) % size) writepos = used size readpos writepos - count := by
  have next : (readpos + count) % size < size := Nat.mod_lt _ (by omega)
  have before := used_eq read write
  have below := used_lt read write
  rw [used_eq next write]
  rw [mod_of_lt_double (by omega)]
  rw [before] at available ⊢
  split at available <;> split <;> split <;> omega

theorem readpos_add_used : (readpos + used size readpos writepos) % size = writepos := by
  have below := used_lt read write
  rw [mod_of_lt_double (by omega), used_eq read write]
  split <;> split <;> omega

theorem span_unused {count i : Nat} (room : used size readpos writepos + count < size)
    (element : i < used size readpos writepos)
    : (readpos + i) % size < writepos ∨ writepos + count ≤ (readpos + i) % size := by
  have below := used_lt read write
  rw [mod_of_lt_double (by omega)]
  rw [used_eq read write] at room element
  split at room <;> split <;> simp_all <;> omega

end Positions

@[simp]
theorem contents_zero (buffer : Nat → α) (start : Nat) : contents size buffer start 0 = [] := rfl

@[simp]
theorem length_contents (buffer : Nat → α) (start count : Nat)
    : (contents size buffer start count).length = count := by
  simp [contents]

theorem contents_add (buffer : Nat → α) (start first second : Nat)
    : contents size buffer start (first + second)
      = contents size buffer start first
        ++ contents size buffer ((start + first) % size) second := by
  unfold contents
  rw [List.range_add, List.map_append, List.map_map]
  congr 1
  refine List.map_congr_left fun i _ => ?_
  simp only [Function.comp_apply, Nat.mod_add_mod, Nat.add_assoc]

theorem contents_congr {buffer buffer' : Nat → α} {start count : Nat}
    (same : ∀ i < count, buffer ((start + i) % size) = buffer' ((start + i) % size))
    : contents size buffer start count = contents size buffer' start count :=
  List.map_congr_left fun i member => same i (List.mem_range.mp member)

theorem contents_put (buffer : Nat → α) {start : Nat} {elements : List α}
    (inside : start + elements.length ≤ size)
    : contents size (put buffer start elements) start elements.length = elements := by
  refine List.ext_getElem (by simp) fun i here there => ?_
  have position : (start + i) % size = start + i := Nat.mod_eq_of_lt (by omega)
  simp [contents, position, put, there]

theorem put_of_lt {buffer : Nat → α} {start i : Nat} {elements : List α} (before : i < start)
    : put buffer start elements i = buffer i := by
  unfold put
  rw [if_neg (by omega)]

theorem put_of_ge {buffer : Nat → α} {start i : Nat} {elements : List α}
    (behind : start + elements.length ≤ i)
    : put buffer start elements i = buffer i := by
  unfold put
  rw [if_pos (by omega), List.getElem?_eq_none (by omega), Option.getD_none]

end Ring
