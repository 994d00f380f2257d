import Mathlib.Tactic

/-! Memory blocks with their contents. A block is told apart by the attempt that allocated it,
and every attempt may be refused.
-/

/-- The number of attempts so far and the live blocks, the newest first. -/
structure BlockHeap (α : Type*) where
  attempts : Nat := 0
  live : List (Nat × α) := []
  made : ∀ block ∈ live, block.1 < attempts := by simp
  once : (live.map Prod.fst).Nodup := by simp

namespace BlockHeap

variable {α : Type*} {heap : BlockHeap α} {id : Nat} {content : α}
  {rest : Multiset (Nat × α)}

-----------------------------------------------------------------------------------------
-- Operations
-----------------------------------------------------------------------------------------

/-- The next attempt is granted; the block gets its number. -/
def grant (heap : BlockHeap α) (content : α) : BlockHeap α where
  attempts := heap.attempts + 1
  live := (heap.attempts, content) :: heap.live
  made := by
    intro block member
    rcases List.mem_cons.mp member with rfl | before
    · exact Nat.lt_succ_self _
    · exact Nat.lt_succ_of_lt (heap.made block before)
  once := by
    rw [List.map_cons, List.nodup_cons]
    refine ⟨?_, heap.once⟩
    intro member
    obtain ⟨block, before, same⟩ := List.mem_map.mp member
    exact Nat.ne_of_lt (heap.made block before) same

/-- The next attempt is refused. -/
def refuse (heap : BlockHeap α) : BlockHeap α where
  attempts := heap.attempts + 1
  live := heap.live
  made block member := Nat.lt_succ_of_lt (heap.made block member)
  once := heap.once

/-- An allocation yields a pointer to a new block or a null pointer. -/
def malloc (heap : BlockHeap α) (granted : Nat → Bool) (content : α)
    : Option Nat × BlockHeap α :=
  if granted heap.attempts then (some heap.attempts, heap.grant content) else (none, heap.refuse)

/-- What a live block holds. -/
def read (heap : BlockHeap α) (id : Nat) : Option α :=
  (heap.live.find? fun block => block.1 == id).map Prod.snd

/-- The block is not live any more. -/
def drop (heap : BlockHeap α) (id : Nat) : BlockHeap α where
  attempts := heap.attempts
  live := heap.live.filter fun block => block.1 != id
  made block member := heap.made block (List.mem_of_mem_filter member)
  once := heap.once.sublist (List.filter_sublist.map Prod.fst)

/-- A null pointer may be freed, and a pointer to a live block. -/
def free (heap : BlockHeap α) : Option Nat → Option (BlockHeap α)
  | none => some heap
  | some id => if (heap.read id).isSome then some (heap.drop id) else none

-----------------------------------------------------------------------------------------
-- Live blocks as a multiset
-----------------------------------------------------------------------------------------

/-- The live blocks, each with what it holds. -/
def blocks (heap : BlockHeap α) : Multiset (Nat × α) := heap.live

/-- What a pointer owns that is null or points to a block of its own. -/
def slot (pointer : Option Nat) (content : α) : Multiset (Nat × α) :=
  match pointer with
  | none => 0
  | some id => {(id, content)}

@[simp]
theorem slot_none : slot none content = 0 := rfl

@[simp]
theorem slot_some : slot (some id) content = {(id, content)} := rfl

theorem blocks_malloc (heap : BlockHeap α) (granted : Nat → Bool) (content : α)
    : (heap.malloc granted content).2.blocks
      = slot (heap.malloc granted content).1 content + heap.blocks := by
  unfold malloc
  split
  · rfl
  · rw [slot_none, zero_add]
    rfl

@[simp]
theorem attempts_malloc (heap : BlockHeap α) (granted : Nat → Bool) (content : α)
    : (heap.malloc granted content).2.attempts = heap.attempts + 1 := by
  unfold malloc
  split <;> rfl

@[simp]
theorem isSome_malloc (heap : BlockHeap α) (granted : Nat → Bool) (content : α)
    : (heap.malloc granted content).1.isSome = granted heap.attempts := by
  unfold malloc
  split
  · next yes => rw [yes]; rfl
  · next no => rw [Bool.not_eq_true] at no; rw [no]; rfl

theorem read_of_mem (owned : (id, content) ∈ heap.blocks) : heap.read id = some content := by
  have unique : ∀ live : List (Nat × α), (live.map Prod.fst).Nodup → (id, content) ∈ live
      → (live.find? fun block => block.1 == id).map Prod.snd = some content := by
    intro live distinct member
    induction live with
    | nil => cases member
    | cons first others ih =>
        rw [List.map_cons, List.nodup_cons] at distinct
        rcases List.mem_cons.mp member with rfl | later
        · rw [List.find?_cons_of_pos (by simp)]
          rfl
        · have different : first.1 ≠ id := by
            rintro rfl
            exact distinct.1 (List.mem_map.mpr ⟨_, later, rfl⟩)
          rw [List.find?_cons_of_neg (by simpa using different)]
          exact ih distinct.2 later
  exact unique heap.live heap.once owned

theorem content_unique {other : α} (owned : (id, content) ∈ heap.blocks)
    (also : (id, other) ∈ heap.blocks)
    : content = other :=
  Option.some.inj ((read_of_mem owned).symm.trans (read_of_mem also))

theorem blocks_nodup : heap.blocks.Nodup := Multiset.coe_nodup.mpr (heap.once.of_map Prod.fst)

theorem blocks_drop (owned : heap.blocks = {(id, content)} + rest)
    : (heap.drop id).blocks = rest := by
  have distinct : ({(id, content)} + rest).Nodup := owned ▸ heap.blocks_nodup
  rw [Multiset.singleton_add, Multiset.nodup_cons] at distinct
  have mine : (id, content) ∈ heap.blocks := by
    rw [owned]
    exact Multiset.mem_add.mpr (Or.inl (Multiset.mem_singleton_self _))
  have kept : ∀ block ∈ rest, block.1 != id := by
    rintro ⟨other, held⟩ member
    rw [bne_iff_ne]
    rintro rfl
    have also : (other, held) ∈ heap.blocks := by
      rw [owned]
      exact Multiset.mem_add.mpr (Or.inr member)
    rw [content_unique mine also] at distinct
    exact distinct.1 member
  have filtered : (heap.drop id).blocks = heap.blocks.filter fun block => block.1 != id := by
    unfold blocks drop
    rw [Multiset.filter_coe]
    simp only [Bool.decide_eq_true]
  rw [filtered, owned, Multiset.filter_add, Multiset.filter_singleton, if_neg (by simp),
    Multiset.empty_eq_zero, zero_add]
  exact Multiset.filter_eq_self.mpr kept

theorem free_slot {pointer : Option Nat} (owned : heap.blocks = slot pointer content + rest)
    : ∃ next, heap.free pointer = some next ∧ next.blocks = rest
      ∧ next.attempts = heap.attempts := by
  cases pointer with
  | none =>
      rw [slot_none, zero_add] at owned
      exact ⟨heap, rfl, owned, rfl⟩
  | some id =>
      have mine : (id, content) ∈ heap.blocks := by
        rw [owned]
        exact Multiset.mem_add.mpr (Or.inl (Multiset.mem_singleton_self _))
      refine ⟨heap.drop id, ?_, blocks_drop owned, rfl⟩
      simp only [free, read_of_mem mine, Option.isSome_some, if_true]

end BlockHeap
