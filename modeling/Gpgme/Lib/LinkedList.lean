import Mathlib.Tactic

/-! Linked lists in a heap that is known through its successor pointers.
`succ addr` is `none` where the address is not allocated and `some none` where the list
ends.
-/

namespace LinkedList

variable {α : Type*}

/-- The entries that a walk of at most `steps` entries visits. -/
def walk (succ : α → Option (Option α)) : Nat → Option α → List α
  | _, none => []
  | 0, some _ => []
  | steps + 1, some addr =>
      match succ addr with
      | none => []
      | some next => addr :: walk succ steps next

/-- The list that starts at a pointer consists of exactly these addresses. -/
def Chain (succ : α → Option (Option α)) : Option α → List α → Prop
  | start, [] => start = none
  | start, addr :: rest =>
      start = some addr ∧ ∃ next, succ addr = some next ∧ Chain succ next rest

variable {succ succ' : α → Option (Option α)} {start : Option α} {addrs : List α}

/-- A walk that may take enough steps visits the whole list, by induction on it. -/
theorem Chain.walk_eq {steps : Nat} (chain : Chain succ start addrs)
    (enough : addrs.length ≤ steps)
    : walk succ steps start = addrs := by
  induction addrs generalizing start steps with
  | nil =>
      cases chain
      cases steps <;> rfl
  | cons addr rest ih =>
      obtain ⟨rfl, next, found, tail⟩ := chain
      cases steps with
      | zero => simp at enough
      | succ steps =>
          simp only [List.length_cons] at enough
          simp only [walk, found, ih tail (Nat.le_of_succ_le_succ enough)]

/-- A chain starts at its first address. -/
theorem Chain.start_eq (chain : Chain succ start addrs) : start = addrs.head? := by
  cases addrs with
  | nil => exact chain
  | cons addr rest => exact chain.1

/-- Only the pointers of its own entries matter to a list. -/
theorem Chain.congr (chain : Chain succ start addrs)
    (same : ∀ addr ∈ addrs, succ' addr = succ addr)
    : Chain succ' start addrs := by
  induction addrs generalizing start with
  | nil => exact chain
  | cons addr rest ih =>
      obtain ⟨rfl, next, found, tail⟩ := chain
      refine ⟨rfl, next, ?_, ih tail fun other member => same other ?_⟩
      · rw [same addr (by simp), found]
      · exact List.mem_cons_of_mem addr member

/-- Linking a new entry behind the last one appends it. -/
theorem Chain.snoc {last new : α} (chain : Chain succ start (addrs ++ [last]))
    (same : ∀ addr ∈ addrs, succ' addr = succ addr) (linked : succ' last = some (some new))
    (ends : succ' new = some none)
    : Chain succ' start (addrs ++ [last] ++ [new]) := by
  induction addrs generalizing start with
  | nil =>
      obtain ⟨rfl, _⟩ := chain
      exact ⟨rfl, some new, linked, rfl, none, ends, rfl⟩
  | cons addr rest ih =>
      obtain ⟨rfl, next, found, tail⟩ := chain
      refine ⟨rfl, next, ?_, ih tail fun other member => same other ?_⟩
      · rw [same addr (by simp), found]
      · exact List.mem_cons_of_mem addr member

/-- Cutting a list behind an entry leaves the entries up to it. -/
theorem Chain.cut {last : α} {behind : List α} (chain : Chain succ start (addrs ++ last :: behind))
    (same : ∀ addr ∈ addrs, succ' addr = succ addr) (ends : succ' last = some none)
    : Chain succ' start (addrs ++ [last]) := by
  induction addrs generalizing start with
  | nil =>
      obtain ⟨rfl, _⟩ := chain
      exact ⟨rfl, none, ends, rfl⟩
  | cons addr rest ih =>
      obtain ⟨rfl, next, found, tail⟩ := chain
      refine ⟨rfl, next, ?_, ih tail fun other member => same other ?_⟩
      · rw [same addr (by simp), found]
      · exact List.mem_cons_of_mem addr member

end LinkedList
