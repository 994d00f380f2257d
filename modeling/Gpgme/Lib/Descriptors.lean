import Mathlib.Tactic

/-! The descriptor table of a process: a finite map from numbers to open files, with the calls
that change it.
-/

/-- Which file each number refers to. No number from `bound` on is open. -/
structure Descriptors (α : Type*) where
  files : Nat → Option α
  bound : Nat
  closed : ∀ fd, bound ≤ fd → files fd = none

namespace Descriptors

variable {α β : Type*}

/-- A process without open files. -/
def empty : Descriptors α where
  files _ := none
  bound := 0
  closed _ _ := rfl

/-- The table with the number `fd` referring to `file`. -/
def set (table : Descriptors α) (fd : Nat) (file : α) : Descriptors α where
  files := Function.update table.files fd (some file)
  bound := max table.bound (fd + 1)
  closed := by
    intro number above
    rw [Function.update_of_ne (by omega)]
    exact table.closed number (by omega)

/-- `close`; it fails, and does nothing, when the number is not open. -/
def close (table : Descriptors α) (fd : Nat) : Descriptors α where
  files := Function.update table.files fd none
  bound := table.bound
  closed := by
    intro number above
    rw [Function.update_apply]
    split
    · rfl
    · exact table.closed number above

/-- `closefrom`, which closes all numbers from `fd` on. -/
def closefrom (table : Descriptors α) (fd : Nat) : Descriptors α where
  files number := if fd ≤ number then none else table.files number
  bound := table.bound
  closed := by
    intro number above
    split
    · rfl
    · exact table.closed number above

/-- `dup2`, which fails when the number `fd` is not open. -/
def dup2 (table : Descriptors α) (fd target : Nat) : Option (Descriptors α) :=
  match table.files fd with
  | none => none
  | some file => some (table.set target file)

/-- The lowest number that is not open. -/
def lowest (table : Descriptors α) : Nat :=
  ((List.range table.bound).find? fun fd => (table.files fd).isNone).getD table.bound

/-- `open`, which takes the lowest number that is not open. -/
def openFile (table : Descriptors α) (file : α) : Nat × Descriptors α :=
  (table.lowest, table.set table.lowest file)

/-- The same table with other names for the files. -/
def map (f : α → β) (table : Descriptors α) : Descriptors β where
  files fd := (table.files fd).map f
  bound := table.bound
  closed := by
    intro number above
    rw [table.closed number above]
    rfl

theorem set_files (table : Descriptors α) (fd number : Nat) (file : α)
    : (table.set fd file).files number
      = if number = fd then some file else table.files number :=
  Function.update_apply _ _ _ _

theorem close_files (table : Descriptors α) (fd number : Nat)
    : (table.close fd).files number = if number = fd then none else table.files number :=
  Function.update_apply _ _ _ _

@[simp]
theorem map_files (f : α → β) (table : Descriptors α) (fd : Nat)
    : (table.map f).files fd = (table.files fd).map f :=
  rfl

theorem dup2_of_open {table : Descriptors α} {fd target : Nat} {file : α}
    (isOpen : table.files fd = some file)
    : table.dup2 fd target = some (table.set target file) := by
  unfold dup2
  rw [isOpen]

theorem dup2_eq_some {table after : Descriptors α} {fd target : Nat}
    (duplicated : table.dup2 fd target = some after)
    : ∃ file, table.files fd = some file ∧ after = table.set target file := by
  unfold dup2 at duplicated
  cases isOpen : table.files fd with
  | none => simp [isOpen] at duplicated
  | some file =>
      rw [isOpen] at duplicated
      cases duplicated
      exact ⟨file, rfl, rfl⟩

theorem lowest_closed (table : Descriptors α) : table.files table.lowest = none := by
  unfold lowest
  cases found : (List.range table.bound).find? fun fd => (table.files fd).isNone with
  | none => exact table.closed _ le_rfl
  | some fd =>
      have free := List.find?_some found
      exact Option.isNone_iff_eq_none.mp free

end Descriptors
