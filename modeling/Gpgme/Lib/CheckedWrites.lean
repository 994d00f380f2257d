import Mathlib.Data.List.Basic

/-! A sequence of writes of which only some are checked: the first checked one that fails ends it. -/

namespace CheckedWrites

variable {α : Type}

/-- What is stored, and how many calls were made. -/
structure Sink (α : Type) where
  calls : Nat
  stored : List α

/-- A call either stores its whole chunk or fails. -/
def Sink.write (answers : Nat → Bool) (sink : Sink α) (chunk : List α) : Sink α where
  calls := sink.calls + 1
  stored := if answers sink.calls then sink.stored ++ chunk else sink.stored

structure Write (α : Type) where
  chunk : List α
  checked : Bool

/-- The writes are made one after the other, and whether all of them are made. -/
def run (answers : Nat → Bool) : List (Write α) → Sink α → Bool × Sink α
  | [], sink => (true, sink)
  | write :: rest, sink =>
      if write.checked ∧ answers sink.calls = false then (false, sink.write answers write.chunk)
      else run answers rest (sink.write answers write.chunk)

theorem run_append (answers : Nat → Bool) (writes more : List (Write α)) (sink : Sink α)
    : run answers (writes ++ more) sink
      = if (run answers writes sink).1 then run answers more (run answers writes sink).2
        else run answers writes sink := by
  induction writes generalizing sink with
  | nil => rfl
  | cons write rest ih =>
      rw [List.cons_append, run, run]
      by_cases stops : write.checked ∧ answers sink.calls = false
      · rw [if_pos stops, if_pos stops]
        rfl
      · rw [if_neg stops, if_neg stops]
        exact ih _

theorem run_ends_iff (answers : Nat → Bool) (writes : List (Write α)) (sink : Sink α)
    : (run answers writes sink).1 = true
      ↔ ∀ index write,
          writes[index]? = some write → write.checked → answers (sink.calls + index) = true := by
  induction writes generalizing sink with
  | nil => simp [run]
  | cons write rest ih =>
      rw [run]
      by_cases stops : write.checked ∧ answers sink.calls = false
      · rw [if_pos stops]
        refine ⟨fun ends => (Bool.false_ne_true ends).elim, fun succeeds => ?_⟩
        have first := succeeds 0 write rfl stops.1
        exact absurd (first.symm.trans stops.2) Bool.noConfusion
      · rw [if_neg stops, ih]
        constructor
        · intro later index other found checked
          cases index with
          | zero =>
              obtain rfl := Option.some.inj found
              simpa using mt (And.intro checked) stops
          | succ index =>
              rw [Nat.add_succ, ← Nat.succ_add]
              exact later index other found checked
        · intro succeeds index other found checked
          have here := succeeds (index + 1) other found checked
          rwa [Nat.add_succ, ← Nat.succ_add] at here

theorem run_calls {answers : Nat → Bool} {writes : List (Write α)} {sink : Sink α}
    (ends : (run answers writes sink).1 = true)
    : (run answers writes sink).2.calls = sink.calls + writes.length := by
  induction writes generalizing sink with
  | nil => rfl
  | cons write rest ih =>
      rw [run] at ends ⊢
      split at ends
      · cases ends
      · next goes =>
          rw [if_neg goes, ih ends, List.length_cons]
          simp only [Sink.write]
          omega

theorem run_stored {answers : Nat → Bool} {writes : List (Write α)} {sink : Sink α}
    (succeed : ∀ index < writes.length, answers (sink.calls + index) = true)
    : (run answers writes sink).2.stored = sink.stored ++ writes.flatMap Write.chunk := by
  induction writes generalizing sink with
  | nil => simp [run]
  | cons write rest ih =>
      have first : answers sink.calls = true := succeed 0 (Nat.succ_pos _)
      have later : ∀ index < rest.length, answers (sink.calls + 1 + index) = true := by
        intro index bound
        have here := succeed (index + 1) (Nat.succ_lt_succ bound)
        rwa [Nat.add_succ, ← Nat.succ_add] at here
      rw [run, if_neg (by simp [first]), ih later, List.flatMap_cons, ← List.append_assoc]
      simp [Sink.write, first]

end CheckedWrites
