import Mathlib.Tactic

/-! A queue with a condition that is set when something is put into it. Who waits for the
condition relies on one of two facts: that the queue is not empty while the condition is set, and
that the condition is set while the queue is not empty.
-/

namespace SignaledQueue

variable {α : Type*} {queue next items : List α} {cond cond' : Bool}

/-- Items are put at the end of the queue, and the condition is set if there are any. -/
structure Puts (queue : List α) (cond : Bool) (items next : List α) (cond' : Bool) : Prop where
  queue : next = queue ++ items
  cond : cond' = (cond || !items.isEmpty)

/-- The queue is still not empty while the condition is set. -/
theorem Puts.nonempty (puts : Puts queue cond items next cond')
    (nonempty : cond = true → queue ≠ [])
    : cond' = true → next ≠ [] := by
  intro signaled empty
  rw [puts.queue, List.append_eq_nil_iff] at empty
  rw [puts.cond, empty.2] at signaled
  exact nonempty (by simpa using signaled) empty.1

/-- The condition is still set while the queue is not empty. -/
theorem Puts.signaled (puts : Puts queue cond items next cond')
    (signaled : queue ≠ [] → cond = true)
    : next ≠ [] → cond' = true := by
  intro nonempty
  rw [puts.cond, Bool.or_eq_true]
  by_cases empty : queue = []
  · refine Or.inr ?_
    rw [puts.queue, empty, List.nil_append] at nonempty
    simpa using nonempty
  · exact Or.inl (signaled empty)

end SignaledQueue
