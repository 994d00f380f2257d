import Mathlib.Tactic

/-! Postconditions of computations that may fail. `Ends x post failed` says that `x` returns a
value that satisfies `post`, or fails with an error that satisfies `failed`; `Returns x post` is
about a computation that has a value or none.
-/

namespace Fallible

universe u

variable {ε : Type*} {σ τ α : Type u}

def Ends (x : Except ε σ) (post : σ → Prop) (failed : ε → Prop) : Prop :=
  match x with
  | .ok value => post value
  | .error err => failed err

theorem Ends.imp {x : Except ε σ} {post post' : σ → Prop} {failed failed' : ε → Prop}
    (ends : Ends x post failed) (returns : ∀ value, post value → post' value)
    (fails : ∀ err, failed err → failed' err)
    : Ends x post' failed' := by
  cases x with
  | ok value => exact returns value ends
  | error err => exact fails err ends

theorem Ends.bind {x : Except ε σ} {f : σ → Except ε τ} {middle : σ → Prop} {post : τ → Prop}
    {failed : ε → Prop} (ends : Ends x middle failed)
    (rest : ∀ value, middle value → Ends (f value) post failed)
    : Ends (x >>= f) post failed := by
  cases x with
  | ok value => exact rest value ends
  | error err => exact ends

theorem Ends.foldlM {f : σ → α → Except ε σ} {invariant : List α → σ → Prop}
    {failed : ε → Prop} {items : List α} {start : σ} (initially : invariant [] start)
    (step
      : ∀ done item rest value,
          items = done ++ item :: rest
          → invariant done value
          → Ends (f value item) (invariant (done ++ [item])) failed)
    : Ends (items.foldlM f start) (invariant items) failed := by
  have loop (done rest : List α) (value : σ) (whole : items = done ++ rest)
      (holds : invariant done value)
      : Ends (rest.foldlM f value) (invariant items) failed := by
    induction rest generalizing done value with
    | nil =>
        rw [List.append_nil] at whole
        rw [whole]
        exact holds
    | cons item rest ih =>
        rw [List.foldlM_cons]
        refine (step done item rest value whole holds).bind fun next preserved => ?_
        exact ih (done ++ [item]) next (by rw [whole, List.append_assoc]; rfl) preserved
  exact loop [] items start rfl initially

/-- The computation has a value, and that satisfies the postcondition. -/
def Returns (x : Option σ) (post : σ → Prop) : Prop := ∃ value, x = some value ∧ post value

theorem Returns.imp {x : Option σ} {post post' : σ → Prop} (returns : Returns x post)
    (weaker : ∀ value, post value → post' value)
    : Returns x post' := by
  obtain ⟨value, same, holds⟩ := returns
  exact ⟨value, same, weaker value holds⟩

theorem Returns.bind {x : Option σ} {f : σ → Option τ} {middle : σ → Prop} {post : τ → Prop}
    (returns : Returns x middle) (rest : ∀ value, middle value → Returns (f value) post)
    : Returns (x >>= f) post := by
  obtain ⟨value, rfl, holds⟩ := returns
  exact rest value holds

theorem Returns.ite {condition : Prop} [Decidable condition] {x y : Option σ} {post : σ → Prop}
    (yes : condition → Returns x post) (no : ¬condition → Returns y post)
    : Returns (if condition then x else y) post := by
  split
  · next holds => exact yes holds
  · next fails => exact no fails

end Fallible
