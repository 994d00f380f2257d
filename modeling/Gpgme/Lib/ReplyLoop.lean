import Mathlib.Tactic

/-! Loops that read the answer to a request item by item. The items of later answers may stand
behind it in the same stream.
-/

namespace ReplyLoop

variable {σ ρ α : Type}

/-- What the body of such a loop does with an item. -/
inductive Next (σ ρ : Type) where
  | goOn (s : σ)
  | stop (result : ρ)

/-- Read until the body stops. The result comes with the items that have not been read; a loop
that finds no further item is still waiting.
-/
def run (body : σ → α → Next σ ρ) : σ → List α → Option (ρ × List α)
  | _, [] => none
  | s, item :: rest =>
      match body s item with
      | .goOn s => run body s rest
      | .stop result => some (result, rest)

/-- Read the items that are there, or until the body stops. -/
def drain (body : σ → α → Next σ ρ) : σ → List α → Next σ ρ
  | s, [] => .goOn s
  | s, item :: rest =>
      match body s item with
      | .goOn s => drain body s rest
      | .stop result => .stop result

/-- The state behind items that do not stop the loop. -/
def through (body : σ → α → Next σ ρ) : σ → List α → Option σ
  | s, [] => some s
  | s, item :: rest =>
      match body s item with
      | .goOn s => through body s rest
      | .stop _ => none

/-- Items that do not stop the loop lead to the items behind them. -/
theorem run_append_of_through {body : σ → α → Next σ ρ} {s s' : σ} {front : List α}
    (passed : through body s front = some s') (rest : List α)
    : run body s (front ++ rest) = run body s' rest := by
  induction front generalizing s with
  | nil =>
      cases passed
      rfl
  | cons item front ih =>
      simp only [through, List.cons_append, run] at passed ⊢
      cases acted : body s item with
      | goOn next =>
          rw [acted] at passed
          exact ih passed
      | stop result =>
          rw [acted] at passed
          cases passed

/-- Replies that the loop gets through are left out. -/
theorem drain_append_of_through {body : σ → α → Next σ ρ} {s s' : σ} {front : List α}
    (passed : through body s front = some s') (rest : List α)
    : drain body s (front ++ rest) = drain body s' rest := by
  induction front generalizing s with
  | nil =>
      cases passed
      rfl
  | cons item front ih =>
      simp only [through, List.cons_append, drain] at passed ⊢
      cases acted : body s item with
      | goOn next =>
          rw [acted] at passed
          exact ih passed
      | stop result =>
          rw [acted] at passed
          cases passed

/-- Where the loop stops within some items, those behind the place are left. -/
theorem run_append_of_stopped {body : σ → α → Next σ ρ} {s : σ} {front : List α}
    (stopped : through body s front = none) (rest : List α)
    : ∃ result back, run body s (front ++ rest) = some (result, back ++ rest) := by
  induction front generalizing s with
  | nil => cases stopped
  | cons item front ih =>
      simp only [through, List.cons_append, run] at stopped ⊢
      cases acted : body s item with
      | goOn next =>
          rw [acted] at stopped
          exact ih stopped
      | stop result => exact ⟨result, front, rfl⟩

/-- What holds at the start and is kept by every item holds behind the items that do not stop
the loop.
-/
theorem through_induct {body : σ → α → Next σ ρ} {P : σ → Prop} {items : List α}
    (keep : ∀ s item next, item ∈ items → P s → body s item = .goOn next → P next)
    {s s' : σ} (start : P s) (passed : through body s items = some s')
    : P s' := by
  induction items generalizing s with
  | nil =>
      cases passed
      exact start
  | cons item rest ih =>
      simp only [through] at passed
      cases acted : body s item with
      | goOn next =>
          rw [acted] at passed
          exact ih (fun s item next member => keep s item next (List.mem_cons_of_mem _ member))
            (keep s item next List.mem_cons_self start acted) passed
      | stop result =>
          rw [acted] at passed
          cases passed

/-- Items none of which stops the loop are gone through. -/
theorem through_of_goOn {body : σ → α → Next σ ρ} {items : List α}
    (continues : ∀ s, ∀ item ∈ items, ∃ next, body s item = .goOn next) (s : σ)
    : ∃ s', through body s items = some s' := by
  induction items generalizing s with
  | nil => exact ⟨s, rfl⟩
  | cons item rest ih =>
      obtain ⟨next, acted⟩ := continues s item List.mem_cons_self
      simp only [through, acted]
      exact ih (fun s item member => continues s item (List.mem_cons_of_mem _ member)) next

end ReplyLoop
