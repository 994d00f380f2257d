import Mathlib.Tactic

/-! Programs that make calls and look at the answers. What a program does is told apart from what
its calls do to a state.
-/

/-- A program with its first call, whose answer the rest may depend on. -/
inductive Calls (κ ρ α : Type) where
  | done (value : α)
  | call (request : κ) (next : ρ → Calls κ ρ α)

namespace Calls

variable {κ ρ α β σ τ : Type}

-----------------------------------------------------------------------------------------
-- Writing programs
-----------------------------------------------------------------------------------------

def bind : Calls κ ρ α → (α → Calls κ ρ β) → Calls κ ρ β
  | done value, rest => rest value
  | call request next, rest => call request (fun answer => (next answer).bind rest)

instance : Monad (Calls κ ρ) where
  pure := done
  bind := bind

/-- The program of a single call. -/
def request (made : κ) : Calls κ ρ ρ := call made done

/-- One call after the other, whatever they answer. -/
def requests : List κ → Calls κ ρ Unit
  | [] => done ()
  | made :: rest => call made (fun _ => requests rest)

-----------------------------------------------------------------------------------------
-- Running programs
-----------------------------------------------------------------------------------------

/-- The result and the last state, for the effects of the calls. -/
def run (step : σ → κ → ρ × σ) : Calls κ ρ α → σ → α × σ
  | done value, state => (value, state)
  | call request next, state =>
      let (answer, state) := step state request
      (next answer).run step state

/-- Every call that is made meets `ok` in the state in which it is made. -/
def Along (step : σ → κ → ρ × σ) (ok : σ → κ → Prop) : Calls κ ρ α → σ → Prop
  | done _, _ => True
  | call request next, state =>
      ok state request ∧ (next (step state request).1).Along step ok (step state request).2

instance decidableAlong (step : σ → κ → ρ × σ) (ok : σ → κ → Prop)
    [each : ∀ state request, Decidable (ok state request)]
    : (program : Calls κ ρ α) → (state : σ) → Decidable (program.Along step ok state)
  | done _, _ => inferInstanceAs (Decidable True)
  | call request next, state =>
      have := decidableAlong step ok (next (step state request).1) (step state request).2
      inferInstanceAs (Decidable (_ ∧ _))

-----------------------------------------------------------------------------------------
-- The order of the calls
-----------------------------------------------------------------------------------------

/-- Whatever is answered, every call is allowed in the phase that the calls before it lead to. -/
def Follows (allowed : τ → κ → Prop) (advance : τ → κ → τ) : τ → Calls κ ρ α → Prop
  | _, done _ => True
  | phase, call request next =>
      allowed phase request
      ∧ ∀ answer, (next answer).Follows allowed advance (advance phase request)

section Order

variable {allowed : τ → κ → Prop} {advance : τ → κ → τ} {phase : τ} {still : κ → Prop}

@[simp]
theorem follows_request_bind {made : κ} {rest : ρ → Calls κ ρ α}
    : (request made >>= rest).Follows allowed advance phase
      ↔ allowed phase made
        ∧ ∀ answer, (rest answer).Follows allowed advance (advance phase made) :=
  Iff.rfl

@[simp]
theorem bind_pure' {program : Calls κ ρ α} : program >>= pure = program := by
  induction program with
  | done value => rfl
  | call request next ih => exact congrArg (call request) (funext ih)

/-- All calls are of one kind. -/
def Only (still : κ → Prop) : Calls κ ρ α → Prop
  | done _ => True
  | call request next => still request ∧ ∀ answer, (next answer).Only still

theorem Only.bind {program : Calls κ ρ α} {rest : α → Calls κ ρ β} (only : program.Only still)
    (later : ∀ value, (rest value).Only still)
    : (program >>= rest).Only still := by
  induction program with
  | done value => exact later value
  | call request next ih => exact ⟨only.1, fun answer => ih answer (only.2 answer)⟩

theorem only_requests {made : List κ} (all : ∀ request ∈ made, still request)
    : (requests made : Calls κ ρ Unit).Only still := by
  induction made with
  | nil => trivial
  | cons first rest ih =>
      refine ⟨all first List.mem_cons_self, ?_⟩
      intro _
      exact ih (fun request member => all request (List.mem_cons_of_mem _ member))

theorem Only.follows_bind {program : Calls κ ρ α} {rest : α → Calls κ ρ β}
    (only : program.Only still)
    (stays : ∀ request, still request → allowed phase request ∧ advance phase request = phase)
    (later : ∀ value, (rest value).Follows allowed advance phase)
    : (program >>= rest).Follows allowed advance phase := by
  induction program with
  | done value => exact later value
  | call request next ih =>
      obtain ⟨fits, same⟩ := stays request only.1
      refine ⟨fits, ?_⟩
      intro answer
      rw [same]
      exact ih answer (only.2 answer)

end Order

theorem run_follows {step : σ → κ → ρ × σ} {ok : σ → κ → Prop} {allowed : τ → κ → Prop}
    {advance : τ → κ → τ} {holds : τ → σ → Prop}
    (preserved
      : ∀ {phase state request},
          holds phase state
          → allowed phase request
          → ok state request
          → holds (advance phase request) (step state request).2)
    {program : Calls κ ρ α} {phase : τ} {state : σ}
    (follows : program.Follows allowed advance phase) (initial : holds phase state)
    (along : program.Along step ok state)
    : ∃ last, holds last (program.run step state).2 := by
  induction program generalizing phase state with
  | done value => exact ⟨phase, initial⟩
  | call request next ih =>
      exact ih _ (follows.2 _) (preserved initial follows.1 along.1) along.2

end Calls
