import Mathlib.Tactic

/-! Runs of a machine whose steps can end in one of several faults. -/

namespace FaultMachine

variable {σ ι ο φ : Type*}

/-- A step that was executed. -/
structure Executed (σ ι ο : Type*) where
  state : σ
  input : ι
  output : ο

/-- The steps that a run executes, and its last state or the fault that ends it. -/
def run (step : σ → ι → Except φ (ο × σ)) : σ → List ι → List (Executed σ ι ο) × Except φ σ
  | state, [] => ([], .ok state)
  | state, input :: rest =>
      match step state input with
      | .error fault => ([], .error fault)
      | .ok (output, next) =>
          (⟨state, input, output⟩ :: (run step next rest).1, (run step next rest).2)

/-- Every input of the run meets `ok` in the state in which it is consumed. -/
def Along (step : σ → ι → Except φ (ο × σ)) (ok : σ → ι → Prop) : σ → List ι → Prop
  | _, [] => True
  | state, input :: rest =>
      ok state input
      ∧ match step state input with
        | .error _ => True
        | .ok (_, next) => Along step ok next rest

/-- A condition that can be evaluated can be evaluated along a run. -/
instance decidableAlong (step : σ → ι → Except φ (ο × σ)) (ok : σ → ι → Prop)
    [∀ state input, Decidable (ok state input)]
    : ∀ state inputs, Decidable (Along step ok state inputs)
  | _, [] => .isTrue trivial
  | state, input :: rest =>
      let _ : Decidable
          (match step state input with
          | .error _ => True
          | .ok (_, next) => Along step ok next rest) :=
        match step state input with
        | .error _ => .isTrue trivial
        | .ok (_, next) => decidableAlong step ok next rest
      inferInstanceAs (Decidable (ok state input ∧ _))

/-- What holds of every state and input holds along a run. -/
theorem along_of_forall {step : σ → ι → Except φ (ο × σ)} {ok : σ → ι → Prop}
    (always : ∀ state input, ok state input) {state : σ} (inputs : List ι)
    : Along step ok state inputs := by
  induction inputs generalizing state with
  | nil => trivial
  | cons input rest ih =>
      refine ⟨always state input, ?_⟩
      cases step state input with
      | error fault => trivial
      | ok result => exact ih

section Invariant

variable {step : σ → ι → Except φ (ο × σ)} {ok : σ → ι → Prop}
  (holds : List (Executed σ ι ο) → σ → Prop) (tolerated : φ → Prop)

/-- A run that goes on from a state with a history, by induction on the inputs. -/
theorem run_invariant_from
    (tolerates
      : ∀ {history state input fault},
          holds history state
          → ok state input
          → step state input = .error fault
          → tolerated fault)
    (preserves
      : ∀ {history state input output next},
          holds history state
          → ok state input
          → step state input = .ok (output, next)
          → holds (history ++ [⟨state, input, output⟩]) next)
    {history : List (Executed σ ι ο)} {state : σ} {inputs : List ι}
    (held : holds history state) (allowed : Along step ok state inputs)
    : ∃ last,
        holds (history ++ (run step state inputs).1) last
        ∧ ((run step state inputs).2 = .ok last
          ∨ ∃ fault, (run step state inputs).2 = .error fault ∧ tolerated fault) := by
  induction inputs generalizing history state with
  | nil =>
      refine ⟨state, ?_, Or.inl rfl⟩
      simpa [run] using held
  | cons input rest ih =>
      cases stepped : step state input with
      | error fault =>
          simp only [run, stepped]
          refine ⟨state, ?_, Or.inr ⟨fault, rfl, tolerates held allowed.1 stepped⟩⟩
          simpa using held
      | ok result =>
          obtain ⟨output, next⟩ := result
          have kept := preserves held allowed.1 stepped
          have later := allowed.2
          rw [stepped] at later
          obtain ⟨last, heldLast, ended⟩ := ih kept later
          simp only [run, stepped]
          refine ⟨last, ?_, ended⟩
          simpa using heldLast

/-- An invariant of the executed steps and the state: when every allowed step keeps it or
ends in a tolerated fault, every run of allowed steps does.
-/
theorem run_invariant
    (tolerates
      : ∀ {history state input fault},
          holds history state
          → ok state input
          → step state input = .error fault
          → tolerated fault)
    (preserves
      : ∀ {history state input output next},
          holds history state
          → ok state input
          → step state input = .ok (output, next)
          → holds (history ++ [⟨state, input, output⟩]) next)
    {state : σ} {inputs : List ι} (initial : holds [] state)
    (allowed : Along step ok state inputs)
    : ∃ last,
        holds (run step state inputs).1 last
        ∧ ((run step state inputs).2 = .ok last
          ∨ ∃ fault, (run step state inputs).2 = .error fault ∧ tolerated fault) :=
  run_invariant_from holds tolerated tolerates preserves initial allowed

/-- An invariant of the states and a property of each step that it gives. -/
theorem run_steps (kept : σ → Prop) (good : Executed σ ι ο → Prop)
    (tolerates
      : ∀ {state input fault},
          kept state → ok state input → step state input = .error fault → tolerated fault)
    (preserves
      : ∀ {state input output next},
          kept state
          → ok state input
          → step state input = .ok (output, next)
          → kept next ∧ good ⟨state, input, output⟩)
    {state : σ} {inputs : List ι} (initial : kept state) (allowed : Along step ok state inputs)
    : (∀ executed ∈ (run step state inputs).1, good executed)
      ∧ ∀ fault, (run step state inputs).2 = .error fault → tolerated fault := by
  obtain ⟨last, ⟨_, allGood⟩, ended⟩ := run_invariant
    (fun history state => kept state ∧ ∀ executed ∈ history, good executed) tolerated
    (fun held => tolerates held.1)
    (by
      rintro history state input output next ⟨keptBefore, goodBefore⟩ allowed stepped
      obtain ⟨keptNext, goodNow⟩ := preserves keptBefore allowed stepped
      refine ⟨keptNext, ?_⟩
      intro executed member
      rcases List.mem_append.mp member with before | now
      · exact goodBefore executed before
      · rw [List.mem_singleton.mp now]
        exact goodNow)
    ⟨initial, by simp⟩ allowed
  refine ⟨allGood, ?_⟩
  intro fault failed
  rcases ended with ended | ⟨fault', ended, isTolerated⟩
  · rw [ended] at failed
    cases failed
  · rw [ended] at failed
    cases failed
    exact isTolerated

end Invariant

end FaultMachine
