import Mathlib.Tactic

/-! Runs of a deterministic machine whose steps may fault.
A step consumes one input, yields one output and the next state; `none` is a fault, after
which the machine has no further behaviour.
-/

namespace Machine

variable {σ τ ι ο : Type*}

-----------------------------------------------------------------------------------------
-- Runs and conditions along a run
-----------------------------------------------------------------------------------------

/-- The outputs and the last state of a run that consumes all inputs without a fault. -/
def run (step : σ → ι → Option (ο × σ)) : σ → List ι → Option (List ο × σ)
  | state, [] => some ([], state)
  | state, input :: rest =>
      match step state input with
      | none => none
      | some (output, next) =>
          match run step next rest with
          | none => none
          | some (outputs, last) => some (output :: outputs, last)

/-- Every input of the run meets `ok` in the state in which it is consumed. -/
def Along (step : σ → ι → Option (ο × σ)) (ok : σ → ι → Prop) : σ → List ι → Prop
  | _, [] => True
  | state, input :: rest =>
      ok state input
      ∧ ∀ output next, step state input = some (output, next) → Along step ok next rest

/-- A run without inputs. -/
@[simp]
theorem run_nil (step : σ → ι → Option (ο × σ)) (state : σ)
    : run step state [] = some ([], state) :=
  rfl

/-- A run of a first input and a rest consists of a step and a run from its next state. -/
theorem run_cons_iff {step : σ → ι → Option (ο × σ)} {state last : σ} {input : ι}
    {rest : List ι} {outputs : List ο}
    : run step state (input :: rest) = some (outputs, last)
      ↔ ∃ output next later,
          step state input = some (output, next)
          ∧ run step next rest = some (later, last)
          ∧ outputs = output :: later := by
  constructor
  · intro h
    simp only [run] at h
    cases stepped : step state input with
    | none => simp [stepped] at h
    | some result =>
        obtain ⟨output, next⟩ := result
        cases tail : run step next rest with
        | none => simp [stepped, tail] at h
        | some later =>
            simp only [stepped, tail, Option.some.injEq, Prod.mk.injEq] at h
            exact ⟨output, next, later.1, rfl, by rw [tail, ← h.2], h.1.symm⟩
  · rintro ⟨output, next, later, stepped, tail, rfl⟩
    simp [run, stepped, tail]

/-- A run over an appended input splits at the middle state, by induction on the first
part.
-/
theorem run_append_iff {step : σ → ι → Option (ο × σ)} {state last : σ}
    {first second : List ι} {outputs : List ο}
    : run step state (first ++ second) = some (outputs, last)
      ↔ ∃ early middle late,
          run step state first = some (early, middle)
          ∧ run step middle second = some (late, last)
          ∧ outputs = early ++ late := by
  induction first generalizing state outputs with
  | nil => simp
  | cons input rest ih =>
      simp only [List.cons_append, run_cons_iff, ih]
      constructor
      · rintro ⟨output, next, _, stepped, ⟨early, middle, late, head, tail, rfl⟩, rfl⟩
        exact ⟨output :: early, middle, late, ⟨output, next, early, stepped, head, rfl⟩, tail, rfl⟩
      · rintro ⟨_, middle, late, ⟨output, next, early, stepped, head, rfl⟩, tail, rfl⟩
        exact ⟨output, next, early ++ late, stepped, ⟨early, middle, late, head, tail, rfl⟩, rfl⟩

/-- A fault in the second part is a fault of the whole run. -/
theorem run_append_fault {step : σ → ι → Option (ο × σ)} {state middle : σ}
    {first second : List ι} {early : List ο}
    (ran : run step state first = some (early, middle)) (fault : run step middle second = none)
    : run step state (first ++ second) = none := by
  cases whole : run step state (first ++ second) with
  | none => rfl
  | some result =>
      obtain ⟨_, middle', late, ran', rest, _⟩ := run_append_iff.mp whole
      rw [ran] at ran'
      cases ran'
      rw [fault] at rest
      cases rest

/-- A condition along the first part and along the rest from its last state holds along
the whole, by induction on the first part.
-/
theorem along_append {step : σ → ι → Option (ο × σ)} {ok : σ → ι → Prop} {state middle : σ}
    {first second : List ι} {early : List ο}
    (ran : run step state first = some (early, middle)) (allowed : Along step ok state first)
    (more : Along step ok middle second)
    : Along step ok state (first ++ second) := by
  induction first generalizing state early with
  | nil =>
      simp only [run_nil, Option.some.injEq, Prod.mk.injEq] at ran
      exact ran.2 ▸ more
  | cons input rest ih =>
      obtain ⟨output, next, later, stepped, tail, _⟩ := run_cons_iff.mp ran
      refine ⟨allowed.1, ?_⟩
      intro output' next' stepped'
      rw [stepped] at stepped'
      cases stepped'
      exact ih tail (allowed.2 output next stepped)

/-- A condition along a whole run holds along its first part and along the rest, by
induction on the first part.
-/
theorem along_of_append {step : σ → ι → Option (ο × σ)} {ok : σ → ι → Prop} {state : σ}
    {first second : List ι} (allowed : Along step ok state (first ++ second))
    : Along step ok state first
      ∧ ∀ early middle,
          run step state first = some (early, middle) → Along step ok middle second := by
  induction first generalizing state with
  | nil =>
      refine ⟨trivial, ?_⟩
      intro early middle ran
      cases ran
      exact allowed
  | cons input rest ih =>
      refine ⟨⟨allowed.1, fun output next stepped => (ih (allowed.2 output next stepped)).1⟩, ?_⟩
      intro early middle ran
      obtain ⟨output, next, later, stepped, tail, _⟩ := run_cons_iff.mp ran
      exact (ih (allowed.2 output next stepped)).2 later middle tail

/-- A view of the state that every step updates by its input alone is a fold over the
inputs, by induction on them.
-/
theorem run_view {α : Type*} {step : σ → ι → Option (ο × σ)} {view : σ → α}
    {note : α → ι → α}
    (tracked
      : ∀ {state input output next},
          step state input = some (output, next) → view next = note (view state) input)
    {state last : σ} {inputs : List ι} {outputs : List ο}
    (ran : run step state inputs = some (outputs, last))
    : view last = inputs.foldl note (view state) := by
  induction inputs generalizing state outputs with
  | nil =>
      cases ran
      rfl
  | cons input rest ih =>
      obtain ⟨output, next, later, stepped, tail, _⟩ := run_cons_iff.mp ran
      rw [ih tail, tracked stepped, List.foldl_cons]

/-- A record that every step extends by what its output brings holds in the end what all outputs
have brought, by induction on the inputs.
-/
theorem run_collects {α : Type*} {step : σ → ι → Option (ο × σ)} {record : σ → List α}
    {brings : ο → List α}
    (collects
      : ∀ {state input output next},
          step state input = some (output, next) → record next = record state ++ brings output)
    {state last : σ} {inputs : List ι} {outputs : List ο}
    (ran : run step state inputs = some (outputs, last))
    : record last = record state ++ outputs.flatMap brings := by
  induction inputs generalizing state outputs with
  | nil =>
      cases ran
      simp
  | cons input rest ih =>
      obtain ⟨output, next, later, stepped, tail, rfl⟩ := run_cons_iff.mp ran
      rw [ih tail, collects stepped, List.flatMap_cons, List.append_assoc]

/-- What every allowed step preserves, every run of allowed steps preserves. -/
theorem run_invariant {step : σ → ι → Option (ο × σ)} {ok : σ → ι → Prop}
    {holds : σ → Prop}
    (preserved
      : ∀ {state input output next},
          holds state → ok state input → step state input = some (output, next) → holds next)
    {state last : σ} {inputs : List ι} {outputs : List ο}
    (initial : holds state) (allowed : Along step ok state inputs)
    (ran : run step state inputs = some (outputs, last))
    : holds last := by
  induction inputs generalizing state outputs with
  | nil =>
      simp only [run_nil, Option.some.injEq, Prod.mk.injEq] at ran
      exact ran.2 ▸ initial
  | cons input rest ih =>
      obtain ⟨output, next, later, stepped, tail, _⟩ := run_cons_iff.mp ran
      exact ih (preserved initial allowed.1 stepped) (allowed.2 output next stepped) tail

/-- Without a condition every run meets it. -/
theorem along_true (step : σ → ι → Option (ο × σ)) (inputs : List ι)
    : ∀ state, Along step (fun _ _ => True) state inputs := by
  induction inputs with
  | nil => exact fun _ => trivial
  | cons input rest ih => exact fun _ => ⟨trivial, fun _ next _ => ih next⟩

/-- The unconditional case: an invariant of every step is an invariant of every run. -/
theorem run_preserves {step : σ → ι → Option (ο × σ)} {holds : σ → Prop}
    (preserved
      : ∀ {state input output next},
          holds state → step state input = some (output, next) → holds next)
    {state last : σ} {inputs : List ι} {outputs : List ο}
    (initial : holds state) (ran : run step state inputs = some (outputs, last))
    : holds last :=
  run_invariant (fun held _ stepped => preserved held stepped) initial
    (along_true step inputs state) ran

/-- When every allowed step succeeds, gives a good output and keeps the invariant, every
run of allowed steps does.
-/
theorem run_progress {step : σ → ι → Option (ο × σ)} {ok : σ → ι → Prop}
    {holds : σ → Prop} {good : ο → Prop}
    (progress
      : ∀ {state input},
          holds state
          → ok state input
          → ∃ output next, step state input = some (output, next) ∧ good output ∧ holds next)
    {state : σ} {inputs : List ι} (initial : holds state)
    (allowed : Along step ok state inputs)
    : ∃ outputs last,
        run step state inputs = some (outputs, last)
        ∧ (∀ output ∈ outputs, good output)
        ∧ holds last := by
  induction inputs generalizing state with
  | nil => exact ⟨[], state, rfl, by simp, initial⟩
  | cons input rest ih =>
      obtain ⟨output, next, stepped, fine, kept⟩ := progress initial allowed.1
      obtain ⟨later, last, tail, allFine, final⟩ := ih kept (allowed.2 output next stepped)
      refine ⟨output :: later, last, by simp [run, stepped, tail], ?_, final⟩
      intro found member
      rcases List.mem_cons.mp member with rfl | member
      · exact fine
      · exact allFine found member

-----------------------------------------------------------------------------------------
-- Forward simulation by a machine without faults
-----------------------------------------------------------------------------------------

/-- The outputs and the last state of a machine that never faults. -/
def runTotal (step : σ → ι → ο × σ) : σ → List ι → List ο × σ
  | state, [] => ([], state)
  | state, input :: rest =>
      ((step state input).1 :: (runTotal step (step state input).2 rest).1,
        (runTotal step (step state input).2 rest).2)

/-- Every input of a fault-free run meets `ok` in the state in which it is consumed. -/
def AlongTotal (step : σ → ι → ο × σ) (ok : σ → ι → Prop) : σ → List ι → Prop
  | _, [] => True
  | state, input :: rest => ok state input ∧ AlongTotal step ok (step state input).2 rest

instance AlongTotal.decidable (step : σ → ι → ο × σ) (ok : σ → ι → Prop)
    [each : ∀ state input, Decidable (ok state input)]
    : (state : σ) → (inputs : List ι) → Decidable (AlongTotal step ok state inputs)
  | _, [] => inferInstanceAs (Decidable True)
  | state, input :: rest =>
      have := AlongTotal.decidable step ok (step state input).2 rest
      inferInstanceAs (Decidable (_ ∧ _))

/-- What every allowed step of a machine that never faults preserves, its runs preserve. -/
theorem runTotal_invariant {step : σ → ι → ο × σ} {ok : σ → ι → Prop} {holds : σ → Prop}
    (preserved : ∀ {state input}, holds state → ok state input → holds (step state input).2)
    {state : σ} {inputs : List ι} (initial : holds state)
    (allowed : AlongTotal step ok state inputs)
    : holds (runTotal step state inputs).2 := by
  induction inputs generalizing state with
  | nil => exact initial
  | cons input rest ih => exact ih (preserved initial allowed.1) allowed.2

/-- A step simulation extends to runs: the implementation does not fault, answers like the
specification and stays related to it.
-/
theorem run_simulates {step : σ → ι → Option (ο × σ)} {spec : τ → ι → ο × τ}
    {ok : τ → ι → Prop} {related : σ → τ → Prop}
    (simulates
      : ∀ {state abstract input},
          related state abstract
          → ok abstract input
          → ∃ next,
              step state input = some ((spec abstract input).1, next)
              ∧ related next (spec abstract input).2)
    {state : σ} {abstract : τ} {inputs : List ι}
    (initial : related state abstract) (allowed : AlongTotal spec ok abstract inputs)
    : ∃ last,
        run step state inputs = some ((runTotal spec abstract inputs).1, last)
        ∧ related last (runTotal spec abstract inputs).2 := by
  induction inputs generalizing state abstract with
  | nil => exact ⟨state, rfl, initial⟩
  | cons input rest ih =>
      obtain ⟨next, stepped, kept⟩ := simulates initial allowed.1
      obtain ⟨last, tail, final⟩ := ih kept allowed.2
      exact ⟨last, by simp [run, stepped, tail, runTotal], final⟩

-----------------------------------------------------------------------------------------
-- Two runs side by side
-----------------------------------------------------------------------------------------

/-- Two machines that keep in step, where what is allowed on the left succeeds on both
sides and yields the same output or nothing visible: their runs show the same outputs.
-/
theorem run_lockstep {step : σ → ι → Option (ο × σ)} {step' : τ → ι → Option (ο × τ)}
    {ok : σ → ι → Prop} {related : σ → τ → Prop} {visible : ο → Bool}
    (together
      : ∀ {left right input},
          related left right
          → ok left input
          → ∃ output next output' next',
              step left input = some (output, next)
              ∧ step' right input = some (output', next')
              ∧ (output = output' ∨ (visible output = false ∧ visible output' = false))
              ∧ related next next')
    {left : σ} {right : τ} {inputs : List ι} (initial : related left right)
    (allowed : Along step ok left inputs)
    : ∃ outputs last outputs' last',
        run step left inputs = some (outputs, last)
        ∧ run step' right inputs = some (outputs', last')
        ∧ outputs.filter visible = outputs'.filter visible
        ∧ related last last' := by
  induction inputs generalizing left right with
  | nil => exact ⟨[], left, [], right, rfl, rfl, rfl, initial⟩
  | cons input rest ih =>
      obtain ⟨output, next, output', next', stepped, stepped', shown, kept⟩ :=
        together initial allowed.1
      obtain ⟨later, last, later', last', tail, tail', same, final⟩ :=
        ih kept (allowed.2 output next stepped)
      refine ⟨output :: later, last, output' :: later', last', by simp [run, stepped, tail],
        by simp [run, stepped', tail'], ?_, final⟩
      rcases shown with rfl | ⟨hidden, hidden'⟩
      · simp only [List.filter_cons, same]
      · simp [hidden, hidden', same]

end Machine
