import Gpgme.Wait.Registrations

/-! Cancellation in the global event loop: which context is finished as canceled.
`gpgme_wait_ext` handles the descriptors of all active contexts, but it asks the context that
it waits for whether it was canceled.
-/

namespace Gpgme.Wait

open FaultMachine

variable {world next : World} {input : Input} {event : Event} {fault : Fault}

/-- The context that is finished as canceled, if the event tells so. -/
def Event.finishedCanceled : Event → Option Nat
  | .done _ ctx err _ => if gpgErrCode err = ErrCode.canceled then some ctx else none
  | _ => none

/-- The context that was asked for and the context of the descriptor, if the loop is about to
handle a signalled descriptor of a live wait item.
-/
def World.handled (world : World) (input : Input) : Option (Option Nat × Nat) :=
  match input with
  | .dispatch _ =>
      match world.loop with
      | .dispatch asked _ (slot :: _) (_ + 1) =>
          if slot.pending then
            slot.item.bind (fun item =>
              (world.tables.items item).map (fun waitItem => (asked, waitItem.ctx)))
          else none
      | _ => none
  | _ => none

/-- The context whose callback returns as canceled, if one does. -/
def World.reportsCanceled (world : World) (input : Input) : Option Nat :=
  match input with
  | .callbackReturns err _ =>
      match world.loop with
      | .callback _ _ _ _ ictx => if gpgErrCode err = ErrCode.canceled then some ictx else none
      | _ => none
  | _ => none

/-- The context has been marked as canceled, or the application cancels it in this step. -/
def World.MarkedCanceled (world : World) (input : Input) (ctx : Nat) : Prop :=
  (world.ctxs ctx).canceled = true ∨ input = .cancel (some ctx)

/-- An executed step finishes only marked contexts as canceled, and it finishes a marked
context of which it handles a descriptor so.
-/
structure Isolated (executed : Executed World Input Event) : Prop where
  onlyMarked
    : ∀ ctx,
        executed.output.finishedCanceled = some ctx
        → executed.state.MarkedCanceled executed.input ctx
  marked
    : ∀ asked ictx,
        executed.state.handled executed.input = some (asked, ictx)
        → (executed.state.ctxs ictx).canceled = true
        → ∃ op, executed.output = .done op ictx canceledErr 0

/-- The steps of a run are isolated, and it does not end at a null context. -/
structure IsolatedRun (world : World) (inputs : List Input) : Prop where
  steps : ∀ executed ∈ (run World.step world inputs).1, Isolated executed
  context : (run World.step world inputs).2 ≠ .error .nullContext

/-- The loop handles a descriptor only while it waits for a context that is marked exactly
when the context of the descriptor is, and only a callback of a marked context reports that
the operation was canceled.
-/
def World.FlagsAgree (world : World) (input : Input) : Prop :=
  (∀ handled ∈ world.handled input,
    ∃ asked ∈ handled.1, (world.ctxs asked).canceled = (world.ctxs handled.2).canceled)
  ∧ ∀ ictx ∈ world.reportsCanceled input, (world.ctxs ictx).canceled = true

instance (world : World) (input : Input) : Decidable (world.FlagsAgree input) :=
  inferInstanceAs (Decidable (_ ∧ _))

-----------------------------------------------------------------------------------------
-- One step
-----------------------------------------------------------------------------------------

/-- The operation that a descriptor is handled for. -/
theorem World.Handles.handled {asked : Option Nat} {hang : Bool} {rest : List FdSlot}
    {nr item ictx : Nat} (handles : world.Handles asked hang rest nr item ictx) (poll : Poll)
    : world.handled (.dispatch poll) = some (asked, ictx) := by
  obtain ⟨⟨slot, loop, pending, held⟩, ⟨dir, live⟩⟩ := handles
  simp [World.handled, loop, pending, held, live]

/-- An operation is handled by a dispatch only. -/
theorem World.handles_of_handled {asked : Option Nat} {ictx : Nat}
    (handled : world.handled input = some (asked, ictx))
    : ∃ poll hang rest nr item,
        input = .dispatch poll ∧ world.Handles asked hang rest nr item ictx := by
  unfold World.handled at handled
  split at handled
  · next poll =>
      split at handled
      · next loop =>
          split at handled
          · next pending =>
              obtain ⟨item, held, live⟩ := Option.bind_eq_some_iff.mp handled
              obtain ⟨waitItem, isItem, same⟩ := Option.map_eq_some_iff.mp live
              cases same
              exact ⟨poll, _, _, _, item, rfl, ⟨_, loop, pending, held⟩,
                ⟨waitItem.dir, isItem⟩⟩
          · cases handled
      · cases handled
  · cases handled

/-- With the flag of the context that is waited for, a handled descriptor leads to a
cancellation.
-/
theorem World.Handles.step_canceled {asked : Nat} {hang : Bool} {rest : List FdSlot}
    {nr item ictx : Nat} (handles : world.Handles (some asked) hang rest nr item ictx)
    (canceled : (world.ctxs asked).canceled = true) (poll : Poll)
    : world.step (.dispatch poll)
      = World.cancelWithErr { world with loop := .scan (some asked) hang } ictx canceledErr 0 := by
  obtain ⟨⟨slot, loop, pending, held⟩, ⟨dir, live⟩⟩ := handles
  simp [World.step, World.dispatchNext, World.handleFd, loop, pending, held, live, canceled]

/-- A canceled operation is the one that has ended. -/
theorem World.Done.finished {ctx finished : Nat} {err opErr : GpgError}
    (done : world.Done ctx err opErr event next)
    (isFinished : event.finishedCanceled = some finished)
    : finished = ctx ∧ gpgErrCode err = ErrCode.canceled := by
  cases done with
  | noEngine _ => cases isFinished
  | other _ =>
      obtain ⟨isCanceled, same⟩ := Option.ite_none_right_eq_some.mp isFinished
      exact ⟨(Option.some.inj same).symm, isCanceled⟩
  | global _ _ =>
      obtain ⟨isCanceled, same⟩ := Option.ite_none_right_eq_some.mp isFinished
      exact ⟨(Option.some.inj same).symm, isCanceled⟩

/-- A cancellation finishes its own context, with the error that it was given. -/
theorem World.cancelWithErr_finished {ctx finished : Nat} {err opErr : GpgError}
    (canceled : world.cancelWithErr ctx err opErr = .ok (event, next))
    (isFinished : event.finishedCanceled = some finished)
    : finished = ctx ∧ gpgErrCode err = ErrCode.canceled := by
  rcases cancelWithErr_cases canceled with ⟨_, rfl, _⟩ | ⟨_, done⟩
  · cases isFinished
  · exact done.finished isFinished

/-- A cancellation of a context with an engine raises a DONE event. -/
theorem World.cancelWithErr_raises {ctx : Nat} {err opErr : GpgError} (engine : world.HasEngine ctx)
    (canceled : world.cancelWithErr ctx err opErr = .ok (event, next))
    : ∃ op, event = .done op ctx err opErr := by
  rcases cancelWithErr_cases canceled with ⟨noEngine, _⟩ | ⟨_, done⟩
  · exact absurd noEngine engine
  · cases done with
    | noEngine noEngine => exact absurd noEngine engine
    | other _ => exact ⟨none, rfl⟩
    | global _ _ => exact ⟨some _, rfl⟩

/-- What a step can finish as canceled. -/
theorem World.Steps.onlyMarked (steps : world.Steps input event next)
    (agree : world.FlagsAgree input) {ctx : Nat}
    (isFinished : event.finishedCanceled = some ctx)
    : world.MarkedCanceled input ctx := by
  cases steps with
  | nothing silent => rcases silent with rfl | ⟨_, rfl⟩ <;> cases isFinished
  | cancels cause canceled =>
      obtain ⟨rfl, isCanceled⟩ := World.cancelWithErr_finished canceled isFinished
      cases cause with
      | application => exact Or.inr rfl
      | noMemory => cases isCanceled
      | flag handles marked poll =>
          obtain ⟨asked, isAsked, same⟩ := agree.1 _ (handles.handled poll)
          cases isAsked
          exact Or.inl (same.symm.trans marked)
      | poll _ _ errno => cases errno <;> cases isCanceled
      | callback loop _ =>
          refine Or.inl (agree.2 _ ?_)
          simp [World.reportsCanceled, loop, isCanceled]
  | moves moved => cases moved <;> cases isFinished
  | finishes _ done =>
      obtain ⟨_, isCanceled⟩ := (World.raiseDone_done done).finished isFinished
      cases isCanceled
  | resets | marks | adds | removes | starts | returns => cases isFinished

/-- A step in which the flags agree is isolated. -/
theorem World.step_isolated (registered : world.Registered) (agree : world.FlagsAgree input)
    (stepped : world.step input = .ok (event, next))
    : Isolated ⟨world, input, event⟩ := by
  constructor
  · intro ctx isFinished
    exact (World.step_steps stepped).onlyMarked agree isFinished
  · intro asked ictx handled canceled
    obtain ⟨poll, hang, rest, nr, item, isDispatch, handles⟩ := World.handles_of_handled handled
    obtain ⟨ctx, isAsked, same⟩ := agree.1 _ handled
    cases isAsked
    cases isDispatch
    rw [handles.step_canceled (same.trans canceled) poll] at stepped
    obtain ⟨dir, live⟩ := handles.live
    have engine : World.HasEngine { world with loop := .scan (some ctx) hang } ictx :=
      registered.engine live
    exact World.cancelWithErr_raises engine stepped

/-- A step in which the flags agree does not use a null context. -/
theorem World.step_context (agree : world.FlagsAgree input)
    (failed : world.step input = .error fault)
    : fault ≠ .nullContext := by
  cases World.step_fails failed with
  | nullContext handles =>
      obtain ⟨asked, isAsked, _⟩ := agree.1 _ (handles.handled _)
      cases isAsked
  | cancel _ refused =>
      obtain ⟨_, _, _, rfl⟩ := World.cancelWithErr_fails refused
      simp
  | finish _ refused =>
      obtain ⟨_, _, _, rfl⟩ := World.raiseDone_fails refused
      simp
  | noItem | staleItem | start | collect | scan | found | reap => simp

-----------------------------------------------------------------------------------------
-- Runs
-----------------------------------------------------------------------------------------

/-- In every run in which the flags agree, a context is finished as canceled only when it was
marked, a marked context is finished as canceled as soon as one of its descriptors is handled,
and no null context is used.
-/
theorem globalLoop_isolated (ctxs : Nat → Context) (inputs : List Input)
    (agree : Along World.step World.FlagsAgree (World.initial ctxs) inputs)
    : IsolatedRun (World.initial ctxs) inputs := by
  have isolated := run_steps (fun fault => fault ≠ .nullContext) World.Registered Isolated
    (fun _ agree failed => World.step_context agree failed)
    (fun registered agree stepped =>
      ⟨(World.step_steps stepped).registered registered,
        World.step_isolated registered agree stepped⟩)
    (World.initial_registered ctxs) agree
  exact ⟨isolated.1, fun failed => isolated.2 _ failed rfl⟩

/-- An operation in the first context that is canceled while the loop waits for it. -/
def canceledInputs : List Input := [
  .reset 0 .global, .add 0 3 1, .start 0 true, .cancelAsync (some 0), .wait (some 0) true,
  .collect true, .select (.ok [0]), .dispatch .ready, .proceed, .proceed]

/-- One of two operations is canceled. -/
theorem globalLoop_isolated_canceled
    : Along World.step World.FlagsAgree (World.initial fun _ => {}) canceledInputs
      ∧ IsolatedRun (World.initial fun _ => {}) canceledInputs
      ∧ Event.returned 0 0 canceledErr 0
        ∈ (run World.step (World.initial fun _ => {}) canceledInputs).1.map Executed.output :=
  ⟨by decide, globalLoop_isolated _ _ (by decide), by decide⟩

/-- Two operations, of which the first one is marked as canceled and waited for. The loop
finds a descriptor of the second one ready.
-/
def otherCanceledInputs : List Input := [
  .reset 0 .global, .reset 1 .global, .add 0 3 1, .add 1 4 1, .start 0 true, .start 1 true,
  .cancelAsync (some 0), .wait (some 0) true, .collect true, .select (.ok [0]),
  .dispatch .ready]

/-- One operation, while the loop waits for any context. -/
def anyContextInputs : List Input := [
  .reset 0 .global, .add 0 3 1, .start 0 true, .wait none true, .collect true,
  .select (.ok [0]), .dispatch .ready]

/-- The second operation is finished as canceled although only the first one was marked; and
waiting for any context ends at a null context.
-/
theorem globalLoop_not_isolated
    : ¬ IsolatedRun (World.initial fun _ => {}) otherCanceledInputs
      ∧ ¬ IsolatedRun (World.initial fun _ => {}) anyContextInputs := by
  constructor
  · intro isolated
    obtain ⟨executed, member, finished, unmarked⟩ : ∃ executed
        ∈ (run World.step (World.initial fun _ => {}) otherCanceledInputs).1,
        executed.output.finishedCanceled = some 1
        ∧ ¬ executed.state.MarkedCanceled executed.input 1 :=
      ⟨_, List.mem_of_getLast? rfl, rfl, by rintro (flag | application) <;> contradiction⟩
    exact unmarked ((isolated.steps executed member).onlyMarked 1 finished)
  · intro isolated
    exact isolated.context rfl

end Gpgme.Wait
