import Gpgme.Wait.Registrations

/-! The private event loop, after `_gpgme_wait_on_condition` of `wait-private.c`. It walks the
table of its context itself and not a copy, so that it sees what a callback registers and
removes.
-/

namespace Gpgme.Wait

open FaultMachine

/-- Where the loop stands: the slot that it looks at and the number of signalled descriptors
that are left.
-/
inductive PrivateLoop where
  | idle
  | select
  | dispatch (idx nr : Nat)
  | callback (idx nr : Nat)
  | scan
deriving DecidableEq, Repr

/-- The context that is waited for, and the tables of all contexts. -/
structure PrivateWorld where
  ctx : Nat
  context : Context
  tables : Tables := {}
  loop : PrivateLoop := .idle

inductive PrivateEvent where
  | quiet
  | dispatched (item ctx : Nat)
  | returned (err opErr : GpgError)
deriving DecidableEq

/-- What callbacks, the engines and the application do, and what the loop is answered. -/
inductive PrivateInput where
  | add (ctx fd dir : Nat)
  | remove (ctx idx : Nat)
  /-- The engine of a context is canceled and closes its file descriptors. -/
  | close (ctx : Nat)
  | cancelAsync
  | wait
  | select (ready : Except SelectErrno (List Nat))
  | dispatch (poll : Poll)
  | callbackReturns (err opErr : GpgError)
  /-- The end of a round, with the value of the condition. -/
  | scan (cond : Bool)

namespace PrivateWorld

/-- `_gpgme_cancel_with_err`, and the loop returns. A DONE event has no effect here. -/
def fail (world : PrivateWorld) (err opErr : GpgError) : PrivateEvent × PrivateWorld :=
  let tables :=
    if world.context.events = .noEngine then world.tables
    else world.tables.engineCancel world.context world.ctx err
  (.returned err opErr, { world with tables, loop := .idle })

/-- The slots of the table are marked in another way. -/
def setFds (world : PrivateWorld) (fds : List FdSlot) : PrivateWorld :=
  { world with
    tables := { world.tables with fdt := Function.update world.tables.fdt world.ctx fds } }

/-- `_gpgme_run_io_cb` for the wait item of a slot, unless the operation was canceled. -/
def runIoCb (world : PrivateWorld) (idx nr : Nat) (opaqueItem : Option Nat) (poll : Poll)
    : Except Fault (PrivateEvent × PrivateWorld) :=
  if world.context.canceled then .ok (world.fail canceledErr 0)
  else
    match opaqueItem with
    | none => .error .noItem
    | some item =>
        match poll with
        | .failed errno => .ok (world.fail errno.value 0)
        | .changed => .ok (.quiet, { world with loop := .dispatch (idx + 1) nr })
        | .ready =>
            match world.tables.items item with
            | none => .error .staleItem
            | some waitItem =>
                .ok (.dispatched item waitItem.ctx, { world with loop := .callback idx nr })

/-- Handle a signalled descriptor, which is no longer marked then. -/
def handleFd (world : PrivateWorld) (idx nr : Nat) (slot : FdSlot) (poll : Poll)
    : Except Fault (PrivateEvent × PrivateWorld) :=
  let fds := (world.tables.fdt world.ctx).set idx { slot with signaled := false }
  (world.setFds fds).runIoCb idx nr slot.item poll

/-- The loop looks at the next slot. -/
def dispatchNext (world : PrivateWorld) (poll : Poll)
    : Except Fault (PrivateEvent × PrivateWorld) :=
  match world.loop with
  | .dispatch idx (nr + 1) =>
      match (world.tables.fdt world.ctx)[idx]? with
      | none => .ok (.quiet, { world with loop := .scan })
      | some slot =>
          if slot.pending then world.handleFd idx nr slot poll
          else .ok (.quiet, { world with loop := .dispatch (idx + 1) (nr + 1) })
  | .dispatch _ 0 => .ok (.quiet, { world with loop := .scan })
  | _ => .ok (.quiet, world)

/-- `_gpgme_io_select` marks the slots of the table. -/
def select (world : PrivateWorld) (ready : List Nat) : PrivateWorld :=
  let fds := markSignaled ready (world.tables.fdt world.ctx)
  { world.setFds fds with loop := .dispatch 0 (fds.countP FdSlot.pending) }

/-- One step. -/
def step (world : PrivateWorld) (input : PrivateInput)
    : Except Fault (PrivateEvent × PrivateWorld) :=
  match input with
  | .add ctx fd dir => .ok (.quiet, { world with tables := world.tables.addIoCb ctx fd dir })
  | .remove ctx idx => .ok (.quiet, { world with tables := world.tables.removeIoCb ctx idx })
  | .close ctx => .ok (.quiet, { world with tables := world.tables.closeAll ctx })
  | .cancelAsync => .ok (.quiet, { world with context := { world.context with canceled := true } })
  | .wait =>
      match world.loop with
      | .idle => .ok (.quiet, { world with loop := .select })
      | _ => .ok (.quiet, world)
  | .select ready =>
      match world.loop with
      | .select =>
          match ready with
          | .error errno => .ok (world.fail (gpgErrorFromSyserror errno.index) 0)
          | .ok ready => .ok (.quiet, world.select ready)
      | _ => .ok (.quiet, world)
  | .dispatch poll => world.dispatchNext poll
  | .callbackReturns err opErr =>
      match world.loop with
      | .callback idx nr =>
          if err ≠ 0 then .ok (world.fail err 0)
          else if opErr ≠ 0 then .ok (world.fail 0 opErr)
          else .ok (.quiet, { world with loop := .dispatch (idx + 1) nr })
      | _ => .ok (.quiet, world)
  | .scan cond =>
      match world.loop with
      | .scan =>
          if world.tables.allClosed world.ctx || cond then
            .ok (.returned 0 0, { world with loop := .idle })
          else .ok (.quiet, { world with loop := .select })
      | _ => .ok (.quiet, world)

-----------------------------------------------------------------------------------------
-- The registrations that are used
-----------------------------------------------------------------------------------------

variable {world : PrivateWorld}

/-- The step succeeds, the tables stay sound, and a registration that is used is in the table
of its context.
-/
def Serves (world : PrivateWorld) (result : Except Fault (PrivateEvent × PrivateWorld)) : Prop :=
  ∃ event next,
    result = .ok (event, next)
    ∧ next.tables.Sound
    ∧ ∀ item ctx, event = .dispatched item ctx → item ∈ heldItems (world.tables.fdt ctx)

/-- A quiet round serves the tables. -/
theorem serves_quiet (next : PrivateWorld) (sound : next.tables.Sound)
    : world.Serves (.ok (.quiet, next)) :=
  ⟨.quiet, next, rfl, sound, by simp⟩

/-- An error closes descriptors only. -/
theorem serves_fail {failed : PrivateWorld} (sound : failed.tables.Sound) (err opErr : GpgError)
    : world.Serves (.ok (failed.fail err opErr)) := by
  refine ⟨_, _, rfl, ?_, by simp⟩
  dsimp only
  split
  · exact sound
  · exact (sound.engineCancel_closes _ _ _).sound

/-- A live wait item of the table is used. -/
theorem runIoCb_serves {marked : PrivateWorld} (sound : marked.tables.Sound) {idx nr item : Nat}
    {waitItem : WaitItem} {opaqueItem : Option Nat} (isItem : opaqueItem = some item)
    (live : marked.tables.items item = some waitItem)
    (held : item ∈ heldItems (world.tables.fdt waitItem.ctx)) (poll : Poll)
    : world.Serves (marked.runIoCb idx nr opaqueItem poll) := by
  unfold runIoCb
  split
  · exact serves_fail sound _ _
  · rw [isItem]
    cases poll with
    | failed errno => exact serves_fail sound _ _
    | changed => exact serves_quiet _ sound
    | ready =>
        simp only [live]
        refine ⟨_, _, rfl, sound, ?_⟩
        intro used ctx dispatched
        cases dispatched
        exact held

/-- A signalled slot of the table holds a live wait item. -/
theorem handleFd_serves (sound : world.tables.Sound) {idx nr : Nat} {slot : FdSlot}
    (found : (world.tables.fdt world.ctx)[idx]? = some slot) (pending : slot.pending = true)
    (poll : Poll)
    : world.Serves (world.handleFd idx nr slot poll) := by
  have inTable := List.mem_of_getElem? found
  have isOpen : slot.fd ≠ -1 := by
    simp only [FdSlot.pending, Bool.and_eq_true, bne_iff_ne] at pending
    exact pending.1
  obtain ⟨item, isItem⟩ : ∃ item, slot.item = some item := by
    rw [← Option.isSome_iff_exists, Option.isSome_iff_ne_none]
    exact fun none => isOpen ((sound.openSlot world.ctx slot inTable).mpr none)
  have held : item ∈ heldItems (world.tables.fdt world.ctx) :=
    List.mem_filterMap.mpr ⟨slot, inTable, isItem⟩
  obtain ⟨waitItem, live, owner⟩ := sound.live world.ctx item held
  have same : ((world.tables.fdt world.ctx).set idx { slot with signaled := false }).map
      FdSlot.registration = (world.tables.fdt world.ctx).map FdSlot.registration := by
    rw [List.map_set]
    apply List.ext_getElem?
    intro other
    rw [List.getElem?_set]
    split
    · next isIdx =>
        subst isIdx
        obtain ⟨inside, isSlot⟩ := List.getElem?_eq_some_iff.mp found
        simp [inside, isSlot, FdSlot.registration]
    · rfl
  have soundNext : (world.setFds
      ((world.tables.fdt world.ctx).set idx { slot with signaled := false })).tables.Sound :=
    sound.signal same
  exact runIoCb_serves soundNext isItem live (owner ▸ held) poll

/-- What one step does to the registrations. -/
theorem step_serves (sound : world.tables.Sound) (input : PrivateInput)
    : world.Serves (world.step input) := by
  cases input with
  | add ctx fd dir => exact serves_quiet _ (sound.addIoCb ctx fd dir)
  | remove ctx idx => exact serves_quiet _ (sound.removeIoCb ctx idx)
  | close ctx => exact serves_quiet _ (sound.closeAll ctx).1.sound
  | cancelAsync => exact serves_quiet _ sound
  | wait =>
      simp only [step]
      split <;> exact serves_quiet _ sound
  | select ready =>
      simp only [step]
      split
      · cases ready with
        | error errno => exact serves_fail sound _ _
        | ok ready => exact serves_quiet _ (sound.signal (markSignaled_registration ready _))
      · exact serves_quiet _ sound
  | dispatch poll =>
      simp only [step, dispatchNext]
      split
      · split
        · exact serves_quiet _ sound
        · next found =>
            split
            · next pending => exact handleFd_serves sound found pending poll
            · exact serves_quiet _ sound
      · exact serves_quiet _ sound
      · exact serves_quiet _ sound
  | callbackReturns err opErr =>
      simp only [step]
      split
      · split
        · exact serves_fail sound _ _
        · split
          · exact serves_fail sound _ _
          · exact serves_quiet _ sound
      · exact serves_quiet _ sound
  | scan cond =>
      simp only [step]
      split
      · split
        · exact ⟨_, _, rfl, sound, by simp⟩
        · exact serves_quiet _ sound
      · exact serves_quiet _ sound

/-- A registration that is used is in the table of its context at that moment. -/
def LiveDispatch (executed : Executed PrivateWorld PrivateInput PrivateEvent) : Prop :=
  ∀ item ctx,
    executed.output = .dispatched item ctx → item ∈ heldItems (executed.state.tables.fdt ctx)

/-- Every run of the private loop is without a fault and uses registrations that are there,
whatever the callbacks do.
-/
theorem run_liveDispatch (sound : world.tables.Sound) (inputs : List PrivateInput)
    : (∀ executed ∈ (run step world inputs).1, LiveDispatch executed)
      ∧ ∀ fault, (run step world inputs).2 ≠ .error fault := by
  have allowed : Along step (fun _ _ => True) world inputs :=
    along_of_forall (fun _ _ => trivial) inputs
  refine run_steps (fun _ => False) (fun world : PrivateWorld => world.tables.Sound) LiveDispatch
    ?_ ?_ sound allowed
  · intro world input fault sound _ failed
    obtain ⟨_, _, ok, _⟩ := step_serves sound input
    rw [ok] at failed
    cases failed
  · intro world input event next sound _ stepped
    obtain ⟨_, _, ok, soundNext, live⟩ := step_serves sound input
    rw [stepped] at ok
    cases ok
    exact ⟨soundNext, live⟩

end PrivateWorld

end Gpgme.Wait
