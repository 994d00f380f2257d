import Gpgme.Wait.CtxLists
import Gpgme.Wait.FdTable

/-! The global event loop, after `gpgme_wait_ext` of `wait-global.c`.
The loop is cut into steps at the places where it calls other code or gives up its lock. In
between, callbacks and other threads may register and remove file descriptors, start
operations and cancel them.
-/

namespace Gpgme.Wait

-----------------------------------------------------------------------------------------
-- States
-----------------------------------------------------------------------------------------

/-- The event callback that the engine of a context was given, if there is an engine. -/
inductive Events where
  | noEngine
  | global
  | other
deriving DecidableEq, Repr

/-- What the event loops use of a context besides its table. -/
structure Context where
  canceled : Bool := false
  events : Events := .noEngine
  /-- The engine has a `cancel_op` operation, which closes its file descriptors. -/
  cancelOpCloses : Bool := false
deriving DecidableEq, Repr

/-- Where the loop stands. The arguments of `gpgme_wait_ext` come first; then the descriptors
that are still to be looked at and the number of signalled ones among them.
-/
inductive Loop where
  | idle
  | collect (ctx : Option Nat) (hang : Bool)
  | select (ctx : Option Nat) (hang : Bool) (fds : List FdSlot)
  | dispatch (ctx : Option Nat) (hang : Bool) (fds : List FdSlot) (nr : Nat)
  | callback (ctx : Option Nat) (hang : Bool) (fds : List FdSlot) (nr ictx : Nat)
  | scan (ctx : Option Nat) (hang : Bool)
  | finish (ctx : Option Nat) (hang : Bool) (actx : Nat)
  | reap (ctx : Option Nat) (hang : Bool)

structure World where
  ctxs : Nat → Context := fun _ => {}
  tables : Tables := {}
  lists : CtxLists := {}
  loop : Loop := .idle

/-- What ends the program: a null context, a failed assertion on the wait item, an access to
a freed wait item, and what can happen to the lists.
-/
inductive Fault where
  | nullContext
  | noItem
  | staleItem
  | list (fault : ListFault)
deriving DecidableEq, Repr

/-- What a step shows: an operation that was started, a DONE event with the operation that it
finished, a callback that was called, and what the functions return.
-/
inductive Event where
  | quiet
  | started (op ctx : Nat)
  | done (op : Option Nat) (ctx : Nat) (err opErr : GpgError)
  | dispatched (item ctx : Nat)
  | returned (op ctx : Nat) (status opErr : GpgError)
  | returnedNull (status : GpgError)
  | refused (err : GpgError)
deriving DecidableEq

-----------------------------------------------------------------------------------------
-- Events and cancellation
-----------------------------------------------------------------------------------------

/-- `_gpgme_engine_io_event` with a DONE event. -/
def World.raiseDone (world : World) (ctx : Nat) (err opErr : GpgError)
    : Except Fault (Event × World) :=
  match (world.ctxs ctx).events with
  | .noEngine => .ok (.quiet, world)
  | .other => .ok (.done none ctx err opErr, world)
  | .global =>
      match world.lists.ctxDone ctx err opErr with
      | .error fault => .error (.list fault)
      | .ok (op, lists) => .ok (.done (some op) ctx err opErr, { world with lists })

/-- `_gpgme_engine_cancel` for an error of the session, which closes all file descriptors, or
`_gpgme_engine_cancel_op` for an error of the operation.
-/
def Tables.engineCancel (tables : Tables) (context : Context) (ctx : Nat) (err : GpgError)
    : Tables :=
  if err ≠ 0 ∨ context.cancelOpCloses then tables.closeAll ctx else tables

/-- `_gpgme_cancel_with_err`. -/
def World.cancelWithErr (world : World) (ctx : Nat) (err opErr : GpgError)
    : Except Fault (Event × World) :=
  if (world.ctxs ctx).events = .noEngine then .ok (.refused (gpgError ErrCode.invValue), world)
  else
    World.raiseDone { world with tables := world.tables.engineCancel (world.ctxs ctx) ctx err } ctx
      err opErr

/-- The START event; without memory for the list item the operation is canceled. -/
def World.raiseStart (world : World) (ctx : Nat) (allocated : Bool)
    : Except Fault (Event × World) :=
  if (world.ctxs ctx).events ≠ .global then .ok (.quiet, world)
  else if !allocated then world.cancelWithErr ctx (gpgError ErrCode.enomem) 0
  else
    match world.lists.ctxActive ctx with
    | .error fault => .error (.list fault)
    | .ok (op, lists) => .ok (.started op ctx, { world with lists })

/-- The error with which a canceled operation finishes. -/
def canceledErr : GpgError := gpgError ErrCode.canceled

-----------------------------------------------------------------------------------------
-- The loop
-----------------------------------------------------------------------------------------

/-- The descriptors of all active contexts, copied in the order of the active list. -/
def World.collectFds (world : World) : Option (List FdSlot) :=
  (DoublyLinkedList.values world.lists.heap world.lists.nextItem world.lists.active).map
    (fun entries => entries.flatMap (fun entry => world.tables.fdt entry.ctx))

/-- `_gpgme_io_select` marks the open descriptors that are ready; the positions of the ready
ones are given.
-/
def markSignaled (ready : List Nat) (fds : List FdSlot) : List FdSlot :=
  fds.mapIdx (fun idx slot =>
    if slot.fd = -1 then slot else { slot with signaled := ready.contains idx })

/-- The slot is to be handled in this round. -/
def FdSlot.pending (slot : FdSlot) : Bool := slot.fd != -1 && slot.signaled

/-- The errors of `_gpgme_io_select`; an interrupted call is repeated. -/
inductive SelectErrno where
  | ebadf | enomem | einval | emfile
deriving DecidableEq, Repr

def SelectErrno.value : SelectErrno → GpgError
  | .ebadf => 9
  | .enomem => 12
  | .einval => 22
  | .emfile => 24

/-- The `libgpg-error` index of the error number. -/
def SelectErrno.index : SelectErrno → Nat
  | .ebadf => 11
  | .enomem => 86
  | .einval => 48
  | .emfile => 65

/-- What the quick poll in `_gpgme_run_io_cb` says; an error number is returned as it is. -/
inductive Poll where
  | failed (errno : SelectErrno)
  | changed
  | ready
deriving DecidableEq, Repr

/-- Handle a signalled descriptor. The flag that is tested is that of the context that is
waited for, not that of the context of the descriptor.
-/
def World.handleFd (world : World) (ctx : Option Nat) (hang : Bool) (slot : FdSlot)
    (rest : List FdSlot) (nr : Nat) (poll : Poll)
    : Except Fault (Event × World) :=
  match slot.item with
  | none => .error .noItem
  | some item =>
      match world.tables.items item with
      | none => .error .staleItem
      | some { ctx := ictx, .. } =>
          match ctx with
          | none => .error .nullContext
          | some asked =>
              let broken : World := { world with loop := .scan ctx hang }
              if (world.ctxs asked).canceled then broken.cancelWithErr ictx canceledErr 0
              else
                match poll with
                | .failed errno => broken.cancelWithErr ictx errno.value 0
                | .changed => .ok (.quiet, { world with loop := .dispatch ctx hang rest nr })
                | .ready =>
                    .ok (.dispatched item ictx,
                      { world with loop := .callback ctx hang rest nr ictx })

/-- Whether all descriptors of a context have been closed. -/
def Tables.allClosed (tables : Tables) (ctx : Nat) : Bool :=
  (tables.fdt ctx).all (fun slot => slot.fd == -1)

/-- Look for an active context that has finished. -/
def World.scanActive (world : World) (ctx : Option Nat) (hang : Bool)
    : Except Fault (Event × World) :=
  match DoublyLinkedList.search world.lists.heap (fun entry => world.tables.allClosed entry.ctx)
      world.lists.nextItem world.lists.active with
  | none => .error (.list .badPointer)
  | some none => .ok (.quiet, { world with loop := .reap ctx hang })
  | some (some addr) =>
      match world.lists.heap addr with
      | none => .error (.list .badPointer)
      | some node => .ok (.quiet, { world with loop := .finish ctx hang node.value.ctx })

/-- Return a context that is done, or go on. -/
def World.reapDone (world : World) (ctx : Option Nat) (hang : Bool)
    : Except Fault (Event × World) :=
  match world.lists.ctxWait ctx with
  | .error fault => .error (.list fault)
  | .ok (some (op, entry), lists) =>
      .ok (.returned op entry.ctx entry.status entry.opErr, { world with lists, loop := .idle })
  | .ok (none, _) =>
      if hang then .ok (.quiet, { world with loop := .collect ctx hang })
      else .ok (.returnedNull 0, { world with loop := .idle })

/-- What the environment does, and what it answers to the loop. An input that does not fit
the place where the loop stands has no effect.
-/
inductive Input where
  /-- `_gpgme_op_reset`, which sets up the engine for the global loop or for another one. -/
  | reset (ctx : Nat) (events : Events)
  /-- `_gpgme_add_io_cb`, called by the engine. -/
  | add (ctx fd dir : Nat)
  /-- `_gpgme_remove_io_cb`, called by the engine. -/
  | remove (ctx idx : Nat)
  | start (ctx : Nat) (allocated : Bool)
  /-- `gpgme_cancel`. -/
  | cancel (ctx : Option Nat)
  /-- `gpgme_cancel_async`. -/
  | cancelAsync (ctx : Option Nat)
  /-- `gpgme_wait_ext`. -/
  | wait (ctx : Option Nat) (hang : Bool)
  | collect (allocated : Bool)
  | select (ready : Except SelectErrno (List Nat))
  | dispatch (poll : Poll)
  | callbackReturns (err opErr : GpgError)
  | proceed

/-- The loop goes on without an answer of the environment. -/
def World.proceed (world : World) : Except Fault (Event × World) :=
  match world.loop with
  | .scan ctx hang => world.scanActive ctx hang
  | .finish ctx hang actx => World.raiseDone { world with loop := .scan ctx hang } actx 0 0
  | .reap ctx hang => world.reapDone ctx hang
  | _ => .ok (.quiet, world)

/-- The loop looks at the next descriptor. -/
def World.dispatchNext (world : World) (poll : Poll) : Except Fault (Event × World) :=
  match world.loop with
  | .dispatch ctx hang (slot :: rest) (nr + 1) =>
      if slot.pending then world.handleFd ctx hang slot rest nr poll
      else .ok (.quiet, { world with loop := .dispatch ctx hang rest (nr + 1) })
  | .dispatch ctx hang _ _ => .ok (.quiet, { world with loop := .scan ctx hang })
  | _ => .ok (.quiet, world)

/-- One step. -/
def World.step (world : World) (input : Input) : Except Fault (Event × World) :=
  match input with
  | .reset _ .noEngine => .ok (.quiet, world)
  | .reset ctx events =>
      .ok (.quiet, { world with
        ctxs := Function.update world.ctxs ctx
          { world.ctxs ctx with canceled := false, events } })
  | .add ctx fd dir =>
      if (world.ctxs ctx).events = .noEngine then .ok (.quiet, world)
      else .ok (.quiet, { world with tables := world.tables.addIoCb ctx fd dir })
  | .remove ctx idx => .ok (.quiet, { world with tables := world.tables.removeIoCb ctx idx })
  | .start ctx allocated => world.raiseStart ctx allocated
  | .cancel none => .ok (.refused (gpgError ErrCode.invValue), world)
  | .cancel (some ctx) => world.cancelWithErr ctx canceledErr 0
  | .cancelAsync none => .ok (.refused (gpgError ErrCode.invValue), world)
  | .cancelAsync (some ctx) =>
      .ok (.quiet, { world with
        ctxs := Function.update world.ctxs ctx { world.ctxs ctx with canceled := true } })
  | .wait ctx hang =>
      match world.loop with
      | .idle => .ok (.quiet, { world with loop := .collect ctx hang })
      | _ => .ok (.quiet, world)
  | .collect allocated =>
      match world.loop with
      | .collect ctx hang =>
          if !allocated then
            .ok (.returnedNull (gpgError ErrCode.enomem), { world with loop := .idle })
          else
            match world.collectFds with
            | none => .error (.list .badPointer)
            | some fds => .ok (.quiet, { world with loop := .select ctx hang fds })
      | _ => .ok (.quiet, world)
  | .select ready =>
      match world.loop with
      | .select ctx hang fds =>
          match ready with
          | .error errno =>
              .ok (.returnedNull (gpgErrorFromSyserror errno.index), { world with loop := .idle })
          | .ok ready =>
              let fds := markSignaled ready fds
              .ok (.quiet, { world with
                loop := .dispatch ctx hang fds (fds.countP FdSlot.pending) })
      | _ => .ok (.quiet, world)
  | .dispatch poll => world.dispatchNext poll
  | .callbackReturns err opErr =>
      match world.loop with
      | .callback ctx hang rest nr ictx =>
          if err ≠ 0 ∨ opErr ≠ 0 then
            World.cancelWithErr { world with loop := .scan ctx hang } ictx err opErr
          else
            .ok (.quiet, { world with loop := .dispatch ctx hang rest nr })
      | _ => .ok (.quiet, world)
  | .proceed => world.proceed

-----------------------------------------------------------------------------------------
-- What a step can do
-----------------------------------------------------------------------------------------

/-- The loop is about to handle the signalled descriptor of a live wait item. -/
structure World.Handles (world : World) (asked : Option Nat) (hang : Bool) (rest : List FdSlot)
    (nr item ictx : Nat) : Prop where
  loop : ∃ slot,
    world.loop = .dispatch asked hang (slot :: rest) (nr + 1)
    ∧ slot.pending = true
    ∧ slot.item = some item
  live : ∃ dir, world.tables.items item = some { ctx := ictx, dir }

/-- The step cancels the operation of a context with these errors, and the loop then stands
at the given place.
-/
inductive World.Cancels (world : World) : Input → Nat → GpgError → GpgError → Loop → Prop
  | application (ctx : Nat)
    : world.Cancels (.cancel (some ctx)) ctx canceledErr 0 world.loop
  | noMemory {ctx : Nat} (events : (world.ctxs ctx).events = .global)
    : world.Cancels (.start ctx false) ctx (gpgError ErrCode.enomem) 0 world.loop
  | flag {asked : Nat} {hang : Bool} {rest : List FdSlot} {nr item ictx : Nat}
    (handles : world.Handles (some asked) hang rest nr item ictx)
    (canceled : (world.ctxs asked).canceled = true) (poll : Poll)
    : world.Cancels (.dispatch poll) ictx canceledErr 0 (.scan (some asked) hang)
  | poll {asked : Nat} {hang : Bool} {rest : List FdSlot} {nr item ictx : Nat}
    (handles : world.Handles (some asked) hang rest nr item ictx)
    (active : (world.ctxs asked).canceled = false) (errno : SelectErrno)
    : world.Cancels (.dispatch (.failed errno)) ictx errno.value 0 (.scan (some asked) hang)
  | callback {ctx : Option Nat} {hang : Bool} {rest : List FdSlot} {nr ictx : Nat}
    {err opErr : GpgError} (loop : world.loop = .callback ctx hang rest nr ictx)
    (error : err ≠ 0 ∨ opErr ≠ 0)
    : world.Cancels (.callbackReturns err opErr) ictx err opErr (.scan ctx hang)

/-- The step only moves the loop. -/
inductive World.Moves (world : World) : Input → Event → Loop → Prop
  | wait {ctx : Option Nat} {hang : Bool} (loop : world.loop = .idle)
    : world.Moves (.wait ctx hang) .quiet (.collect ctx hang)
  | fails {input : Input} {err : GpgError} : world.Moves input (.returnedNull err) .idle
  | collects {ctx : Option Nat} {hang : Bool} {fds : List FdSlot}
    (collected : world.collectFds = some fds)
    : world.Moves (.collect true) .quiet (.select ctx hang fds)
  | selects {ctx : Option Nat} {hang : Bool} {fds : List FdSlot} {ready : List Nat} {nr : Nat}
    (loop : world.loop = .select ctx hang fds)
    : world.Moves (.select (.ok ready)) .quiet (.dispatch ctx hang (markSignaled ready fds) nr)
  | skips {ctx : Option Nat} {hang : Bool} {slot : FdSlot} {rest : List FdSlot} {nr : Nat}
    {poll : Poll} (loop : world.loop = .dispatch ctx hang (slot :: rest) (nr + 1))
    (skipped : slot.pending = false)
    : world.Moves (.dispatch poll) .quiet (.dispatch ctx hang rest (nr + 1))
  | changed {asked : Nat} {hang : Bool} {rest : List FdSlot} {nr item ictx : Nat}
    (handles : world.Handles (some asked) hang rest nr item ictx)
    (active : (world.ctxs asked).canceled = false)
    : world.Moves (.dispatch .changed) .quiet (.dispatch (some asked) hang rest nr)
  | dispatches {asked : Nat} {hang : Bool} {rest : List FdSlot} {nr item ictx : Nat}
    (handles : world.Handles (some asked) hang rest nr item ictx)
    (active : (world.ctxs asked).canceled = false)
    : world.Moves (.dispatch .ready) (.dispatched item ictx)
        (.callback (some asked) hang rest nr ictx)
  | endsRound {ctx : Option Nat} {hang : Bool} {fds : List FdSlot} {nr : Nat} {poll : Poll}
    (loop : world.loop = .dispatch ctx hang fds nr) (handled : fds = [] ∨ nr = 0)
    : world.Moves (.dispatch poll) .quiet (.scan ctx hang)
  | endsCallback {ctx : Option Nat} {hang : Bool} {rest : List FdSlot} {nr ictx : Nat}
    (loop : world.loop = .callback ctx hang rest nr ictx)
    : world.Moves (.callbackReturns 0 0) .quiet (.dispatch ctx hang rest nr)
  | finds {ctx : Option Nat} {hang : Bool} {addr : Nat} {node : DoublyLinkedList.Node CtxStatus}
    (found : DoublyLinkedList.search world.lists.heap
      (fun entry => world.tables.allClosed entry.ctx) world.lists.nextItem world.lists.active
        = some (some addr))
    (here : world.lists.heap addr = some node)
    : world.Moves .proceed .quiet (.finish ctx hang node.value.ctx)
  | scanned {ctx : Option Nat} {hang : Bool} : world.Moves .proceed .quiet (.reap ctx hang)
  | hangs {ctx : Option Nat} : world.Moves .proceed .quiet (.collect ctx true)

/-- Everything that a step can do. -/
inductive World.Steps (world : World) : Input → Event → World → Prop
  | nothing {input : Input} {event : Event} (silent : event = .quiet ∨ ∃ err, event = .refused err)
    : world.Steps input event world
  | resets {ctx : Nat} {events : Events} (engine : events ≠ .noEngine)
    : world.Steps (.reset ctx events) .quiet
        { world with
          ctxs := Function.update world.ctxs ctx
            { world.ctxs ctx with canceled := false, events } }
  | marks {ctx : Nat}
    : world.Steps (.cancelAsync (some ctx)) .quiet
        { world with
          ctxs := Function.update world.ctxs ctx { world.ctxs ctx with canceled := true } }
  | adds {ctx fd dir : Nat} (engine : (world.ctxs ctx).events ≠ .noEngine)
    : world.Steps (.add ctx fd dir) .quiet
        { world with tables := world.tables.addIoCb ctx fd dir }
  | removes {ctx idx : Nat}
    : world.Steps (.remove ctx idx) .quiet
        { world with tables := world.tables.removeIoCb ctx idx }
  | starts {ctx op : Nat} {lists : CtxLists} (events : (world.ctxs ctx).events = .global)
    (entered : world.lists.ctxActive ctx = .ok (op, lists))
    : world.Steps (.start ctx true) (.started op ctx) { world with lists }
  | cancels {input : Input} {ctx : Nat} {err opErr : GpgError} {loop : Loop} {event : Event}
    {next : World} (cause : world.Cancels input ctx err opErr loop)
    (canceled : World.cancelWithErr { world with loop } ctx err opErr = .ok (event, next))
    : world.Steps input event next
  | moves {input : Input} {event : Event} {loop : Loop} (moved : world.Moves input event loop)
    : world.Steps input event { world with loop }
  | finishes {ctx : Option Nat} {hang : Bool} {actx : Nat} {event : Event} {next : World}
    (loop : world.loop = .finish ctx hang actx)
    (done : World.raiseDone { world with loop := .scan ctx hang } actx 0 0 = .ok (event, next))
    : world.Steps .proceed event next
  | returns {ctx : Option Nat} {hang : Bool} {op : Nat} {entry : CtxStatus} {lists : CtxLists}
    (loop : world.loop = .reap ctx hang)
    (found : world.lists.ctxWait ctx = .ok (some (op, entry), lists))
    : world.Steps .proceed (.returned op entry.ctx entry.status entry.opErr)
        { world with lists, loop := .idle }

/-- Everything that can end the program. -/
inductive World.Fails (world : World) : Input → Fault → Prop
  | noItem {ctx : Option Nat} {hang : Bool} {slot : FdSlot} {rest : List FdSlot} {nr : Nat}
    {poll : Poll} (loop : world.loop = .dispatch ctx hang (slot :: rest) (nr + 1))
    (pending : slot.pending = true) (empty : slot.item = none)
    : world.Fails (.dispatch poll) .noItem
  | staleItem {ctx : Option Nat} {hang : Bool} {slot : FdSlot} {rest : List FdSlot}
    {nr item : Nat} {poll : Poll} (loop : world.loop = .dispatch ctx hang (slot :: rest) (nr + 1))
    (pending : slot.pending = true) (held : slot.item = some item)
    (freed : world.tables.items item = none)
    : world.Fails (.dispatch poll) .staleItem
  | nullContext {hang : Bool} {rest : List FdSlot} {nr item ictx : Nat} {poll : Poll}
    (handles : world.Handles none hang rest nr item ictx)
    : world.Fails (.dispatch poll) .nullContext
  | start {ctx : Nat} {fault : ListFault} (failed : world.lists.ctxActive ctx = .error fault)
    : world.Fails (.start ctx true) (.list fault)
  | cancel {input : Input} {ctx : Nat} {err opErr : GpgError} {loop : Loop} {fault : Fault}
    (cause : world.Cancels input ctx err opErr loop)
    (failed : World.cancelWithErr { world with loop } ctx err opErr = .error fault)
    : world.Fails input fault
  | collect (failed : world.collectFds = none) : world.Fails (.collect true) (.list .badPointer)
  | scan (failed : DoublyLinkedList.search world.lists.heap
      (fun entry => world.tables.allClosed entry.ctx) world.lists.nextItem world.lists.active
        = none)
    : world.Fails .proceed (.list .badPointer)
  | found {addr : Nat} (found : DoublyLinkedList.search world.lists.heap
      (fun entry => world.tables.allClosed entry.ctx) world.lists.nextItem world.lists.active
        = some (some addr))
    (freed : world.lists.heap addr = none)
    : world.Fails .proceed (.list .badPointer)
  | finish {ctx : Option Nat} {hang : Bool} {actx : Nat} {fault : Fault}
    (loop : world.loop = .finish ctx hang actx)
    (failed : World.raiseDone { world with loop := .scan ctx hang } actx 0 0 = .error fault)
    : world.Fails .proceed fault
  | reap {ctx : Option Nat} {fault : ListFault} (failed : world.lists.ctxWait ctx = .error fault)
    : world.Fails .proceed (.list fault)

variable {world next : World} {input : Input} {event : Event} {fault : Fault}

/-- What a DONE event does. -/
inductive World.Done (world : World) (ctx : Nat) (err opErr : GpgError) : Event → World → Prop
  | noEngine (events : (world.ctxs ctx).events = .noEngine) : world.Done ctx err opErr .quiet world
  | other (events : (world.ctxs ctx).events = .other)
    : world.Done ctx err opErr (.done none ctx err opErr) world
  | global {op : Nat} {lists : CtxLists} (events : (world.ctxs ctx).events = .global)
    (moved : world.lists.ctxDone ctx err opErr = .ok (op, lists))
    : world.Done ctx err opErr (.done (some op) ctx err opErr) { world with lists }

theorem World.raiseDone_done {ctx : Nat} {err opErr : GpgError}
    (raised : world.raiseDone ctx err opErr = .ok (event, next))
    : world.Done ctx err opErr event next := by
  unfold raiseDone at raised
  split at raised
  · next events =>
      cases raised
      exact .noEngine events
  · next events =>
      cases raised
      exact .other events
  · next events =>
      split at raised
      · cases raised
      · next moved =>
          cases raised
          exact .global events moved

theorem World.raiseDone_fails {ctx : Nat} {err opErr : GpgError}
    (failed : world.raiseDone ctx err opErr = .error fault)
    : (world.ctxs ctx).events = .global
      ∧ ∃ listFault,
          world.lists.ctxDone ctx err opErr = .error listFault ∧ fault = .list listFault := by
  unfold raiseDone at failed
  split at failed
  · cases failed
  · cases failed
  · next events =>
      split at failed
      · next listFault moved =>
          cases failed
          exact ⟨events, listFault, moved, rfl⟩
      · cases failed

theorem World.cancelWithErr_cases {ctx : Nat} {err opErr : GpgError}
    (canceled : world.cancelWithErr ctx err opErr = .ok (event, next))
    : ((world.ctxs ctx).events = .noEngine
        ∧ event = .refused (gpgError ErrCode.invValue)
        ∧ next = world)
      ∨ ((world.ctxs ctx).events ≠ .noEngine
        ∧ World.Done { world with tables := world.tables.engineCancel (world.ctxs ctx) ctx err } ctx
            err opErr event next) := by
  unfold cancelWithErr at canceled
  split at canceled
  · next events =>
      cases canceled
      exact Or.inl ⟨events, rfl, rfl⟩
  · next events => exact Or.inr ⟨events, raiseDone_done canceled⟩

theorem World.cancelWithErr_fails {ctx : Nat} {err opErr : GpgError}
    (failed : world.cancelWithErr ctx err opErr = .error fault)
    : (world.ctxs ctx).events = .global
      ∧ ∃ listFault,
          world.lists.ctxDone ctx err opErr = .error listFault ∧ fault = .list listFault := by
  unfold cancelWithErr at failed
  split at failed
  · cases failed
  · have raised := raiseDone_fails failed
    exact raised

theorem World.raiseStart_steps {ctx : Nat} {allocated : Bool}
    (stepped : world.raiseStart ctx allocated = .ok (event, next))
    : world.Steps (.start ctx allocated) event next := by
  unfold raiseStart at stepped
  split at stepped
  · cases stepped
    exact .nothing (Or.inl rfl)
  · next events =>
      have global : (world.ctxs ctx).events = .global := not_not.mp events
      cases allocated with
      | false => exact .cancels (.noMemory global) stepped
      | true =>
          simp only [Bool.not_true, Bool.false_eq_true, if_false] at stepped
          split at stepped
          · cases stepped
          · next entered =>
              cases stepped
              exact .starts global entered

theorem World.handleFd_steps {ctx : Option Nat} {hang : Bool} {slot : FdSlot}
    {rest : List FdSlot} {nr : Nat} {poll : Poll}
    (loop : world.loop = .dispatch ctx hang (slot :: rest) (nr + 1))
    (pending : slot.pending = true)
    (stepped : world.handleFd ctx hang slot rest nr poll = .ok (event, next))
    : world.Steps (.dispatch poll) event next := by
  unfold handleFd at stepped
  split at stepped
  · cases stepped
  · next item held =>
      split at stepped
      · cases stepped
      · next ictx dir live =>
          cases ctx with
          | none => cases stepped
          | some asked =>
              have handles : world.Handles (some asked) hang rest nr item ictx :=
                ⟨⟨slot, loop, pending, held⟩, ⟨dir, live⟩⟩
              cases canceled : (world.ctxs asked).canceled with
              | true =>
                  simp only [canceled, if_true] at stepped
                  exact .cancels (.flag handles canceled poll) stepped
              | false =>
                  simp only [canceled, Bool.false_eq_true, if_false] at stepped
                  cases poll with
                  | failed errno => exact .cancels (.poll handles canceled errno) stepped
                  | changed =>
                      cases stepped
                      exact .moves (.changed handles canceled)
                  | ready =>
                      cases stepped
                      exact .moves (.dispatches handles canceled)

theorem World.scanActive_steps {ctx : Option Nat} {hang : Bool}
    (stepped : world.scanActive ctx hang = .ok (event, next))
    : world.Steps .proceed event next := by
  unfold scanActive at stepped
  split at stepped
  · cases stepped
  · cases stepped
    exact .moves .scanned
  · next found =>
      split at stepped
      · cases stepped
      · next here =>
          cases stepped
          exact .moves (.finds found here)

theorem World.reapDone_steps {ctx : Option Nat} {hang : Bool}
    (loop : world.loop = .reap ctx hang) (stepped : world.reapDone ctx hang = .ok (event, next))
    : world.Steps .proceed event next := by
  unfold reapDone at stepped
  split at stepped
  · cases stepped
  · next found =>
      cases stepped
      exact .returns loop found
  · split at stepped
    · next hangs =>
        cases stepped
        rw [hangs]
        exact .moves .hangs
    · cases stepped
      exact .moves .fails

theorem World.step_steps (stepped : world.step input = .ok (event, next))
    : world.Steps input event next := by
  cases input with
  | reset ctx events =>
      cases events with
      | noEngine =>
          cases stepped
          exact .nothing (Or.inl rfl)
      | global =>
          cases stepped
          exact .resets (by simp)
      | other =>
          cases stepped
          exact .resets (by simp)
  | add ctx fd dir =>
      simp only [step] at stepped
      split at stepped
      · cases stepped
        exact .nothing (Or.inl rfl)
      · next engine =>
          cases stepped
          exact .adds engine
  | remove ctx idx =>
      cases stepped
      exact .removes
  | start ctx allocated => exact raiseStart_steps stepped
  | cancel ctx =>
      cases ctx with
      | none =>
          cases stepped
          exact .nothing (Or.inr ⟨_, rfl⟩)
      | some ctx => exact .cancels (.application ctx) stepped
  | cancelAsync ctx =>
      cases ctx with
      | none =>
          cases stepped
          exact .nothing (Or.inr ⟨_, rfl⟩)
      | some ctx =>
          cases stepped
          exact .marks
  | wait ctx hang =>
      simp only [step] at stepped
      split at stepped
      · next loop =>
          cases stepped
          exact .moves (.wait loop)
      · cases stepped
        exact .nothing (Or.inl rfl)
  | collect allocated =>
      simp only [step] at stepped
      split at stepped
      · cases allocated with
        | false =>
            cases stepped
            exact .moves .fails
        | true =>
            simp only [Bool.not_true, Bool.false_eq_true, if_false] at stepped
            split at stepped
            · cases stepped
            · next collected =>
                cases stepped
                exact .moves (.collects collected)
      · cases stepped
        exact .nothing (Or.inl rfl)
  | select ready =>
      simp only [step] at stepped
      split at stepped
      · next loop =>
          cases ready with
          | error errno =>
              cases stepped
              exact .moves .fails
          | ok ready =>
              cases stepped
              exact .moves (.selects loop)
      · cases stepped
        exact .nothing (Or.inl rfl)
  | dispatch poll =>
      simp only [step, dispatchNext] at stepped
      split at stepped
      · next slot rest nr loop =>
          cases pending : slot.pending with
          | true =>
              simp only [pending, if_true] at stepped
              exact handleFd_steps loop pending stepped
          | false =>
              simp only [pending, Bool.false_eq_true, if_false] at stepped
              cases stepped
              exact .moves (.skips loop pending)
      · next ctx hang fds nr handled loop =>
          cases stepped
          refine .moves (.endsRound loop ?_)
          cases fds with
          | nil => exact Or.inl rfl
          | cons slot rest =>
              cases nr with
              | zero => exact Or.inr rfl
              | succ nr => exact (handled _ _ _ rfl rfl).elim
      · cases stepped
        exact .nothing (Or.inl rfl)
  | callbackReturns err opErr =>
      simp only [step] at stepped
      split at stepped
      · next loop =>
          split at stepped
          · next error => exact .cancels (.callback loop error) stepped
          · next fine =>
              cases stepped
              obtain ⟨rfl, rfl⟩ : err = 0 ∧ opErr = 0 := by simpa using fine
              exact .moves (.endsCallback loop)
      · cases stepped
        exact .nothing (Or.inl rfl)
  | proceed =>
      simp only [step, proceed] at stepped
      split at stepped
      · exact scanActive_steps stepped
      · next loop => exact .finishes loop stepped
      · next loop => exact reapDone_steps loop stepped
      · cases stepped
        exact .nothing (Or.inl rfl)

theorem World.raiseStart_fails {ctx : Nat} {allocated : Bool}
    (failed : world.raiseStart ctx allocated = .error fault)
    : world.Fails (.start ctx allocated) fault := by
  unfold raiseStart at failed
  split at failed
  · cases failed
  · next events =>
      have global : (world.ctxs ctx).events = .global := not_not.mp events
      cases allocated with
      | false => exact .cancel (.noMemory global) failed
      | true =>
          simp only [Bool.not_true, Bool.false_eq_true, if_false] at failed
          split at failed
          · next refused =>
              cases failed
              exact .start refused
          · cases failed

theorem World.handleFd_fails {ctx : Option Nat} {hang : Bool} {slot : FdSlot}
    {rest : List FdSlot} {nr : Nat} {poll : Poll}
    (loop : world.loop = .dispatch ctx hang (slot :: rest) (nr + 1))
    (pending : slot.pending = true)
    (failed : world.handleFd ctx hang slot rest nr poll = .error fault)
    : world.Fails (.dispatch poll) fault := by
  unfold handleFd at failed
  split at failed
  · next empty =>
      cases failed
      exact .noItem loop pending empty
  · next item held =>
      split at failed
      · next freed =>
          cases failed
          exact .staleItem loop pending held freed
      · next ictx dir live =>
          cases ctx with
          | none =>
              cases failed
              exact .nullContext ⟨⟨slot, loop, pending, held⟩, ⟨dir, live⟩⟩
          | some asked =>
              have handles : world.Handles (some asked) hang rest nr item ictx :=
                ⟨⟨slot, loop, pending, held⟩, ⟨dir, live⟩⟩
              cases canceled : (world.ctxs asked).canceled with
              | true =>
                  simp only [canceled, if_true] at failed
                  exact .cancel (.flag handles canceled poll) failed
              | false =>
                  simp only [canceled, Bool.false_eq_true, if_false] at failed
                  cases poll with
                  | failed errno => exact .cancel (.poll handles canceled errno) failed
                  | changed => cases failed
                  | ready => cases failed

theorem World.proceed_fails (failed : world.proceed = .error fault)
    : world.Fails .proceed fault := by
  unfold proceed at failed
  split at failed
  · unfold scanActive at failed
    split at failed
    · next bad =>
        cases failed
        exact .scan bad
    · cases failed
    · next found =>
        split at failed
        · next freed =>
            cases failed
            exact .found found freed
        · cases failed
  · next loop => exact .finish loop failed
  · unfold reapDone at failed
    split at failed
    · next bad =>
        cases failed
        exact .reap bad
    · cases failed
    · split at failed <;> cases failed
  · cases failed

theorem World.step_fails (failed : world.step input = .error fault)
    : world.Fails input fault := by
  cases input with
  | reset ctx events => cases events <;> cases failed
  | add ctx fd dir =>
      simp only [step] at failed
      split at failed <;> cases failed
  | remove ctx idx => cases failed
  | start ctx allocated => exact raiseStart_fails failed
  | cancel ctx =>
      cases ctx with
      | none => cases failed
      | some ctx => exact .cancel (.application ctx) failed
  | cancelAsync ctx => cases ctx <;> cases failed
  | wait ctx hang =>
      simp only [step] at failed
      split at failed <;> cases failed
  | collect allocated =>
      simp only [step] at failed
      split at failed
      · cases allocated with
        | false => cases failed
        | true =>
            simp only [Bool.not_true, Bool.false_eq_true, if_false] at failed
            split at failed
            · next bad =>
                cases failed
                exact .collect bad
            · cases failed
      · cases failed
  | select ready =>
      simp only [step] at failed
      split at failed
      · cases ready <;> cases failed
      · cases failed
  | dispatch poll =>
      simp only [step, dispatchNext] at failed
      split at failed
      · next slot rest nr loop =>
          cases pending : slot.pending with
          | true =>
              simp only [pending, if_true] at failed
              exact handleFd_fails loop pending failed
          | false =>
              simp only [pending, Bool.false_eq_true, if_false] at failed
              cases failed
      · cases failed
      · cases failed
  | callbackReturns err opErr =>
      simp only [step] at failed
      split at failed
      · next loop =>
          split at failed
          · next error => exact .cancel (.callback loop error) failed
          · cases failed
      · cases failed
  | proceed => exact proceed_fails failed

end Gpgme.Wait
