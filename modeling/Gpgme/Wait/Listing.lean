import Gpgme.Lib.Fallible
import Gpgme.Status
import Gpgme.Wait.PrivateLoop

/-! Listings, which hand over their items one by one, after `keylist.c` and `trustlist.c`. The
application asks for the next item. While none is queued the private event loop runs, until the
condition of the listing is set or no descriptor is left. The engine prints its lines on one of
the descriptors, and the callback of that descriptor hands them to the colon line handler.
-/

namespace Gpgme.Wait

open CString Fallible FaultMachine

variable {σ α : Type}

/-- What a call for the next item returns. -/
inductive NextResult (α : Type) where
  | item (item : α)
  /-- There is no further item. -/
  | stopped (err : GpgError)
  /-- The wait for an item failed. -/
  | failed (err : GpgError)

/-- What can go wrong: in the event loop, in an access of the colon line handler, and the
assertion that there is an item.
-/
inductive ListingFault where
  | loop (fault : Fault)
  | access
  | assertion
deriving DecidableEq

/-- The handlers of a listing with operation data of type `σ`, and the function that returns the
next item, in front of the wait for it and behind.
-/
structure ListOp (σ α : Type) where
  colonHandler : σ → Option Str → Option σ
  statusHandler : σ → StatusCode → Str → σ
  queue : σ → List α
  cond : σ → Bool
  /-- Take an item from the queue. -/
  take : σ → Except ListingFault (NextResult α × σ)
  /-- What follows a wait that returned no error. -/
  afterWait : σ → Except ListingFault (NextResult α × σ)

structure Listing (σ : Type) where
  wait : PrivateWorld
  opd : σ
  /-- The wait item of the descriptor that the lines are printed on. -/
  colonItem : Nat
  /-- The lines that have not been handled. -/
  unread : List Str
  /-- The handler has been told about the end of file. -/
  eof : Bool := false
  /-- `_gpgme_cancel_with_err` has been called. -/
  canceled : Bool := false

/-- What the application, the engine and the operating system do. The engines that list
something report no operational errors.
-/
inductive ListingInput where
  | next
  | add (fd dir : Nat)
  | remove (idx : Nat)
  | colon
  | status (code : StatusCode) (args : Str)
  | cancel
  | cancelAsync
  | select (ready : Except SelectErrno (List Nat))
  | dispatch (poll : Poll)
  | callbackReturns (err : GpgError)
  | scan

namespace Listing

/-- The slot is the one of the descriptor that the lines are printed on. -/
def isColonSlot (state : Listing σ) (idx : Nat) : Bool :=
  ((state.wait.tables.fdt state.wait.ctx)[idx]?.bind FdSlot.item) = some state.colonItem

/-- The private loop makes a step. When it returns, so does the call for the next item. -/
def drive (op : ListOp σ α) (state : Listing σ) (input : PrivateInput)
    : Except ListingFault (Option (NextResult α) × Listing σ) :=
  match state.wait.step input with
  | .error fault => .error (.loop fault)
  | .ok (.returned err _, wait) =>
      if err ≠ 0 then .ok (some (.failed err), { state with wait, canceled := true })
      else
        match op.afterWait state.opd with
        | .error fault => .error fault
        | .ok (result, opd) => .ok (some result, { state with wait, opd })
  | .ok (_, wait) => .ok (none, { state with wait })

/-- The call for the next item. -/
def next (op : ListOp σ α) (state : Listing σ)
    : Except ListingFault (Option (NextResult α) × Listing σ) :=
  if op.queue state.opd ≠ [] then
    match op.take state.opd with
    | .error fault => .error fault
    | .ok (result, opd) => .ok (some result, { state with opd })
  else
    state.drive op .wait

/-- The callback hands over a line, or the end of file; then it closes the descriptor. -/
def colon (op : ListOp σ α) (state : Listing σ) (idx : Nat)
    : Except ListingFault (Option (NextResult α) × Listing σ) :=
  match state.unread with
  | line :: rest =>
      match op.colonHandler state.opd (some line) with
      | none => .error .access
      | some opd => .ok (none, { state with opd, unread := rest })
  | [] =>
      match op.colonHandler state.opd none with
      | none => .error .access
      | some opd =>
          drive op { state with opd, eof := true } (.remove state.wait.ctx idx)

/-- One step. The lines come while the callback of their descriptor runs, and status lines while
any callback does; no other callback closes that descriptor.
-/
def step (op : ListOp σ α) (state : Listing σ) (input : ListingInput)
    : Except ListingFault (Option (NextResult α) × Listing σ) :=
  match input with
  | .next =>
      match state.wait.loop with
      | .idle => state.next op
      | _ => .ok (none, state)
  | .add fd dir => state.drive op (.add state.wait.ctx fd dir)
  | .remove idx =>
      if state.isColonSlot idx then .ok (none, state)
      else state.drive op (.remove state.wait.ctx idx)
  | .colon =>
      match state.wait.loop with
      | .callback idx _ => if state.isColonSlot idx then state.colon op idx else .ok (none, state)
      | _ => .ok (none, state)
  | .status code args =>
      match state.wait.loop with
      | .callback _ _ =>
          .ok (none, { state with opd := op.statusHandler state.opd code args })
      | _ => .ok (none, state)
  | .cancel => drive op { state with canceled := true } (.close state.wait.ctx)
  | .cancelAsync => state.drive op .cancelAsync
  | .select ready => state.drive op (.select ready)
  | .dispatch poll => state.drive op (.dispatch poll)
  | .callbackReturns err => state.drive op (.callbackReturns err 0)
  | .scan => state.drive op (.scan (op.cond state.opd))

/-- The descriptors that are registered when the listing starts; the second number of each is
its direction.
-/
def register (tables : Tables) (ctx : Nat) (fds : List (Nat × Nat)) : Tables :=
  fds.foldl (fun tables fd => tables.addIoCb ctx fd.1 fd.2) tables

/-- A listing that was started; the lines come on the descriptor that is registered last. -/
def start (ctx : Nat) (context : Context) (fds : List (Nat × Nat)) (colonFd : Nat) (opd : σ)
    (lines : List Str)
    : Listing σ where
  wait := {
    ctx, context,
    tables := (register {} ctx fds).addIoCb ctx colonFd 1 }
  opd := opd
  colonItem := (register {} ctx fds).nextItem
  unread := lines

end Listing

-----------------------------------------------------------------------------------------
-- What the private loop does
-----------------------------------------------------------------------------------------

namespace PrivateWorld

/-- The wait item is freed. -/
def Frees (world : PrivateWorld) (item : Nat) : PrivateInput → Prop
  | .remove ctx idx => (world.tables.fdt ctx)[idx]?.bind FdSlot.item = some item
  | .close ctx => item ∈ heldItems (world.tables.fdt ctx)
  | _ => False

/-- How a step of the loop ends: it goes on, the wait fails, or a round ends and the wait is
over.
-/
inductive Outcome (world : PrivateWorld) (input : PrivateInput)
    : PrivateEvent → PrivateWorld → Prop where
  | goes {event : PrivateEvent} {next : PrivateWorld}
    (silent : ∀ err opErr, event ≠ .returned err opErr)
    (ctx : next.ctx = world.ctx)
    (loop : next.loop = .idle ↔ world.loop = .idle ∧ input ≠ .wait)
    (kept
      : world.tables.Sound
        → ∀ {item waitItem},
            world.tables.items item = some waitItem
            → ¬ world.Frees item input
            → next.tables.items item = some waitItem)
    : world.Outcome input event next
  | fails {err opErr : GpgError} {failed : PrivateWorld} (error : err ≠ 0 ∨ opErr ≠ 0)
    (operational : err = 0 → ∃ err, input = .callbackReturns err opErr)
    (ctx : failed.ctx = world.ctx) (busy : world.loop ≠ .idle)
    : world.Outcome input (failed.fail err opErr).1 (failed.fail err opErr).2
  | finishes {cond : Bool} (busy : world.loop ≠ .idle)
    (ready : world.tables.allClosed world.ctx = true ∨ cond = true) (round : input = .scan cond)
    : world.Outcome input (.returned 0 0) { world with loop := .idle }

variable {world next : PrivateWorld} {input : PrivateInput} {event : PrivateEvent}

theorem Outcome.quiet (silent : ∀ err opErr, event ≠ .returned err opErr)
    (ctx : next.ctx = world.ctx) (loop : next.loop = .idle ↔ world.loop = .idle ∧ input ≠ .wait)
    (items : next.tables.items = world.tables.items)
    : world.Outcome input event next :=
  .goes silent ctx loop fun _ _ _ live _ => by rw [items, live]

theorem Outcome.failure {err : GpgError} {failed : PrivateWorld} (error : err ≠ 0)
    (ctx : failed.ctx = world.ctx) (busy : world.loop ≠ .idle)
    : world.Outcome input (failed.fail err 0).1 (failed.fail err 0).2 :=
  .fails (Or.inl error) (fun none => absurd none error) ctx busy

theorem SelectErrno.value_ne (errno : SelectErrno) : errno.value ≠ 0 := by
  cases errno <;> decide

theorem runIoCb_outcome {marked : PrivateWorld} {idx nr : Nat} {opaqueItem : Option Nat}
    {poll : Poll} (ctx : marked.ctx = world.ctx) (busy : world.loop ≠ .idle)
    (items : marked.tables.items = world.tables.items)
    (stepped : marked.runIoCb idx nr opaqueItem poll = .ok (event, next))
    : world.Outcome (.dispatch poll) event next := by
  unfold runIoCb at stepped
  split at stepped
  · cases stepped
    exact .failure (by decide) ctx busy
  · split at stepped
    · cases stepped
    · split at stepped
      · cases stepped
        exact .failure (SelectErrno.value_ne _) ctx busy
      · cases stepped
        exact .quiet (by simp) ctx (by simp [busy]) items
      · split at stepped
        · cases stepped
        · cases stepped
          exact .quiet (by simp) ctx (by simp [busy]) items

theorem dispatchNext_outcome {poll : Poll} (stepped : world.dispatchNext poll = .ok (event, next))
    : world.Outcome (.dispatch poll) event next := by
  unfold dispatchNext at stepped
  split at stepped
  · next loop =>
      have busy : world.loop ≠ .idle := by simp [loop]
      split at stepped
      · cases stepped
        exact .quiet (by simp) rfl (by simp [busy]) rfl
      · split at stepped
        · unfold handleFd at stepped
          refine runIoCb_outcome ?_ busy ?_ stepped <;> rfl
        · cases stepped
          exact .quiet (by simp) rfl (by simp [busy]) rfl
  · next loop =>
      cases stepped
      exact .quiet (by simp) rfl (by simp [loop]) rfl
  · cases stepped
    exact .quiet (by simp) rfl (by simp) rfl

theorem step_outcome (stepped : world.step input = .ok (event, next))
    : world.Outcome input event next := by
  cases input with
  | add ctx fd dir =>
      cases stepped
      refine .goes (by simp) rfl (by simp) fun sound item waitItem live _ => ?_
      have old : item ≠ world.tables.nextItem := Nat.ne_of_lt (sound.fresh live)
      simpa [Tables.addIoCb, Function.update_of_ne old] using live
  | remove ctx idx =>
      cases stepped
      refine .goes (by simp) rfl (by simp) fun _ item waitItem live kept => ?_
      rcases world.tables.removeIoCb_items ctx idx item with same | ⟨_, slot, found, held⟩
      · rw [same, live]
      · exact absurd (by simp [Frees, found, held]) kept
  | close ctx =>
      cases stepped
      refine .goes (by simp) rfl (by simp) fun sound item waitItem live kept => ?_
      refine (sound.closeAll ctx).1.others live ?_
      rintro rfl
      exact kept (sound.present live)
  | cancelAsync =>
      cases stepped
      exact .quiet (by simp) rfl (by simp) rfl
  | wait =>
      simp only [step] at stepped
      split at stepped
      · cases stepped
        exact .quiet (by simp) rfl (by simp) rfl
      · next busy =>
          cases stepped
          exact .quiet (by simp) rfl (by simpa using busy) rfl
  | select ready =>
      simp only [step] at stepped
      split at stepped
      · next loop =>
          have busy : world.loop ≠ .idle := by simp [loop]
          split at stepped
          · cases stepped
            exact .failure (gpgErrorFromSyserror_ne_zero _) rfl busy
          · cases stepped
            exact .quiet (by simp) rfl (by simp [PrivateWorld.select, busy]) rfl
      · cases stepped
        exact .quiet (by simp) rfl (by simp) rfl
  | dispatch poll => exact dispatchNext_outcome stepped
  | callbackReturns err opErr =>
      simp only [step] at stepped
      split at stepped
      · next loop =>
          have busy : world.loop ≠ .idle := by simp [loop]
          split at stepped
          · next error =>
              cases stepped
              exact .failure error rfl busy
          · split at stepped
            · next error =>
                cases stepped
                exact .fails (Or.inr error) (fun _ => ⟨err, rfl⟩) rfl busy
            · cases stepped
              exact .quiet (by simp) rfl (by simp [busy]) rfl
      · cases stepped
        exact .quiet (by simp) rfl (by simp) rfl
  | scan cond =>
      simp only [step] at stepped
      split at stepped
      · next loop =>
          have busy : world.loop ≠ .idle := by simp [loop]
          split at stepped
          · next ready =>
              cases stepped
              exact .finishes busy (by simpa using ready) rfl
          · cases stepped
            exact .quiet (by simp) rfl (by simp [busy]) rfl
      · cases stepped
        exact .quiet (by simp) rfl (by simp) rfl

end PrivateWorld

-----------------------------------------------------------------------------------------
-- What a listing does
-----------------------------------------------------------------------------------------

namespace Listing

/-- The tables are sound, and the descriptor of the lines is open until the end of file is
reached or the operation is canceled.
-/
structure Attended (state : Listing σ) : Prop where
  sound : state.wait.tables.Sound
  registered
    : state.eof = false
      → state.canceled = false
      → ∃ dir, state.wait.tables.items state.colonItem = some { ctx := state.wait.ctx, dir }
  read : state.eof = true → state.unread = []

/-- The wait returns an error in this step. -/
def waitFails (state : Listing σ) : ListingInput → Bool
  | .select ready => returnsError (state.wait.step (.select ready))
  | .dispatch poll => returnsError (state.wait.step (.dispatch poll))
  | .callbackReturns err => returnsError (state.wait.step (.callbackReturns err 0))
  | _ => false
where
  returnsError : Except Fault (PrivateEvent × PrivateWorld) → Bool
    | .ok (.returned err _, _) => err ≠ 0
    | _ => false

/-- A wait that returns no error found the condition set or no descriptor left. -/
def Ready (op : ListOp σ α) (state : Listing σ) : Prop :=
  op.cond state.opd = true ∨ state.eof = true ∨ state.canceled = true

/-- What a step does. -/
inductive Steps (op : ListOp σ α) (state : Listing σ) (input : ListingInput)
    : Option (NextResult α) → Listing σ → Prop where
  | stays {wait : PrivateWorld} {canceled : Bool}
    (idle : wait.loop = .idle → state.wait.loop = .idle)
    (waits : state.wait.loop = .idle → wait.loop ≠ .idle → op.queue state.opd = [])
    (monotone : state.canceled = true → canceled = true)
    : state.Steps op input none { state with wait, canceled }
  | reads {line : Str} {rest : List Str} {opd : σ} (busy : state.wait.loop ≠ .idle)
    (unread : state.unread = line :: rest)
    (handled : op.colonHandler state.opd (some line) = some opd)
    : state.Steps op input none { state with opd, unread := rest }
  | ends {opd : σ} {wait : PrivateWorld} (busy : state.wait.loop ≠ .idle)
    (loop : wait.loop = state.wait.loop) (unread : state.unread = [])
    (handled : op.colonHandler state.opd none = some opd)
    : state.Steps op input none { state with wait, opd, eof := true }
  | status {code : StatusCode} {args : Str} (busy : state.wait.loop ≠ .idle)
    : state.Steps op input none { state with opd := op.statusHandler state.opd code args }
  | takes {result : NextResult α} {opd : σ} (idle : state.wait.loop = .idle)
    (queued : op.queue state.opd ≠ []) (taken : op.take state.opd = .ok (result, opd))
    : state.Steps op input (some result) { state with opd }
  | resumes {result : NextResult α} {opd : σ} {wait : PrivateWorld}
    (busy : state.wait.loop ≠ .idle) (idle : wait.loop = .idle) (ready : state.Ready op)
    (resumed : op.afterWait state.opd = .ok (result, opd))
    : state.Steps op input (some result) { state with wait, opd }
  | fails {err : GpgError} {wait : PrivateWorld} (idle : wait.loop = .idle)
    (failed : state.waitFails input = true)
    : state.Steps op input (some (.failed err)) { state with wait, canceled := true }

/-- How a step can go wrong. -/
inductive Faults (op : ListOp σ α) (state : Listing σ) : ListingFault → Prop where
  | colon (refused : op.colonHandler state.opd state.unread.head? = none)
    : state.Faults op .access
  | take {fault : ListingFault} (queued : op.queue state.opd ≠ [])
    (refused : op.take state.opd = .error fault)
    : state.Faults op fault
  | afterWait {fault : ListingFault} (ready : state.Ready op)
    (refused : op.afterWait state.opd = .error fault)
    : state.Faults op fault

variable {op : ListOp σ α} {state : Listing σ} {input : ListingInput}

theorem Attended.ready (attended : state.Attended)
    (ready : state.wait.tables.allClosed state.wait.ctx = true ∨ op.cond state.opd = true)
    : state.Ready op := by
  rcases ready with closed | cond
  · by_contra unready
    simp only [Ready, not_or, Bool.not_eq_true] at unready
    obtain ⟨_, live⟩ := attended.registered unready.2.1 unready.2.2
    obtain ⟨slot, inTable, held⟩ := List.mem_filterMap.mp (attended.sound.present live)
    have isClosed : slot.fd = -1 := by
      simpa using List.all_eq_true.mp closed slot inTable
    rw [(attended.sound.openSlot _ slot inTable).mp isClosed] at held
    cases held
  · exact Or.inl cond

theorem Attended.goes {wait : PrivateWorld} (attended : state.Attended)
    (sound : wait.tables.Sound) (ctx : wait.ctx = state.wait.ctx)
    (kept
      : ∀ {waitItem},
          state.eof = false
          → state.canceled = false
          → state.wait.tables.items state.colonItem = some waitItem
          → wait.tables.items state.colonItem = some waitItem)
    : Attended { state with wait } := by
  refine ⟨sound, fun unended active => ?_, attended.read⟩
  obtain ⟨dir, live⟩ := attended.registered unended active
  refine ⟨dir, ?_⟩
  rw [ctx]
  exact kept unended active live

/-- What a step ends in. -/
def EndsWell (op : ListOp σ α) (state : Listing σ) (input : ListingInput)
    (result : Except ListingFault (Option (NextResult α) × Listing σ))
    : Prop :=
  Ends result (fun result => result.2.Attended ∧ state.Steps op input result.1 result.2)
    (state.Faults op)

theorem Attended.endsWell_stays (attended : state.Attended)
    : state.EndsWell op input (.ok (none, state)) :=
  ⟨attended, .stays id (fun idle busy => absurd idle busy) id⟩

theorem Attended.drive (attended : state.Attended) {loopInput : PrivateInput}
    (spares
      : state.eof = false
        → state.canceled = false
        → ¬ state.wait.Frees state.colonItem loopInput)
    (fails
      : waitFails.returnsError (state.wait.step loopInput) = true → state.waitFails input = true)
    (operational : ∀ err opErr, loopInput = .callbackReturns err opErr → opErr = 0)
    (scans : ∀ cond, loopInput = .scan cond → cond = op.cond state.opd)
    (waits : loopInput = .wait → op.queue state.opd = [])
    : state.EndsWell op input (state.drive op loopInput) := by
  obtain ⟨event, wait, stepped, sound, _⟩ := PrivateWorld.step_serves attended.sound loopInput
  have outcome := PrivateWorld.step_outcome stepped
  unfold Listing.drive
  rw [stepped] at fails ⊢
  cases outcome with
  | goes silent ctx loop kept =>
      have moved : Attended { state with wait } :=
        attended.goes sound ctx fun unended active live =>
          kept attended.sound live (spares unended active)
      have starts : state.wait.loop = .idle → wait.loop ≠ .idle → op.queue state.opd = [] := by
        intro idle busy
        refine waits ?_
        by_contra other
        exact busy (loop.mpr ⟨idle, other⟩)
      cases event with
      | returned err opErr => exact absurd rfl (silent err opErr)
      | quiet => exact ⟨moved, .stays (fun idle => (loop.mp idle).1) starts id⟩
      | dispatched item ctx => exact ⟨moved, .stays (fun idle => (loop.mp idle).1) starts id⟩
  | @fails err opErr failed error cause ctx busy =>
      have isError : err ≠ 0 := by
        intro none
        obtain ⟨_, isCallback⟩ := cause none
        have opNone := operational _ _ isCallback
        simp [none, opNone] at error
      dsimp only [PrivateWorld.fail]
      rw [if_pos isError]
      refine ⟨⟨sound, by simp, attended.read⟩, .fails rfl (fails ?_)⟩
      simpa [waitFails.returnsError, PrivateWorld.fail] using isError
  | @finishes cond busy ready round =>
      dsimp only
      rw [if_neg (by simp)]
      have isReady : state.Ready op := attended.ready (by rwa [← scans cond round])
      split
      · next fault refused => exact .afterWait isReady refused
      · next result opd resumed =>
          exact ⟨⟨sound, attended.registered, attended.read⟩, .resumes busy rfl isReady resumed⟩

theorem Attended.next (attended : state.Attended) (idle : state.wait.loop = .idle)
    : state.EndsWell op input (state.next op) := by
  unfold Listing.next
  split
  · next queued =>
      split
      · next fault refused => exact .take queued refused
      · next result opd taken =>
          exact ⟨⟨attended.sound, attended.registered, attended.read⟩, .takes idle queued taken⟩
  · next empty =>
      refine attended.drive ?_ ?_ ?_ ?_ ?_
      · simp [PrivateWorld.Frees]
      · simp [PrivateWorld.step, idle, waitFails.returnsError]
      · simp
      · simp
      · simpa using empty

theorem Attended.colon (attended : state.Attended) (idx : Nat) (busy : state.wait.loop ≠ .idle)
    : state.EndsWell op input (state.colon op idx) := by
  unfold Listing.colon
  split
  · next line rest unread =>
      split
      · next refused => exact .colon (by rwa [unread])
      · next opd handled =>
          refine ⟨⟨attended.sound, attended.registered, fun ended => ?_⟩,
            .reads busy unread handled⟩
          have done := attended.read ended
          simp [unread] at done
  · next unread =>
      split
      · next refused => exact .colon (by rwa [unread])
      · next opd handled =>
          refine ⟨⟨attended.sound.removeIoCb _ _, ?_, fun _ => unread⟩, .ends busy rfl unread handled⟩
          intro unended
          cases unended

theorem Attended.step (attended : state.Attended) (input : ListingInput)
    : state.EndsWell op input (state.step op input) := by
  cases input with
  | next =>
      unfold Listing.step
      dsimp only
      split
      · next idle => exact attended.next idle
      · exact attended.endsWell_stays
  | add fd dir =>
      unfold Listing.step
      refine attended.drive ?_ ?_ ?_ ?_ ?_ <;>
        simp [PrivateWorld.Frees, PrivateWorld.step, waitFails.returnsError]
  | remove idx =>
      unfold Listing.step
      dsimp only
      split
      · exact attended.endsWell_stays
      · next other =>
          refine attended.drive ?_ ?_ ?_ ?_ ?_
          · intro _ _ freed
            exact other (by simpa [isColonSlot, PrivateWorld.Frees] using freed)
          · simp [PrivateWorld.step, waitFails.returnsError]
          · simp
          · simp
          · simp
  | colon =>
      unfold Listing.step
      dsimp only
      split
      · next idx nr loop =>
          split
          · exact attended.colon idx (by simp [loop])
          · exact attended.endsWell_stays
      · exact attended.endsWell_stays
  | status code args =>
      unfold Listing.step
      dsimp only
      split
      · next loop =>
          exact ⟨⟨attended.sound, attended.registered, attended.read⟩, .status (by simp [loop])⟩
      · exact attended.endsWell_stays
  | cancel =>
      refine ⟨⟨(attended.sound.closeAll _).1.sound, ?_, attended.read⟩,
        .stays id (fun idle busy => absurd idle busy) (by simp)⟩
      intro _ active
      cases active
  | cancelAsync =>
      unfold Listing.step
      refine attended.drive ?_ ?_ ?_ ?_ ?_ <;>
        simp [PrivateWorld.Frees, PrivateWorld.step, waitFails.returnsError]
  | select ready =>
      refine attended.drive ?_ id ?_ ?_ ?_ <;> simp [PrivateWorld.Frees]
  | dispatch poll =>
      refine attended.drive ?_ id ?_ ?_ ?_ <;> simp [PrivateWorld.Frees]
  | callbackReturns err =>
      refine attended.drive ?_ id ?_ ?_ ?_ <;> simp [PrivateWorld.Frees]
  | scan =>
      refine attended.drive ?_ ?_ ?_ ?_ ?_
      · simp [PrivateWorld.Frees]
      · intro failed
        simp only [PrivateWorld.step] at failed
        split at failed
        · split at failed <;> simp [waitFails.returnsError] at failed
        · simp [waitFails.returnsError] at failed
      · simp
      · simp
      · simp

theorem register_sound (ctx : Nat) (fds : List (Nat × Nat)) {tables : Tables}
    (sound : tables.Sound)
    : (register tables ctx fds).Sound := by
  induction fds generalizing tables with
  | nil => exact sound
  | cons fd rest ih => exact ih (sound.addIoCb ctx fd.1 fd.2)

theorem start_attended (ctx : Nat) (context : Context) (fds : List (Nat × Nat)) (colonFd : Nat)
    (opd : σ) (lines : List Str)
    : (start ctx context fds colonFd opd lines).Attended where
  sound := (register_sound ctx fds Tables.sound_empty).addIoCb ctx colonFd 1
  registered := fun _ _ => ⟨1, by simp [start, Tables.addIoCb]⟩
  read := by simp [start]

/-- The items that have been returned. -/
def returned (history : List (Executed (Listing σ) ListingInput (Option (NextResult α))))
    : List α :=
  history.filterMap fun executed =>
    match executed.output with
    | some (.item item) => some item
    | _ => none

theorem returned_concat (history : List (Executed (Listing σ) ListingInput (Option (NextResult α))))
    (state : Listing σ) (input : ListingInput) (output : Option (NextResult α))
    : returned (history ++ [⟨state, input, output⟩])
      = returned history
        ++ match output with
          | some (.item item) => [item]
          | _ => [] := by
  unfold returned
  rw [List.filterMap_append]
  congr 1
  cases output with
  | none => rfl
  | some result => cases result <;> rfl

theorem run_holds (op : ListOp σ α) {allowed : Listing σ → ListingInput → Prop}
    (holds : List (Executed (Listing σ) ListingInput (Option (NextResult α))) → Listing σ → Prop)
    (tolerated : ListingFault → Prop)
    (attended : ∀ {history state}, holds history state → state.Attended)
    (faults
      : ∀ {history state fault}, holds history state → state.Faults op fault → tolerated fault)
    (preserves
      : ∀ {history state input output next},
          holds history state
          → allowed state input
          → next.Attended
          → state.Steps op input output next
          → holds (history ++ [⟨state, input, output⟩]) next)
    {start : Listing σ} {inputs : List ListingInput} (initial : holds [] start)
    (along : Along (step op) allowed start inputs)
    : (∃ last, holds (run (step op) start inputs).1 last)
      ∧ ∀ fault, (run (step op) start inputs).2 = .error fault → tolerated fault := by
  have ends (history state input) (held : holds history state)
      : state.EndsWell op input (state.step op input) :=
    (attended held).step input
  obtain ⟨last, held, ended⟩ := run_invariant holds tolerated
    (by
      intro history state input fault held _ failed
      have well := ends history state input held
      rw [failed] at well
      exact faults held well)
    (by
      intro history state input output next held ok stepped
      have well := ends history state input held
      rw [stepped] at well
      exact preserves held ok well.1 well.2)
    initial along
  refine ⟨⟨last, held⟩, fun fault failed => ?_⟩
  rcases ended with ok | ⟨other, failed', isTolerated⟩
  · rw [ok] at failed
    cases failed
  · rw [failed'] at failed
    cases failed
    exact isTolerated

end Listing

end Gpgme.Wait
