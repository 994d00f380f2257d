import Gpgme.Wait.PrivateLoop

/-! Which registrations the event loops use. The private loop walks the table of its context.
The global loop walks a copy of the tables that it took before the callbacks ran, so that a
registration can be removed while its copy is still to be handled.
-/

namespace Gpgme.Wait

open FaultMachine

variable {world next : World} {input : Input} {event : Event} {fault : Fault}

-----------------------------------------------------------------------------------------
-- The copies that are still used
-----------------------------------------------------------------------------------------

/-- The copied slots whose wait items the loop may still use in this round: all of them until
it is known which ones are signalled.
-/
def Loop.awaited : Loop → List FdSlot
  | .select _ _ fds => fds
  | .dispatch _ _ fds _ => fds.filter FdSlot.pending
  | .callback _ _ fds _ _ => fds.filter FdSlot.pending
  | _ => []

/-- The wait items that are freed when the engine of a context is canceled or when a
registration is removed.
-/
def World.removedItems (world : World) : Input → List Nat
  | .remove ctx idx => ((world.tables.fdt ctx)[idx]?.bind FdSlot.item).toList
  | .cancel (some ctx) =>
      if (world.ctxs ctx).events = .noEngine then [] else heldItems (world.tables.fdt ctx)
  | .start ctx false =>
      if (world.ctxs ctx).events = .global then heldItems (world.tables.fdt ctx) else []
  | _ => []

/-- No registration is removed whose descriptor is still to be handled in this round. -/
def World.KeepsAwaited (world : World) (input : Input) : Prop :=
  ∀ slot ∈ world.loop.awaited, ∀ item ∈ slot.item, item ∉ world.removedItems input

instance (world : World) (input : Input) : Decidable (world.KeepsAwaited input) :=
  inferInstanceAs (Decidable (∀ slot ∈ _, ∀ item ∈ _, _))

/-- The slot is open and its wait item is live, or it is closed. -/
def FdSlot.Live (tables : Tables) (slot : FdSlot) : Prop :=
  slot.fd = -1
  ∨ ∃ item waitItem, slot.item = some item ∧ tables.items item = some waitItem

/-- The tables are sound, and what the loop may still use is live. -/
structure World.AwaitsLive (world : World) : Prop where
  sound : world.tables.Sound
  live : ∀ slot ∈ world.loop.awaited, slot.Live world.tables

-----------------------------------------------------------------------------------------
-- One step
-----------------------------------------------------------------------------------------

/-- A slot of the table is live. -/
theorem Tables.Sound.slot_live {tables : Tables} (sound : tables.Sound) {ctx : Nat}
    {slot : FdSlot} (inTable : slot ∈ tables.fdt ctx)
    : slot.Live tables := by
  cases isItem : slot.item with
  | none => exact Or.inl ((sound.openSlot ctx slot inTable).mpr isItem)
  | some item =>
      obtain ⟨waitItem, live, _⟩ := sound.live ctx item
        (List.mem_filterMap.mpr ⟨slot, inTable, isItem⟩)
      exact Or.inr ⟨item, waitItem, isItem, live⟩

/-- Slots of the same registration are live together. -/
theorem FdSlot.Live.congr {tables : Tables} {slot copy : FdSlot} (live : copy.Live tables)
    (same : copy.registration = slot.registration)
    : slot.Live tables := by
  obtain ⟨sameFd, sameItem⟩ : copy.fd = slot.fd ∧ copy.item = slot.item := by
    simpa [FdSlot.registration] using same
  unfold FdSlot.Live at live ⊢
  rwa [sameFd, sameItem] at live

/-- The items of the awaited slots are kept. -/
theorem World.AwaitsLive.keep (awaits : world.AwaitsLive) {changed : Tables}
    (sound : changed.Sound)
    (kept
      : ∀ slot ∈ world.loop.awaited, ∀ item waitItem,
          slot.item = some item
          → world.tables.items item = some waitItem
          → changed.items item = some waitItem)
    : World.AwaitsLive { world with tables := changed } := by
  refine ⟨sound, ?_⟩
  intro slot member
  rcases awaits.live slot member with closed | ⟨item, waitItem, isItem, live⟩
  · exact Or.inl closed
  · exact Or.inr ⟨item, waitItem, isItem, kept slot member item waitItem isItem live⟩

/-- The loop goes on with some of the awaited slots. -/
theorem World.AwaitsLive.advance (awaits : world.AwaitsLive) {loop : Loop}
    (copied
      : ∀ slot ∈ loop.awaited,
          ∃ copy ∈ world.loop.awaited, copy.registration = slot.registration)
    : World.AwaitsLive { world with loop } := by
  refine ⟨awaits.sound, ?_⟩
  intro slot member
  obtain ⟨copy, inCopy, same⟩ := copied slot member
  exact (awaits.live copy inCopy).congr same

/-- The descriptors of another context are closed. -/
theorem World.AwaitsLive.close (awaits : world.AwaitsLive) {ctx : Nat} {closed : Tables}
    (closes : world.tables.Closes closed ctx)
    (foreign
      : ∀ slot ∈ world.loop.awaited, ∀ item ∈ slot.item,
          item ∉ heldItems (world.tables.fdt ctx))
    : World.AwaitsLive { world with tables := closed } := by
  refine awaits.keep closes.sound ?_
  intro slot member item waitItem isItem live
  apply closes.others live
  rintro rfl
  exact foreign slot member item isItem (awaits.sound.present live)

/-- A wait for an operation that has ended stays one for a live operation. -/
theorem World.Done.awaitsLive {ctx : Nat} {err opErr : GpgError}
    (raised : world.Done ctx err opErr event next) (awaits : world.AwaitsLive)
    : next.AwaitsLive := by
  cases raised with
  | noEngine | other => exact awaits
  | global => exact ⟨awaits.sound, awaits.live⟩

/-- An operation is canceled from outside of the loop. -/
theorem World.cancelWithErr_awaitsLive {ctx : Nat} {err opErr : GpgError}
    (canceled : world.cancelWithErr ctx err opErr = .ok (event, next))
    (awaits : world.AwaitsLive)
    (foreign
      : world.HasEngine ctx
        → ∀ slot ∈ world.loop.awaited, ∀ item ∈ slot.item,
            item ∉ heldItems (world.tables.fdt ctx))
    : next.AwaitsLive := by
  rcases World.cancelWithErr_cases canceled with ⟨_, _, rfl⟩ | ⟨engine, raised⟩
  · exact awaits
  · have closes := awaits.sound.engineCancel_closes (world.ctxs ctx) ctx err
    exact raised.awaitsLive (awaits.close closes (foreign engine))

/-- The loop moves. -/
theorem World.Moves.awaitsLive {loop : Loop} (moved : world.Moves input event loop)
    (awaits : world.AwaitsLive)
    : World.AwaitsLive { world with loop } := by
  have elsewhere : ∀ {loop : Loop}, loop.awaited = [] → World.AwaitsLive { world with loop } :=
    fun nothing => ⟨awaits.sound, by simp [nothing]⟩
  cases moved with
  | @collects ctx hang fds collected =>
      refine ⟨awaits.sound, ?_⟩
      intro slot member
      obtain ⟨entries, _, rfl⟩ := Option.map_eq_some_iff.mp collected
      obtain ⟨entry, _, inTable⟩ := List.mem_flatMap.mp member
      exact awaits.sound.slot_live inTable
  | @selects ctx hang fds ready nr loop =>
      refine awaits.advance ?_
      intro slot member
      rw [loop]
      have registered : slot.registration ∈ fds.map FdSlot.registration := by
        rw [← markSignaled_registration ready]
        exact List.mem_map_of_mem (List.mem_filter.mp member).1
      exact List.mem_map.mp registered
  | skips loop skipped =>
      refine awaits.advance ?_
      intro slot member
      refine ⟨slot, ?_, rfl⟩
      rw [loop]
      exact ((List.sublist_cons_self _ _).filter _).subset member
  | changed handles _ =>
      obtain ⟨_, loop, _⟩ := handles.loop
      refine awaits.advance ?_
      intro slot member
      refine ⟨slot, ?_, rfl⟩
      rw [loop]
      exact ((List.sublist_cons_self _ _).filter _).subset member
  | dispatches handles _ =>
      obtain ⟨_, loop, _⟩ := handles.loop
      refine awaits.advance ?_
      intro slot member
      refine ⟨slot, ?_, rfl⟩
      rw [loop]
      exact ((List.sublist_cons_self _ _).filter _).subset member
  | endsCallback loop =>
      refine awaits.advance ?_
      intro slot member
      rw [loop]
      exact ⟨slot, member, rfl⟩
  | wait | fails | endsRound | finds | scanned | hangs => exact elsewhere rfl

/-- Every step in which no awaited registration is removed keeps them live. -/
theorem World.Steps.awaitsLive (steps : world.Steps input event next) (awaits : world.AwaitsLive)
    (keeps : world.KeepsAwaited input)
    : next.AwaitsLive := by
  cases steps with
  | nothing _ => exact awaits
  | resets | marks | starts => exact ⟨awaits.sound, awaits.live⟩
  | adds _ =>
      refine awaits.keep (awaits.sound.addIoCb _ _ _) ?_
      intro slot _ item waitItem _ live
      have old : item ≠ world.tables.nextItem := Nat.ne_of_lt (awaits.sound.fresh live)
      simpa [Tables.addIoCb, Function.update_of_ne old] using live
  | @removes ctx idx =>
      refine awaits.keep (awaits.sound.removeIoCb ctx idx) ?_
      intro slot member item waitItem isItem live
      rcases world.tables.removeIoCb_items ctx idx item with same | ⟨_, removed, found, held⟩
      · rw [same, live]
      · refine absurd ?_ (keeps slot member item isItem)
        simp [World.removedItems, found, held]
  | @cancels _ ctx err opErr loop _ _ cause canceled =>
      have elsewhere : ∀ {asked hang}, World.AwaitsLive { world with loop := .scan asked hang } :=
        ⟨awaits.sound, by simp [Loop.awaited]⟩
      cases cause with
      | application =>
          refine World.cancelWithErr_awaitsLive canceled awaits ?_
          intro engine slot member item isItem
          have kept := keeps slot member item isItem
          rwa [World.removedItems, if_neg engine] at kept
      | noMemory global =>
          refine World.cancelWithErr_awaitsLive canceled awaits ?_
          intro _ slot member item isItem
          have kept := keeps slot member item isItem
          rwa [World.removedItems, if_pos global] at kept
      | flag => exact World.cancelWithErr_awaitsLive canceled elsewhere (by simp [Loop.awaited])
      | poll => exact World.cancelWithErr_awaitsLive canceled elsewhere (by simp [Loop.awaited])
      | callback =>
          exact World.cancelWithErr_awaitsLive canceled elsewhere (by simp [Loop.awaited])
  | moves moved => exact moved.awaitsLive awaits
  | finishes _ raised =>
      exact (World.raiseDone_done raised).awaitsLive ⟨awaits.sound, by simp [Loop.awaited]⟩
  | returns _ _ => exact ⟨awaits.sound, by simp [Loop.awaited]⟩

/-- A registration that is used is in the table of its context at that moment. -/
def LiveDispatch (executed : Executed World Input Event) : Prop :=
  ∀ item ctx,
    executed.output = .dispatched item ctx → item ∈ heldItems (executed.state.tables.fdt ctx)

/-- What a step dispatches is live. -/
theorem World.Steps.liveDispatch (steps : world.Steps input event next)
    (sound : world.tables.Sound)
    : LiveDispatch ⟨world, input, event⟩ := by
  intro item ctx dispatched
  cases steps with
  | nothing silent => rcases silent with rfl | ⟨_, rfl⟩ <;> cases dispatched
  | cancels _ canceled =>
      rcases World.cancelWithErr_cases canceled with ⟨_, rfl, _⟩ | ⟨_, raised⟩
      · cases dispatched
      · cases raised <;> cases dispatched
  | moves moved =>
      cases moved with
      | dispatches handles _ =>
          cases dispatched
          obtain ⟨dir, live⟩ := handles.live
          exact sound.present live
      | wait | fails | collects | selects | skips | changed | endsRound | endsCallback | finds
      | scanned | hangs => cases dispatched
  | finishes _ raised => cases World.raiseDone_done raised <;> cases dispatched
  | resets | marks | adds | removes | starts | returns => cases dispatched

/-- What the loop still awaits does not end it. -/
theorem World.AwaitsLive.step_fails (awaits : world.AwaitsLive)
    (failed : world.step input = .error fault)
    : fault ≠ .noItem ∧ fault ≠ .staleItem := by
  have head : ∀ {asked hang slot rest nr},
      world.loop = .dispatch asked hang (slot :: rest) (nr + 1)
      → slot.pending = true
      → ∃ item waitItem, slot.item = some item ∧ world.tables.items item = some waitItem := by
    intro asked hang slot rest nr loop pending
    have awaited : slot ∈ world.loop.awaited := by
      rw [loop]
      exact List.mem_filter.mpr ⟨List.mem_cons_self, pending⟩
    rcases awaits.live slot awaited with closed | live
    · simp [FdSlot.pending, closed] at pending
    · exact live
  cases World.step_fails failed with
  | noItem loop pending empty =>
      obtain ⟨item, _, isItem, _⟩ := head loop pending
      rw [empty] at isItem
      cases isItem
  | staleItem loop pending held freed =>
      obtain ⟨item, _, isItem, live⟩ := head loop pending
      rw [held] at isItem
      cases isItem
      rw [freed] at live
      cases live
  | cancel _ refused =>
      obtain ⟨_, _, _, rfl⟩ := World.cancelWithErr_fails refused
      simp
  | finish _ refused =>
      obtain ⟨_, _, _, rfl⟩ := World.raiseDone_fails refused
      simp
  | nullContext | start | collect | scan | found | reap => simp

-----------------------------------------------------------------------------------------
-- Runs
-----------------------------------------------------------------------------------------

/-- A run of the global loop uses registrations that are there, and it does not end at a wait
item that was freed or that is missing.
-/
structure DispatchesLive (world : World) (inputs : List Input) : Prop where
  live : ∀ executed ∈ (run World.step world inputs).1, LiveDispatch executed
  faults
    : ∀ fault,
        (run World.step world inputs).2 = .error fault → fault ≠ .noItem ∧ fault ≠ .staleItem

/-- Every run of the private loop uses registrations that are there, and so does every run of
the global loop in which no registration is removed whose descriptor is still to be handled.
-/
theorem loops_dispatch_live (ctx : Nat) (context : Context) (privateInputs : List PrivateInput)
    (ctxs : Nat → Context) (inputs : List Input)
    : ((∀ executed ∈ (run PrivateWorld.step { ctx, context } privateInputs).1,
          PrivateWorld.LiveDispatch executed)
        ∧ ∀ fault, (run PrivateWorld.step { ctx, context } privateInputs).2 ≠ .error fault)
      ∧ (Along World.step World.KeepsAwaited (World.initial ctxs) inputs
        → DispatchesLive (World.initial ctxs) inputs) := by
  constructor
  · exact PrivateWorld.run_liveDispatch Tables.sound_empty privateInputs
  · intro keeps
    have dispatched := run_steps (fun fault => fault ≠ .noItem ∧ fault ≠ .staleItem)
      World.AwaitsLive LiveDispatch
      (fun awaits _ failed => awaits.step_fails failed)
      (fun awaits keeps stepped =>
        ⟨(World.step_steps stepped).awaitsLive awaits keeps,
          (World.step_steps stepped).liveDispatch awaits.sound⟩)
      ⟨Tables.sound_empty, by simp [World.initial, Loop.awaited]⟩ keeps
    exact ⟨dispatched.1, dispatched.2⟩

/-- Two descriptors of one operation are signalled, and the first callback removes a slot. -/
def removalInputs (idx : Nat) : List Input := [
  .reset 0 .global, .add 0 3 1, .add 0 4 1, .start 0 true, .wait (some 0) true, .collect true,
  .select (.ok [0, 1]), .dispatch .ready, .remove 0 idx, .callbackReturns 0 0,
  .dispatch .ready]

/-- A callback may remove its own registration. -/
theorem loops_dispatch_live_own
    : Along World.step World.KeepsAwaited (World.initial fun _ => {}) (removalInputs 0)
      ∧ DispatchesLive (World.initial fun _ => {}) (removalInputs 0)
      ∧ Event.dispatched 1 0
        ∈ (run World.step (World.initial fun _ => {}) (removalInputs 0)).1.map Executed.output :=
  ⟨by decide, (loops_dispatch_live 0 {} [] _ _).2 (by decide), by decide⟩

/-- When it removes the other one, the loop goes on to the wait item that was freed. -/
theorem globalLoop_dispatches_freed
    : ¬ DispatchesLive (World.initial fun _ => {}) (removalInputs 1) := by
  intro dispatches
  exact (dispatches.faults .staleItem rfl).2 rfl

end Gpgme.Wait
