import Gpgme.Wait.Registrations

/-! The protocol of the active and the done list over whole runs of the global event loop.
An operation is known by its list item. What became of it is read off the events of the run.
-/

namespace Gpgme.Wait

open FaultMachine

variable {world next : World} {input : Input} {event : Event} {fault : Fault}
  {active done : List (Nat × CtxStatus)}

-----------------------------------------------------------------------------------------
-- The protocol
-----------------------------------------------------------------------------------------

/-- The operation that is started, with its context. -/
def Event.startedOp : Event → Option (Nat × Nat)
  | .started op ctx => some (op, ctx)
  | _ => none

/-- The operation that is moved to the done list, with the errors of the DONE event. -/
def Event.finishedOp : Event → Option (Nat × CtxStatus)
  | .done (some op) ctx status opErr => some (op, { ctx, status, opErr })
  | _ => none

/-- The operation that `gpgme_wait_ext` returns, with the errors that it returns. -/
def Event.returnedOp : Event → Option (Nat × CtxStatus)
  | .returned op ctx status opErr => some (op, { ctx, status, opErr })
  | _ => none

def startedOps (events : List Event) : List (Nat × Nat) := events.filterMap Event.startedOp

def finishedOps (events : List Event) : List (Nat × CtxStatus) :=
  events.filterMap Event.finishedOp

def returnedOps (events : List Event) : List (Nat × CtxStatus) :=
  events.filterMap Event.returnedOp

/-- The last element is kept or left out. -/
theorem filterMap_concat {α β : Type*} (f : α → Option β) (front : List α) (last : α)
    : (front ++ [last]).filterMap f = front.filterMap f ++ (f last).toList := by
  rw [List.filterMap_append]
  cases found : f last <;> simp [found]

@[simp] theorem startedOps_concat (events : List Event) (event : Event)
    : startedOps (events ++ [event]) = startedOps events ++ event.startedOp.toList :=
  filterMap_concat _ _ _

@[simp] theorem finishedOps_concat (events : List Event) (event : Event)
    : finishedOps (events ++ [event]) = finishedOps events ++ event.finishedOp.toList :=
  filterMap_concat _ _ _

@[simp] theorem returnedOps_concat (events : List Event) (event : Event)
    : returnedOps (events ++ [event]) = returnedOps events ++ event.returnedOp.toList :=
  filterMap_concat _ _ _

/-- An operation with its context, as it was started. -/
def opCtx (entry : Nat × CtxStatus) : Nat × Nat := (entry.1, entry.2.ctx)

/-- The events and the lists agree. The started operations are the active ones and the ones
that were moved to the done list, each of them once; and what was moved is in the done list or
was returned as it was moved, again each of them once.
-/
structure ListProtocol (events : List Event) (lists : CtxLists)
    (active done : List (Nat × CtxStatus)) : Prop where
  represents : lists.Represents active done
  contexts : (active.map (fun entry => entry.2.ctx)).Nodup
  bound : ∀ started ∈ startedOps events, started.1 < lists.nextItem
  once : ((startedOps events).map Prod.fst).Nodup
  moved : (startedOps events).Perm (active.map opCtx ++ (finishedOps events).map opCtx)
  returned : (finishedOps events).Perm (done ++ returnedOps events)

/-- No events keep the protocol. -/
theorem listProtocol_empty : ListProtocol [] {} [] [] := by
  refine ⟨CtxLists.represents_empty, ?_, ?_, ?_, ?_, ?_⟩
  all_goals simp [startedOps, finishedOps, returnedOps]

namespace ListProtocol

variable {events : List Event} {lists lists' : CtxLists}

/-- An event that tells of no operation. -/
theorem silent (protocol : ListProtocol events lists active done)
    (noStart : event.startedOp = none) (noFinish : event.finishedOp = none)
    (noReturn : event.returnedOp = none)
    : ListProtocol (events ++ [event]) lists active done := by
  obtain ⟨represents, contexts, bound, once, moved, returned⟩ := protocol
  refine ⟨represents, contexts, ?_, ?_, ?_, ?_⟩
  · simpa only [startedOps_concat, noStart, Option.toList_none, List.append_nil] using bound
  · simpa [noStart] using once
  · simpa [noStart, noFinish] using moved
  · simpa [noFinish, noReturn] using returned

/-- An operation is started in a context that is not active. -/
theorem start (protocol : ListProtocol events lists active done) {op ctx : Nat}
    (idle : ∀ entry ∈ active, entry.2.ctx ≠ ctx)
    (entered : lists.ctxActive ctx = .ok (op, lists'))
    : ∃ opened,
        ListProtocol (events ++ [.started op ctx]) lists' (opened :: active) done
        ∧ opened.2.ctx = ctx := by
  obtain ⟨represents, contexts, bound, once, moved, returned⟩ := protocol
  obtain ⟨opened, entered', represents', nextItem⟩ := represents.ctxActive ctx
  rw [entered] at entered'
  cases entered'
  refine ⟨(lists.nextItem, { ctx }), ⟨represents', ?_, ?_, ?_, ?_, ?_⟩, rfl⟩
  · refine List.nodup_cons.mpr ⟨?_, contexts⟩
    intro member
    obtain ⟨entry, inActive, same⟩ := List.mem_map.mp member
    exact idle entry inActive same
  · intro started member
    rw [startedOps_concat, List.mem_append] at member
    rcases member with before | now
    · exact nextItem ▸ Nat.lt_succ_of_lt (bound started before)
    · have same : started = (lists.nextItem, ctx) := by simpa [Event.startedOp] using now
      rw [same, nextItem]
      exact Nat.lt_succ_self _
  · rw [startedOps_concat, List.map_append]
    refine (List.perm_append_comm.nodup_iff).mpr (List.nodup_cons.mpr ⟨?_, once⟩)
    intro member
    obtain ⟨started, before, same⟩ := List.mem_map.mp member
    exact absurd same (Nat.ne_of_lt (bound started before))
  · rw [startedOps_concat]
    refine List.perm_append_comm.trans ?_
    simpa [Event.startedOp, Event.finishedOp, opCtx] using moved
  · simpa [Event.finishedOp, Event.returnedOp] using returned

/-- A DONE event of an active context moves its operation. -/
theorem finish (protocol : ListProtocol events lists active done) {op ctx : Nat}
    {status opErr : GpgError} (isActive : ∃ entry ∈ active, entry.2.ctx = ctx)
    (moves : lists.ctxDone ctx status opErr = .ok (op, lists'))
    : ∃ active' done',
        ListProtocol (events ++ [.done (some op) ctx status opErr]) lists' active' done'
        ∧ (∀ entry ∈ active', entry ∈ active)
        ∧ ∀ entry ∈ active, entry.2.ctx ≠ ctx → entry ∈ active' := by
  obtain ⟨represents, contexts, bound, once, moved, returned⟩ := protocol
  obtain ⟨front, addr, entry, behind, moves', rfl, isCtx, ok, represents', nextItem⟩ :=
    represents.ctxDone isActive status opErr
  rw [moves] at ok
  cases ok
  refine ⟨front ++ behind, _, ⟨represents', ?_, ?_, ?_, ?_, ?_⟩, ?_, ?_⟩
  · rw [List.map_append, List.map_cons] at contexts
    rw [List.map_append]
    exact (List.nodup_cons.mp (List.perm_middle.nodup_iff.mp contexts)).2
  · rw [nextItem, startedOps_concat]
    simpa only [Event.startedOp, Option.toList_none, List.append_nil] using bound
  · simpa [Event.startedOp] using once
  · simp only [startedOps_concat, finishedOps_concat, Event.startedOp, Event.finishedOp,
      Option.toList_none, Option.toList_some, List.append_nil, List.map_append, List.map_cons,
      List.map_nil]
    simp only [List.map_append, List.map_cons] at moved
    refine moved.trans ?_
    -- the operation leaves the active ones and becomes the last one that was finished
    have same : opCtx (op, entry) = opCtx (op, { ctx, status, opErr }) := by
      simp [opCtx, isCtx]
    rw [same]
    refine (List.perm_middle.append_right _).trans ?_
    rw [← List.append_assoc]
    exact (List.perm_append_singleton _ _).symm
  · rw [finishedOps_concat, returnedOps_concat]
    refine List.perm_append_comm.trans ?_
    simpa [Event.finishedOp, Event.returnedOp] using returned
  · intro other member
    exact List.perm_middle.mem_iff.mpr (List.mem_cons_of_mem _ member)
  · intro other member different
    rcases List.mem_cons.mp (List.perm_middle.mem_iff.mp member) with rfl | member
    · exact absurd isCtx different
    · exact member

/-- `gpgme_wait_ext` returns an operation that was moved. -/
theorem wait (protocol : ListProtocol events lists active done) {asked : Option Nat} {op : Nat}
    {entry : CtxStatus} (found : lists.ctxWait asked = .ok (some (op, entry), lists'))
    : ∃ done',
        ListProtocol (events ++ [.returned op entry.ctx entry.status entry.opErr]) lists' active
          done' := by
  obtain ⟨represents, contexts, bound, once, moved, returned⟩ := protocol
  rcases represents.ctxWait asked with ⟨nothing, _⟩
    | ⟨front, addr, entry', behind, lists'', rfl, _, found', represents', nextItem⟩
  · rw [found] at nothing
    cases nothing
  rw [found] at found'
  cases found'
  refine ⟨front ++ behind, represents', contexts, ?_, ?_, ?_, ?_⟩
  · rw [nextItem, startedOps_concat]
    simpa only [Event.startedOp, Option.toList_none, List.append_nil] using bound
  · simpa [Event.startedOp] using once
  · simpa [Event.startedOp, Event.finishedOp] using moved
  · simp only [finishedOps_concat, returnedOps_concat, Event.finishedOp, Event.returnedOp,
      Option.toList_none, Option.toList_some, List.append_nil]
    refine returned.trans ?_
    -- the entry leaves the done list and becomes the last one that was returned
    refine (List.perm_middle.append_right _).trans ?_
    rw [← List.append_assoc]
    exact (List.perm_append_singleton _ _).symm

end ListProtocol

-----------------------------------------------------------------------------------------
-- What the application has to keep
-----------------------------------------------------------------------------------------

/-- The context has an entry in the active list. -/
def CtxLists.isActive (lists : CtxLists) (ctx : Nat) : Bool :=
  (DoublyLinkedList.search lists.heap (fun entry => entry.ctx == ctx) lists.nextItem
    lists.active).join.isSome

/-- A context is active when it has an active entry. -/
theorem CtxLists.Represents.isActive_iff {lists : CtxLists} (held : lists.Represents active done)
    (ctx : Nat)
    : lists.isActive ctx = true ↔ ∃ entry ∈ active, entry.2.ctx = ctx := by
  obtain ⟨uniqueActive, -, -⟩ := held.separate
  have searched := search_eq (p := fun entry => entry.ctx == ctx) held.activeLinked uniqueActive
    (fun entry member => held.values entry (List.mem_append_left _ member))
    (fun entry member => held.bound entry (List.mem_append_left _ member))
  unfold CtxLists.isActive
  rw [searched, Option.join_some, Option.isSome_map, List.find?_isSome]
  simp

/-- The copied descriptors that the loop has still to look at. -/
def Loop.snapshot : Loop → List FdSlot
  | .select _ _ fds => fds
  | .dispatch _ _ fds _ => fds
  | .callback _ _ fds _ _ => fds
  | _ => []

/-- The context for which the loop is about to raise a DONE event. -/
def Loop.finishing : Loop → Option Nat
  | .finish _ _ actx => some actx
  | _ => none

/-- The context whose callback runs. -/
def Loop.running : Loop → Option Nat
  | .callback _ _ _ _ ictx => some ictx
  | _ => none

/-- An operation is set up and started in a context only when the last one there has finished,
and with memory for its list item. An operation in the global loop is canceled, and a callback
of its context fails, only while it is active; and it is not canceled while the loop raises its
DONE event.
-/
def World.ListsUsed (world : World) : Input → Prop
  | .reset ctx _ => world.lists.isActive ctx = false
  | .start ctx allocated =>
      (world.ctxs ctx).events = .global → allocated = true ∧ world.lists.isActive ctx = false
  | .cancel (some ctx) =>
      (world.ctxs ctx).events = .global
      → world.lists.isActive ctx = true ∧ world.loop.finishing ≠ some ctx
  | .callbackReturns err opErr =>
      err ≠ 0 ∨ opErr ≠ 0
      → ∀ ictx ∈ world.loop.running,
          (world.ctxs ictx).events = .global → world.lists.isActive ictx = true
  | _ => True

instance (world : World) : ∀ input, Decidable (world.ListsUsed input)
  | .reset _ _ => inferInstanceAs (Decidable (_ = _))
  | .start _ _ => inferInstanceAs (Decidable (_ → _ ∧ _))
  | .cancel none => .isTrue trivial
  | .cancel (some _) => inferInstanceAs (Decidable (_ → _ ∧ _))
  | .callbackReturns _ _ => inferInstanceAs (Decidable (_ ∨ _ → ∀ ictx ∈ _, _ → _))
  | .add _ _ _ | .remove _ _ | .cancelAsync _ | .wait _ _ | .collect _ | .select _
  | .dispatch _ | .proceed => .isTrue trivial

-----------------------------------------------------------------------------------------
-- The loop and the active contexts
-----------------------------------------------------------------------------------------

/-- What the loop has copied or is about to do concerns active contexts only. -/
structure Consistent (ctxs : Nat → Context) (tables : Tables) (loop : Loop) (active : List Nat)
    : Prop where
  sound : tables.Sound
  global : ∀ ctx ∈ active, (ctxs ctx).events = .global
  known : ∀ slot ∈ loop.snapshot, ∀ item, slot.item = some item → item < tables.nextItem
  snapshot
    : ∀ slot ∈ loop.snapshot, ∀ item,
        slot.item = some item
        → ∀ waitItem, tables.items item = some waitItem → waitItem.ctx ∈ active
  finishing : ∀ actx, loop.finishing = some actx → actx ∈ active

namespace Consistent

variable {ctxs : Nat → Context} {tables changed : Tables} {loop loop' : Loop}
  {actives actives' : List Nat}

/-- The loop goes to a place without copied descriptors. -/
theorem restart (consistent : Consistent ctxs tables loop actives)
    (shrunk : ∀ ctx ∈ actives', ctx ∈ actives) (sound : changed.Sound)
    (copied : loop'.snapshot = []) (free : loop'.finishing = none)
    : Consistent ctxs changed loop' actives' := by
  refine ⟨sound, ?_, ?_, ?_, ?_⟩
  · intro ctx member
    exact consistent.global ctx (shrunk ctx member)
  · simp [copied]
  · simp [copied]
  · simp [free]

/-- The loop goes on with some of the copied descriptors. -/
theorem advance (consistent : Consistent ctxs tables loop actives)
    (copied : ∀ slot ∈ loop'.snapshot, ∃ copy ∈ loop.snapshot, copy.item = slot.item)
    (free : ∀ actx, loop'.finishing = some actx → actx ∈ actives)
    : Consistent ctxs tables loop' actives := by
  refine ⟨consistent.sound, consistent.global, ?_, ?_, free⟩
  · intro slot member item held
    obtain ⟨copy, inCopy, same⟩ := copied slot member
    exact consistent.known copy inCopy item (same.trans held)
  · intro slot member item held
    obtain ⟨copy, inCopy, same⟩ := copied slot member
    exact consistent.snapshot copy inCopy item (same.trans held)

/-- A new item is not among the copied ones. -/
theorem change (consistent : Consistent ctxs tables loop actives) {registers : Nat → Prop}
    (changes : tables.Changes changed registers)
    : Consistent ctxs changed loop actives := by
  refine ⟨changes.sound, consistent.global, ?_, ?_, consistent.finishing⟩
  · intro slot member item held
    exact (consistent.known slot member item held).trans_le changes.nextItem
  · intro slot member item held waitItem live
    rcases changes.live live with before | ⟨_, new⟩
    · exact consistent.snapshot slot member item held waitItem before
    · have old := consistent.known slot member item held
      exact absurd new (Nat.ne_of_lt old)

/-- The descriptors of a context are closed before it leaves the active list. -/
theorem close (consistent : Consistent ctxs tables loop actives) {ctx : Nat}
    (shrunk : ∀ other ∈ actives', other ∈ actives)
    (others : ∀ other ∈ actives, other ≠ ctx → other ∈ actives')
    (free : loop.finishing ≠ some ctx)
    : Consistent ctxs (tables.closeAll ctx) loop actives' := by
  obtain ⟨closes, gone⟩ := consistent.sound.closeAll ctx
  obtain ⟨sound, global, known, snapshot, finishing⟩ :=
    consistent.change (closes.changes (fun _ => True))
  refine ⟨sound, ?_, known, ?_, ?_⟩
  · intro other member
    exact global other (shrunk other member)
  · intro slot member item held waitItem live
    exact others _ (snapshot slot member item held waitItem live) (gone live)
  · intro actx isFinishing
    apply others actx (finishing actx isFinishing)
    rintro rfl
    exact free isFinishing

/-- Contexts that are not active may be set up again. -/
theorem setup (consistent : Consistent ctxs tables loop actives) {ctxs' : Nat → Context}
    (same : ∀ ctx ∈ actives, (ctxs' ctx).events = (ctxs ctx).events)
    : Consistent ctxs' tables loop actives := by
  obtain ⟨sound, global, known, snapshot, finishing⟩ := consistent
  refine ⟨sound, ?_, known, snapshot, finishing⟩
  intro ctx member
  exact (same ctx member).trans (global ctx member)

/-- More contexts become active. -/
theorem grow (consistent : Consistent ctxs tables loop actives) {ctx : Nat}
    (global : (ctxs ctx).events = .global)
    : Consistent ctxs tables loop (ctx :: actives) := by
  obtain ⟨sound, globals, known, snapshot, finishing⟩ := consistent
  refine ⟨sound, ?_, known, ?_, ?_⟩
  · intro other member
    rcases List.mem_cons.mp member with rfl | member
    · exact global
    · exact globals other member
  · intro slot member item held waitItem live
    exact List.mem_cons_of_mem _ (snapshot slot member item held waitItem live)
  · intro actx isFinishing
    exact List.mem_cons_of_mem _ (finishing actx isFinishing)

end Consistent

/-- The contexts of a list. -/
def entryCtxs (entries : List (Nat × CtxStatus)) : List Nat :=
  entries.map (fun entry => entry.2.ctx)

/-- The contexts are those of the entries. -/
theorem mem_entryCtxs {entries : List (Nat × CtxStatus)} {ctx : Nat}
    : ctx ∈ entryCtxs entries ↔ ∃ entry ∈ entries, entry.2.ctx = ctx :=
  List.mem_map

/-- The descriptors are collected from the active contexts. -/
theorem World.collectFds_eq (held : world.lists.Represents active done)
    : world.collectFds
      = some (active.flatMap (fun entry => world.tables.fdt entry.2.ctx)) := by
  obtain ⟨last, segment⟩ := held.activeLinked
  obtain ⟨uniqueActive, -, -⟩ := held.separate
  have bound : ∀ entry ∈ active, entry.1 < world.lists.nextItem :=
    fun entry member => held.bound entry (List.mem_append_left _ member)
  have listed := segment.values_eq (CtxLists.Represents.length_le uniqueActive bound)
  have values : (active.map Prod.fst).filterMap
      (fun addr => (world.lists.heap addr).map DoublyLinkedList.Node.value)
      = active.map Prod.snd := by
    rw [List.filterMap_map, ← List.filterMap_eq_map]
    apply List.filterMap_congr
    intro entry member
    exact held.values entry (List.mem_append_left _ member)
  unfold World.collectFds
  rw [listed, values]
  simp [List.flatMap_map]

/-- The search of the loop over the active contexts. -/
theorem World.searchActive_eq (held : world.lists.Represents active done) (p : CtxStatus → Bool)
    : DoublyLinkedList.search world.lists.heap p world.lists.nextItem world.lists.active
      = some ((active.find? (fun entry => p entry.2)).map Prod.fst) := by
  obtain ⟨uniqueActive, -, -⟩ := held.separate
  exact CtxLists.Represents.search_eq held.activeLinked uniqueActive
    (fun entry member => held.values entry (List.mem_append_left _ member))
    (fun entry member => held.bound entry (List.mem_append_left _ member))

/-- An entry that the loop finds is an active one. -/
theorem World.searchActive_mem (held : world.lists.Represents active done)
    {p : CtxStatus → Bool} {addr : Nat}
    (found : DoublyLinkedList.search world.lists.heap p world.lists.nextItem world.lists.active
      = some (some addr))
    : ∃ node, world.lists.heap addr = some node ∧ node.value.ctx ∈ entryCtxs active := by
  rw [World.searchActive_eq held p] at found
  obtain ⟨entry, isEntry, rfl⟩ := Option.map_eq_some_iff.mp (Option.some.inj found)
  have member := List.mem_of_find?_eq_some isEntry
  obtain ⟨node, here, value⟩ :=
    Option.map_eq_some_iff.mp (held.values entry (List.mem_append_left _ member))
  exact ⟨node, here, mem_entryCtxs.mpr ⟨entry, member, by rw [value]⟩⟩

/-- A signaled slot has the item of its copy. -/
theorem markSignaled_items {ready : List Nat} {fds : List FdSlot} {slot : FdSlot}
    (member : slot ∈ markSignaled ready fds)
    : ∃ copy ∈ fds, copy.item = slot.item := by
  obtain ⟨idx, inside, rfl⟩ := List.mem_mapIdx.mp member
  refine ⟨fds[idx], List.getElem_mem inside, ?_⟩
  split <;> rfl

/-- The loop moves consistently. -/
theorem World.Moves.consistent {loop : Loop} (moved : world.Moves input event loop)
    (held : world.lists.Represents active done)
    (consistent : Consistent world.ctxs world.tables world.loop (entryCtxs active))
    : Consistent world.ctxs world.tables loop (entryCtxs active) := by
  have elsewhere : ∀ {loop : Loop}, loop.snapshot = [] → loop.finishing = none
      → Consistent world.ctxs world.tables loop (entryCtxs active) :=
    fun copied free => consistent.restart (fun _ member => member) consistent.sound copied free
  cases moved with
  | wait _ => exact elsewhere rfl rfl
  | fails => exact elsewhere rfl rfl
  | @collects ctx hang fds collected =>
      rw [World.collectFds_eq held] at collected
      cases collected
      have owned : ∀ slot ∈ active.flatMap (fun entry => world.tables.fdt entry.2.ctx), ∀ item,
          slot.item = some item
          → ∃ waitItem, world.tables.items item = some waitItem
            ∧ waitItem.ctx ∈ entryCtxs active := by
        intro slot member item isItem
        obtain ⟨entry, inActive, inTable⟩ := List.mem_flatMap.mp member
        obtain ⟨waitItem, live, owner⟩ := consistent.sound.live entry.2.ctx item
          (List.mem_filterMap.mpr ⟨slot, inTable, isItem⟩)
        exact ⟨waitItem, live, mem_entryCtxs.mpr ⟨entry, inActive, owner.symm⟩⟩
      refine ⟨consistent.sound, consistent.global, ?_, ?_, by simp [Loop.finishing]⟩
      · intro slot member item isItem
        obtain ⟨_, live, _⟩ := owned slot member item isItem
        exact consistent.sound.fresh live
      · intro slot member item isItem waitItem live
        obtain ⟨_, live', inActive⟩ := owned slot member item isItem
        rw [live] at live'
        cases live'
        exact inActive
  | selects loop =>
      refine consistent.advance ?_ (by simp [Loop.finishing])
      intro slot member
      rw [loop]
      exact markSignaled_items member
  | skips loop _ =>
      refine consistent.advance ?_ (by simp [Loop.finishing])
      intro slot member
      rw [loop]
      exact ⟨slot, List.mem_cons_of_mem _ member, rfl⟩
  | changed handles _ =>
      obtain ⟨_, loop, _⟩ := handles.loop
      refine consistent.advance ?_ (by simp [Loop.finishing])
      intro slot member
      rw [loop]
      exact ⟨slot, List.mem_cons_of_mem _ member, rfl⟩
  | dispatches handles _ =>
      obtain ⟨_, loop, _⟩ := handles.loop
      refine consistent.advance ?_ (by simp [Loop.finishing])
      intro slot member
      rw [loop]
      exact ⟨slot, List.mem_cons_of_mem _ member, rfl⟩
  | endsRound _ _ => exact elsewhere rfl rfl
  | endsCallback loop =>
      refine consistent.advance ?_ (by simp [Loop.finishing])
      intro slot member
      rw [loop]
      exact ⟨slot, member, rfl⟩
  | finds found here =>
      refine consistent.advance (by simp [Loop.snapshot]) ?_
      intro actx isFinishing
      cases isFinishing
      obtain ⟨node, isNode, inActive⟩ := World.searchActive_mem held found
      rw [here] at isNode
      cases isNode
      exact inActive
  | scanned => exact elsewhere rfl rfl
  | hangs => exact elsewhere rfl rfl

-----------------------------------------------------------------------------------------
-- One step
-----------------------------------------------------------------------------------------

variable {events : List Event}

/-- What a DONE event of a context leaves of the lists, where the context is active if its
events go to the global loop.
-/
theorem World.Done.protocol {ctx : Nat} {err opErr : GpgError}
    (raised : world.Done ctx err opErr event next)
    (protocol : ListProtocol events world.lists active done)
    (isActive : (world.ctxs ctx).events = .global → ctx ∈ entryCtxs active)
    : ∃ active' done',
        ListProtocol (events ++ [event]) next.lists active' done'
        ∧ (∀ other ∈ entryCtxs active', other ∈ entryCtxs active)
        ∧ (∀ other ∈ entryCtxs active, other ≠ ctx → other ∈ entryCtxs active')
        ∧ ((world.ctxs ctx).events ≠ .global → active' = active) := by
  cases raised with
  | noEngine _ =>
      exact ⟨active, done, protocol.silent rfl rfl rfl, fun _ member => member,
        fun _ member _ => member, fun _ => rfl⟩
  | other _ =>
      exact ⟨active, done, protocol.silent rfl rfl rfl, fun _ member => member,
        fun _ member _ => member, fun _ => rfl⟩
  | global global moved =>
      obtain ⟨active', done', protocol', shrunk, others⟩ :=
        protocol.finish (mem_entryCtxs.mp (isActive global)) moved
      refine ⟨active', done', protocol', ?_, ?_, fun foreign => absurd global foreign⟩
      · intro other member
        obtain ⟨entry, inActive, same⟩ := mem_entryCtxs.mp member
        exact mem_entryCtxs.mpr ⟨entry, shrunk entry inActive, same⟩
      · intro other member different
        obtain ⟨entry, inActive, rfl⟩ := mem_entryCtxs.mp member
        exact mem_entryCtxs.mpr ⟨entry, others entry inActive different, rfl⟩

/-- A DONE event after which the loop has no copied descriptors. -/
theorem World.Done.restart {ctx : Nat} {err opErr : GpgError} {tables : Tables} {loop : Loop}
    (raised : world.Done ctx err opErr event next)
    (protocol : ListProtocol events world.lists active done)
    (consistent : Consistent world.ctxs tables loop (entryCtxs active))
    (isActive : (world.ctxs ctx).events = .global → ctx ∈ entryCtxs active)
    (sound : world.tables.Sound) (copied : world.loop.snapshot = [])
    (free : world.loop.finishing = none)
    : ∃ active' done',
        ListProtocol (events ++ [event]) next.lists active' done'
        ∧ Consistent next.ctxs next.tables next.loop (entryCtxs active') := by
  obtain ⟨active', done', protocol', shrunk, _, _⟩ := raised.protocol protocol isActive
  obtain ⟨sameCtxs, sameTables, sameLoop⟩ := raised.frame
  refine ⟨active', done', protocol', ?_⟩
  rw [sameCtxs, sameTables, sameLoop]
  exact consistent.restart shrunk sound copied free

/-- An error in the loop. -/
theorem World.fail_protocol {ctx : Nat} {err opErr : GpgError} {loop : Loop}
    (canceled : World.cancelWithErr { world with loop } ctx err opErr = .ok (event, next))
    (protocol : ListProtocol events world.lists active done)
    (consistent : Consistent world.ctxs world.tables world.loop (entryCtxs active))
    (isActive : (world.ctxs ctx).events = .global → ctx ∈ entryCtxs active)
    (copied : loop.snapshot = []) (free : loop.finishing = none)
    : ∃ active' done',
        ListProtocol (events ++ [event]) next.lists active' done'
        ∧ Consistent next.ctxs next.tables next.loop (entryCtxs active') := by
  rcases World.cancelWithErr_cases canceled with ⟨_, rfl, rfl⟩ | ⟨_, raised⟩
  · exact ⟨active, done, protocol.silent rfl rfl rfl,
      consistent.restart (fun _ member => member) consistent.sound copied free⟩
  · have closes := consistent.sound.engineCancel_closes (world.ctxs ctx) ctx err
    exact raised.restart protocol consistent isActive closes.sound copied free

/-- The application cancels an operation. -/
theorem World.cancel_protocol {ctx : Nat}
    (canceled : world.cancelWithErr ctx canceledErr 0 = .ok (event, next))
    (protocol : ListProtocol events world.lists active done)
    (consistent : Consistent world.ctxs world.tables world.loop (entryCtxs active))
    (used : world.ListsUsed (.cancel (some ctx)))
    : ∃ active' done',
        ListProtocol (events ++ [event]) next.lists active' done'
        ∧ Consistent next.ctxs next.tables next.loop (entryCtxs active') := by
  rcases World.cancelWithErr_cases canceled with ⟨_, rfl, rfl⟩ | ⟨_, raised⟩
  · exact ⟨active, done, protocol.silent rfl rfl rfl, consistent⟩
  · have isActive : (world.ctxs ctx).events = .global → ctx ∈ entryCtxs active := by
      intro global
      exact mem_entryCtxs.mpr ((protocol.represents.isActive_iff ctx).mp (used global).1)
    obtain ⟨ctxs, tables, loop⟩ := raised.frame
    obtain ⟨active', done', protocol', shrunk, others, kept⟩ := raised.protocol protocol isActive
    refine ⟨active', done', protocol', ?_⟩
    have closed : world.tables.engineCancel (world.ctxs ctx) ctx canceledErr
        = world.tables.closeAll ctx :=
      if_pos (Or.inl (by decide))
    rw [ctxs, tables, loop, closed]
    by_cases global : (world.ctxs ctx).events = .global
    · exact consistent.close shrunk others (used global).2
    · rw [kept global]
      obtain ⟨closes, _⟩ := consistent.sound.closeAll ctx
      exact consistent.change (closes.changes (fun _ => True))

/-- The context of an error in the loop is active. -/
theorem World.Cancels.isActive {ctx : Nat} {err opErr : GpgError} {loop : Loop}
    (cause : world.Cancels input ctx err opErr loop)
    (held : world.lists.Represents active done)
    (consistent : Consistent world.ctxs world.tables world.loop (entryCtxs active))
    (used : world.ListsUsed input) (global : (world.ctxs ctx).events = .global)
    : ctx ∈ entryCtxs active := by
  have copied : ∀ {asked hang rest nr item},
      world.Handles asked hang rest nr item ctx → ctx ∈ entryCtxs active := by
    intro asked hang rest nr item handles
    obtain ⟨slot, isLoop, _, isItem⟩ := handles.loop
    obtain ⟨dir, live⟩ := handles.live
    refine consistent.snapshot slot ?_ item isItem _ live
    rw [isLoop]
    exact List.mem_cons_self
  cases cause with
  | application => exact mem_entryCtxs.mpr ((held.isActive_iff ctx).mp (used global).1)
  | noMemory => cases (used global).1
  | flag handles _ _ => exact copied handles
  | poll handles _ _ => exact copied handles
  | callback isLoop error =>
      refine mem_entryCtxs.mpr ((held.isActive_iff ctx).mp (used error ctx ?_ global))
      rw [isLoop]
      rfl

/-- Every step keeps the protocol. -/
theorem World.Steps.protocol (steps : world.Steps input event next)
    (protocol : ListProtocol events world.lists active done)
    (consistent : Consistent world.ctxs world.tables world.loop (entryCtxs active))
    (used : world.ListsUsed input)
    : ∃ active' done',
        ListProtocol (events ++ [event]) next.lists active' done'
        ∧ Consistent next.ctxs next.tables next.loop (entryCtxs active') := by
  cases steps with
  | nothing silent =>
      refine ⟨active, done, ?_, consistent⟩
      rcases silent with rfl | ⟨_, rfl⟩ <;> exact protocol.silent rfl rfl rfl
  | @resets ctx _ _ =>
      refine ⟨active, done, protocol.silent rfl rfl rfl, consistent.setup ?_⟩
      intro other member
      have different : other ≠ ctx := by
        rintro rfl
        have isActive := (protocol.represents.isActive_iff other).mpr (mem_entryCtxs.mp member)
        rw [show world.lists.isActive other = false from used] at isActive
        cases isActive
      simp [Function.update_of_ne different]
  | @marks ctx =>
      refine ⟨active, done, protocol.silent rfl rfl rfl, consistent.setup ?_⟩
      intro other _
      by_cases same : other = ctx
      · simp [same]
      · simp [Function.update_of_ne same]
  | @adds ctx fd dir engine =>
      have changes : world.tables.Changes (world.tables.addIoCb ctx fd dir) world.HasEngine :=
        consistent.sound.addIoCb_changes engine fd dir
      exact ⟨active, done, protocol.silent rfl rfl rfl, consistent.change changes⟩
  | removes =>
      exact ⟨active, done, protocol.silent rfl rfl rfl,
        consistent.change ((consistent.sound.removeIoCb_closes _ _).changes (fun _ => True))⟩
  | @starts ctx _ _ global entered =>
      have idle : ∀ entry ∈ active, entry.2.ctx ≠ ctx := by
        intro entry member same
        have isActive := (protocol.represents.isActive_iff ctx).mpr ⟨entry, member, same⟩
        rw [(used global).2] at isActive
        cases isActive
      obtain ⟨opened, protocol', rfl⟩ := protocol.start idle entered
      exact ⟨opened :: active, done, protocol', consistent.grow global⟩
  | @cancels input ctx err opErr loop _ _ cause canceled =>
      have isActive := cause.isActive protocol.represents consistent used
      cases cause with
      | application => exact World.cancel_protocol canceled protocol consistent used
      | noMemory global => cases (used global).1
      | flag => exact World.fail_protocol canceled protocol consistent isActive rfl rfl
      | poll => exact World.fail_protocol canceled protocol consistent isActive rfl rfl
      | callback => exact World.fail_protocol canceled protocol consistent isActive rfl rfl
  | moves moved =>
      refine ⟨active, done, ?_, moved.consistent protocol.represents consistent⟩
      cases moved <;> exact protocol.silent rfl rfl rfl
  | finishes loop raised =>
      have isActive := consistent.finishing _ (by rw [loop]; rfl)
      exact (World.raiseDone_done raised).restart protocol consistent (fun _ => isActive)
        consistent.sound rfl rfl
  | returns loop found =>
      obtain ⟨done', protocol'⟩ := protocol.wait found
      exact ⟨active, done', protocol',
        consistent.restart (fun _ member => member) consistent.sound rfl rfl⟩

/-- A step does not fail in the lists. -/
theorem World.step_listFault (failed : world.step input = .error fault)
    (protocol : ListProtocol events world.lists active done)
    (consistent : Consistent world.ctxs world.tables world.loop (entryCtxs active))
    (used : world.ListsUsed input) (listFault : ListFault)
    : fault ≠ .list listFault := by
  have represents := protocol.represents
  have moves : ∀ {ctx err opErr listFault}, ctx ∈ entryCtxs active
      → world.lists.ctxDone ctx err opErr ≠ .error listFault := by
    intro ctx err opErr listFault isActive refused
    obtain ⟨_, _, _, _, _, _, _, ok, _⟩ :=
      represents.ctxDone (mem_entryCtxs.mp isActive) err opErr
    rw [ok] at refused
    cases refused
  cases World.step_fails failed with
  | noItem | staleItem | nullContext => simp
  | @start ctx _ refused =>
      obtain ⟨_, ok, _⟩ := represents.ctxActive ctx
      rw [ok] at refused
      cases refused
  | cancel cause refused =>
      obtain ⟨global, _, refused, _⟩ := World.cancelWithErr_fails refused
      exact absurd refused (moves (cause.isActive represents consistent used global))
  | collect refused =>
      rw [World.collectFds_eq represents] at refused
      cases refused
  | scan refused =>
      rw [World.searchActive_eq represents] at refused
      cases refused
  | found found freed =>
      obtain ⟨_, here, _⟩ := World.searchActive_mem represents found
      rw [freed] at here
      cases here
  | finish loop refused =>
      obtain ⟨_, _, refused, _⟩ := World.raiseDone_fails refused
      exact absurd refused (moves (consistent.finishing _ (by rw [loop]; rfl)))
  | @reap ctx _ refused =>
      rcases represents.ctxWait ctx with ⟨ok, _⟩ | ⟨_, _, _, _, _, _, _, ok, _⟩
      · rw [ok] at refused
        cases refused
      · rw [ok] at refused
        cases refused

-----------------------------------------------------------------------------------------
-- Runs
-----------------------------------------------------------------------------------------

/-- The invariant of a run. -/
def World.KeepsProtocol (history : List (Executed World Input Event)) (world : World) : Prop :=
  ∃ active done,
    ListProtocol (history.map Executed.output) world.lists active done
    ∧ Consistent world.ctxs world.tables world.loop (entryCtxs active)

/-- The initial world keeps the protocol. -/
theorem World.initial_keepsProtocol (ctxs : Nat → Context)
    : World.KeepsProtocol [] (World.initial ctxs) := by
  refine ⟨[], [], listProtocol_empty, Tables.sound_empty, ?_, ?_, ?_, ?_⟩
  all_goals simp [World.initial, entryCtxs, Loop.snapshot, Loop.finishing]

/-- The lists follow the protocol in the last state of a run, and the run does not end in
them.
-/
def ProtocolRun (world : World) (inputs : List Input) : Prop :=
  ∃ last active done,
    ListProtocol ((run World.step world inputs).1.map Executed.output) last.lists active done
    ∧ ((run World.step world inputs).2 = .ok last
      ∨ ∃ fault, (run World.step world inputs).2 = .error fault ∧ ∀ failed, fault ≠ .list failed)

/-- The lists follow the protocol in every run in which operations are started, set up and
canceled as they have to be.
-/
theorem globalLoop_listProtocol (ctxs : Nat → Context) (inputs : List Input)
    (used : Along World.step World.ListsUsed (World.initial ctxs) inputs)
    : ProtocolRun (World.initial ctxs) inputs := by
  obtain ⟨last, ⟨active, done, protocol, _⟩, ended⟩ := run_invariant World.KeepsProtocol
    (fun fault => ∀ failed, fault ≠ .list failed)
    (by
      rintro history world input fault ⟨active, done, protocol, consistent⟩ used failed
      exact World.step_listFault failed protocol consistent used)
    (by
      rintro history world input event next ⟨active, done, protocol, consistent⟩ used stepped
      unfold World.KeepsProtocol
      rw [List.map_append]
      exact (World.step_steps stepped).protocol protocol consistent used)
    (World.initial_keepsProtocol ctxs) used
  exact ⟨last, active, done, protocol, ended⟩

/-- Two operations; a callback of the first one fails, and the second one is canceled before
it is waited for.
-/
def twoOperations : List Input := [
  .reset 0 .global, .reset 1 .global, .add 0 3 1, .add 1 4 1, .start 0 true, .start 1 true,
  .wait (some 0) true, .collect true, .select (.ok [10]), .dispatch .ready, .dispatch .ready,
  .dispatch .ready, .dispatch .ready, .dispatch .ready, .dispatch .ready, .dispatch .ready,
  .dispatch .ready, .dispatch .ready, .dispatch .ready, .dispatch .ready,
  .callbackReturns 58 0, .proceed, .proceed, .cancel (some 1), .wait none true, .collect true,
  .select (.ok []), .dispatch .ready, .proceed, .proceed]

/-- Two operations run to their ends. -/
theorem globalLoop_listProtocol_two
    : Along World.step World.ListsUsed (World.initial fun _ => {}) twoOperations
      ∧ ProtocolRun (World.initial fun _ => {}) twoOperations
      ∧ returnedOps
          ((run World.step (World.initial fun _ => {}) twoOperations).1.map Executed.output)
        = [(0, { ctx := 0, status := 58 }), (1, { ctx := 1, status := canceledErr })] :=
  ⟨by decide, globalLoop_listProtocol _ _ (by decide), by decide⟩

/-- There is no memory for the list item of an operation. -/
def noMemoryInputs : List Input := [.reset 0 .global, .start 0 false]

/-- An operation is canceled after it has been waited for. -/
def lateCancelInputs : List Input := [
  .reset 0 .global, .start 0 true, .wait (some 0) true, .collect true, .select (.ok []),
  .dispatch .ready, .proceed, .proceed, .proceed, .proceed, .cancel (some 0)]

/-- In both runs the DONE event is raised for a context that is not in the active list. -/
theorem globalLoop_assertion_fails
    : ¬ ProtocolRun (World.initial fun _ => {}) noMemoryInputs
      ∧ ¬ ProtocolRun (World.initial fun _ => {}) lateCancelInputs := by
  constructor
  · rintro ⟨last, active, done, _, ended | ⟨fault, ended, other⟩⟩
    · cases ended
    · cases ended
      exact other .notActive rfl
  · rintro ⟨last, active, done, _, ended | ⟨fault, ended, other⟩⟩
    · cases ended
    · cases ended
      exact other .notActive rfl

end Gpgme.Wait
