import Gpgme.Lib.FaultMachine
import Gpgme.Wait.GlobalLoop

/-! What the steps of the global event loop do to the registrations. -/

namespace Gpgme.Wait

variable {world next : World} {input : Input} {event : Event} {fault : Fault}

-----------------------------------------------------------------------------------------
-- The change of the tables
-----------------------------------------------------------------------------------------

/-- How the tables change in a step: they stay sound, and an item keeps what it is, is freed,
or is the new one of a context that may register descriptors.
-/
structure Tables.Changes (tables changed : Tables) (registers : Nat → Prop) : Prop where
  sound : changed.Sound
  nextItem : tables.nextItem ≤ changed.nextItem
  items
    : ∀ item,
        changed.items item = tables.items item
        ∨ changed.items item = none
        ∨ ∃ ctx dir,
            registers ctx
            ∧ item = tables.nextItem
            ∧ changed.items item = some { ctx, dir }

theorem Tables.Changes.refl {tables : Tables} (sound : tables.Sound) (registers : Nat → Prop)
    : tables.Changes tables registers :=
  ⟨sound, le_refl _, fun _ => Or.inl rfl⟩

theorem Tables.Closes.changes {tables closed : Tables} {ctx : Nat}
    (closes : tables.Closes closed ctx) (registers : Nat → Prop)
    : tables.Changes closed registers := by
  refine ⟨closes.sound, closes.nextItem.ge, ?_⟩
  intro item
  rcases closes.freed item with same | freed
  · exact Or.inl same
  · exact Or.inr (Or.inl freed)

theorem Tables.Sound.addIoCb_changes {tables : Tables} (sound : tables.Sound)
    {registers : Nat → Prop} {ctx : Nat} (registered : registers ctx) (fd dir : Nat)
    : tables.Changes (tables.addIoCb ctx fd dir) registers := by
  refine ⟨sound.addIoCb ctx fd dir, Nat.le_succ _, ?_⟩
  intro item
  simp only [Tables.addIoCb]
  by_cases new : item = tables.nextItem
  · exact Or.inr (Or.inr ⟨ctx, dir, registered, new, by simp [new]⟩)
  · exact Or.inl (by rw [Function.update_of_ne new])

theorem Tables.Changes.live {tables changed : Tables} {registers : Nat → Prop} {item : Nat}
    {waitItem : WaitItem} (changes : tables.Changes changed registers)
    (live : changed.items item = some waitItem)
    : tables.items item = some waitItem
      ∨ (registers waitItem.ctx ∧ item = tables.nextItem) := by
  rcases changes.items item with same | freed | ⟨ctx, dir, registered, new, added⟩
  · exact Or.inl (same.symm.trans live)
  · rw [freed] at live
    cases live
  · rw [added] at live
    cases live
    exact Or.inr ⟨registered, new⟩

theorem Tables.Sound.engineCancel_closes {tables : Tables} (sound : tables.Sound)
    (context : Context) (ctx : Nat) (err : GpgError)
    : tables.Closes (tables.engineCancel context ctx err) ctx := by
  unfold engineCancel
  split
  · exact (sound.closeAll ctx).1
  · exact ⟨sound, rfl, fun live _ => live, fun _ => Or.inl rfl⟩

theorem World.Done.frame {ctx : Nat} {err opErr : GpgError}
    (done : world.Done ctx err opErr event next)
    : next.ctxs = world.ctxs ∧ next.tables = world.tables ∧ next.loop = world.loop := by
  cases done <;> exact ⟨rfl, rfl, rfl⟩

theorem World.cancelWithErr_frame {ctx : Nat} {err opErr : GpgError}
    (canceled : world.cancelWithErr ctx err opErr = .ok (event, next))
    : next.ctxs = world.ctxs
      ∧ next.loop = world.loop
      ∧ (next.tables = world.tables
        ∨ next.tables = world.tables.engineCancel (world.ctxs ctx) ctx err) := by
  rcases cancelWithErr_cases canceled with ⟨_, _, rfl⟩ | ⟨_, done⟩
  · exact ⟨rfl, rfl, Or.inl rfl⟩
  · obtain ⟨ctxs, tables, loop⟩ := done.frame
    exact ⟨ctxs, loop, Or.inr tables⟩

/-- What a slot says about a registration. -/
def FdSlot.registration (slot : FdSlot) : Int × Option Nat := (slot.fd, slot.item)

theorem Tables.Sound.signal {tables : Tables} (sound : tables.Sound) {ctx : Nat}
    {fds : List FdSlot}
    (same : fds.map FdSlot.registration = (tables.fdt ctx).map FdSlot.registration)
    : Tables.Sound { tables with fdt := Function.update tables.fdt ctx fds } := by
  have held : heldItems fds = heldItems (tables.fdt ctx) := by
    have items : ∀ fds : List FdSlot,
        heldItems fds = (fds.map FdSlot.registration).filterMap Prod.snd := by
      intro fds
      rw [List.filterMap_map]
      rfl
    rw [items, items, same]
  have slots : ∀ slot ∈ fds, slot.fd = -1 ↔ slot.item = none := by
    intro slot member
    have registered : slot.registration ∈ (tables.fdt ctx).map FdSlot.registration :=
      same ▸ List.mem_map_of_mem member
    obtain ⟨copy, inTable, equal⟩ := List.mem_map.mp registered
    obtain ⟨sameFd, sameItem⟩ : copy.fd = slot.fd ∧ copy.item = slot.item := by
      simpa [FdSlot.registration] using equal
    rw [← sameFd, ← sameItem]
    exact sound.openSlot ctx copy inTable
  have table : ∀ other,
      heldItems (Function.update tables.fdt ctx fds other) = heldItems (tables.fdt other) := by
    intro other
    by_cases isCtx : other = ctx
    · subst isCtx
      rw [Function.update_self, held]
    · rw [Function.update_of_ne isCtx]
  constructor
  · intro other slot member
    by_cases isCtx : other = ctx
    · subst isCtx
      simp only [Function.update_self] at member
      exact slots slot member
    · simp only [Function.update_of_ne isCtx] at member
      exact sound.openSlot other slot member
  · intro other item member
    rw [table] at member
    exact sound.live other item member
  · intro item waitItem live
    rw [table]
    exact sound.present live
  · intro other
    rw [table]
    exact sound.unique other
  · exact sound.fresh

theorem markSignaled_registration (ready : List Nat) (fds : List FdSlot)
    : (markSignaled ready fds).map FdSlot.registration = fds.map FdSlot.registration := by
  unfold markSignaled
  apply List.ext_getElem?
  intro idx
  simp only [List.getElem?_map, List.getElem?_mapIdx, Option.map_map]
  congr 1
  funext slot
  simp only [Function.comp_apply]
  split <;> rfl

/-- The contexts whose engine can register descriptors. -/
def World.HasEngine (world : World) (ctx : Nat) : Prop := (world.ctxs ctx).events ≠ .noEngine

theorem World.Steps.changes (steps : world.Steps input event next) (sound : world.tables.Sound)
    : world.tables.Changes next.tables world.HasEngine := by
  cases steps with
  | nothing _ => exact .refl sound _
  | resets _ => exact .refl sound _
  | marks => exact .refl sound _
  | adds engine => exact sound.addIoCb_changes engine _ _
  | removes => exact (sound.removeIoCb_closes _ _).changes _
  | starts _ _ => exact .refl sound _
  | cancels cause canceled =>
      obtain ⟨_, _, same | closed⟩ := World.cancelWithErr_frame canceled
      · rw [same]
        exact .refl sound _
      · rw [closed]
        exact (sound.engineCancel_closes _ _ _).changes _
  | moves _ => exact .refl sound _
  | finishes _ done =>
      obtain ⟨_, tables, _⟩ := (World.raiseDone_done done).frame
      rw [tables]
      exact .refl sound _
  | returns _ _ => exact .refl sound _

theorem World.Steps.hasEngine (steps : world.Steps input event next) {ctx : Nat}
    (engine : world.HasEngine ctx)
    : next.HasEngine ctx := by
  unfold HasEngine at engine ⊢
  cases steps with
  | nothing _ => exact engine
  | @resets reset events new =>
      by_cases same : ctx = reset
      · simpa [same] using new
      · simpa [Function.update_of_ne same] using engine
  | @marks marked =>
      by_cases same : ctx = marked
      · subst same
        simpa using engine
      · simpa [Function.update_of_ne same] using engine
  | adds _ => exact engine
  | removes => exact engine
  | starts _ _ => exact engine
  | cancels cause canceled =>
      obtain ⟨ctxs, _, _⟩ := World.cancelWithErr_frame canceled
      rw [ctxs]
      exact engine
  | moves _ => exact engine
  | finishes _ done =>
      obtain ⟨ctxs, _, _⟩ := (World.raiseDone_done done).frame
      rw [ctxs]
      exact engine
  | returns _ _ => exact engine

/-- The tables are sound, and every live item belongs to a context with an engine. -/
structure World.Registered (world : World) : Prop where
  sound : world.tables.Sound
  engine : ∀ {item waitItem}, world.tables.items item = some waitItem → world.HasEngine waitItem.ctx

theorem World.Steps.registered (steps : world.Steps input event next)
    (registered : world.Registered)
    : next.Registered := by
  have changes := steps.changes registered.sound
  refine ⟨changes.sound, ?_⟩
  intro item waitItem live
  apply steps.hasEngine
  rcases changes.live live with before | ⟨engine, _⟩
  · exact registered.engine before
  · exact engine

/-- The state before the first call: no engine has registered a descriptor, no operation has
been started and the loop does not run.
-/
def World.initial (ctxs : Nat → Context) : World := { ctxs }

theorem World.initial_registered (ctxs : Nat → Context) : (World.initial ctxs).Registered :=
  ⟨Tables.sound_empty, by intro item waitItem live; cases live⟩

end Gpgme.Wait
