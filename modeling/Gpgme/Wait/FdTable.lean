import Mathlib.Tactic

/-! The file descriptor tables of the contexts and their wait items, after `wait.c`.
A wait item is known by a number that is never used again, so that a pointer to an item that
was freed can be told from a pointer to a live one.
-/

namespace Gpgme.Wait

-----------------------------------------------------------------------------------------
-- Tables
-----------------------------------------------------------------------------------------

/-- `struct io_select_fd_s`; `item` is the opaque pointer to the wait item. -/
structure FdSlot where
  fd : Int := -1
  forRead : Bool := false
  forWrite : Bool := false
  signaled : Bool := false
  item : Option Nat := none
deriving DecidableEq, Repr

/-- `struct wait_item_s`; what its handler does is left to the environment. -/
structure WaitItem where
  ctx : Nat
  dir : Nat
deriving DecidableEq, Repr

/-- The `fdt` of every context, and the wait items that are allocated. -/
structure Tables where
  fdt : Nat → List FdSlot := fun _ => []
  items : Nat → Option WaitItem := fun _ => none
  nextItem : Nat := 0

/-- `FDT_ALLOCSIZE`. -/
def fdtAllocsize : Nat := 10

/-- `fd_table_put`: the first free slot is used; a full table grows. -/
def fdTablePut (fdt : List FdSlot) (slot : FdSlot) : List FdSlot :=
  match fdt.findIdx? (fun slot => slot.fd == -1) with
  | some idx => fdt.set idx slot
  | none => fdt ++ slot :: List.replicate (fdtAllocsize - 1) {}

/-- `_gpgme_add_io_cb`, where its allocations succeed. -/
def Tables.addIoCb (tables : Tables) (ctx fd dir : Nat) : Tables :=
  let item := tables.nextItem
  let slot : FdSlot := {
    fd, forRead := dir == 1, forWrite := dir == 0, signaled := false, item := some item }
  { fdt := Function.update tables.fdt ctx (fdTablePut (tables.fdt ctx) slot)
    items := Function.update tables.items item (some { ctx, dir })
    nextItem := item + 1 }

/-- The slot of a registration that has been removed; whether it was signalled stays. -/
def FdSlot.cleared (slot : FdSlot) : FdSlot :=
  { slot with fd := -1, forRead := false, forWrite := false, item := none }

/-- `_gpgme_remove_io_cb` for the tag of a slot. A tag is used once, so that a slot without
a registration has none.
-/
def Tables.removeIoCb (tables : Tables) (ctx idx : Nat) : Tables :=
  match (tables.fdt ctx)[idx]? with
  | none => tables
  | some slot =>
      match slot.item with
      | none => tables
      | some item =>
          { tables with
            fdt := Function.update tables.fdt ctx ((tables.fdt ctx).set idx slot.cleared)
            items := Function.update tables.items item none }

/-- What an engine does when it is canceled: it closes all its file descriptors, and the
close notification removes the registration of each.
-/
def Tables.closeAll (tables : Tables) (ctx : Nat) : Tables :=
  (List.range (tables.fdt ctx).length).foldl (fun tables idx => tables.removeIoCb ctx idx) tables

-----------------------------------------------------------------------------------------
-- The invariant
-----------------------------------------------------------------------------------------

/-- The wait items that the slots of a table point to. -/
def heldItems (fdt : List FdSlot) : List Nat := fdt.filterMap FdSlot.item

/-- The live wait items are exactly the ones in the table of their context, and each is
there once.
-/
structure Tables.Sound (tables : Tables) : Prop where
  openSlot : ∀ ctx, ∀ slot ∈ tables.fdt ctx, slot.fd = -1 ↔ slot.item = none
  live
    : ∀ ctx, ∀ item ∈ heldItems (tables.fdt ctx),
        ∃ waitItem, tables.items item = some waitItem ∧ waitItem.ctx = ctx
  present
    : ∀ {item waitItem},
        tables.items item = some waitItem → item ∈ heldItems (tables.fdt waitItem.ctx)
  unique : ∀ ctx, (heldItems (tables.fdt ctx)).Nodup
  fresh : ∀ {item waitItem}, tables.items item = some waitItem → item < tables.nextItem

theorem Tables.sound_empty : ({} : Tables).Sound := by
  constructor <;> simp [heldItems]

theorem set_split {fdt : List FdSlot} {idx : Nat} {slot : FdSlot} (found : fdt[idx]? = some slot)
    (new : FdSlot)
    : ∃ front behind, fdt = front ++ slot :: behind ∧ fdt.set idx new = front ++ new :: behind := by
  obtain ⟨inside, rfl⟩ := List.getElem?_eq_some_iff.mp found
  refine ⟨fdt.take idx, fdt.drop (idx + 1), ?_, ?_⟩
  · rw [← List.drop_eq_getElem_cons inside, List.take_append_drop]
  · rw [List.set_eq_take_append_cons_drop, if_pos inside]

theorem heldItems_append (front behind : List FdSlot)
    : heldItems (front ++ behind) = heldItems front ++ heldItems behind :=
  List.filterMap_append

theorem heldItems_cons (slot : FdSlot) (behind : List FdSlot)
    : heldItems (slot :: behind) = slot.item.toList ++ heldItems behind := by
  unfold heldItems
  cases held : slot.item with
  | none => simp [held]
  | some item => simp [held]

theorem fdTablePut_split {fdt : List FdSlot} (slot : FdSlot)
    (openSlot : ∀ slot ∈ fdt, slot.fd = -1 ↔ slot.item = none)
    : ∃ front behind,
        heldItems fdt = front ++ behind
        ∧ heldItems (fdTablePut fdt slot) = front ++ slot.item.toList ++ behind
        ∧ (∀ other ∈ fdTablePut fdt slot, other = slot ∨ other = {} ∨ other ∈ fdt) := by
  unfold fdTablePut
  split
  · next idx free =>
      obtain ⟨inside, isFree, _⟩ := List.findIdx?_eq_some_iff_getElem.mp free
      obtain ⟨front, behind, whole, changed⟩ := set_split (List.getElem?_eq_getElem inside) slot
      have noItem : fdt[idx].item = none :=
        (openSlot _ (List.getElem_mem inside)).mp (by simpa using isFree)
      refine ⟨heldItems front, heldItems behind, ?_, ?_, ?_⟩
      · conv_lhs => rw [whole]
        simp [heldItems_append, heldItems_cons, noItem]
      · rw [changed]
        simp [heldItems_append, heldItems_cons]
      · intro other member
        rcases List.mem_or_eq_of_mem_set member with member | same
        · exact Or.inr (Or.inr member)
        · exact Or.inl same
  · refine ⟨heldItems fdt, [], by simp, ?_, ?_⟩
    · have padding : heldItems (List.replicate (fdtAllocsize - 1) {}) = [] := by decide
      simp [heldItems_append, heldItems_cons, padding]
    · intro other member
      rcases List.mem_append.mp member with member | member
      · exact Or.inr (Or.inr member)
      · rcases List.mem_cons.mp member with same | member
        · exact Or.inl same
        · exact Or.inr (Or.inl (List.eq_of_mem_replicate member))

-----------------------------------------------------------------------------------------
-- The operations keep the invariant
-----------------------------------------------------------------------------------------

variable {tables : Tables}

theorem Tables.Sound.addIoCb (sound : tables.Sound) (ctx fd dir : Nat)
    : (tables.addIoCb ctx fd dir).Sound := by
  obtain ⟨front, behind, before, after, slots⟩ := fdTablePut_split
    { fd, forRead := dir == 1, forWrite := dir == 0, signaled := false,
      item := some tables.nextItem } (sound.openSlot ctx)
  have unused : tables.nextItem ∉ front ++ behind := by
    intro member
    rw [← before] at member
    obtain ⟨_, live, _⟩ := sound.live ctx tables.nextItem member
    exact absurd (sound.fresh live) (lt_irrefl _)
  constructor
  · intro other slot member
    by_cases same : other = ctx
    · subst same
      simp only [Tables.addIoCb, Function.update_self] at member
      rcases slots slot member with rfl | rfl | member
      · simp
      · simp
      · exact sound.openSlot other slot member
    · simp only [Tables.addIoCb, Function.update_of_ne same] at member
      exact sound.openSlot other slot member
  · intro other item member
    by_cases same : other = ctx
    · subst same
      simp only [Tables.addIoCb, Function.update_self] at member ⊢
      rw [after] at member
      by_cases new : item = tables.nextItem
      · exact ⟨{ ctx := other, dir }, by simp [new], rfl⟩
      · rw [Function.update_of_ne new]
        apply sound.live other item
        rw [before]
        simp only [Option.toList_some, List.append_assoc, List.mem_append, List.mem_singleton,
          new, false_or] at member ⊢
        exact member
    · simp only [Tables.addIoCb, Function.update_of_ne same] at member ⊢
      obtain ⟨waitItem, live, owner⟩ := sound.live other item member
      have old : item ≠ tables.nextItem := Nat.ne_of_lt (sound.fresh live)
      exact ⟨waitItem, by rw [Function.update_of_ne old, live], owner⟩
  · intro item waitItem live
    simp only [Tables.addIoCb] at live ⊢
    by_cases new : item = tables.nextItem
    · subst new
      simp only [Function.update_self, Option.some.injEq] at live
      subst live
      rw [Function.update_self, after]
      simp
    · rw [Function.update_of_ne new] at live
      have member := sound.present live
      by_cases same : waitItem.ctx = ctx
      · rw [same, before] at member
        rw [same, Function.update_self, after]
        simp only [Option.toList_some, List.append_assoc, List.mem_append, List.mem_singleton]
          at member ⊢
        exact member.imp_right Or.inr
      · rwa [Function.update_of_ne same]
  · intro other
    by_cases same : other = ctx
    · subst same
      have unique := sound.unique other
      rw [before] at unique
      simp only [Tables.addIoCb, Function.update_self]
      rw [after]
      have inserted : (tables.nextItem :: (front ++ behind)).Nodup :=
        List.nodup_cons.mpr ⟨unused, unique⟩
      refine (List.Perm.nodup_iff ?_).mpr inserted
      simp
    · simp only [Tables.addIoCb, Function.update_of_ne same]
      exact sound.unique other
  · intro item waitItem live
    simp only [Tables.addIoCb] at live ⊢
    by_cases new : item = tables.nextItem
    · omega
    · rw [Function.update_of_ne new] at live
      exact Nat.lt_succ_of_lt (sound.fresh live)

theorem Tables.removeIoCb_cases (tables : Tables) (ctx idx : Nat)
    : tables.removeIoCb ctx idx = tables
      ∨ ∃ slot item,
          (tables.fdt ctx)[idx]? = some slot
          ∧ slot.item = some item
          ∧ tables.removeIoCb ctx idx
            = { tables with
                fdt := Function.update tables.fdt ctx ((tables.fdt ctx).set idx slot.cleared)
                items := Function.update tables.items item none } := by
  unfold removeIoCb
  split
  · exact Or.inl rfl
  · next slot found =>
      split
      · exact Or.inl rfl
      · next item held => exact Or.inr ⟨slot, item, found, held, rfl⟩

theorem Tables.Sound.removeIoCb (sound : tables.Sound) (ctx idx : Nat)
    : (tables.removeIoCb ctx idx).Sound := by
  rcases tables.removeIoCb_cases ctx idx with same | ⟨slot, item, found, held, removed⟩
  · rwa [same]
  rw [removed]
  obtain ⟨front, behind, whole, changed⟩ := set_split found slot.cleared
  have before : heldItems (tables.fdt ctx) = heldItems front ++ item :: heldItems behind := by
    rw [whole]
    simp [heldItems_append, heldItems_cons, held]
  have after : heldItems ((tables.fdt ctx).set idx slot.cleared)
      = heldItems front ++ heldItems behind := by
    rw [changed]
    simp [heldItems_append, heldItems_cons, FdSlot.cleared]
  have unique := sound.unique ctx
  rw [before] at unique
  obtain ⟨gone, rest⟩ := List.nodup_cons.mp (List.perm_middle.nodup_iff.mp unique)
  obtain ⟨waitItem, live, owner⟩ := sound.live ctx item (by rw [before]; simp)
  constructor
  · intro other slot' member
    by_cases same : other = ctx
    · subst same
      simp only [Function.update_self] at member
      rcases List.mem_or_eq_of_mem_set member with member | same
      · exact sound.openSlot other slot' member
      · simp [same, FdSlot.cleared]
    · simp only [Function.update_of_ne same] at member
      exact sound.openSlot other slot' member
  · intro other item' member
    by_cases same : other = ctx
    · subst same
      simp only [Function.update_self] at member ⊢
      rw [after] at member
      have different : item' ≠ item := fun same => gone (same ▸ member)
      rw [Function.update_of_ne different]
      apply sound.live other item'
      rw [before]
      exact List.perm_middle.mem_iff.mpr (List.mem_cons_of_mem item member)
    · simp only [Function.update_of_ne same] at member ⊢
      obtain ⟨waitItem', live', owner'⟩ := sound.live other item' member
      have different : item' ≠ item := by
        intro equal
        rw [equal, live] at live'
        cases live'
        exact same (owner'.symm.trans owner)
      exact ⟨waitItem', by rw [Function.update_of_ne different, live'], owner'⟩
  · intro item' waitItem' live'
    by_cases equal : item' = item
    · subst equal
      simp at live'
    · simp only [Function.update_of_ne equal] at live' ⊢
      have member := sound.present live'
      by_cases same : waitItem'.ctx = ctx
      · rw [same, before] at member
        rw [same, Function.update_self, after]
        rcases List.mem_cons.mp (List.perm_middle.mem_iff.mp member) with equal' | member
        · exact absurd equal' equal
        · exact member
      · rwa [Function.update_of_ne same]
  · intro other
    by_cases same : other = ctx
    · subst same
      simp only [Function.update_self]
      rwa [after]
    · simp only [Function.update_of_ne same]
      exact sound.unique other
  · intro item' waitItem' live'
    by_cases equal : item' = item
    · subst equal
      simp at live'
    · simp only [Function.update_of_ne equal] at live'
      exact sound.fresh live'

theorem Tables.removeIoCb_items (tables : Tables) (ctx idx item : Nat)
    : (tables.removeIoCb ctx idx).items item = tables.items item
      ∨ ((tables.removeIoCb ctx idx).items item = none
        ∧ ∃ slot, (tables.fdt ctx)[idx]? = some slot ∧ slot.item = some item) := by
  rcases tables.removeIoCb_cases ctx idx with same | ⟨slot, removedItem, found, held, removed⟩
  · exact Or.inl (by rw [same])
  · rw [removed]
    by_cases equal : item = removedItem
    · subst equal
      exact Or.inr ⟨by simp, slot, found, held⟩
    · exact Or.inl (by simp [Function.update_of_ne equal])

theorem Tables.removeIoCb_nextItem (tables : Tables) (ctx idx : Nat)
    : (tables.removeIoCb ctx idx).nextItem = tables.nextItem := by
  rcases tables.removeIoCb_cases ctx idx with same | ⟨_, _, _, _, removed⟩
  · rw [same]
  · rw [removed]

-----------------------------------------------------------------------------------------
-- Closing all file descriptors of a context
-----------------------------------------------------------------------------------------

theorem Tables.removeIoCb_slot {ctx idx other : Nat} {slot : FdSlot}
    (found : ((tables.removeIoCb ctx idx).fdt ctx)[other]? = some slot)
    : (other ≠ idx ∧ (tables.fdt ctx)[other]? = some slot) ∨ (other = idx ∧ slot.item = none) := by
  unfold removeIoCb at found
  by_cases same : other = idx
  · subst same
    refine Or.inr ⟨rfl, ?_⟩
    split at found
    · next absent =>
        rw [absent] at found
        cases found
    · next current here =>
        split at found
        · next empty =>
            rw [here] at found
            cases found
            exact empty
        · have inside := (List.getElem?_eq_some_iff.mp here).1
          simp only [Function.update_self, List.getElem?_set_self inside, Option.some.injEq]
            at found
          subst found
          rfl
  · refine Or.inl ⟨same, ?_⟩
    split at found
    · exact found
    · split at found
      · exact found
      · simpa [List.getElem?_set_ne (Ne.symm same)] using found

/-- What closing all descriptors of a context keeps and what it takes away. -/
structure Tables.Closes (tables closed : Tables) (ctx : Nat) : Prop where
  sound : closed.Sound
  nextItem : closed.nextItem = tables.nextItem
  others
    : ∀ {item waitItem},
        tables.items item = some waitItem → waitItem.ctx ≠ ctx → closed.items item = some waitItem
  freed : ∀ item, closed.items item = tables.items item ∨ closed.items item = none

theorem Tables.Sound.removeIoCb_closes (sound : tables.Sound) (ctx idx : Nat)
    : tables.Closes (tables.removeIoCb ctx idx) ctx := by
  refine ⟨sound.removeIoCb ctx idx, tables.removeIoCb_nextItem ctx idx, ?_, ?_⟩
  · intro item waitItem live foreign
    rcases tables.removeIoCb_items ctx idx item with same | ⟨_, slot, found, held⟩
    · rw [same, live]
    · have member : item ∈ heldItems (tables.fdt ctx) :=
        List.mem_filterMap.mpr ⟨slot, List.mem_of_getElem? found, held⟩
      obtain ⟨waitItem', live', owner⟩ := sound.live ctx item member
      rw [live] at live'
      cases live'
      exact absurd owner foreign
  · intro item
    rcases tables.removeIoCb_items ctx idx item with same | ⟨freed, _⟩
    · exact Or.inl same
    · exact Or.inr freed

theorem Tables.Closes.trans {middle closed : Tables} {ctx : Nat}
    (first : tables.Closes middle ctx) (second : middle.Closes closed ctx)
    : tables.Closes closed ctx := by
  refine ⟨second.sound, second.nextItem.trans first.nextItem, ?_, ?_⟩
  · intro item waitItem live foreign
    exact second.others (first.others live foreign) foreign
  · intro item
    rcases second.freed item with same | freed
    · rw [same]
      exact first.freed item
    · exact Or.inr freed

theorem Tables.Sound.closeFirst (sound : tables.Sound) (ctx slots : Nat)
    : tables.Closes
        ((List.range slots).foldl (fun tables idx => tables.removeIoCb ctx idx) tables) ctx
      ∧ ∀ idx < slots, ∀ slot,
          (((List.range slots).foldl (fun tables idx => tables.removeIoCb ctx idx) tables).fdt
            ctx)[idx]? = some slot
          → slot.item = none := by
  induction slots with
  | zero => exact ⟨⟨sound, rfl, fun live _ => live, fun _ => Or.inl rfl⟩, by simp⟩
  | succ slots ih =>
      obtain ⟨closes, empty⟩ := ih
      rw [List.range_succ, List.foldl_append]
      refine ⟨closes.trans (closes.sound.removeIoCb_closes ctx slots), ?_⟩
      intro idx inside slot found
      rcases Tables.removeIoCb_slot found with ⟨different, before⟩ | ⟨_, none⟩
      · exact empty idx (by omega) slot before
      · exact none

theorem Tables.removeIoCb_length (tables : Tables) (ctx idx : Nat)
    : ((tables.removeIoCb ctx idx).fdt ctx).length = (tables.fdt ctx).length := by
  rcases tables.removeIoCb_cases ctx idx with same | ⟨_, _, _, _, removed⟩
  · rw [same]
  · rw [removed]
    simp

theorem Tables.Sound.closeAll (sound : tables.Sound) (ctx : Nat)
    : tables.Closes (tables.closeAll ctx) ctx
      ∧ ∀ {item waitItem}, (tables.closeAll ctx).items item = some waitItem → waitItem.ctx ≠ ctx := by
  obtain ⟨closes, empty⟩ := sound.closeFirst ctx (tables.fdt ctx).length
  refine ⟨closes, ?_⟩
  intro item waitItem live owner
  have member := closes.sound.present live
  rw [owner] at member
  obtain ⟨slot, inTable, held⟩ := List.mem_filterMap.mp member
  obtain ⟨idx, found⟩ := List.getElem?_of_mem inTable
  have length : ∀ slots,
      (((List.range slots).foldl (fun tables idx => tables.removeIoCb ctx idx) tables).fdt
        ctx).length = (tables.fdt ctx).length := by
    intro slots
    induction slots with
    | zero => rfl
    | succ slots ih =>
        rw [List.range_succ, List.foldl_append]
        exact (Tables.removeIoCb_length _ _ _).trans ih
  have inside := (List.getElem?_eq_some_iff.mp found).1
  rw [length] at inside
  rw [empty idx inside slot found] at held
  cases held

end Gpgme.Wait
