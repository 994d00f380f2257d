import Gpgme.Lib.CInt
import Gpgme.Lib.SlotTable
import Gpgme.Wait.FdTable

/-! The tags of a context's file descriptor table, where every allocation may fail. -/

namespace Gpgme.Wait

open SlotTable

-----------------------------------------------------------------------------------------
-- The functions
-----------------------------------------------------------------------------------------

/-- The fields of `struct wait_item_s` for a table with one context. -/
structure IoItem where
  dir : Int
  handler : Nat
  value : Nat
deriving DecidableEq

/-- A context's table with the tags and the items that are allocated. A tag holds an index, as an
`int`.
-/
structure TagTable where
  fdt : List FdSlot := []
  tags : Nat → Option Int := fun _ => none
  items : Nat → Option IoItem := fun _ => none
  nextAlloc : Nat := 0

/-- Which allocations of a call succeed. A larger table comes with anything in its new entries. -/
structure Allocations where
  tag : Bool
  item : Bool
  table : Option (Fin fdtAllocsize → FdSlot)

def isFree (slot : FdSlot) : Bool := slot.fd == -1

/-- The table that `fd_table_put` leaves, and the number of the slot that it has used. -/
def fdTablePutSlot (fdt : List FdSlot) (slot : FdSlot)
    (newFds : Option (Fin fdtAllocsize → FdSlot))
    : Option (List FdSlot × Nat) :=
  if fdt.any isFree then some (put isFree [] slot fdt)
  else
    newFds.map fun entries =>
      put isFree (List.ofFn fun j => { entries j with fd := -1 }) slot fdt

/-- `fd_table_put`, with the index that it stores: the number becomes an `int`. -/
def fdTablePutIdx (fdt : List FdSlot) (slot : FdSlot)
    (newFds : Option (Fin fdtAllocsize → FdSlot))
    : Option (List FdSlot × Int) :=
  (fdTablePutSlot fdt slot newFds).map fun (fdt, i) => (fdt, CInt.toInt i)

/-- The slot of a registration. -/
def ioSlot (fd dir : Int) (item : Nat) : FdSlot where
  fd := fd
  forRead := dir == 1
  forWrite := dir == 0
  signaled := false
  item := some item

/-- `_gpgme_add_io_cb`: the tag where it succeeds. -/
def TagTable.addIoCb (s : TagTable) (fd dir : Int) (fnc fncData : Nat) (alloc : Allocations)
    : Option Nat × TagTable :=
  if !alloc.tag then (none, s)
  else
    let tag := s.nextAlloc
    if !alloc.item then (none, { s with nextAlloc := tag + 1 })
    else
      let item := tag + 1
      match fdTablePutIdx s.fdt (ioSlot fd dir item) alloc.table with
      | none => (none, { s with nextAlloc := item + 1 })
      | some (fdt, idx) =>
          (some tag,
            {
              fdt
              tags := Function.update s.tags tag (some idx)
              items
                := Function.update s.items item (some { dir, handler := fnc, value := fncData })
              nextAlloc := item + 1
            })

/-- `_gpgme_remove_io_cb`. There is no result where the tag is not allocated or its index is not in
the table.
-/
def TagTable.removeIoCb (s : TagTable) (tag : Nat) : Option TagTable := do
  let idx ← s.tags tag
  guard (0 ≤ idx)
  let slot ← s.fdt[idx.toNat]?
  some
    { s with
      fdt := s.fdt.set idx.toNat slot.cleared
      tags := Function.update s.tags tag none
      items :=
        match slot.item with
        | none => s.items
        | some item => Function.update s.items item none }

-----------------------------------------------------------------------------------------
-- Runs
-----------------------------------------------------------------------------------------

/-- What was registered under a tag. -/
structure Registration where
  fd : Int
  dir : Int
  fnc : Nat
  fncData : Nat

/-- What a call did. -/
inductive TagEvent where
  | added (tag : Nat) (registration : Registration)
  | failed
  | removed (tag : Nat)

/-- The registration of a tag that has not been removed; the last event comes first. -/
def liveRegistration : List TagEvent → Nat → Option Registration
  | [], _ => none
  | .added added registration :: earlier, tag =>
      if added = tag then some registration else liveRegistration earlier tag
  | .failed :: earlier, tag => liveRegistration earlier tag
  | .removed removed :: earlier, tag =>
      if removed = tag then none else liveRegistration earlier tag

/-- The tags that have not been removed. -/
def liveTags : List TagEvent → List Nat
  | [] => []
  | .added tag _ :: earlier => tag :: liveTags earlier
  | .failed :: earlier => liveTags earlier
  | .removed tag :: earlier => (liveTags earlier).filter (· != tag)

/-- Whenever a tag was added, the number of the others was one that an `int` counts to. -/
def FewTags : List TagEvent → Prop
  | [] => True
  | .added _ _ :: earlier => (liveTags earlier).length < 2 ^ 31 ∧ FewTags earlier
  | .failed :: earlier => FewTags earlier
  | .removed _ :: earlier => FewTags earlier

/-- The calls on a context's table, in any order. Descriptors are not negative, and a tag is removed
once at most.
-/
inductive TagRun : List TagEvent → TagTable → Prop where
  | start : TagRun [] {}
  | add {history s fd dir fnc fncData tag s'} (alloc : Allocations) (run : TagRun history s)
    (valid : 0 ≤ fd) (added : s.addIoCb fd dir fnc fncData alloc = (some tag, s'))
    : TagRun (.added tag ⟨fd, dir, fnc, fncData⟩ :: history) s'
  | fail {history s fd dir fnc fncData s'} (alloc : Allocations) (run : TagRun history s)
    (valid : 0 ≤ fd) (failed : s.addIoCb fd dir fnc fncData alloc = (none, s'))
    : TagRun (.failed :: history) s'
  | remove {history s tag s'} (run : TagRun history s)
    (live : (liveRegistration history tag).isSome) (removed : s.removeIoCb tag = some s')
    : TagRun (.removed tag :: history) s'

/-- The slot and the item are the ones of the registration. -/
structure Registration.HeldBy (registration : Registration) (s : TagTable) (slot : FdSlot)
    : Prop where
  fd : slot.fd = registration.fd
  forRead : slot.forRead = (registration.dir == 1)
  forWrite : slot.forWrite = (registration.dir == 0)
  item : ∃ item, slot.item = some item
    ∧ s.items item = some ⟨registration.dir, registration.fnc, registration.fncData⟩

-----------------------------------------------------------------------------------------
-- The invariant
-----------------------------------------------------------------------------------------

variable {history : List TagEvent} {s s' : TagTable}

/-- The slot of a live tag, whose item was allocated right behind the tag. -/
def HoldsTag (history : List TagEvent) (s : TagTable) (tag : Nat) (slot : FdSlot) : Prop :=
  ∃ registration, liveRegistration history tag = some registration
    ∧ slot = ioSlot registration.fd registration.dir (tag + 1)
    ∧ s.items (tag + 1) = some ⟨registration.dir, registration.fnc, registration.fncData⟩

/-- Where the tags point. -/
def TagTable.places (s : TagTable) (tag : Nat) : Option Nat := (s.tags tag).map Int.toNat

structure TagTable.Sound (history : List TagEvent) (s : TagTable) : Prop where
  owned : Owned isFree s.fdt s.places (HoldsTag history s)
  nonneg : ∀ tag idx, s.tags tag = some idx → 0 ≤ idx
  present
    : ∀ tag registration,
        liveRegistration history tag = some registration → ∃ idx, s.places tag = some idx
  fresh : ∀ tag idx, s.places tag = some idx → tag + 1 < s.nextAlloc

/-- A live tag is listed. -/
theorem mem_liveTags {tag : Nat} (live : (liveRegistration history tag).isSome)
    : tag ∈ liveTags history := by
  induction history with
  | nil => cases live
  | cons event earlier ih =>
      cases event with
      | added other registration =>
          rw [liveRegistration] at live
          rw [liveTags, List.mem_cons]
          by_cases own : other = tag
          · exact .inl own.symm
          · rw [if_neg own] at live
            exact .inr (ih live)
      | failed => exact ih live
      | removed other =>
          rw [liveRegistration] at live
          by_cases own : other = tag
          · rw [if_pos own] at live
            cases live
          · rw [if_neg own] at live
            rw [liveTags, List.mem_filter]
            exact ⟨ih live, by simpa using Ne.symm own⟩

/-- The place of a tag is its index. -/
theorem TagTable.places_tags {tag idx : Nat} (sound : s.Sound history)
    (placed : s.places tag = some idx)
    : s.tags tag = some (idx : Int) := by
  obtain ⟨index, here, rfl⟩ := Option.map_eq_some_iff.mp placed
  rw [here, Int.toNat_of_nonneg (sound.nonneg tag index here)]

/-- A new tag has its place. -/
theorem TagTable.places_update {tag idx : Nat}
    (tags : s'.tags = Function.update s.tags tag (some (idx : Int)))
    : s'.places = Function.update s.places tag (some idx) := by
  funext other
  unfold TagTable.places
  rw [tags]
  by_cases own : other = tag
  · subst own
    simp
  · simp [own]

/-- A removed tag has no place. -/
theorem TagTable.places_remove {tag : Nat} (tags : s'.tags = Function.update s.tags tag none)
    : s'.places = Function.update s.places tag none := by
  funext other
  unfold TagTable.places
  rw [tags]
  by_cases own : other = tag
  · subst own
    simp
  · simp [own]

/-- An entry of the table, whether it grows or not. The slots in front of it are used. -/
theorem fdTablePutSlot_put {fdt fdt' : List FdSlot} {slot : FdSlot}
    {newFds : Option (Fin fdtAllocsize → FdSlot)} {i : Nat}
    (stored : fdTablePutSlot fdt slot newFds = some (fdt', i))
    : Put isFree slot fdt fdt' i
      ∧ ∀ j < i, ∃ old, fdt[j]? = some old ∧ isFree old = false := by
  unfold fdTablePutSlot at stored
  split at stored
  · next some =>
      have spec : Put isFree slot fdt (put isFree [] slot fdt).1 (put isFree [] slot fdt).2 :=
        put_spec (.inl some)
      have before (j : Nat) (less : j < (put isFree [] slot fdt).2) := put_before less
      rw [Option.some.inj stored] at spec before
      exact ⟨spec, before⟩
  · obtain ⟨entries, -, same⟩ := Option.map_eq_some_iff.mp stored
    let extra := List.ofFn fun j => { entries j with fd := -1 }
    have spec
        : Put isFree slot fdt (put isFree extra slot fdt).1 (put isFree extra slot fdt).2 :=
      put_spec (.inr ⟨by simp [extra, fdtAllocsize], by simp [extra, isFree, List.mem_ofFn]⟩)
    have before (j : Nat) (less : j < (put isFree extra slot fdt).2) := put_before less
    rw [same] at spec before
    exact ⟨spec, before⟩

/-- What a call of `_gpgme_add_io_cb` does. -/
theorem TagTable.addIoCb_cases {fd dir : Int} {fnc fncData : Nat} {alloc : Allocations}
    {result : Option Nat} (added : s.addIoCb fd dir fnc fncData alloc = (result, s'))
    : (result = none ∧ s'.fdt = s.fdt ∧ s'.tags = s.tags ∧ s'.items = s.items
        ∧ s.nextAlloc ≤ s'.nextAlloc)
      ∨ ∃ i, result = some s.nextAlloc
          ∧ Put isFree (ioSlot fd dir (s.nextAlloc + 1)) s.fdt s'.fdt i
          ∧ (∀ j < i, ∃ old, s.fdt[j]? = some old ∧ isFree old = false)
          ∧ s'.tags = Function.update s.tags s.nextAlloc (some (CInt.toInt i))
          ∧ s'.items = Function.update s.items (s.nextAlloc + 1) (some ⟨dir, fnc, fncData⟩)
          ∧ s'.nextAlloc = s.nextAlloc + 2 := by
  unfold TagTable.addIoCb at added
  split at added
  · cases added
    exact .inl ⟨rfl, rfl, rfl, rfl, le_rfl⟩
  · dsimp only at added
    split at added
    · cases added
      exact .inl ⟨rfl, rfl, rfl, rfl, Nat.le_succ _⟩
    · split at added
      · cases added
        exact .inl ⟨rfl, rfl, rfl, rfl, Nat.le_add_right _ 2⟩
      · next fdt idx stored =>
          obtain ⟨⟨fdt, i⟩, slot, same⟩ := Option.map_eq_some_iff.mp stored
          obtain ⟨put, before⟩ := fdTablePutSlot_put slot
          cases same
          cases added
          exact .inr ⟨i, rfl, put, before, rfl, rfl, rfl⟩

/-- A slot behind used ones has a number that an `int` counts to, if there are few tags. -/
theorem TagTable.Sound.index_lt {i : Nat} (sound : s.Sound history)
    (few : (liveTags history).length < 2 ^ 31)
    (before : ∀ j < i, ∃ old, s.fdt[j]? = some old ∧ isFree old = false)
    : CInt.toInt i = i := by
  have within : i ≤ (liveTags history).length := by
    refine sound.owned.index_le (fun tag j placed => ?_) before
    obtain ⟨_, -, -, registration, live, -⟩ := sound.owned.held tag j placed
    exact mem_liveTags (by rw [live]; rfl)
  exact CInt.toInt_of_range (by omega) (by omega)

/-- A failed call changes nothing that matters. -/
theorem TagTable.Sound.fail (sound : s.Sound history) (fdt : s'.fdt = s.fdt)
    (tags : s'.tags = s.tags) (items : s'.items = s.items) (grows : s.nextAlloc ≤ s'.nextAlloc)
    : s'.Sound (.failed :: history) := by
  obtain ⟨owned, nonneg, present, fresh⟩ := sound
  have places : s'.places = s.places := by
    unfold TagTable.places
    rw [tags]
  constructor
  · rw [fdt, places]
    refine owned.mono fun tag idx slot _ holds => ?_
    obtain ⟨registration, live, same, item⟩ := holds
    exact ⟨registration, live, same, items ▸ item⟩
  · rw [tags]
    exact nonneg
  · rw [places]
    exact present
  · intro tag idx placed
    rw [places] at placed
    exact (fresh tag idx placed).trans_le grows

/-- An addition keeps the table sound. -/
theorem TagTable.Sound.add {fd dir : Int} {fnc fncData i : Nat} (sound : s.Sound history)
    (valid : 0 ≤ fd) (put : Put isFree (ioSlot fd dir (s.nextAlloc + 1)) s.fdt s'.fdt i)
    (tags : s'.tags = Function.update s.tags s.nextAlloc (some (i : Int)))
    (items : s'.items = Function.update s.items (s.nextAlloc + 1) (some ⟨dir, fnc, fncData⟩))
    (grows : s'.nextAlloc = s.nextAlloc + 2)
    : s'.Sound (.added s.nextAlloc ⟨fd, dir, fnc, fncData⟩ :: history) := by
  obtain ⟨owned, nonneg, present, fresh⟩ := sound
  have places := TagTable.places_update tags
  have absent : s.places s.nextAlloc = none := by
    by_contra some
    obtain ⟨idx', placed⟩ := Option.ne_none_iff_exists'.mp some
    have below := fresh _ idx' placed
    omega
  have used : isFree (ioSlot fd dir (s.nextAlloc + 1)) = false := by
    simp only [isFree, ioSlot, beq_eq_false_iff_ne]
    omega
  constructor
  · rw [places]
    refine Owned.put ?_ put absent used ?_
    · refine owned.mono fun tag idx slot placed holds => ?_
      obtain ⟨registration, live, same, item⟩ := holds
      have below := fresh tag idx placed
      refine ⟨registration, ?_, same, ?_⟩
      · rw [liveRegistration, if_neg (by omega), live]
      · rw [items, Function.update_of_ne (by omega), item]
    · refine ⟨⟨fd, dir, fnc, fncData⟩, by rw [liveRegistration, if_pos rfl], rfl, ?_⟩
      rw [items, Function.update_self]
  · intro tag idx placed
    rw [tags] at placed
    by_cases own : tag = s.nextAlloc
    · rw [own, Function.update_self] at placed
      cases placed
      exact Int.natCast_nonneg i
    · rw [Function.update_of_ne own] at placed
      exact nonneg tag idx placed
  · intro tag registration live
    rw [places]
    by_cases own : tag = s.nextAlloc
    · exact ⟨i, by rw [own, Function.update_self]⟩
    · rw [liveRegistration, if_neg (Ne.symm own)] at live
      rw [Function.update_of_ne own]
      exact present tag registration live
  · intro tag idx' placed
    rw [places] at placed
    by_cases own : tag = s.nextAlloc
    · omega
    · rw [Function.update_of_ne own] at placed
      have below := fresh tag idx' placed
      omega

/-- The tag of a live registration can be removed: its slot becomes free and its item is freed. -/
theorem TagTable.Sound.removeIoCb {tag : Nat} (sound : s.Sound history)
    (live : (liveRegistration history tag).isSome)
    : ∃ (idx : Nat) (slot : FdSlot), s.places tag = some idx
        ∧ s.removeIoCb tag
          = some { s with
              fdt := s.fdt.set idx slot.cleared
              tags := Function.update s.tags tag none
              items := Function.update s.items (tag + 1) none } := by
  obtain ⟨registration, live⟩ := Option.isSome_iff_exists.mp live
  obtain ⟨idx, placed⟩ := sound.present tag registration live
  obtain ⟨slot, here, -, _, _, same, -⟩ := sound.owned.held tag idx placed
  refine ⟨idx, slot, placed, ?_⟩
  simp only [TagTable.removeIoCb, TagTable.places_tags sound placed, Option.bind_eq_bind,
    Option.bind_some, guard, Int.natCast_nonneg, if_true, Int.toNat_natCast, here, same]
  rfl

/-- A removal keeps the table sound. -/
theorem TagTable.Sound.remove {tag : Nat} (sound : s.Sound history)
    (live : (liveRegistration history tag).isSome) (removed : s.removeIoCb tag = some s')
    : s'.Sound (.removed tag :: history) := by
  obtain ⟨idx, slot, placed, run⟩ := sound.removeIoCb live
  have tags : s'.tags = Function.update s.tags tag none := by
    rw [run] at removed
    exact congrArg TagTable.tags (Option.some.inj removed).symm
  have places := TagTable.places_remove tags
  rw [run] at removed
  cases removed
  obtain ⟨owned, nonneg, present, fresh⟩ := sound
  have other : ∀ {other idx}, Function.update s.places tag none other = some idx →
      other ≠ tag ∧ s.places other = some idx := by
    intro other idx placed
    by_cases own : other = tag
    · rw [own, Function.update_self] at placed
      cases placed
    · rw [Function.update_of_ne own] at placed
      exact ⟨own, placed⟩
  constructor
  · have unused : isFree slot.cleared = true := rfl
    have released := owned.release placed unused
    rw [places]
    refine released.mono fun tag' idx slot placed holds => ?_
    obtain ⟨different, -⟩ := other placed
    obtain ⟨registration, live, same, item⟩ := holds
    refine ⟨registration, ?_, same, ?_⟩
    · rw [liveRegistration, if_neg (Ne.symm different), live]
    · change Function.update s.items (tag + 1) none (tag' + 1) = _
      rw [Function.update_of_ne (by omega), item]
  · intro tag' idx placed
    change Function.update s.tags tag none tag' = some idx at placed
    by_cases own : tag' = tag
    · rw [own, Function.update_self] at placed
      cases placed
    · rw [Function.update_of_ne own] at placed
      exact nonneg tag' idx placed
  · intro tag' registration live
    rw [places]
    rw [liveRegistration] at live
    by_cases own : tag = tag'
    · rw [if_pos own] at live
      cases live
    · rw [if_neg own] at live
      rw [Function.update_of_ne (Ne.symm own)]
      exact present tag' registration live
  · intro tag' idx placed
    rw [places] at placed
    exact fresh tag' idx (other placed).2

/-- The invariant holds after every run in which there were never too many tags, by induction on
it.
-/
theorem TagRun.sound (run : TagRun history s) (few : FewTags history) : s.Sound history := by
  induction run with
  | start => exact ⟨owned_empty _, nofun, nofun, nofun⟩
  | add alloc run valid added ih =>
      rcases TagTable.addIoCb_cases added with
        ⟨none, -⟩ | ⟨i, some, put, before, tags, items, grows⟩
      · cases none
      · cases some
        have sound := ih few.2
        rw [sound.index_lt few.1 before] at tags
        exact sound.add valid put tags items grows
  | fail alloc run valid failed ih =>
      rcases TagTable.addIoCb_cases failed with ⟨-, fdt, tags, items, grows⟩ | ⟨i, some, -⟩
      · exact (ih few).fail fdt tags items grows
      · cases some
  | remove run live removed ih => exact (ih few).remove live removed

-----------------------------------------------------------------------------------------
-- What the table keeps
-----------------------------------------------------------------------------------------

/-- The index of every live tag denotes a slot with its registration. -/
theorem TagTable.Sound.heldBy (sound : s.Sound history) {tag : Nat} {registration : Registration}
    (live : liveRegistration history tag = some registration)
    : ∃ (idx : Nat) (slot : FdSlot), s.tags tag = some (idx : Int) ∧ s.fdt[idx]? = some slot
        ∧ registration.HeldBy s slot := by
  obtain ⟨idx, placed⟩ := sound.present tag registration live
  obtain ⟨slot, here, -, other, live', rfl, item⟩ := sound.owned.held tag idx placed
  obtain rfl := Option.some.inj (live.symm.trans live')
  exact ⟨idx, _, TagTable.places_tags sound placed, here, rfl, rfl, rfl, tag + 1, rfl, item⟩

/-- Two tags do not have the same index. -/
theorem TagTable.Sound.apart (sound : s.Sound history) {tag other : Nat} {idx : Int}
    (first : s.tags tag = some idx) (second : s.tags other = some idx)
    : tag = other := by
  refine sound.owned.apart tag other idx.toNat ?_ ?_
  · rw [TagTable.places, first]
    rfl
  · rw [TagTable.places, second]
    rfl

/-- A call that adds a registration leaves all slots but its own alone, and one that fails leaves
the whole table alone.
-/
def AddKeepsSlots (history : List TagEvent) (s : TagTable) (result : Option Nat × TagTable)
    : Prop :=
  match result with
  | (none, s') => s'.fdt = s.fdt ∧ s'.tags = s.tags
  | (some tag, s') =>
      liveRegistration history tag = none
      ∧ ∃ idx : Nat, s'.tags = Function.update s.tags tag (some (idx : Int))
          ∧ ∀ i old, i ≠ idx → s.fdt[i]? = some old → s'.fdt[i]? = some old

/-- Additions keep the other slots while there are fewer than 2^31 live tags. -/
theorem TagTable.Sound.addKeepsSlots (sound : s.Sound history)
    (few : (liveTags history).length < 2 ^ 31) (fd dir : Int) (fnc fncData : Nat)
    (alloc : Allocations)
    : AddKeepsSlots history s (s.addIoCb fd dir fnc fncData alloc) := by
  cases added : s.addIoCb fd dir fnc fncData alloc with
  | mk result s' =>
      rcases TagTable.addIoCb_cases added with
        ⟨rfl, fdt, tags, -⟩ | ⟨i, rfl, put, before, tags, -⟩
      · exact ⟨fdt, tags⟩
      · rw [sound.index_lt few before] at tags
        refine ⟨?_, i, tags, put.kept⟩
        by_contra live
        obtain ⟨registration, live⟩ := Option.ne_none_iff_exists'.mp live
        obtain ⟨idx', placed⟩ := sound.present _ registration live
        have below := sound.fresh _ idx' placed
        omega

/-- A call that removes a live tag is defined, and leaves all slots but its own alone. -/
theorem TagTable.Sound.removeKeepsSlots (sound : s.Sound history) {tag : Nat}
    (live : (liveRegistration history tag).isSome)
    : ∃ (idx : Nat) (s' : TagTable), s.tags tag = some (idx : Int) ∧ s.removeIoCb tag = some s'
        ∧ ∀ i, i ≠ idx → s'.fdt[i]? = s.fdt[i]? := by
  obtain ⟨idx, slot, placed, removed⟩ := sound.removeIoCb live
  exact ⟨idx, _, TagTable.places_tags sound placed, removed,
    fun i different => List.getElem?_set_ne (Ne.symm different)⟩

-----------------------------------------------------------------------------------------
-- Additions one after the other
-----------------------------------------------------------------------------------------

/-- Everything that is asked for is allocated. -/
def allThere : Allocations := ⟨true, true, some fun _ => {}⟩

/-- What a call adds then. -/
theorem TagTable.addIoCb_there (s : TagTable) (fd dir : Int) (fnc fncData : Nat)
    : (s.addIoCb fd dir fnc fncData allThere).1 = some s.nextAlloc := by
  have stored (slot : FdSlot)
      : ∃ fdt idx, fdTablePutIdx s.fdt slot allThere.table = some (fdt, idx) := by
    unfold fdTablePutIdx fdTablePutSlot
    split <;> exact ⟨_, _, rfl⟩
  obtain ⟨fdt, idx, stored⟩ := stored (ioSlot fd dir (s.nextAlloc + 1))
  unfold TagTable.addIoCb
  simp only [allThere, Bool.not_true, Bool.false_eq_true, if_false] at stored ⊢
  rw [stored]

/-- The state behind it. -/
def TagTable.adding (s : TagTable) (registration : Registration) : TagTable :=
  (s.addIoCb registration.fd registration.dir registration.fnc registration.fncData allThere).2

/-- An addition that succeeds goes on with the run. -/
theorem TagRun.adds (run : TagRun history s) {registration : Registration}
    (valid : 0 ≤ registration.fd)
    : TagRun (.added s.nextAlloc registration :: history) (s.adding registration) :=
  .add allThere run valid (Prod.ext (s.addIoCb_there _ _ _ _) rfl)

/-- The first slots of the table are used, and the others are free. -/
def FilledTo (n : Nat) (fdt : List FdSlot) : Prop :=
  ∀ i slot, fdt[i]? = some slot → (isFree slot = false ↔ i < n)

/-- Without a removal the slots are used one after the other. -/
theorem TagTable.adding_filled {n : Nat} (filled : FilledTo n s.fdt) (inside : n ≤ s.fdt.length)
    {registration : Registration} (valid : 0 ≤ registration.fd)
    : FilledTo (n + 1) (s.adding registration).fdt
      ∧ n + 1 ≤ (s.adding registration).fdt.length
      ∧ (s.adding registration).tags s.nextAlloc = some (CInt.toInt n) := by
  have added := s.addIoCb_there registration.fd registration.dir registration.fnc
    registration.fncData
  rcases TagTable.addIoCb_cases (Prod.ext added rfl) with
    ⟨none, -⟩ | ⟨i, -, put, before, tags, -⟩
  · cases none
  change Put isFree _ s.fdt (s.adding registration).fdt i at put
  have number : i = n := by
    by_contra other
    rcases Nat.lt_or_gt_of_ne other with less | more
    · obtain ⟨old, here⟩ : ∃ old, s.fdt[i]? = some old :=
        ⟨_, List.getElem?_eq_getElem (less.trans_le inside)⟩
      have used := (filled i old here).mpr less
      exact Bool.false_ne_true (used.symm.trans (put.unused old here))
    · obtain ⟨old, here, used⟩ := before n more
      exact Nat.lt_irrefl n ((filled n old here).mp used)
  subst number
  have slotUsed
      : isFree (ioSlot registration.fd registration.dir (s.nextAlloc + 1)) = false := by
    simp only [isFree, ioSlot, beq_eq_false_iff_ne]
    omega
  refine ⟨?_, (List.getElem?_eq_some_iff.mp put.entry).1, ?_⟩
  · intro j slot here
    by_cases own : j = i
    · subst own
      rw [put.entry] at here
      cases here
      exact ⟨fun _ => Nat.lt_succ_self j, fun _ => slotUsed⟩
    · by_cases early : j < i
      · obtain ⟨old, there⟩ : ∃ old, s.fdt[j]? = some old :=
          ⟨_, List.getElem?_eq_getElem (early.trans_le inside)⟩
        have kept := put.kept j old own there
        rw [kept] at here
        cases here
        exact ⟨fun _ => by omega, fun _ => (filled j _ there).mpr early⟩
      · have free : isFree slot = true := by
          rcases put.others j slot own here with there | unused
          · by_contra used
            exact early ((filled j slot there).mp (by simpa using used))
          · exact unused
        exact ⟨fun used => absurd (used.symm.trans free) Bool.false_ne_true, fun less => by omega⟩
  · change ((s.addIoCb _ _ _ _ allThere).2).tags s.nextAlloc = _
    rw [tags, Function.update_self]

/-- So many tags can be added. -/
theorem exists_filled (n : Nat)
    : ∃ history s, TagRun history s ∧ FilledTo n s.fdt ∧ n ≤ s.fdt.length := by
  induction n with
  | zero =>
      refine ⟨[], {}, .start, ?_, Nat.le_refl 0⟩
      intro i slot here
      cases here
  | succ n ih =>
      obtain ⟨history, s, run, filled, inside⟩ := ih
      have valid : 0 ≤ (⟨5, 1, 7, 8⟩ : Registration).fd := by decide
      obtain ⟨filled, inside, -⟩ := TagTable.adding_filled filled inside valid
      exact ⟨_, _, run.adds valid, filled, inside⟩

end Gpgme.Wait
