import Gpgme.Error
import Gpgme.Lib.DoublyLinkedList

/-! The active and the done list of the global event loop, after `wait-global.c`. -/

namespace Gpgme.Wait

open DoublyLinkedList

-----------------------------------------------------------------------------------------
-- The lists
-----------------------------------------------------------------------------------------

/-- What a `struct ctx_list_item` holds besides its links. -/
structure CtxStatus where
  ctx : Nat
  status : GpgError := 0
  opErr : GpgError := 0
deriving DecidableEq

/-- `ctx_active_list` and `ctx_done_list` with the heap of their items. An address is never
used again, so that it stands for one operation.
-/
structure CtxLists where
  heap : Heap CtxStatus := fun _ => none
  nextItem : Nat := 0
  active : Option Nat := none
  done : Option Nat := none

/-- What can go wrong: an access through a bad pointer, or the assertion of `ctx_done`. -/
inductive ListFault where
  | badPointer
  | notActive
deriving DecidableEq, Repr

/-- `ctx_active`, where the allocation succeeds. -/
def CtxLists.ctxActive (lists : CtxLists) (ctx : Nat) : Except ListFault (Nat × CtxLists) :=
  match pushFront lists.heap lists.active lists.nextItem { ctx } with
  | none => .error .badPointer
  | some heap =>
      .ok (lists.nextItem, { lists with
        heap
        nextItem := lists.nextItem + 1
        active := some lists.nextItem })

/-- Put an item that was taken out of the active list into the done list. -/
def CtxLists.putDone (lists : CtxLists) (addr : Nat) (entry : CtxStatus)
    : Except ListFault CtxLists :=
  match pushFront lists.heap lists.done addr entry with
  | none => .error .badPointer
  | some heap => .ok { lists with heap, done := some addr }

/-- `ctx_done`. -/
def CtxLists.ctxDone (lists : CtxLists) (ctx : Nat) (status opErr : GpgError)
    : Except ListFault (Nat × CtxLists) :=
  match search lists.heap (fun entry => entry.ctx == ctx) lists.nextItem lists.active with
  | none => .error .badPointer
  | some none => .error .notActive
  | some (some addr) =>
      match unlink lists.heap lists.active addr with
      | none => .error .badPointer
      | some (heap, active) =>
          match CtxLists.putDone { lists with heap, active } addr { ctx, status, opErr } with
          | .error fault => .error fault
          | .ok lists => .ok (addr, lists)

/-- Where `ctx_wait` looks: any finished context will do unless one is asked for. -/
def CtxLists.searchDone (lists : CtxLists) (ctx : Option Nat) : Option (Option Nat) :=
  match ctx with
  | none => some lists.done
  | some ctx => search lists.heap (fun entry => entry.ctx == ctx) lists.nextItem lists.done

/-- `ctx_wait`: the item that is taken out of the done list and freed, if there is one. -/
def CtxLists.ctxWait (lists : CtxLists) (ctx : Option Nat)
    : Except ListFault (Option (Nat × CtxStatus) × CtxLists) :=
  match lists.searchDone ctx with
  | none => .error .badPointer
  | some none => .ok (none, lists)
  | some (some addr) =>
      match lists.heap addr, unlink lists.heap lists.done addr with
      | some node, some (heap, done) =>
          .ok (some (addr, node.value), { lists with heap := Function.update heap addr none, done })
      | _, _ => .error .badPointer

-----------------------------------------------------------------------------------------
-- What the lists represent
-----------------------------------------------------------------------------------------

/-- The two lists are well formed, share no item and hold these entries in this order. -/
structure CtxLists.Represents (lists : CtxLists) (active done : List (Nat × CtxStatus)) : Prop where
  activeLinked : Linked lists.heap lists.active (active.map Prod.fst)
  doneLinked : Linked lists.heap lists.done (done.map Prod.fst)
  unique : ((active ++ done).map Prod.fst).Nodup
  values
    : ∀ entry ∈ active ++ done, (lists.heap entry.1).map Node.value = some entry.2
  bound : ∀ entry ∈ active ++ done, entry.1 < lists.nextItem

/-- Empty lists have no entries. -/
theorem CtxLists.represents_empty : CtxLists.Represents {} [] [] :=
  ⟨⟨none, rfl, rfl⟩, ⟨none, rfl, rfl⟩, by simp, by simp, by simp⟩

variable {lists : CtxLists} {active done : List (Nat × CtxStatus)}

namespace CtxLists.Represents

/-- The entries of both lists are different. -/
theorem separate (held : lists.Represents active done)
    : (active.map Prod.fst).Nodup
      ∧ (done.map Prod.fst).Nodup
      ∧ ∀ entry ∈ active, ∀ other ∈ done, entry.1 ≠ other.1 := by
  have unique := held.unique
  rw [List.map_append] at unique
  obtain ⟨uniqueActive, uniqueDone, apart⟩ := List.nodup_append.mp unique
  refine ⟨uniqueActive, uniqueDone, ?_⟩
  intro entry inActive other inDone
  exact apart _ (List.mem_map_of_mem inActive) _ (List.mem_map_of_mem inDone)

/-- A list of known entries is not longer than the number of items ever allocated. -/
theorem length_le {entries : List (Nat × CtxStatus)} (unique : (entries.map Prod.fst).Nodup)
    (bound : ∀ entry ∈ entries, entry.1 < lists.nextItem)
    : (entries.map Prod.fst).length ≤ lists.nextItem := by
  have included : entries.map Prod.fst ⊆ List.range lists.nextItem := by
    intro addr member
    obtain ⟨entry, inList, rfl⟩ := List.mem_map.mp member
    exact List.mem_range.mpr (bound entry inList)
  simpa using unique.length_le_of_subset included

/-- The search in one of the lists, seen from its entries. -/
theorem search_eq {head : Option Nat} {entries : List (Nat × CtxStatus)} {p : CtxStatus → Bool}
    (linked : Linked lists.heap head (entries.map Prod.fst))
    (unique : (entries.map Prod.fst).Nodup)
    (values : ∀ entry ∈ entries, (lists.heap entry.1).map Node.value = some entry.2)
    (bound : ∀ entry ∈ entries, entry.1 < lists.nextItem)
    : search lists.heap p lists.nextItem head
      = some ((entries.find? (fun entry => p entry.2)).map Prod.fst) := by
  obtain ⟨last, segment⟩ := linked
  rw [segment.search_eq (length_le unique bound), List.find?_map]
  refine congrArg (fun found => some (Option.map Prod.fst found)) ?_
  apply List.find?_congr
  intro entry member
  have value := values entry member
  simp only [Function.comp_apply]
  cases found : lists.heap entry.1 with
  | none => simp [found] at value
  | some node =>
      simp only [found, Option.map_some, Option.some.injEq] at value
      simp [value]

/-- A started operation comes to the front of the active list. -/
theorem ctxActive (held : lists.Represents active done) (ctx : Nat)
    : ∃ lists',
        lists.ctxActive ctx = .ok (lists.nextItem, lists')
        ∧ lists'.Represents ((lists.nextItem, { ctx }) :: active) done
        ∧ lists'.nextItem = lists.nextItem + 1 := by
  have fresh : ∀ entry ∈ active ++ done, entry.1 ≠ lists.nextItem :=
    fun entry member => Nat.ne_of_lt (held.bound entry member)
  obtain ⟨uniqueActive, uniqueDone, apart⟩ := held.separate
  have absent : lists.nextItem ∉ active.map Prod.fst := by
    intro member
    obtain ⟨entry, inActive, same⟩ := List.mem_map.mp member
    exact fresh entry (List.mem_append_left _ inActive) same
  obtain ⟨heap, pushed, linked, frame, values, value⟩ :=
    held.activeLinked.pushFront uniqueActive absent { ctx }
  refine ⟨{ lists with heap, nextItem := lists.nextItem + 1, active := some lists.nextItem }, ?_,
    ?_, rfl⟩
  · simp [CtxLists.ctxActive, pushed]
  · constructor
    · exact linked
    · refine held.doneLinked.congr ?_
      intro addr member
      obtain ⟨entry, inDone, rfl⟩ := List.mem_map.mp member
      apply frame
      intro found
      rcases List.mem_cons.mp found with same | found
      · exact fresh entry (List.mem_append_right _ inDone) same
      · obtain ⟨other, inActive, same⟩ := List.mem_map.mp found
        exact apart other inActive entry inDone same
    · refine List.nodup_cons.mpr ⟨?_, held.unique⟩
      intro member
      obtain ⟨entry, inLists, same⟩ := List.mem_map.mp member
      exact fresh entry inLists same
    · intro entry member
      rcases List.mem_cons.mp member with rfl | member
      · exact value
      · dsimp only
        rw [values entry.1 (fresh entry member), held.values entry member]
    · intro entry member
      rcases List.mem_cons.mp member with rfl | member
      · exact Nat.lt_succ_self _
      · exact Nat.lt_succ_of_lt (held.bound entry member)

/-- `ctx_done` of an active context moves its first entry to the front of the done list. -/
theorem ctxDone (held : lists.Represents active done) {ctx : Nat}
    (isActive : ∃ entry ∈ active, entry.2.ctx = ctx) (status opErr : GpgError)
    : ∃ front addr entry behind lists',
        active = front ++ (addr, entry) :: behind
        ∧ entry.ctx = ctx
        ∧ lists.ctxDone ctx status opErr = .ok (addr, lists')
        ∧ lists'.Represents (front ++ behind) ((addr, { ctx, status, opErr }) :: done)
        ∧ lists'.nextItem = lists.nextItem := by
  obtain ⟨uniqueActive, uniqueDone, apart⟩ := held.separate
  have searched := search_eq (p := fun entry => entry.ctx == ctx) held.activeLinked uniqueActive
    (fun entry member => held.values entry (List.mem_append_left _ member))
    (fun entry member => held.bound entry (List.mem_append_left _ member))
  obtain ⟨⟨addr, entry⟩, found⟩ : ∃ entry, active.find? (fun entry => entry.2.ctx == ctx)
      = some entry := by
    obtain ⟨entry, member, same⟩ := isActive
    rw [← Option.isSome_iff_exists, List.find?_isSome]
    exact ⟨entry, member, by simpa using same⟩
  rw [found] at searched
  obtain ⟨isCtx, front, behind, rfl, -⟩ := List.find?_eq_some_iff_append.mp found
  have linked := held.activeLinked
  rw [List.map_append, List.map_cons] at linked uniqueActive
  obtain ⟨heap₁, active₁, unlinked, linked₁, frame₁, values₁⟩ := linked.unlink uniqueActive
  rw [← List.map_append] at linked₁ frame₁
  have middle : ∀ {other : Nat × CtxStatus}, other ∈ front ++ behind
      → other ∈ front ++ (addr, entry) :: behind := by
    intro other member
    rcases List.mem_append.mp member with member | member
    · exact List.mem_append_left _ member
    · exact List.mem_append_right _ (List.mem_cons_of_mem _ member)
  have addrApart : addr ∉ (front ++ behind).map Prod.fst := by
    have unique := List.perm_middle.nodup_iff.mp uniqueActive
    rw [← List.map_append] at unique
    exact (List.nodup_cons.mp unique).1
  have doneApart : ∀ other ∈ done, other.1 ∉ (front ++ behind).map Prod.fst := by
    intro other inDone member
    obtain ⟨otherActive, inActive, same⟩ := List.mem_map.mp member
    exact apart otherActive (middle inActive) other inDone same
  have addrDone : addr ∉ done.map Prod.fst := by
    intro member
    obtain ⟨other, inDone, same⟩ := List.mem_map.mp member
    exact apart (addr, entry) (by simp) other inDone same.symm
  have doneLinked₁ : Linked heap₁ lists.done (done.map Prod.fst) := by
    refine held.doneLinked.congr ?_
    intro other member
    obtain ⟨otherDone, inDone, rfl⟩ := List.mem_map.mp member
    exact frame₁ _ (doneApart otherDone inDone)
  obtain ⟨heap₂, pushed, doneLinked₂, frame₂, values₂, value₂⟩ :=
    doneLinked₁.pushFront uniqueDone addrDone { ctx, status, opErr }
  refine ⟨front, addr, entry, behind,
    { lists with heap := heap₂, active := active₁, done := some addr }, rfl,
    by simpa using isCtx, ?_, ?_, rfl⟩
  · simp [CtxLists.ctxDone, searched, unlinked, CtxLists.putDone, pushed]
  · constructor
    · refine linked₁.congr ?_
      intro other member
      apply frame₂
      intro found
      rcases List.mem_cons.mp found with rfl | found
      · exact addrApart member
      · obtain ⟨otherDone, inDone, rfl⟩ := List.mem_map.mp found
        exact doneApart otherDone inDone member
    · exact doneLinked₂
    · have unique := held.unique
      simp only [List.map_append, List.map_cons, List.append_assoc, List.cons_append] at unique ⊢
      rw [← List.append_assoc]
      apply List.perm_middle.nodup_iff.mpr
      rw [List.append_assoc]
      exact List.perm_middle.nodup_iff.mp unique
    · intro other member
      rcases List.mem_append.mp member with inActive | inDone
      · have different : other.1 ≠ addr := fun same =>
          addrApart (List.mem_map.mpr ⟨other, inActive, same⟩)
        dsimp only
        rw [values₂ other.1 different, values₁]
        exact held.values other (List.mem_append_left _ (middle inActive))
      · rcases List.mem_cons.mp inDone with rfl | inDone
        · exact value₂
        · have different : other.1 ≠ addr := fun same =>
            addrDone (List.mem_map.mpr ⟨other, inDone, same⟩)
          dsimp only
          rw [values₂ other.1 different, values₁]
          exact held.values other (List.mem_append_right _ inDone)
    · intro other member
      rcases List.mem_append.mp member with inActive | inDone
      · exact held.bound other (List.mem_append_left _ (middle inActive))
      · rcases List.mem_cons.mp inDone with rfl | inDone
        · exact held.bound (addr, entry) (by simp)
        · exact held.bound other (List.mem_append_right _ inDone)

/-- `ctx_wait` finds an entry of the done list for the context and frees its item, or there
is none.
-/
theorem ctxWait (held : lists.Represents active done) (ctx : Option Nat)
    : (lists.ctxWait ctx = .ok (none, lists)
        ∧ ∀ entry ∈ done, ∀ asked, ctx = some asked → entry.2.ctx ≠ asked)
      ∨ ∃ front addr entry behind lists',
          done = front ++ (addr, entry) :: behind
          ∧ (∀ asked, ctx = some asked → entry.ctx = asked)
          ∧ lists.ctxWait ctx = .ok (some (addr, entry), lists')
          ∧ lists'.Represents active (front ++ behind)
          ∧ lists'.nextItem = lists.nextItem := by
  obtain ⟨uniqueActive, uniqueDone, apart⟩ := held.separate
  have searched : lists.searchDone ctx
      = some ((done.find? (fun entry => ctx.all (entry.2.ctx == ·))).map Prod.fst) := by
    cases ctx with
    | none =>
        simp only [CtxLists.searchDone, held.doneLinked.head_eq, Option.all_none]
        cases done <;> rfl
    | some asked =>
        exact search_eq (p := fun entry => entry.ctx == asked) held.doneLinked uniqueDone
          (fun entry member => held.values entry (List.mem_append_right _ member))
          (fun entry member => held.bound entry (List.mem_append_right _ member))
  cases found : done.find? (fun entry => ctx.all (entry.2.ctx == ·)) with
  | none =>
      rw [found] at searched
      refine Or.inl ⟨by simp [CtxLists.ctxWait, searched], ?_⟩
      intro entry member asked isCtx same
      have mismatch := List.find?_eq_none.mp found entry member
      simp [isCtx, same] at mismatch
  | some pair =>
      obtain ⟨addr, entry⟩ := pair
      rw [found] at searched
      obtain ⟨isCtx, front, behind, rfl, -⟩ := List.find?_eq_some_iff_append.mp found
      have linked := held.doneLinked
      rw [List.map_append, List.map_cons] at linked uniqueDone
      obtain ⟨heap₁, done₁, unlinked, linked₁, frame₁, values₁⟩ := linked.unlink uniqueDone
      rw [← List.map_append] at linked₁ frame₁
      have addrApart : addr ∉ (front ++ behind).map Prod.fst := by
        have unique := List.perm_middle.nodup_iff.mp uniqueDone
        rw [← List.map_append] at unique
        exact (List.nodup_cons.mp unique).1
      have middle : ∀ {other : Nat × CtxStatus}, other ∈ front ++ behind
          → other ∈ front ++ (addr, entry) :: behind := by
        intro other member
        exact List.perm_middle.mem_iff.mpr (List.mem_cons_of_mem _ member)
      have activeApart : ∀ other ∈ active,
          other.1 ≠ addr ∧ other.1 ∉ (front ++ behind).map Prod.fst := by
        intro other inActive
        refine ⟨apart other inActive (addr, entry) (by simp), ?_⟩
        intro member
        obtain ⟨otherDone, inDone, same⟩ := List.mem_map.mp member
        exact apart other inActive otherDone (middle inDone) same.symm
      have value := held.values (addr, entry) (by simp)
      obtain ⟨node, here, isEntry⟩ := Option.map_eq_some_iff.mp value
      refine Or.inr ⟨front, addr, entry, behind,
        { lists with heap := Function.update heap₁ addr none, done := done₁ }, rfl, ?_, ?_, ?_, rfl⟩
      · intro asked isAsked
        simpa [isAsked] using isCtx
      · simp only at here isEntry
        simp [CtxLists.ctxWait, searched, here, unlinked, isEntry]
      · constructor
        · refine held.activeLinked.congr ?_
          intro other member
          obtain ⟨otherActive, inActive, rfl⟩ := List.mem_map.mp member
          obtain ⟨different, outside⟩ := activeApart otherActive inActive
          simp only [Function.update_of_ne different]
          exact frame₁ _ outside
        · refine linked₁.congr ?_
          intro other member
          have different : other ≠ addr := fun same => addrApart (same ▸ member)
          simp only [Function.update_of_ne different]
        · have unique := held.unique
          simp only [List.map_append, List.map_cons] at unique ⊢
          rw [← List.append_assoc] at unique ⊢
          exact (List.nodup_cons.mp (List.perm_middle.nodup_iff.mp unique)).2
        · intro other member
          have known : other ∈ active ++ (front ++ (addr, entry) :: behind) := by
            rcases List.mem_append.mp member with inActive | inDone
            · exact List.mem_append_left _ inActive
            · exact List.mem_append_right _ (middle inDone)
          have different : other.1 ≠ addr := by
            rcases List.mem_append.mp member with inActive | inDone
            · exact (activeApart other inActive).1
            · exact fun same => addrApart (List.mem_map.mpr ⟨other, inDone, same⟩)
          simp only [Function.update_of_ne different]
          rw [values₁, held.values other known]
        · intro other member
          rcases List.mem_append.mp member with inActive | inDone
          · exact held.bound other (List.mem_append_left _ inActive)
          · exact held.bound other (List.mem_append_right _ (middle inDone))

end CtxLists.Represents

end Gpgme.Wait
