import Gpgme.EngineGpg.Lifecycle

/-! Who holds the descriptors of the gpg engine: every open pipe end is in exactly one field, and
the live tags are those next to the fields with a registered descriptor.
-/

namespace Gpgme.Lifecycle

open PipeEnds (Holds)

-----------------------------------------------------------------------------------------
-- The fields of the engine
-----------------------------------------------------------------------------------------

/-- The engine with an empty field. -/
def Gpg.clear (gpg : Gpg) : Slot → Gpg
  | .statusRead => { gpg with statusRead := none }
  | .statusWrite => { gpg with statusWrite := none }
  | .colonRead => { gpg with colonRead := none }
  | .colonWrite => { gpg with colonWrite := none }
  | .cmd => { gpg with cmd := { gpg.cmd with fd := none } }
  | .map s => gpg.modifyMap fun entries => setMapSlot entries none s

/-- What the engine registers for a field. -/
def Gpg.cb (gpg : Gpg) (s : Slot) (fd : Nat) : IoCb Handler :=
  match s with
  | .statusRead => { fd := some fd, dir := 1, handler := .status }
  | .colonRead => { fd := some fd, dir := 1, handler := .colon }
  | .map (.fd i) =>
      if gpg.cmd.used ∧ gpg.cmd.idx = some i then { fd := some fd, dir := 0, handler := .command }
      else { fd := some fd, dir := (gpg.inbound i).toNat, handler := .data }
  | .statusWrite | .colonWrite | .cmd | .map (.peer _) =>
      { fd := some fd, dir := 0, handler := .data }

/-- The parts of the engine that no close changes. -/
structure Gpg.Alike (gpg next : Gpg) : Prop where
  used : next.cmd.used = gpg.cmd.used
  idx : next.cmd.idx = gpg.cmd.idx
  code : next.cmd.code = gpg.cmd.code
  keyword : next.cmd.keyword = gpg.cmd.keyword
  colonFnc : next.colonFnc = gpg.colonFnc

variable {gpg next : Gpg} {s other : Slot} {fd : Nat}

theorem Gpg.Alike.refl (gpg : Gpg) : gpg.Alike gpg := ⟨rfl, rfl, rfl, rfl, rfl⟩

theorem Gpg.Alike.trans {last : Gpg} (first : gpg.Alike next) (second : next.Alike last)
    : gpg.Alike last :=
  ⟨second.used.trans first.used, second.idx.trans first.idx, second.code.trans first.code,
    second.keyword.trans first.keyword, second.colonFnc.trans first.colonFnc⟩

theorem Gpg.entries_modifyMap {change : List PipeEntry → List PipeEntry} (empty : change [] = [])
    : (gpg.modifyMap change).fdDataMap.entries = change gpg.fdDataMap.entries := by
  unfold modifyMap
  cases map : gpg.fdDataMap with
  | table entries => rfl
  | null => simp [map, MapPointer.entries, empty]
  | freed => simp [map, MapPointer.entries, empty]

theorem Gpg.modifyMap_frame {change : List PipeEntry → List PipeEntry}
    : (gpg.modifyMap change)
      = { gpg with fdDataMap := (gpg.modifyMap change).fdDataMap } := by
  rcases gpg with ⟨_, _, _, _, _, _, _, map, _⟩
  cases map <;> rfl

theorem setMapSlot_nil (value : Option Nat) (m : MapSlot) : setMapSlot [] value m = [] := by
  cases m <;> simp [setMapSlot]

theorem Gpg.slot_modifyMap {change : List PipeEntry → List PipeEntry} (empty : change [] = [])
    : (gpg.modifyMap change).slot s
      = match s with
        | .map m => mapSlot (change gpg.fdDataMap.entries) m
        | _ => gpg.slot s := by
  cases s with
  | map m => simp only [slot, entries_modifyMap empty]
  | _ => rw [modifyMap_frame]; rfl

theorem Gpg.tagOf_modifyMap {change : List PipeEntry → List PipeEntry} (empty : change [] = [])
    : (gpg.modifyMap change).tagOf s
      = match s with
        | .map m => mapTag (change gpg.fdDataMap.entries) m
        | _ => gpg.tagOf s := by
  cases s with
  | map m => simp only [tagOf, entries_modifyMap empty]
  | _ => rw [modifyMap_frame]; rfl

theorem Gpg.slot_clear : (gpg.clear s).slot = Function.update gpg.slot s none := by
  funext other
  rw [Function.update_apply]
  cases s with
  | map m =>
      rw [clear, slot_modifyMap (setMapSlot_nil _ _)]
      cases other with
      | map m' =>
          dsimp only
          rw [mapSlot_set (Or.inr rfl), Function.update_apply]
          simp [slot]
      | _ => simp
  | _ => cases other <;> simp [clear, slot]

theorem Gpg.tagOf_clear : (gpg.clear s).tagOf = gpg.tagOf := by
  funext other
  cases s with
  | map m =>
      rw [clear, tagOf_modifyMap (setMapSlot_nil _ _)]
      cases other with
      | map m' => simp only [tagOf, mapTag_set]
      | _ => rfl
  | _ => cases other <;> rfl

theorem Gpg.alike_clear : gpg.Alike (gpg.clear s) := by
  cases s with
  | map m =>
      rw [clear, modifyMap_frame]
      exact ⟨rfl, rfl, rfl, rfl, rfl⟩
  | _ => exact ⟨rfl, rfl, rfl, rfl, rfl⟩

theorem inbound_setMapSlot {entries : List PipeEntry} {value : Option Nat} {m : MapSlot} {i : Nat}
    : (setMapSlot entries value m)[i]?.any PipeEntry.inbound
      = entries[i]?.any PipeEntry.inbound := by
  cases m <;> exact inbound_modify (fun _ => rfl)

theorem Gpg.inbound_clear (i : Nat) : (gpg.clear s).inbound i = gpg.inbound i := by
  cases s with
  | map m =>
      unfold inbound
      rw [clear, entries_modifyMap (setMapSlot_nil _ _), inbound_setMapSlot]
  | _ => rfl

theorem Gpg.cb_congr (alike : gpg.Alike next) (inbound : ∀ i, next.inbound i = gpg.inbound i)
    : next.cb = gpg.cb := by
  funext s fd
  unfold cb
  rw [alike.used, alike.idx]
  cases s with
  | map m => cases m <;> simp [inbound]
  | _ => rfl

theorem Gpg.length_clear
    : (gpg.clear s).fdDataMap.entries.length = gpg.fdDataMap.entries.length := by
  cases s with
  | map m => rw [clear, entries_modifyMap (setMapSlot_nil _ _), length_setMapSlot]
  | _ => rfl

theorem Gpg.pointer_modifyMap {change : List PipeEntry → List PipeEntry}
    (pointer : gpg.fdDataMap ≠ .freed)
    : (gpg.modifyMap change).fdDataMap ≠ .freed := by
  unfold modifyMap
  cases map : gpg.fdDataMap with
  | null => simp [map]
  | freed => exact (pointer map).elim
  | table entries => simp

theorem Gpg.pointer_clear (pointer : gpg.fdDataMap ≠ .freed)
    : (gpg.clear s).fdDataMap ≠ .freed := by
  cases s with
  | map m => exact pointer_modifyMap pointer
  | _ => exact pointer

-----------------------------------------------------------------------------------------
-- A close
-----------------------------------------------------------------------------------------

/-- Every open end is in one field or lost, and the notifications find the engine intact. -/
structure World.Kept (lost : Set Nat) (w : World) : Prop where
  holds : w.ends.Holds w.gpg.slot lost
  notified : ∀ s fd, w.gpg.slot s = some fd → w.notify fd = true
  pointer : w.gpg.fdDataMap ≠ .freed
  use : w.danglingUse = false
  parked : w.gpg.cmd.fd ≠ none → w.gpg.cmd.used = true

/-- The live tags are those next to the fields with a registered descriptor. -/
def World.Paired (w : World) : Prop := w.io.Paired w.gpg.slot w.gpg.tagOf w.gpg.cb

/-- What no close changes. -/
structure World.Closes (w next : World) : Prop where
  alike : w.gpg.Alike next.gpg
  inbound : ∀ i, next.gpg.inbound i = w.gpg.inbound i
  length : next.gpg.fdDataMap.entries.length = w.gpg.fdDataMap.entries.length
  tagOf : next.gpg.tagOf = w.gpg.tagOf
  user : next.io.user = w.io.user
  waiting : next.waiting = w.waiting
  asked : next.asked = w.asked
  calls : next.calls = w.calls
  cleared : ∀ s, next.gpg.slot s = w.gpg.slot s ∨ next.gpg.slot s = none
  ends : w.ends.Fewer next.ends
  paired : w.Paired → next.Paired

variable {w : World} {lost : Set Nat}

theorem World.Closes.refl (w : World) : w.Closes w where
  alike := .refl w.gpg
  inbound _ := rfl
  length := rfl
  tagOf := rfl
  user := rfl
  waiting := rfl
  asked := rfl
  calls := rfl
  cleared _ := Or.inl rfl
  ends := .refl w.ends
  paired := id

theorem World.Closes.trans {next last : World} (first : w.Closes next) (second : next.Closes last)
    : w.Closes last where
  alike := first.alike.trans second.alike
  inbound i := (second.inbound i).trans (first.inbound i)
  length := second.length.trans first.length
  tagOf := second.tagOf.trans first.tagOf
  user := second.user.trans first.user
  waiting := second.waiting.trans first.waiting
  asked := second.asked.trans first.asked
  calls := second.calls.trans first.calls
  cleared s := by
    rcases second.cleared s with same | empty
    · rw [same]
      exact first.cleared s
    · exact Or.inr empty
  ends := first.ends.trans second.ends
  paired holds := second.paired (first.paired holds)

theorem World.closeNotifyHandler_eq (held : w.gpg.slot s = some fd)
    (only : ∀ place, w.gpg.slot place = some fd → place = s)
    (pointer : w.gpg.fdDataMap ≠ .freed)
    : w.closeNotifyHandler fd = { w.removeTag (w.gpg.tagOf s) with gpg := w.gpg.clear s } := by
  have here (place : Slot) : w.gpg.slot place = some fd ↔ s = place := by
    constructor
    · intro found
      exact (only place found).symm
    · intro same
      rw [← same, held]
  have statusRead : w.gpg.statusRead = some fd ↔ s = .statusRead := here .statusRead
  have statusWrite : w.gpg.statusWrite = some fd ↔ s = .statusWrite := here .statusWrite
  have colonRead : w.gpg.colonRead = some fd ↔ s = .colonRead := here .colonRead
  have colonWrite : w.gpg.colonWrite = some fd ↔ s = .colonWrite := here .colonWrite
  have cmd : w.gpg.cmd.fd = some fd ↔ s = .cmd := here .cmd
  unfold closeNotifyHandler
  simp only [statusRead, statusWrite, colonRead, colonWrite, cmd]
  cases s with
  | map m =>
      simp only [reduceCtorEq, if_false]
      cases map : w.gpg.fdDataMap with
      | null => simp [Gpg.slot, map, MapPointer.entries, mapSlot_outside] at held
      | freed => exact (pointer map).elim
      | table entries =>
          have mapHeld : mapSlot entries m = some fd := by
            simpa [Gpg.slot, map, MapPointer.entries] using held
          have mapOnly (other : MapSlot) (found : mapSlot entries other = some fd)
              : other = m := by
            have equal := only (.map other)
              (by simpa [Gpg.slot, map, MapPointer.entries] using found)
            cases equal
            rfl
          simp only [notifyEntries_eq mapHeld mapOnly, Gpg.tagOf, Gpg.clear, Gpg.modifyMap, map,
            MapPointer.entries]
  | _ => rfl

theorem World.user_removeTag (tag : Option Nat) : (w.removeTag tag).io.user = w.io.user := by
  cases tag with
  | none => rfl
  | some tag => exact IoTags.user_remove

theorem World.removeTag_paired (paired : w.Paired) (held : w.gpg.slot s = some fd)
    : (w.removeTag (w.gpg.tagOf s)).io.Paired (Function.update w.gpg.slot s none) w.gpg.tagOf
        w.gpg.cb := by
  cases mine : w.gpg.tagOf s with
  | none => exact paired.untagged mine none
  | some tag => exact paired.remove held mine

theorem World.ioClose_spec (kept : w.Kept lost) (held : w.gpg.slot s = some fd)
    : (w.ioClose fd).Kept lost
      ∧ (w.ioClose fd).gpg.slot = Function.update w.gpg.slot s none
      ∧ w.Closes (w.ioClose fd) := by
  have closed
      : w.ioClose fd = {
          w with
          notify := Function.update w.notify fd false
          io := (w.removeTag (w.gpg.tagOf s)).io
          gpg := w.gpg.clear s
          ends := w.ends.close fd } := by
    have only (place : Slot) (found : w.gpg.slot place = some fd) : place = s :=
      kept.holds.distinct place s fd found held
    unfold ioClose
    rw [if_pos (kept.notified s fd held),
      closeNotifyHandler_eq (w := { w with notify := Function.update w.notify fd false }) held only
        kept.pointer]
    cases w.gpg.tagOf s <;> rfl
  rw [closed]
  have slots : (w.gpg.clear s).slot = Function.update w.gpg.slot s none := Gpg.slot_clear
  refine ⟨⟨?_, ?_, Gpg.pointer_clear kept.pointer, kept.use, ?_⟩, slots, ?_⟩
  · dsimp only
    rw [Gpg.slot_clear]
    exact kept.holds.close held
  · intro place number found
    dsimp only at found ⊢
    rw [Gpg.slot_clear, Function.update_apply] at found
    split at found
    · cases found
    · next different =>
        rw [Function.update_of_ne, kept.notified place number found]
        rintro rfl
        exact different (kept.holds.distinct place s _ found held)
  · intro held
    have before : w.gpg.cmd.fd ≠ none := by
      intro empty
      apply held
      have now := congrFun slots .cmd
      rw [Function.update_apply] at now
      split at now
      · exact now
      · exact now.trans empty
    rw [Gpg.alike_clear.used, kept.parked before]
  · refine ⟨Gpg.alike_clear, Gpg.inbound_clear, Gpg.length_clear, Gpg.tagOf_clear, user_removeTag _,
      rfl, rfl, rfl, ?_, PipeEnds.fewer_close, ?_⟩
    · intro place
      dsimp only
      rw [Gpg.slot_clear, Function.update_apply]
      split
      · exact Or.inr rfl
      · exact Or.inl rfl
    · intro paired
      unfold World.Paired
      dsimp only
      rw [Gpg.slot_clear, Gpg.tagOf_clear, Gpg.cb_congr Gpg.alike_clear Gpg.inbound_clear]
      exact World.removeTag_paired paired held

-----------------------------------------------------------------------------------------
-- Cancelling
-----------------------------------------------------------------------------------------

theorem World.closeSlot_spec (kept : w.Kept lost)
    : (w.closeSlot s).Kept lost
      ∧ (w.closeSlot s).gpg.slot = Function.update w.gpg.slot s none
      ∧ w.Closes (w.closeSlot s) := by
  cases held : w.gpg.slot s with
  | none =>
      have same : w.closeSlot s = w := by
        unfold closeSlot
        rw [held]
      rw [same]
      refine ⟨kept, ?_, .refl w⟩
      rw [← held, Function.update_eq_self]
  | some fd =>
      have same : w.closeSlot s = w.ioClose fd := by
        unfold closeSlot
        rw [held]
      rw [same]
      exact ioClose_spec kept held

theorem World.closeSlots_spec (kept : w.Kept lost) (fields : List Slot)
    : (fields.foldl closeSlot w).Kept lost
      ∧ (∀ s, (fields.foldl closeSlot w).gpg.slot s = if s ∈ fields then none else w.gpg.slot s)
      ∧ w.Closes (fields.foldl closeSlot w) := by
  obtain ⟨⟨keptLast, closes⟩, empty⟩ :=
    PipeEnds.foldl_empties (fun w : World => w.gpg.slot) closeSlot
      (fun state => state.Kept lost ∧ w.Closes state)
      (by
        intro state s before
        obtain ⟨keptNext, slots, closes⟩ := closeSlot_spec (s := s) before.1
        exact ⟨⟨keptNext, before.2.trans closes⟩, slots⟩)
      fields ⟨kept, .refl w⟩
  exact ⟨keptLast, empty, closes⟩

/-- The engine with the pointer NULL. -/
def World.unmapped (w : World) : World := { w with gpg := { w.gpg with fdDataMap := .null } }

theorem World.unmapped_frame (w : World)
    : w.gpg.Alike w.unmapped.gpg
      ∧ w.unmapped.ends = w.ends
      ∧ w.unmapped.io.user = w.io.user
      ∧ w.unmapped.waiting = w.waiting
      ∧ w.unmapped.asked = w.asked
      ∧ w.unmapped.calls = w.calls :=
  ⟨⟨rfl, rfl, rfl, rfl, rfl⟩, rfl, rfl, rfl, rfl, rfl⟩

theorem World.dropFdDataMap_eq (pointer : w.gpg.fdDataMap ≠ .freed)
    : w.dropFdDataMap
      = (((mapSlots w.gpg.fdDataMap.entries).map Slot.map).foldl closeSlot w).unmapped := by
  unfold dropFdDataMap freeFdDataMap unmapped
  cases map : w.gpg.fdDataMap with
  | null =>
      have same : { w.gpg with fdDataMap := .null } = w.gpg := by rw [← map]
      simp [MapPointer.entries, mapSlots, same]
  | freed => exact (pointer map).elim
  | table entries => simp [MapPointer.entries]

theorem World.unmapped_spec (kept : w.Kept lost) (empty : ∀ m, w.gpg.slot (.map m) = none)
    : w.unmapped.Kept lost
      ∧ (∀ s, w.unmapped.gpg.slot s = w.gpg.slot s)
      ∧ (w.Paired → w.unmapped.Paired) := by
  have slots (s : Slot) : w.unmapped.gpg.slot s = w.gpg.slot s := by
    cases s with
    | map m =>
        rw [empty]
        exact mapSlot_outside (Nat.zero_le _)
    | _ => rfl
  refine ⟨⟨kept.holds.congr slots, ?_, by simp [unmapped], kept.use, kept.parked⟩, slots, ?_⟩
  · intro s fd found
    rw [slots] at found
    exact kept.notified s fd found
  · intro paired
    refine paired.congr slots ?_ ?_
    · intro s
      cases s with
      | map m =>
          refine Or.inr ⟨empty m, ?_⟩
          cases m <;> rfl
      | _ => exact Or.inl rfl
    · intro s fd tagged
      cases s with
      | map m =>
          apply absurd _ tagged
          cases m <;> rfl
      | _ => rfl

/-- What cancelling the operation leaves: nothing is held any more. -/
structure World.Cancels (lost : Set Nat) (w next : World) : Prop where
  kept : next.Kept lost
  empty : ∀ s, next.gpg.slot s = none
  alike : w.gpg.Alike next.gpg
  user : next.io.user = w.io.user
  waiting : next.waiting = w.waiting
  asked : next.asked = w.asked
  calls : next.calls = w.calls
  ends : w.ends.Fewer next.ends
  paired : w.Paired → next.Paired

theorem World.cancel_spec (kept : w.Kept lost) : w.Cancels lost w.cancel := by
  let fields := w.commandSlot.toList ++ [.statusRead, .statusWrite, .colonRead, .colonWrite]
  let closed := fields.foldl closeSlot w
  obtain ⟨keptClosed, slotsClosed, closes⟩ := closeSlots_spec kept fields
  let tables := (mapSlots closed.gpg.fdDataMap.entries).map Slot.map
  obtain ⟨keptFreed, slotsFreed, frees⟩ := closeSlots_spec keptClosed tables
  have mapEmpty (m : MapSlot) : (tables.foldl closeSlot closed).gpg.slot (.map m) = none := by
    rw [slotsFreed]
    split
    · rfl
    · next outside =>
        apply mapSlot_outside
        by_contra inside
        exact outside (List.mem_map_of_mem (mem_mapSlots.mpr (Nat.lt_of_not_le inside)))
  obtain ⟨keptLast, slotsLast, pairedLast⟩ := unmapped_spec keptFreed mapEmpty
  have all : w.cancel = (tables.foldl closeSlot closed).unmapped :=
    dropFdDataMap_eq keptClosed.pointer
  rw [all]
  have both := closes.trans frees
  obtain ⟨alike, ends, user, waiting, asked, calls⟩ :=
    unmapped_frame (tables.foldl closeSlot closed)
  refine ⟨keptLast, ?_, both.alike.trans alike, user.trans both.user, waiting.trans both.waiting,
    asked.trans both.asked, calls.trans both.calls, ends ▸ both.ends, ?_⟩
  · intro s
    rw [slotsLast]
    cases s with
    | map m => exact mapEmpty m
    | cmd =>
        rw [slotsFreed, if_neg (by simp [tables]), slotsClosed]
        split
        · rfl
        · next outside =>
            by_contra parked
            have held : w.gpg.cmd.fd ≠ none := parked
            have used := kept.parked held
            apply outside
            have first : w.commandSlot = some .cmd := by
              unfold commandSlot
              rw [if_pos used, if_pos held]
            simp [fields, first]
    | _ =>
        rw [slotsFreed, if_neg (by simp [tables]), slotsClosed, if_pos (by simp [fields])]
  · intro paired
    exact pairedLast (both.paired paired)

end Gpgme.Lifecycle
