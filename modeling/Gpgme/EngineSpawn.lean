import Gpgme.EnginePipes
import Gpgme.Lib.Fallible

/-! The engine for spawned programs: its table of pipes from the start of an operation to the
release of the engine.
-/

namespace Gpgme.EngineSpawn

open PipeEnds Fallible

-----------------------------------------------------------------------------------------
-- The engine
-----------------------------------------------------------------------------------------

/-- `struct datalist_s`. -/
structure DataItem where
  data : Nat
  inbound : Bool
  dupTo : Int
deriving DecidableEq

/-- `struct engine_spawn` in its process; the handlers are those of the data objects. -/
structure World where
  ends : PipeEnds
  notify : Nat → Bool := fun _ => false
  io : IoTags Unit
  fdDataMap : MapPointer := .null
  danglingUse : Bool := false

/-- How the calls of `engspawn_start` that can fail end. -/
structure Answers where
  mapMemory : Bool := true
  pipe : Nat → Bool := fun _ => true
  fdListMemory : Bool := true
  spawn : Bool := true
  add : Nat → AddAnswers := fun _ => {}

namespace World

variable (w : World)

def slot : MapSlot → Option Nat := mapSlot w.fdDataMap.entries

/-- `close_notify_handler`. -/
def closeNotifyHandler (fd : Nat) : World :=
  match w.fdDataMap with
  | .null => w
  | .freed => { w with danglingUse := true }
  | .table entries =>
      let (entries, tag) := notifyEntries fd entries
      { w with
        fdDataMap := .table entries
        io :=
          match tag with
          | none => w.io
          | some tag => w.io.remove tag }

/-- `_gpgme_io_close`. -/
def ioClose (fd : Nat) : World :=
  let notified :=
    if w.notify fd then
      { w with notify := Function.update w.notify fd false }.closeNotifyHandler fd
    else w
  { notified with ends := notified.ends.close fd }

/-- `if (field != -1) _gpgme_io_close (field)` -/
def closeSlot (s : MapSlot) : World :=
  match w.slot s with
  | none => w
  | some fd => w.ioClose fd

/-- `free_fd_data_map`. -/
def freeFdDataMap : World :=
  match w.fdDataMap with
  | .null | .freed => w
  | .table entries => { (mapSlots entries).foldl closeSlot w with fdDataMap := .freed }

/-- `engspawn_cancel`. -/
def cancel : World :=
  match w.fdDataMap with
  | .null => w
  | .table _ | .freed => { w.freeFdDataMap with fdDataMap := .null }

/-- `engspawn_release`. -/
def release : World := w.cancel

/-- The pipe of a data object, which the table already holds before the next one is made. After
a failure the table is freed without closing its descriptors.
-/
def buildEntry (answers : Answers) (a : DataItem) : Except World World :=
  let entries := w.fdDataMap.entries
  if !answers.pipe entries.length then .error { w with fdDataMap := .null }
  else
    let ((readEnd, writeEnd), ends) := w.ends.pipe
    let entry : PipeEntry := {
      data := a.data, inbound := a.inbound, dupTo := a.dupTo
      fd := some (if a.inbound then readEnd else writeEnd)
      peerFd := some (if a.inbound then writeEnd else readEnd) }
    .ok {
      w with
      ends
      notify := Function.update (Function.update w.notify readEnd true) writeEnd true
      fdDataMap := .table (entries ++ [entry]) }

/-- `build_fd_data_map`. -/
def buildFdDataMap (arglist : List DataItem) (answers : Answers) : Except World World :=
  let w := w.freeFdDataMap
  if !answers.mapMemory then .error { w with fdDataMap := .null }
  else arglist.foldlM (fun w a => w.buildEntry answers a) { w with fdDataMap := .table [] }

/-- `add_io_cb`, for the descriptor of an entry. -/
def addIoCb (answers : Answers) (i : Nat) : Except World World :=
  let entries := w.fdDataMap.entries
  let inbound := entries[i]?.any PipeEntry.inbound
  let ((added, tag), io) := w.io.add (answers.add i)
    { fd := w.slot (.fd i), dir := inbound.toNat, handler := () } (mapTag entries (.fd i))
  let next := {
    w with
    io
    fdDataMap :=
      match w.fdDataMap with
      | .table entries => .table (setMapTag entries tag i)
      | .null => .null
      | .freed => .freed }
  if added && (inbound || (answers.add i).nonblocking) then .ok next else .error next

/-- `engspawn_start`, behind the check of its arguments. -/
def start (arglist : List DataItem) (answers : Answers) : Except World World := do
  let w ← w.buildFdDataMap arglist answers
  if !answers.fdListMemory || !answers.spawn then .error w
  else
    let fdList :=
      ((w.fdDataMap.entries.map PipeEntry.peerFd).takeWhile Option.isSome).reduceOption
    let w := fdList.foldl ioClose w
    (List.range w.fdDataMap.entries.length).foldlM (fun w i => w.addIoCb answers i) w

/-- A new engine, in a process with other open files. -/
def new (user : Bool) (others : Descriptors Unit) : World :=
  { ends := .inherit others, io := { user } }

/-- The engine at its end: it is released after the start, or after a start that failed. -/
def life (arglist : List DataItem) (answers : Answers) : World :=
  match w.start arglist answers with
  | .ok started => started.release
  | .error failed => failed.release

/-- Every pipe end was closed exactly once, and no notification has met a table that was freed. -/
def NoneLost : Prop := w.ends.ledger.Balanced ∧ w.danglingUse = false

end World

/-- A pipe fails behind the first one. -/
def LosesPipes (arglist : List DataItem) (answers : Answers) : Prop :=
  answers.mapMemory = true
  ∧ answers.pipe 0 = true
  ∧ ∃ k < arglist.length, answers.pipe k = false

-----------------------------------------------------------------------------------------
-- Closing
-----------------------------------------------------------------------------------------

/-- Every open end is in one field or lost, and the notifications find the engine intact. -/
structure World.Kept (lost : Set Nat) (w : World) : Prop where
  holds : w.ends.Holds w.slot lost
  notified : ∀ s fd, w.slot s = some fd → w.notify fd = true
  pointer : w.fdDataMap ≠ .freed
  use : w.danglingUse = false

variable {w : World} {lost : Set Nat} {s : MapSlot} {fd : Nat} {answers : Answers}

theorem World.closeNotifyHandler_frame (held : w.slot s = some fd)
    (only : ∀ place, w.slot place = some fd → place = s) (pointer : w.fdDataMap ≠ .freed)
    : (w.closeNotifyHandler fd).slot = Function.update w.slot s none
      ∧ (w.closeNotifyHandler fd).fdDataMap.entries.length = w.fdDataMap.entries.length
      ∧ (w.closeNotifyHandler fd).fdDataMap ≠ .freed
      ∧ (w.closeNotifyHandler fd).ends = w.ends
      ∧ (w.closeNotifyHandler fd).notify = w.notify
      ∧ (w.closeNotifyHandler fd).danglingUse = w.danglingUse := by
  unfold closeNotifyHandler slot
  unfold slot at held only
  cases map : w.fdDataMap with
  | null =>
      rw [map, mapSlot_outside (Nat.zero_le _)] at held
      cases held
  | freed => exact (pointer map).elim
  | table entries =>
      rw [map] at held only
      simp only [MapPointer.entries] at held only ⊢
      rw [notifyEntries_eq held only]
      exact ⟨mapSlot_set (Or.inr rfl), length_setMapSlot none, nofun, trivial, trivial, trivial⟩

theorem World.ioClose_spec (kept : w.Kept lost) (held : w.slot s = some fd)
    : (w.ioClose fd).Kept lost
      ∧ (w.ioClose fd).slot = Function.update w.slot s none
      ∧ (w.ioClose fd).fdDataMap.entries.length = w.fdDataMap.entries.length := by
  have only (place : MapSlot) (found : w.slot place = some fd) : place = s :=
    kept.holds.distinct place s fd found held
  obtain ⟨slots, length, pointer, ends, notify, use⟩ :=
    closeNotifyHandler_frame (w := { w with notify := Function.update w.notify fd false }) held
      only kept.pointer
  unfold ioClose
  rw [if_pos (kept.notified s fd held)]
  refine ⟨⟨?_, ?_, pointer, use.trans kept.use⟩, slots, length⟩
  · dsimp only
    rw [ends]
    exact (kept.holds.close held).congr (fun place => congrFun slots place)
  · intro place number found
    have now := (congrFun slots place).symm.trans found
    rw [Function.update_apply] at now
    dsimp only
    rw [notify]
    split at now
    · cases now
    · next different =>
        dsimp only
        rw [Function.update_of_ne, kept.notified place number now]
        rintro rfl
        exact different (only place now)

theorem World.closeSlot_spec (kept : w.Kept lost)
    : (w.closeSlot s).Kept lost
      ∧ (w.closeSlot s).slot = Function.update w.slot s none
      ∧ (w.closeSlot s).fdDataMap.entries.length = w.fdDataMap.entries.length := by
  cases held : w.slot s with
  | none =>
      have same : w.closeSlot s = w := by
        unfold closeSlot
        rw [held]
      rw [same]
      refine ⟨kept, ?_, rfl⟩
      rw [← held, Function.update_eq_self]
  | some fd =>
      have same : w.closeSlot s = w.ioClose fd := by
        unfold closeSlot
        rw [held]
      rw [same]
      exact ioClose_spec kept held

theorem World.closeSlots_spec (kept : w.Kept lost) (fields : List MapSlot)
    : (fields.foldl closeSlot w).Kept lost
      ∧ (∀ s, (fields.foldl closeSlot w).slot s = if s ∈ fields then none else w.slot s)
      ∧ (fields.foldl closeSlot w).fdDataMap.entries.length = w.fdDataMap.entries.length := by
  obtain ⟨⟨keptLast, length⟩, empty⟩ :=
    PipeEnds.foldl_empties slot closeSlot
      (fun state =>
        state.Kept lost
        ∧ state.fdDataMap.entries.length = w.fdDataMap.entries.length)
      (by
        intro state s before
        obtain ⟨keptNext, slots, length⟩ := closeSlot_spec (s := s) before.1
        exact ⟨⟨keptNext, length.trans before.2⟩, slots⟩)
      fields ⟨kept, rfl⟩
  exact ⟨keptLast, empty, length⟩

/-- The engine with the pointer NULL. -/
def World.unmapped (w : World) : World := { w with fdDataMap := .null }

theorem World.unmapped_empty (w : World) (s : MapSlot) : w.unmapped.slot s = none :=
  mapSlot_outside (Nat.zero_le _)

theorem World.unmapped_spec (kept : w.Kept lost)
    : w.unmapped.Kept (numbersIn w.slot ∪ lost) := by
  have fields : {fd | ∃ s, True ∧ w.slot s = some fd} = numbersIn w.slot := by
    ext fd
    simp [numbersIn]
  refine ⟨?_, ?_, by simp [unmapped], kept.use⟩
  · rw [← fields]
    refine kept.holds.abandon (fun _ => True) ?_
    intro s
    rw [if_pos trivial]
    exact w.unmapped_empty s
  · intro s fd found
    rw [w.unmapped_empty] at found
    cases found

theorem World.cancel_spec (kept : w.Kept lost)
    : w.cancel.Kept lost ∧ ∀ s, w.cancel.slot s = none := by
  obtain ⟨keptClosed, slots, _⟩ := closeSlots_spec kept (mapSlots w.fdDataMap.entries)
  have empty (s : MapSlot)
      : ((mapSlots w.fdDataMap.entries).foldl closeSlot w).slot s = none := by
    rw [slots]
    split
    · rfl
    · next outside =>
        apply mapSlot_outside
        by_contra inside
        exact outside (mem_mapSlots.mpr (Nat.lt_of_not_le inside))
  have same : w.cancel = ((mapSlots w.fdDataMap.entries).foldl closeSlot w).unmapped := by
    unfold cancel freeFdDataMap unmapped
    cases map : w.fdDataMap with
    | null =>
        have self : { w with fdDataMap := .null } = w := by rw [← map]
        simp [MapPointer.entries, mapSlots, self]
    | freed => exact (kept.pointer map).elim
    | table entries => simp [MapPointer.entries]
  have none : numbersIn ((mapSlots w.fdDataMap.entries).foldl closeSlot w).slot = ∅ := by
    ext fd
    simp [numbersIn, empty]
  rw [same]
  refine ⟨?_, unmapped_empty _⟩
  have keptLast := unmapped_spec keptClosed
  rw [none, Set.empty_union] at keptLast
  exact keptLast

theorem World.Kept.release (kept : w.Kept lost) : w.release.NoneLost ↔ lost = ∅ := by
  obtain ⟨keptLast, empty⟩ := cancel_spec kept
  unfold NoneLost World.release
  rw [keptLast.holds.balanced_iff empty]
  simp [keptLast.use]

-----------------------------------------------------------------------------------------
-- Starting
-----------------------------------------------------------------------------------------

theorem World.Kept.pipe (kept : w.Kept lost) {t : MapSlot} {map : MapPointer} (apart : s ≠ t)
    (emptyFirst : w.slot s = none) (emptySecond : w.slot t = none)
    (slots
      : mapSlot map.entries
        = Function.update (Function.update w.slot s (some w.ends.pipe.1.1)) t
            (some w.ends.pipe.1.2))
    (pointer : map ≠ .freed)
    : Kept lost {
        w with
        ends := w.ends.pipe.2
        notify :=
          Function.update (Function.update w.notify w.ends.pipe.1.1 true) w.ends.pipe.1.2 true
        fdDataMap := map } := by
  refine ⟨?_, ?_, pointer, kept.use⟩
  · have first := kept.holds.openEnd emptyFirst
    have second := first.openEnd (s := t) (by rw [Function.update_of_ne apart.symm, emptySecond])
    exact second.congr (fun place => congrFun slots place)
  · intro place fd found
    have now := (congrFun slots place).symm.trans found
    rw [Function.update_apply, Function.update_apply] at now
    dsimp only
    rw [Function.update_apply, Function.update_apply]
    split
    · rfl
    · next notSecond =>
        split
        · rfl
        · next notFirst =>
            split at now
            · cases now
              exact (notSecond rfl).elim
            · split at now
              · cases now
                exact (notFirst rfl).elim
              · exact kept.notified place fd now

/-- The table when a part of the data objects is done. -/
structure World.Building (answers : Answers) (done : List DataItem) (w : World) : Prop where
  kept : w.Kept ∅
  count : w.fdDataMap.entries.length = done.length
  filled : ∀ entry ∈ w.fdDataMap.entries, entry.fd ≠ none ∧ entry.peerFd ≠ none
  passed : ∀ k < done.length, answers.pipe k = true

/-- How a start fails. -/
def Failed (arglist : List DataItem) (answers : Answers) (failed : World) : Prop :=
  ∃ lost, failed.Kept lost ∧ (lost = ∅ ↔ ¬LosesPipes arglist answers)

variable {arglist done rest : List DataItem} {a : DataItem}

theorem World.Building.snoc (building : w.Building answers done)
    (piped : answers.pipe done.length = true) {next : World}
    (built : w.buildEntry answers a = .ok next)
    : next.Building answers (done ++ [a]) := by
  have outside (m : MapSlot) (index : m.index = w.fdDataMap.entries.length)
      : w.slot m = none :=
    mapSlot_outside index.ge
  have goesOn : (!answers.pipe w.fdDataMap.entries.length) = false := by
    rw [building.count, piped]
    rfl
  unfold buildEntry at built
  simp only [goesOn, Bool.false_eq_true, if_false, Except.ok.injEq] at built
  rw [← built]
  refine ⟨?_, ?_, ?_, ?_⟩
  · cases inbound : a.inbound with
    | true =>
        refine building.kept.pipe (s := .fd w.fdDataMap.entries.length)
          (t := .peer w.fdDataMap.entries.length) nofun (outside _ rfl) (outside _ rfl) ?_ nofun
        simp only [MapPointer.entries, mapSlot_snoc, if_true]
        rfl
    | false =>
        refine building.kept.pipe (s := .peer w.fdDataMap.entries.length)
          (t := .fd w.fdDataMap.entries.length) nofun (outside _ rfl) (outside _ rfl) ?_ nofun
        simp only [MapPointer.entries, mapSlot_snoc, Bool.false_eq_true, if_false]
        exact Function.update_comm (by simp) _ _ _
  · show (w.fdDataMap.entries ++ [_]).length = (done ++ [a]).length
    rw [List.length_append, building.count, List.length_append]
    rfl
  · intro entry member
    rcases List.mem_append.mp member with before | now
    · exact building.filled entry before
    · rw [List.mem_singleton.mp now]
      exact ⟨nofun, nofun⟩
  · intro k inside
    rw [List.length_append, List.length_singleton] at inside
    rcases Nat.lt_succ_iff_lt_or_eq.mp inside with before | now
    · exact building.passed k before
    · rw [now, piped]

theorem World.Building.empty_iff (building : w.Building answers done)
    : numbersIn w.slot = ∅ ↔ done = [] := by
  rw [← List.length_eq_zero_iff, ← building.count, Set.eq_empty_iff_forall_notMem]
  constructor
  · intro none
    by_contra some
    have inside : 0 < w.fdDataMap.entries.length := Nat.pos_of_ne_zero some
    obtain ⟨fd, held⟩ := Option.ne_none_iff_exists'.mp
      (building.filled _ (List.getElem_mem inside)).1
    apply none fd
    refine ⟨.fd 0, ?_⟩
    simp [slot, mapSlot, List.getElem?_eq_getElem inside, held]
  · intro empty fd member
    obtain ⟨m, held⟩ := member
    rw [slot, mapSlot_outside (by omega)] at held
    cases held

theorem World.Building.next (building : w.Building answers done)
    (memory : answers.mapMemory = true) (whole : arglist = done ++ a :: rest)
    : Ends (w.buildEntry answers a) (Building answers (done ++ [a]))
        (Failed arglist answers) := by
  cases piped : answers.pipe done.length with
  | true =>
      cases built : w.buildEntry answers a with
      | ok next => exact building.snoc piped built
      | error failed =>
          unfold buildEntry at built
          simp [building.count, piped] at built
  | false =>
      have failed : w.buildEntry answers a = .error w.unmapped := by
        unfold buildEntry
        simp [building.count, piped]
        rfl
      rw [failed]
      refine ⟨_, unmapped_spec building.kept, ?_⟩
      rw [Set.union_empty, building.empty_iff]
      constructor
      · intro first loses
        rw [first, List.length_nil, loses.2.1] at piped
        cases piped
      · intro keeps
        by_contra later
        have inside : done.length < arglist.length := by
          rw [whole, List.length_append, List.length_cons]
          omega
        exact keeps ⟨memory, building.passed 0 (List.length_pos_iff.mpr later), done.length,
          inside, piped⟩

theorem buildFdDataMap_ends (kept : w.Kept ∅) (null : w.fdDataMap = .null)
    : Ends (w.buildFdDataMap arglist answers)
        (fun next => next.Building answers arglist ∧ ¬LosesPipes arglist answers)
        (Failed arglist answers) := by
  have freed : w.freeFdDataMap = w := by
    unfold World.freeFdDataMap
    rw [null]
  unfold World.buildFdDataMap
  rw [freed]
  cases memory : answers.mapMemory with
  | false =>
      have same : { w with fdDataMap := .null } = w := by rw [← null]
      simp only [Bool.not_false, if_true, same]
      refine ⟨∅, kept, ?_⟩
      have keeps : ¬LosesPipes arglist answers := by
        intro loses
        rw [loses.1] at memory
        cases memory
      simp [keeps]
  | true =>
      simp only [Bool.not_true, Bool.false_eq_true, if_false]
      have start : World.Building answers [] { w with fdDataMap := .table [] } := by
        have slots (s : MapSlot) : mapSlot [] s = w.slot s := by
          unfold World.slot
          rw [null]
          rfl
        refine ⟨⟨kept.holds.congr slots, ?_, nofun, kept.use⟩, rfl, nofun, nofun⟩
        intro s fd found
        exact kept.notified s fd ((slots s).symm.trans found)
      have loop
          : Ends
              (arglist.foldlM (fun w a => w.buildEntry answers a)
                { w with fdDataMap := .table [] })
              (World.Building answers arglist)
              (Failed arglist answers) := by
        refine Ends.foldlM start ?_
        intro done a rest state whole building
        exact building.next memory whole
      refine loop.imp ?_ (fun _ failed => failed)
      intro next building
      refine ⟨building, ?_⟩
      intro loses
      obtain ⟨_, _, k, inside, fails⟩ := loses
      rw [building.passed k inside] at fails
      cases fails

theorem addIoCb_ends (kept : w.Kept ∅) (i : Nat)
    : Ends (w.addIoCb answers i) (World.Kept ∅) (World.Kept ∅) := by
  have keptNext (io : IoTags Unit) (tag : Option Nat) (map : MapPointer)
      (same
        : map
          = match w.fdDataMap with
            | .table entries => .table (setMapTag entries tag i)
            | .null => .null
            | .freed => .freed)
      : World.Kept ∅ { w with io, fdDataMap := map } := by
    have slots (s : MapSlot) : mapSlot map.entries s = w.slot s := by
      unfold World.slot
      rw [same]
      cases w.fdDataMap with
      | table entries => exact congrFun mapSlot_setTag s
      | _ => rfl
    refine ⟨kept.holds.congr slots, ?_, ?_, kept.use⟩
    · intro s fd found
      exact kept.notified s fd ((slots s).symm.trans found)
    · have pointer := kept.pointer
      rw [same]
      cases map' : w.fdDataMap with
      | freed => exact (pointer map').elim
      | _ => simp
  unfold World.addIoCb
  dsimp only
  split
  · exact keptNext _ _ _ rfl
  · exact keptNext _ _ _ rfl

theorem World.nodup_peers (n : Nat) : ((List.range n).map MapSlot.peer).Nodup := by
  refine List.nodup_range.map ?_
  intro i j same
  simpa using same

theorem start_ends (kept : w.Kept ∅) (null : w.fdDataMap = .null)
    : Ends (w.start arglist answers)
        (fun next => next.Kept ∅ ∧ ¬LosesPipes arglist answers)
        (Failed arglist answers) := by
  unfold World.start
  refine (buildFdDataMap_ends kept null).bind ?_
  intro built done
  obtain ⟨building, keeps⟩ := done
  have noLoss (failed : World) (kept : failed.Kept ∅) : Failed arglist answers failed :=
    ⟨∅, kept, by simp [keeps]⟩
  split
  · exact noLoss built building.kept
  · let peers := (List.range built.fdDataMap.entries.length).map MapSlot.peer
    have fields
        : built.fdDataMap.entries.map PipeEntry.peerFd = peers.map built.slot := by
      simp only [peers, List.map_map, Function.comp_def]
      exact (map_range_getElem? built.fdDataMap.entries PipeEntry.peerFd).symm
    have filled : ∀ s ∈ peers, built.slot s ≠ none := by
      intro s member
      obtain ⟨i, inside, rfl⟩ := List.mem_map.mp member
      have entry := building.filled _ (List.getElem_mem (List.mem_range.mp inside))
      simp only [World.slot, mapSlot, List.getElem?_eq_getElem (List.mem_range.mp inside),
        Option.bind_some]
      exact entry.2
    have closed
        : ((peers.map built.slot).takeWhile Option.isSome).reduceOption.foldl World.ioClose built
          = peers.foldl World.closeSlot built := by
      refine foldl_numbers World.slot World.ioClose World.closeSlot (World.Kept ∅) ?_ ?_
        (World.nodup_peers _) building.kept filled
      · intro state s before
        obtain ⟨keptNext, slots, _⟩ := World.closeSlot_spec (s := s) before
        exact ⟨keptNext, slots⟩
      · intro state s fd held
        unfold World.closeSlot
        rw [held]
    dsimp only
    rw [fields, closed]
    have keptClosed := (World.closeSlots_spec building.kept peers).1
    have loop (fields : List Nat) (state : World) (before : state.Kept ∅)
        : Ends (fields.foldlM (fun w i => w.addIoCb answers i) state) (World.Kept ∅)
            (World.Kept ∅) := by
      let invariant (_ : List Nat) : World → Prop := World.Kept ∅
      have start : invariant [] state := before
      refine Ends.foldlM start ?_
      intro _ i _ next _ keptNext
      exact addIoCb_ends keptNext i
    refine (loop _ _ keptClosed).imp ?_ ?_
    · intro next keptLast
      exact ⟨keptLast, keeps⟩
    · intro failed keptLast
      exact noLoss failed keptLast

theorem life_noneLost_iff (user : Bool) (others : Descriptors Unit) (arglist : List DataItem)
    (answers : Answers)
    : ((World.new user others).life arglist answers).NoneLost ↔ ¬LosesPipes arglist answers := by
  have empty (s : MapSlot) : (World.new user others).slot s = none :=
    mapSlot_outside (Nat.zero_le _)
  have kept : (World.new user others).Kept ∅ := by
    refine ⟨holds_inherit others empty, ?_, nofun, rfl⟩
    intro s fd found
    rw [empty] at found
    cases found
  have ends : Ends ((World.new user others).start arglist answers) _ _ := start_ends kept rfl
  unfold World.life
  cases started : (World.new user others).start arglist answers with
  | ok next =>
      rw [started] at ends
      obtain ⟨keptNext, keeps⟩ := ends
      simp [keptNext.release, keeps]
  | error failed =>
      rw [started] at ends
      obtain ⟨lost, keptLast, none⟩ := ends
      dsimp only
      rw [keptLast.release, none]

end Gpgme.EngineSpawn
