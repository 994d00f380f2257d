import Gpgme.Data.PropertyInvariant
import Gpgme.Lib.Machine

/-! Runs of the property table: no call faults, every answer is the registry's, and the
table stays a faithful index of the live objects.
-/

namespace Gpgme.Data

def stepProp (world : PropWorld) : PropOp → Option (PropAnswer × PropWorld)
  | .new alloc addr =>
      (gpgmeDataNew alloc world addr).map (fun (err, next) => ({ err }, next))
  | .release dh => (gpgmeDataRelease world dh).map (fun next => ({}, next))
  | .setProp dh dserial name value =>
      (world.ref dh).bind (fun ref =>
        (gpgmeDataSetProp world.tbl ref dserial name value).map (fun (err, tbl) =>
          ({ err }, { world with tbl })))
  | .getProp dh dserial name =>
      (world.ref dh).bind (fun ref =>
        (gpgmeDataGetProp world.tbl ref dserial name).map (fun (err, value) =>
          ({ err, value }, world)))
  | .getDserial dh =>
      (world.ref dh).bind (fun ref =>
        (gpgmeDataGetDserial world.tbl ref).map (fun value => ({ value }, world)))


-----------------------------------------------------------------------------------------
-- Steps
-----------------------------------------------------------------------------------------

/-- Handles are live, the allocator returns no address in use, and serial numbers do not
run out.
-/
def PropOp.Valid (reg : Registry) : PropOp → Prop
  | .new _ addr => (∀ dh, addr = some dh → reg.live dh = none) ∧ reg.created + 1 < 2 ^ 64
  | .release dh => (reg.live dh).isSome
  | .setProp dh _ _ _ => ∀ target, dh = some target → (reg.live target).isSome
  | .getProp dh _ _ => ∀ target, dh = some target → (reg.live target).isSome
  | .getDserial dh => ∀ target, dh = some target → (reg.live target).isSome

/-- Before a creation the number of live objects is below the largest table that an index
of type `int` can address.
-/
def PropOp.Fits (reg : Registry) : PropOp → Prop
  | .new _ _ => reg.count < maxTableSize
  | _ => True

/-- Each live handle has a reference. -/
theorem PropWorld.Represents.ref {world : PropWorld} {reg : Registry}
    (rep : world.Represents reg) {dh : Option Handle}
    (alive : ∀ target, dh = some target → (reg.live target).isSome)
    : ∃ ref, world.ref dh = some ref := by
  cases dh with
  | none => exact ⟨none, rfl⟩
  | some target =>
      obtain ⟨idx, found⟩ :=
        Option.isSome_iff_exists.mp ((rep.live_iff target).mp (alive target rfl))
      exact ⟨some ⟨target, idx⟩, by simp [PropWorld.ref, found]⟩

/-- Every valid call on a table that fits succeeds, answers as the registry demands and
leaves a table that represents the next registry; by cases on the call.
-/
theorem stepProp_represents {world : PropWorld} {reg : Registry} {op : PropOp}
    (rep : world.Represents reg) (valid : op.Valid reg) (fits : op.Fits reg)
    : ∃ answer next,
        stepProp world op = some (answer, next)
        ∧ reg.Answers answer op
        ∧ next.Represents (reg.after answer op) := by
  cases op with
  | new alloc addr =>
      obtain ⟨err, next, created, outcome, kept⟩ :=
        gpgmeDataNew_represents alloc rep valid.1 valid.2 fits
      exact ⟨{ err }, next, by simp [stepProp, created], outcome.imp_right And.left, kept⟩
  | release dh =>
      obtain ⟨idx, alive⟩ := Option.isSome_iff_exists.mp ((rep.live_iff dh).mp valid)
      obtain ⟨next, released, kept⟩ := gpgmeDataRelease_represents rep alive
      exact ⟨{}, next, by simp [stepProp, released], rfl, kept⟩
  | setProp dh dserial name value =>
      obtain ⟨ref, given⟩ := rep.ref valid
      obtain ⟨tbl, set, kept⟩ := gpgmeDataSetProp_represents rep given dserial name value
      refine ⟨{ err := reg.accessError dh dserial name }, { world with tbl },
        by simp [stepProp, given, set], rfl, ?_⟩
      cases name <;> simpa [Registry.after] using kept
  | getProp dh dserial name =>
      obtain ⟨ref, given⟩ := rep.ref valid
      obtain ⟨err, value, got, answers⟩ := gpgmeDataGetProp_represents rep given dserial name
      exact ⟨{ err, value }, world, by simp [stepProp, given, got], answers,
        by simpa [Registry.after] using rep⟩
  | getDserial dh =>
      obtain ⟨ref, given⟩ := rep.ref valid
      obtain ⟨value, got, answers⟩ := gpgmeDataGetDserial_represents rep given
      exact ⟨{ value }, world, by simp [stepProp, given, got], answers,
        by simpa [Registry.after] using rep⟩

-----------------------------------------------------------------------------------------
-- Runs
-----------------------------------------------------------------------------------------

/-- The table together with the registry that its history has built up. -/
structure TrackedTable where
  world : PropWorld := {}
  reg : Registry := {}

/-- A call with its answer, between the state before and the state after it. -/
structure PropEvent where
  before : TrackedTable
  op : PropOp
  answer : PropAnswer
  next : TrackedTable

noncomputable def stepTracked (state : TrackedTable) (op : PropOp)
    : Option (PropEvent × TrackedTable) :=
  (stepProp state.world op).map (fun (answer, world) =>
    let next := ⟨world, state.reg.after answer op⟩
    (⟨state, op, answer, next⟩, next))

/-- What is promised of a table: every live object is found through its index and under
no other one, numbers are not shared, and a retired number is not found.
-/
structure TrackedTable.Sound (state : TrackedTable) : Prop where
  indexed
    : ∀ {dh idx},
        state.world.propidx dh = some idx
        → idx < state.world.tbl.size
          ∧ ∃ entries entry,
              state.world.tbl.table = some entries
              ∧ entries.length = state.world.tbl.size
              ∧ entries[idx]? = some entry
              ∧ entry.dh = some dh
              ∧ state.reg.live dh = some ⟨entry.dserial, entry.blankout⟩
  live : ∀ dh, (state.reg.live dh).isSome ↔ (state.world.propidx dh).isSome
  indexUnshared
    : ∀ {dh other idx},
        state.world.propidx dh = some idx → state.world.propidx other = some idx → dh = other
  serialUnshared
    : ∀ {dh other entry entry'},
        state.reg.live dh = some entry
        → state.reg.live other = some entry'
        → entry.serial = entry'.serial
        → dh = other
  retiredUnknown
    : ∀ {serial},
        serial ∈ state.reg.released
        → ∀ name value,
            gpgmeDataSetProp state.world.tbl none serial name value
              = some (gpgError ErrCode.notFound, state.world.tbl)
            ∧ gpgmeDataGetProp state.world.tbl none serial name
              = some (gpgError ErrCode.notFound, 0)

/-- What is promised of a call: the registry's answer, and a failed creation leaves the
index and the entry of every live object as they were.
-/
structure PropEvent.Sound (event : PropEvent) : Prop where
  answered : event.before.reg.Answers event.answer event.op
  failed
    : ∀ {alloc addr},
        event.op = .new alloc addr
        → event.answer.err ≠ 0
        → event.next.reg = event.before.reg
          ∧ event.next.world.propidx = event.before.world.propidx
          ∧ ∀ {dh idx},
              event.before.world.propidx dh = some idx
              → event.next.world.tbl.entries[idx]? = event.before.world.tbl.entries[idx]?

/-- The registry determines the entry of a live object. -/
theorem PropWorld.Represents.entry_determined {world next : PropWorld} {reg : Registry}
    (rep : world.Represents reg) (rep' : next.Represents reg)
    (same : next.propidx = world.propidx) {dh : Handle} {idx : Nat}
    (alive : world.propidx dh = some idx)
    : next.tbl.entries[idx]? = world.tbl.entries[idx]? := by
  obtain ⟨entry, found, back, live⟩ := rep.occupied alive
  obtain ⟨entry', found', back', live'⟩ := rep'.occupied (same ▸ alive)
  rw [live', Option.some.injEq, Entry.mk.injEq] at live
  have equal : entry' = entry := by
    cases entry
    cases entry'
    simp_all
  rw [found, found', equal]

/-- A table that represents its registry is sound. -/
theorem PropWorld.Represents.sound {state : TrackedTable}
    (rep : state.world.Represents state.reg)
    : state.Sound where
  indexed {dh idx} alive := by
    obtain ⟨entries, entry, present, length, found, back, live, _, _⟩ :=
      rep.entryOfHandle alive
    refine ⟨?_, entries, entry, present, length, found, back, live⟩
    rw [← length]
    exact (List.getElem?_eq_some_iff.mp found).1
  live := rep.live_iff
  indexUnshared := rep.propidx_injective
  serialUnshared := rep.serials.distinct
  retiredUnknown {serial} retired name value := by
    obtain ⟨⟨positive, _⟩, absent⟩ := rep.serials.retired retired
    have given : state.world.ref none = some none := rfl
    rcases propIndex_represents rep given serial with
      ⟨_, _, _, _, ⟨entry, live, ⟨handle, _⟩ | ⟨_, _, equal⟩⟩, _⟩ | ⟨err, looked, _, reason⟩
    · simp at handle
    · exact absurd equal (absent live)
    · rcases reason with ⟨_, rfl⟩ | ⟨notOne, _⟩
      · simp [gpgmeDataSetProp, gpgmeDataGetProp, looked]
      · exact absurd (by simp [OneGiven]; omega) notOne

/-- One tracked call on a table that fits. -/
theorem stepTracked_sound {state : TrackedTable} {op : PropOp}
    (rep : state.world.Represents state.reg) (allowed : op.Valid state.reg ∧ op.Fits state.reg)
    : ∃ event next,
        stepTracked state op = some (event, next)
        ∧ event.Sound
        ∧ next.world.Represents next.reg := by
  obtain ⟨answer, next, stepped, answers, kept⟩ := stepProp_represents rep allowed.1 allowed.2
  refine ⟨_, _, by simp [stepTracked, stepped]; exact ⟨rfl, rfl⟩, ⟨answers, ?_⟩, kept⟩
  rintro alloc addr rfl failed
  have same : state.reg.after answer (.new alloc addr) = state.reg := by
    cases addr <;> simp_all [Registry.after]
  obtain ⟨err, created, made, outcome, _⟩ :=
    gpgmeDataNew_represents alloc rep allowed.1.1 allowed.1.2 allowed.2
  simp only [stepProp, made, Option.map_some, Option.some.injEq, Prod.mk.injEq] at stepped
  obtain ⟨rfl, rfl⟩ := stepped
  have unmoved : created.propidx = state.world.propidx :=
    (outcome.resolve_left failed).2
  exact ⟨same, unmoved, fun alive => rep.entry_determined (same ▸ kept) unmoved alive⟩

/-- In every sequence of calls on live handles in which each creation finds fewer live
objects than an index of type `int` can address, no assertion fails, no access leaves the
table, every answer is the registry's, and the table is a faithful index of the live
objects.
-/
theorem propertyTable_sound (ops : List PropOp)
    (allowed
      : Machine.Along stepTracked
          (fun state op => op.Valid state.reg ∧ op.Fits state.reg) {} ops)
    : ∃ events last,
        Machine.run stepTracked {} ops = some (events, last)
        ∧ (∀ event ∈ events, event.Sound)
        ∧ last.Sound := by
  obtain ⟨events, last, ran, sound, rep⟩ :=
    Machine.run_progress stepTracked_sound PropWorld.represents_empty allowed
  exact ⟨events, last, ran, sound, rep.sound⟩

/-- The third object takes the slot that the first one had; its flag is set through its number and
read together with that of the second one, and the first number is not found.
-/
def reuseSlot : List PropOp :=
  let alloc : TableAlloc := fun _ => some (fun _ => {})
  [.new alloc (some 1), .new alloc (some 2), .release 1, .new alloc (some 3),
    .setProp none 3 .blankout 1, .getProp none 3 .blankout, .getProp none 2 .blankout,
    .getProp none 1 .blankout]

/-- The flags of the objects are kept apart where a slot is used again. -/
theorem propertyTable_sound_reused
    : ∃ events last,
        Machine.run stepTracked {} reuseSlot = some (events, last)
        ∧ (∀ event ∈ events, event.Sound)
        ∧ last.Sound
        ∧ last.world.propidx 3 = some 0
        ∧ last.world.propidx 2 = some 1 := by
  obtain ⟨events, last, ran, sound, lastSound⟩ := propertyTable_sound reuseSlot (by
    refine ⟨⟨by simp [PropOp.Valid], by simp [PropOp.Fits, maxTableSize]⟩, ?_⟩
    rintro event next ⟨rfl, rfl⟩
    refine ⟨⟨by simp [PropOp.Valid, Registry.after, Registry.insert],
      by simp [PropOp.Fits, Registry.after, Registry.insert, maxTableSize]⟩, ?_⟩
    rintro event next ⟨rfl, rfl⟩
    refine ⟨⟨by simp [PropOp.Valid, Registry.after, Registry.insert], trivial⟩, ?_⟩
    rintro event next ⟨rfl, rfl⟩
    refine ⟨⟨by simp [PropOp.Valid, Registry.after, Registry.insert, Registry.remove],
      by simp [PropOp.Fits, Registry.after, Registry.insert, Registry.remove, maxTableSize]⟩, ?_⟩
    rintro event next ⟨rfl, rfl⟩
    refine ⟨⟨by simp [PropOp.Valid], trivial⟩, fun _ _ _ => ?_⟩
    refine ⟨⟨by simp [PropOp.Valid], trivial⟩, fun _ _ _ => ?_⟩
    refine ⟨⟨by simp [PropOp.Valid], trivial⟩, fun _ _ _ => ?_⟩
    exact ⟨⟨by simp [PropOp.Valid], trivial⟩, fun _ _ _ => trivial⟩)
  cases ran
  exact ⟨_, _, rfl, sound, lastSound, rfl, rfl⟩

-----------------------------------------------------------------------------------------
-- A table with more slots than an index of type `int` can address
-----------------------------------------------------------------------------------------

/-- An allocator that never fails. -/
def ampleMemory : TableAlloc := fun _ => some (fun _ => {})

/-- Create the objects `1`, …, `n` in this order. -/
def createMany (n : Nat) : List PropOp :=
  (List.range n).map (fun k => .new ampleMemory (some (k + 1)))

/-- The first `n` slots are taken by the objects `1`, …, `n`, the others are unused. -/
def filledSlots (n free : Nat) : List Property :=
  (List.range n).map (fun k => { dh := some (k + 1), dserial := k + 1 })
    ++ List.replicate free ({} : Property)

/-- The state after `createMany n`: object `k + 1` holds slot `k`. -/
structure TrackedTable.Filled (state : TrackedTable) (n : Nat) : Prop where
  slots
    : (n = 0 ∧ state.world.tbl.table = none)
      ∨ ∃ free ≤ 32,
          state.world.tbl.table = some (filledSlots n free)
          ∧ state.world.tbl.size = n + free
  last : state.world.tbl.lastDserial = n
  index : ∀ {k}, k < n → state.world.propidx (k + 1) = some k
  created : state.reg.created = n
  live : ∀ k : Nat, (state.reg.live (k + 1)).isSome ↔ k < n

/-- The slots are the taken ones and the unused ones. -/
theorem filledSlots_length (n free : Nat) : (filledSlots n free).length = n + free := by
  simp [filledSlots]

/-- The scan for an unused slot stops behind the taken ones. -/
theorem findIdx_filledSlots (n free : Nat)
    : (filledSlots n free).findIdx (fun entry => entry.dh.isNone) = n := by
  have first : (List.replicate free ({} : Property)).findIdx (fun entry => entry.dh.isNone) = 0 := by
    cases free <;> simp [List.replicate_succ, List.findIdx_cons]
  rw [filledSlots, List.findIdx_append, List.findIdx_eq_length_of_false (by simp), first]
  simp

/-- The next object takes the first unused slot. -/
theorem set_filledSlots (n free : Nat)
    : (filledSlots n (free + 1)).set n { dh := some (n + 1), dserial := n + 1 }
      = filledSlots (n + 1) free := by
  rw [filledSlots, List.set_append_right _ _ (by simp)]
  simp [filledSlots, List.range_succ, List.replicate_succ]

/-- A free slot behind the taken ones goes to the next object. -/
theorem fillSlot_filledSlots {tbl : PropertyTable} {n free : Nat} (bound : n < 2 ^ 32)
    (present : tbl.table = some (filledSlots n (free + 1))) (last : tbl.lastDserial = n)
    : ∃ next,
        fillSlot tbl (n + 1) n = some ((0, n), next)
        ∧ next.table = some (filledSlots (n + 1) free)
        ∧ next.size = tbl.size
        ∧ next.lastDserial = n + 1 := by
  have serial : CInt.toSize (tbl.lastDserial + 1) = n + 1 := by
    rw [last]
    exact CInt.toSize_ofNat (show n + 1 < 2 ^ 64 by omega)
  refine ⟨{ tbl with table := some (filledSlots (n + 1) free), lastDserial := n + 1 }, ?_, rfl,
    rfl, rfl⟩
  simp only [fillSlot, present, serial, filledSlots_length, set_filledSlots]
  rw [if_pos (by omega)]

/-- A full table of that shape gets a chunk of unused slots. -/
theorem enlargeTable_filledSlots {tbl : PropertyTable} {n : Nat} (bound : n ≤ 2 ^ 31)
    (size : tbl.size = n)
    : enlargeTable ampleMemory tbl (filledSlots n 0)
      = (none, { tbl with table := some (filledSlots n 32), size := n + 32 }) := by
  obtain ⟨newsize, noOverflow⟩ := enlargedSize bound
  have whole : (filledSlots n 0).take n = filledSlots n 0 :=
    List.take_of_length_le (by simp [filledSlots_length])
  simp only [enlargeTable, size, newsize, if_neg noOverflow, ampleMemory, whole]
  simp [filledSlots]

/-- A table of that shape takes one object more, by cases on whether it exists and has a
free slot.
-/
theorem insertIntoPropertyTable_filled {state : TrackedTable} {n : Nat}
    (filled : state.Filled n) (bound : n ≤ 2 ^ 31)
    : ∃ tbl free,
        insertIntoPropertyTable ampleMemory state.world.tbl (n + 1) = some ((0, n), tbl)
        ∧ free ≤ 32
        ∧ tbl.table = some (filledSlots (n + 1) free)
        ∧ tbl.size = n + 1 + free
        ∧ tbl.lastDserial = n + 1 := by
  have scanned (free : Nat) (small : free ≤ 32)
      : scanFrom maxUnsigned (fun entry => entry.dh.isNone) (filledSlots n free) (n + free) 0
        = some n := by
    have fits : (filledSlots n free).length ≤ maxUnsigned := by
      simp only [filledSlots_length, maxUnsigned]
      omega
    have found := scan_eq (fun entry => entry.dh.isNone) fits
    rwa [filledSlots_length, findIdx_filledSlots] at found
  rcases filled.slots with ⟨rfl, absent⟩ | ⟨free, small, present, size⟩
  · have ensured : ensureTable ampleMemory state.world.tbl
        = (none, { state.world.tbl with table := some (filledSlots 0 32), size := 0 + 32 }) := by
      simp [ensureTable, absent, ampleMemory, filledSlots, propertyTableAllocationChunk]
    obtain ⟨next, placed, present, size, last⟩ :=
      @fillSlot_filledSlots
        { state.world.tbl with table := some (filledSlots 0 32), size := 0 + 32 } 0 31
        (by omega) rfl filled.last
    refine ⟨next, 31, ?_, by omega, present, size, last⟩
    simp only [insertIntoPropertyTable, ensured, scanned 32 (by omega)]
    rw [if_pos (by omega), placed]
  · have ensured : ensureTable ampleMemory state.world.tbl = (none, state.world.tbl) := by
      simp [ensureTable, present]
    simp only [insertIntoPropertyTable, ensured, present, size, scanned free small]
    cases free with
    | succ free =>
        obtain ⟨next, placed, present', size', last⟩ :=
          fillSlot_filledSlots (by omega) present filled.last
        rw [if_pos (by omega)]
        exact ⟨next, free, placed, by omega, present', by omega, last⟩
    | zero =>
        rw [if_neg (by omega), enlargeTable_filledSlots bound size]
        obtain ⟨next, placed, present', size', last⟩ :=
          @fillSlot_filledSlots
            { state.world.tbl with table := some (filledSlots n 32), size := n + 32 } n 31
            (by omega) rfl filled.last
        exact ⟨next, 31, placed, by omega, present', size', last⟩

/-- One more object is created. -/
theorem stepTracked_filled {state : TrackedTable} {n : Nat} (filled : state.Filled n)
    (bound : n ≤ 2 ^ 31)
    : ∃ event next,
        stepTracked state (.new ampleMemory (some (n + 1))) = some (event, next)
        ∧ next.Filled (n + 1) := by
  obtain ⟨tbl, free, inserted, small, present, size, last⟩ :=
    insertIntoPropertyTable_filled filled bound
  refine ⟨_, _, by simp [stepTracked, stepProp, gpgmeDataNew, inserted]; exact ⟨rfl, rfl⟩, ?_⟩
  refine ⟨Or.inr ⟨free, small, present, size⟩, last, ?_, ?_, ?_⟩
  · intro k inside
    by_cases same : k = n
    · simp [same]
    · simp only [Function.update_of_ne (show k + 1 ≠ n + 1 by omega)]
      exact filled.index (by omega)
  · simp [Registry.after, Registry.insert, filled.created]
  · intro k
    by_cases same : k = n
    · simp [Registry.after, Registry.insert, same]
    · have earlier := filled.live k
      simp only [Registry.after, if_true, Registry.insert,
        Function.update_of_ne (show k + 1 ≠ n + 1 by omega)]
      rw [earlier]
      omega

/-- By induction on the number of objects, up to one more than `int` has indices for. -/
theorem createMany_filled (n : Nat) (bound : n ≤ 2 ^ 31 + 1)
    : ∃ events last,
        Machine.run stepTracked {} (createMany n) = some (events, last)
        ∧ Machine.Along stepTracked (fun state op => op.Valid state.reg) {} (createMany n)
        ∧ last.Filled n := by
  induction n with
  | zero =>
      refine ⟨[], {}, rfl, trivial, Or.inl ⟨rfl, rfl⟩, rfl, ?_, rfl, ?_⟩
      · intro k impossible
        omega
      · simp
  | succ n ih =>
      obtain ⟨events, middle, ran, allowed, filled⟩ := ih (by omega)
      obtain ⟨event, last, stepped, filled'⟩ := stepTracked_filled filled (by omega)
      have split : createMany (n + 1) = createMany n ++ [.new ampleMemory (some (n + 1))] := by
        simp [createMany, List.range_succ]
      rw [split]
      refine ⟨events ++ [event], last, ?_, Machine.along_append ran allowed ⟨?_, ?_⟩, filled'⟩
      · refine Machine.run_append_iff.mpr ⟨events, middle, [event], ran, ?_, rfl⟩
        simp [Machine.run, stepped]
      · refine ⟨?_, by rw [filled.created]; omega⟩
        rintro dh ⟨rfl⟩
        have absent := filled.live n
        simpa using absent
      · exact fun _ _ _ => trivial

/-- When the index of the last object is negative as an `int`, a call by its handle leaves
the table.
-/
theorem createMany_getProp_faults (n : Nat) (bound : n ≤ 2 ^ 31) (negative : CInt.toInt n < 0)
    : Machine.Along stepTracked (fun state op => op.Valid state.reg) {}
        (createMany (n + 1) ++ [.getProp (some (n + 1)) 0 .blankout])
      ∧ Machine.run stepTracked {}
          (createMany (n + 1) ++ [.getProp (some (n + 1)) 0 .blankout])
        = none := by
  obtain ⟨events, last, ran, allowed, filled⟩ := createMany_filled (n + 1) (by omega)
  have index : last.world.propidx (n + 1) = some n := filled.index (by omega)
  have alive : (last.reg.live (n + 1)).isSome := (filled.live n).mpr (by omega)
  refine ⟨Machine.along_append ran allowed ⟨?_, fun _ _ _ => trivial⟩,
    Machine.run_append_fault ran ?_⟩
  · rintro target ⟨rfl⟩
    exact alive
  · have faults : gpgmeDataGetProp last.world.tbl (some ⟨n + 1, n⟩) 0 .blankout = none := by
      cases present : last.world.tbl.table <;>
        simp [gpgmeDataGetProp, propIndex, entryOfHandle, present, not_le.mpr negative]
    simp [Machine.run, stepTracked, stepProp, PropWorld.ref, index, faults]

/-- The 2^31 + 1st live object is the first whose index is not an `int`. -/
theorem propertyTable_index_overflows
    : Machine.Along stepTracked (fun state op => op.Valid state.reg) {}
        (createMany (2147483648 + 1) ++ [.getProp (some (2147483648 + 1)) 0 .blankout])
      ∧ Machine.run stepTracked {}
          (createMany (2147483648 + 1) ++ [.getProp (some (2147483648 + 1)) 0 .blankout])
        = none :=
  createMany_getProp_faults 2147483648 (by norm_num) (by norm_num [CInt.toInt])

end Gpgme.Data
