import Gpgme.Data.Registry

/-! Every function of the property table preserves its representation of the registry.
The proofs follow the functions of `data.c`, one spec lemma for each of them.
-/

namespace Gpgme.Data

-----------------------------------------------------------------------------------------
-- The representation
-----------------------------------------------------------------------------------------

/-- The pointer that a caller passes: a dead handle has no object to read from. -/
def PropWorld.ref (world : PropWorld) : Option Handle → Option (Option DataRef)
  | none => some none
  | some dh => (world.propidx dh).map (fun propidx => some ⟨dh, propidx⟩)

/-- The entries of the table; there are none before the first allocation. -/
def PropertyTable.entries (tbl : PropertyTable) : List Property := tbl.table.getD []

/-- The largest table whose indices fit the type `int` with which the functions count. -/
def maxTableSize : Nat := 2147483616

/-- The table holds exactly the live objects of the registry. -/
structure PropWorld.Represents (world : PropWorld) (reg : Registry) : Prop where
  sized : world.tbl.table = none ∨ world.tbl.entries.length = world.tbl.size
  aligned : 32 ∣ world.tbl.size
  bound : world.tbl.size ≤ maxTableSize
  occupied
    : ∀ {dh idx},
        world.propidx dh = some idx
        → ∃ entry,
            world.tbl.entries[idx]? = some entry
            ∧ entry.dh = some dh
            ∧ reg.live dh = some ⟨entry.dserial, entry.blankout⟩
  owned
    : ∀ {idx entry dh},
        world.tbl.entries[idx]? = some entry
        → entry.dh = some dh
        → world.propidx dh = some idx
  dead : ∀ {dh}, world.propidx dh = none → reg.live dh = none
  counted : world.tbl.entries.countP (fun entry => entry.dh.isSome) = reg.count
  last : world.tbl.lastDserial = reg.created
  serials : reg.SerialsUnique

/-- No table stands for no objects. -/
theorem PropWorld.represents_empty : ({} : PropWorld).Represents {} where
  sized := Or.inl rfl
  aligned := by simp
  bound := by simp
  occupied := by simp
  owned := by simp [PropertyTable.entries]
  dead := by simp
  counted := by simp [PropertyTable.entries]
  last := rfl
  serials := ⟨by simp, by simp, by simp⟩

-----------------------------------------------------------------------------------------
-- Finding a slot
-----------------------------------------------------------------------------------------

/-- Scanning the whole table finds the first entry that stops the loop, as long as the
index variable can hold the table size; by induction on the entries left.
-/
theorem scanFrom_eq {maxIdx : Nat} {stop : Property → Bool} {entries : List Property}
    (fits : entries.length ≤ maxIdx)
    : ∀ {left idx}, idx + left = entries.length
        → scanFrom maxIdx stop entries left idx
          = some (idx + (entries.drop idx).findIdx stop)
  | 0, idx, total => by
      rw [List.drop_eq_nil_of_le (by omega)]
      simp [scanFrom]
  | left + 1, idx, total => by
      have inside : idx < entries.length := by omega
      simp only [scanFrom, List.getElem?_eq_getElem inside, List.drop_eq_getElem_cons inside,
        List.findIdx_cons]
      cases stops : stop entries[idx] with
      | true => simp
      | false =>
          simp only [Bool.false_eq_true, if_false, cond_false, if_pos (show idx < maxIdx by omega),
            scanFrom_eq fits (show idx + 1 + left = entries.length by omega)]
          congr 1
          omega

/-- The scan finds what `findIdx` finds. -/
theorem scan_eq {maxIdx : Nat} (stop : Property → Bool) {entries : List Property}
    (fits : entries.length ≤ maxIdx)
    : scanFrom maxIdx stop entries entries.length 0 = some (entries.findIdx stop) := by
  simpa using scanFrom_eq fits (Nat.zero_add entries.length)

section Represents

variable {world : PropWorld} {reg : Registry}

/-- A live object's entry passes the checks of every access by handle. -/
theorem PropWorld.Represents.entryOfHandle (rep : world.Represents reg) {dh : Handle}
    {idx : Nat} (alive : world.propidx dh = some idx)
    : ∃ entries entry,
        world.tbl.table = some entries
        ∧ entries.length = world.tbl.size
        ∧ entries[idx]? = some entry
        ∧ entry.dh = some dh
        ∧ reg.live dh = some ⟨entry.dserial, entry.blankout⟩
        ∧ Data.entryOfHandle world.tbl ⟨dh, idx⟩ idx = some entry
        ∧ idx < 2 ^ 31 := by
  obtain ⟨entry, found, back, live⟩ := rep.occupied alive
  cases present : world.tbl.table with
  | none => simp [PropertyTable.entries, present] at found
  | some entries =>
      simp only [PropertyTable.entries, present, Option.getD_some] at found
      have length : entries.length = world.tbl.size := by
        simpa [PropertyTable.entries, present] using rep.sized
      have inside : idx < entries.length := (List.getElem?_eq_some_iff.mp found).1
      have bound := rep.bound
      simp only [maxTableSize] at bound
      refine ⟨entries, entry, rfl, length, found, back, live, ?_, by omega⟩
      have index : CInt.toUnsigned idx = idx := by
        rw [CInt.toUnsigned_of_range (by omega) (by omega)]
        simp
      simp only [Data.entryOfHandle, present, index, ← length, inside, Int.natCast_nonneg,
        and_self, if_true, Int.toNat_natCast, found, back]

/-- Exactly the live objects have an index, and no two of them share it. -/
theorem PropWorld.Represents.propidx_injective (rep : world.Represents reg)
    {dh other : Handle} {idx : Nat} (left : world.propidx dh = some idx)
    (right : world.propidx other = some idx)
    : dh = other := by
  obtain ⟨entry, found, back, _⟩ := rep.occupied left
  obtain ⟨entry', found', back', _⟩ := rep.occupied right
  rw [found] at found'
  cases found'
  exact Option.some.inj (back.symm.trans back')

/-- An object is live exactly when it has an index. -/
theorem PropWorld.Represents.live_iff (rep : world.Represents reg) (dh : Handle)
    : (reg.live dh).isSome ↔ (world.propidx dh).isSome := by
  cases alive : world.propidx dh with
  | none => simp [rep.dead alive]
  | some idx =>
      obtain ⟨_, _, _, live⟩ := rep.occupied alive
      simp [live]

-----------------------------------------------------------------------------------------
-- Creating an object
-----------------------------------------------------------------------------------------

/-- A table without entries, whatever size is recorded for it, represents an empty
registry; a chunk of unused slots may be added to any table.
-/
theorem PropWorld.Represents.appendUnused (rep : world.Represents reg)
    (tail : List Property) (size : Nat) (unused : ∀ entry ∈ tail, entry.dh = none)
    (length : world.tbl.entries.length + tail.length = size) (aligned : 32 ∣ size)
    (bound : size ≤ maxTableSize)
    : ({ world with
          tbl := { world.tbl with table := some (world.tbl.entries ++ tail), size } }
        : PropWorld).Represents reg where
  sized := Or.inr (by simpa [PropertyTable.entries] using length)
  aligned := aligned
  bound := bound
  occupied {dh idx} alive := by
    obtain ⟨entry, found, back, live⟩ := rep.occupied alive
    have inside := (List.getElem?_eq_some_iff.mp found).1
    exact ⟨entry, (List.getElem?_append_left inside).trans found, back, live⟩
  owned {idx entry dh} found back := by
    simp only [PropertyTable.entries, Option.getD_some] at found
    by_cases inside : idx < world.tbl.entries.length
    · rw [← PropertyTable.entries, List.getElem?_append_left inside] at found
      exact rep.owned found back
    · rw [← PropertyTable.entries, List.getElem?_append_right (by omega)] at found
      have free := unused entry (List.mem_of_getElem? found)
      simp [free] at back
  dead := rep.dead
  counted := by
    have none : tail.countP (fun entry => entry.dh.isSome) = 0 := by
      refine List.countP_eq_zero.mpr ?_
      intro entry member
      simp [unused entry member]
    have counted := rep.counted
    simp only [PropertyTable.entries, Option.getD_some, List.countP_append] at counted ⊢
    omega
  last := rep.last
  serials := rep.serials

/-- The entries of a table that is there, and how many they are. -/
theorem PropWorld.Represents.entries_eq (rep : world.Represents reg) {entries : List Property}
    (present : world.tbl.table = some entries)
    : world.tbl.entries = entries ∧ entries.length = world.tbl.size := by
  have sized := rep.sized
  simp only [PropertyTable.entries, present, Option.getD_some, reduceCtorEq, false_or] at sized
  exact ⟨by simp [PropertyTable.entries, present], sized⟩

/-- After the first part of an insertion the table exists, or memory was short; either way
it represents the same registry.
-/
theorem ensureTable_represents (alloc : TableAlloc) (rep : world.Represents reg)
    : ∃ tbl,
        ({ world with tbl } : PropWorld).Represents reg
        ∧ (ensureTable alloc world.tbl = (some (gpgError ErrCode.enomem), tbl)
          ∨ (ensureTable alloc world.tbl = (none, tbl) ∧ tbl.table ≠ none)) := by
  cases present : world.tbl.table with
  | some entries =>
      exact ⟨world.tbl, rep, Or.inr ⟨by simp [ensureTable, present], by simp [present]⟩⟩
  | none =>
      have empty : world.tbl.entries = [] := by simp [PropertyTable.entries, present]
      cases granted : alloc propertyTableAllocationChunk with
      | none =>
          -- Only the recorded size has changed, and there is no table it belongs to.
          refine ⟨{ world.tbl with size := propertyTableAllocationChunk }, ?_,
            Or.inl (by simp [ensureTable, present, granted])⟩
          exact {
            sized := Or.inl present
            aligned := by simp [propertyTableAllocationChunk]
            bound := by simp [propertyTableAllocationChunk, maxTableSize]
            occupied := rep.occupied
            owned := rep.owned
            dead := rep.dead
            counted := rep.counted
            last := rep.last
            serials := rep.serials
          }
      | some junk =>
          have grown := rep.appendUnused (List.replicate propertyTableAllocationChunk {})
            propertyTableAllocationChunk (by simp +contextual) (by simp [empty])
            (by simp [propertyTableAllocationChunk])
            (by simp [propertyTableAllocationChunk, maxTableSize])
          rw [empty, List.nil_append] at grown
          exact ⟨_, grown, Or.inr ⟨by simp [ensureTable, present, granted], by simp⟩⟩

/-- Neither the number of slots nor their size in bytes overflows for tables of this size. -/
theorem enlargedSize {size : Nat} (bound : size ≤ 2 ^ 31)
    : CInt.toUnsigned (size + propertyTableAllocationChunk) = size + 32
      ∧ ¬ CInt.toSize ((size + 32 : Nat) * sizeofProperty)
          < CInt.toSize (size * sizeofProperty) := by
  constructor
  · rw [CInt.toUnsigned_of_range (by omega) (by simp [propertyTableAllocationChunk]; omega)]
    simp [propertyTableAllocationChunk]
    omega
  · simp only [sizeofProperty]
    rw [CInt.toSize_of_range (by omega) (by omega), CInt.toSize_of_range (by omega) (by omega)]
    omega

/-- A full table is enlarged without disturbing the objects in it, or memory was short. -/
theorem enlargeTable_represents (alloc : TableAlloc) (rep : world.Represents reg)
    {entries : List Property} (present : world.tbl.table = some entries)
    (full : ∀ entry ∈ entries, entry.dh.isSome) (room : reg.count < maxTableSize)
    : ∃ tbl,
        ({ world with tbl } : PropWorld).Represents reg
        ∧ (enlargeTable alloc world.tbl entries = (some (gpgError ErrCode.enomem), tbl)
          ∨ (enlargeTable alloc world.tbl entries = (none, tbl)
            ∧ ∃ larger entry,
                tbl.table = some larger
                ∧ larger[world.tbl.size]? = some entry
                ∧ entry.dh = none)) := by
  obtain ⟨entriesEq, length⟩ := rep.entries_eq present
  have counted := rep.counted
  rw [entriesEq, List.countP_eq_length.mpr full] at counted
  obtain ⟨chunks, aligned⟩ := rep.aligned
  have bound := rep.bound
  simp only [maxTableSize] at bound room
  obtain ⟨newsize, noOverflow⟩ := enlargedSize (show world.tbl.size ≤ 2 ^ 31 by omega)
  cases granted : alloc (world.tbl.size + 32) with
  | none =>
      exact ⟨world.tbl, rep, Or.inl (by simp [enlargeTable, newsize, granted])⟩
  | some junk =>
      have grown := rep.appendUnused
        ((List.range' world.tbl.size 32).map (fun idx => { junk idx with dh := none }))
        (world.tbl.size + 32)
        (by
          intro entry member
          obtain ⟨idx, _, rfl⟩ := List.mem_map.mp member
          rfl)
        (by simp [entriesEq, length]) (by omega) (by simp only [maxTableSize]; omega)
      refine ⟨_, grown, Or.inr ⟨?_, _, { junk world.tbl.size with dh := none }, rfl, ?_, rfl⟩⟩
      · have whole : entries.take world.tbl.size = entries :=
          List.take_of_length_le (by omega)
        have chunk : world.tbl.size + 32 - world.tbl.size = 32 := by omega
        simp only [enlargeTable, newsize, if_neg noOverflow, granted, whole, chunk, entriesEq]
      · rw [entriesEq, List.getElem?_append_right (by omega)]
        simp [length]

/-- Overwriting one slot represents a changed registry when only the objects of that slot,
before and after, are affected.
-/
theorem PropWorld.Represents.setSlot (rep : world.Represents reg) {entries : List Property}
    {entry taken : Property} {idx lastDserial : Nat} {propidx : Handle → Option Nat}
    {changed : Registry} (present : world.tbl.table = some entries)
    (found : entries[idx]? = some entry)
    (indexed
      : ∀ {dh slot},
          propidx dh = some slot
          ↔ (slot ≠ idx ∧ world.propidx dh = some slot) ∨ (slot = idx ∧ taken.dh = some dh))
    (kept
      : ∀ {dh slot}, slot ≠ idx → world.propidx dh = some slot → changed.live dh = reg.live dh)
    (entered
      : ∀ {dh},
          taken.dh = some dh → changed.live dh = some ⟨taken.dserial, taken.blankout⟩)
    (dead : ∀ {dh}, propidx dh = none → changed.live dh = none)
    (counted
      : reg.count - entry.dh.isSome.toNat + taken.dh.isSome.toNat = changed.count)
    (last : lastDserial = changed.created) (serials : changed.SerialsUnique)
    : ({ tbl := { world.tbl with table := some (entries.set idx taken), lastDserial }, propidx }
        : PropWorld).Represents changed := by
  obtain ⟨entriesEq, length⟩ := rep.entries_eq present
  obtain ⟨inside, atIdx⟩ := List.getElem?_eq_some_iff.mp found
  exact {
    sized := Or.inr (by simpa [PropertyTable.entries] using length)
    aligned := rep.aligned
    bound := rep.bound
    occupied := by
      intro dh slot alive
      rcases indexed.mp alive with ⟨apart, before⟩ | ⟨rfl, back⟩
      · obtain ⟨held, at', back, live⟩ := rep.occupied before
        refine ⟨held, ?_, back, (kept apart before).trans live⟩
        rw [entriesEq] at at'
        simpa [PropertyTable.entries, List.getElem?_set_ne apart.symm] using at'
      · exact ⟨taken, by simp [PropertyTable.entries, inside], back, entered back⟩
    owned := by
      intro slot held dh at' back
      simp only [PropertyTable.entries, Option.getD_some] at at'
      refine indexed.mpr ?_
      by_cases same : slot = idx
      · subst same
        rw [List.getElem?_set_self inside] at at'
        cases at'
        exact Or.inr ⟨rfl, back⟩
      · rw [List.getElem?_set_ne (Ne.symm same), ← entriesEq] at at'
        exact Or.inl ⟨same, rep.owned at' back⟩
    dead
    counted := by
      have before := rep.counted
      rw [entriesEq] at before
      simp only [PropertyTable.entries, Option.getD_some, List.countP_set inside, atIdx, before]
      rw [← counted]
      cases entry.dh <;> cases taken.dh <;> rfl
    last
    serials
  }

/-- Taking an unused slot for a new object enters that object into the registry. -/
theorem fillSlot_represents (rep : world.Represents reg) {entries : List Property}
    {entry : Property} {idx : Nat} {dh : Handle}
    (present : world.tbl.table = some entries) (found : entries[idx]? = some entry)
    (free : entry.dh = none) (fresh : reg.live dh = none)
    (numbers : reg.created + 1 < 2 ^ 64)
    : ∃ tbl,
        fillSlot world.tbl dh idx = some ((0, idx), tbl)
        ∧ ({ tbl, propidx := Function.update world.propidx dh (some idx) }
            : PropWorld).Represents (reg.insert dh) := by
  obtain ⟨entriesEq, _⟩ := rep.entries_eq present
  have inside := (List.getElem?_eq_some_iff.mp found).1
  have unknown : world.propidx dh = none := by
    simpa [fresh] using rep.live_iff dh
  have serial : CInt.toSize (world.tbl.lastDserial + 1) = reg.created + 1 := by
    rw [rep.last]
    exact_mod_cast CInt.toSize_ofNat numbers
  -- No object was using the slot.
  have empty {other} : world.propidx other ≠ some idx := by
    intro alive
    obtain ⟨held, at', back, _⟩ := rep.occupied alive
    rw [entriesEq, found] at at'
    cases at'
    simp [free] at back
  refine ⟨_, by simp only [fillSlot, present, if_pos inside]; rfl, ?_⟩
  refine rep.setSlot present found ?_ ?_ ?_ ?_ ?_ ?_ (rep.serials.insert dh)
  · intro other slot
    by_cases same : other = dh
    · simp [same, unknown, eq_comm]
    · simp only [Function.update_of_ne same, Option.some.injEq, Ne.symm same, and_false,
        or_false]
      exact ⟨fun alive => ⟨fun here => empty (here ▸ alive), alive⟩, And.right⟩
  · intro other slot _ alive
    have apart : other ≠ dh := by
      rintro rfl
      simp [unknown] at alive
    simp [Registry.insert, apart]
  · intro other back
    cases back
    simp [Registry.insert, serial]
  · intro other gone
    by_cases same : other = dh
    · simp [same] at gone
    · simpa [Registry.insert, same] using rep.dead (by simpa [same] using gone)
  · simp [free, Registry.insert]
  · exact serial

/-- An insertion enters the object into the registry, or fails for want of memory and
leaves every object's entry as it is.
-/
theorem insertIntoPropertyTable_represents (alloc : TableAlloc) (rep : world.Represents reg)
    {dh : Handle} (fresh : reg.live dh = none) (numbers : reg.created + 1 < 2 ^ 64)
    (room : reg.count < maxTableSize)
    : ∃ err idx tbl,
        insertIntoPropertyTable alloc world.tbl dh = some ((err, idx), tbl)
        ∧ ((err = 0
            ∧ ({ tbl, propidx := Function.update world.propidx dh (some idx) }
                : PropWorld).Represents (reg.insert dh))
          ∨ (err = gpgError ErrCode.enomem
            ∧ ({ world with tbl } : PropWorld).Represents reg)) := by
  obtain ⟨ready, readyRep, failed | ⟨ensured, exists'⟩⟩ := ensureTable_represents alloc rep
  · exact ⟨_, 0, ready, by simp [insertIntoPropertyTable, failed], Or.inr ⟨rfl, readyRep⟩⟩
  obtain ⟨entries, present⟩ := Option.ne_none_iff_exists'.mp exists'
  obtain ⟨_, length⟩ := readyRep.entries_eq present
  have bound := readyRep.bound
  simp only [maxTableSize] at bound length
  have scanned : scanFrom maxUnsigned (fun entry => entry.dh.isNone) entries ready.size 0
      = some (entries.findIdx (fun entry => entry.dh.isNone)) := by
    rw [← length]
    exact scan_eq _ (by simp only [maxUnsigned]; omega)
  by_cases free : entries.findIdx (fun entry => entry.dh.isNone) < ready.size
  · have inside := free
    rw [← length] at inside
    have unused : (entries[entries.findIdx (fun entry => entry.dh.isNone)]).dh = none := by
      simpa using List.findIdx_getElem (w := inside)
    obtain ⟨tbl, filled, filledRep⟩ :=
      fillSlot_represents readyRep present (List.getElem?_eq_getElem inside) unused fresh numbers
    refine ⟨0, _, tbl, ?_, Or.inl ⟨rfl, filledRep⟩⟩
    simp only [insertIntoPropertyTable, ensured, present, scanned, if_pos free]
    exact filled
  · have full : ∀ entry ∈ entries, entry.dh.isSome := by
      intro entry member
      have passed := List.findIdx_eq_length.mp
        (Nat.le_antisymm List.findIdx_le_length
          (show entries.length ≤ entries.findIdx (fun entry => entry.dh.isNone) by omega))
        entry member
      simpa [Option.isSome_iff_ne_none] using passed
    obtain ⟨larger, largerRep, failed | ⟨enlarged, entries', entry, present', found, unused⟩⟩ :=
      enlargeTable_represents alloc readyRep present full room
    · refine ⟨_, 0, larger, ?_, Or.inr ⟨rfl, largerRep⟩⟩
      simp only [insertIntoPropertyTable, ensured, present, scanned, if_neg free, failed]
    · obtain ⟨tbl, filled, filledRep⟩ :=
        fillSlot_represents largerRep present' found unused fresh numbers
      refine ⟨0, _, tbl, ?_, Or.inl ⟨rfl, filledRep⟩⟩
      simp only [insertIntoPropertyTable, ensured, present, scanned, if_neg free, enlarged]
      exact filled

/-- Releasing a live object passes all checks and retires it. -/
theorem gpgmeDataRelease_represents (rep : world.Represents reg) {dh : Handle} {idx : Nat}
    (alive : world.propidx dh = some idx)
    : ∃ next, gpgmeDataRelease world dh = some next ∧ next.Represents (reg.remove dh) := by
  obtain ⟨entries, entry, present, _, found, back, live, checked, _⟩ :=
    rep.entryOfHandle alive
  refine ⟨{
      tbl := { world.tbl with table := some (entries.set idx { entry with dh := none }) }
      propidx := Function.update world.propidx dh none
    }, by simp only [gpgmeDataRelease, alive, removeFromPropertyTable, present, checked,
      Option.map_some], ?_⟩
  refine rep.setSlot present found ?_ ?_ ?_ ?_ ?_ rep.last (rep.serials.remove dh)
  · intro other slot
    by_cases same : other = dh
    · subst same
      simp [alive, eq_comm]
    · simp only [Function.update_of_ne same, reduceCtorEq, and_false, or_false]
      exact ⟨fun held => ⟨fun here => same (rep.propidx_injective held (here ▸ alive)), held⟩,
        And.right⟩
  · intro other slot apart held
    have different : other ≠ dh := by
      rintro rfl
      exact apart (Option.some.inj (held.symm.trans alive))
    simp [Registry.remove, different]
  · intro other impossible
    simp at impossible
  · intro other gone
    by_cases same : other = dh
    · simp [Registry.remove, same]
    · simpa [Registry.remove, same] using rep.dead (by simpa [same] using gone)
  · simp [back, Registry.remove]

-----------------------------------------------------------------------------------------
-- Accessing properties
-----------------------------------------------------------------------------------------

/-- The table index is looked up exactly for the designated object; otherwise the access
is refused without a fault.
-/
theorem propIndex_represents (rep : world.Represents reg) {dh : Option Handle}
    {ref : Option DataRef} (given : world.ref dh = some ref) (dserial : Nat)
    : (∃ idx target,
        propIndex world.tbl ref dserial = some (.ok idx)
        ∧ OneGiven dh dserial
        ∧ reg.Designates dh dserial target
        ∧ world.propidx target = some idx)
      ∨ (∃ err,
          propIndex world.tbl ref dserial = some (.error err)
          ∧ (¬ ∃ target, reg.Designates dh dserial target)
          ∧ ((OneGiven dh dserial ∧ err = gpgError ErrCode.notFound)
            ∨ (¬ OneGiven dh dserial ∧ err = gpgError ErrCode.invValue))) := by
  cases dh with
  | some target =>
      obtain ⟨idx, alive, rfl⟩ := Option.map_eq_some_iff.mp given
      obtain ⟨_, entry, _, _, _, _, live, checked, small⟩ := rep.entryOfHandle alive
      by_cases zero : dserial = 0
      · left
        refine ⟨idx, target, ?_, by simp [OneGiven, zero],
          ⟨_, live, Or.inl ⟨rfl, zero⟩⟩, alive⟩
        have index : CInt.toInt idx = idx := CInt.toInt_of_range (by omega) (by omega)
        simp [propIndex, zero, index, checked]
      · right
        refine ⟨_, by simp [propIndex, zero], ?_, Or.inr ⟨by simp [OneGiven, zero], rfl⟩⟩
        rintro ⟨_, _, _, ⟨_, impossible⟩ | ⟨impossible, _⟩⟩
        · exact zero impossible
        · simp at impossible
  | none =>
      cases given
      by_cases zero : dserial = 0
      · right
        refine ⟨_, by simp [propIndex, zero], ?_, Or.inr ⟨by simp [OneGiven, zero], rfl⟩⟩
        rintro ⟨_, _, _, ⟨impossible, _⟩ | ⟨_, impossible, _⟩⟩
        · simp at impossible
        · exact impossible zero
      have oneGiven : OneGiven none dserial := by simp [OneGiven, zero]
      -- A live object with this number has an entry that stops the scan.
      have stops {target} (designated : reg.Designates none dserial target)
          : ∃ entry ∈ world.tbl.entries,
              (entry.dh.isSome && entry.dserial == dserial) = true := by
        obtain ⟨held, live, ⟨impossible, _⟩ | ⟨_, _, serial⟩⟩ := designated
        · simp at impossible
        have known : (world.propidx target).isSome := by
          rw [← rep.live_iff, live, Option.isSome_some]
        obtain ⟨idx, alive⟩ := Option.isSome_iff_exists.mp known
        obtain ⟨entry, found, back, live'⟩ := rep.occupied alive
        rw [live] at live'
        cases live'
        exact ⟨entry, List.mem_of_getElem? found, by simpa [back] using serial⟩
      cases present : world.tbl.table with
      | none =>
          right
          refine ⟨_, by simp [propIndex, zero, present], ?_, Or.inl ⟨oneGiven, rfl⟩⟩
          rintro ⟨target, designated⟩
          obtain ⟨entry, member, _⟩ := stops designated
          simp [PropertyTable.entries, present] at member
      | some entries =>
          obtain ⟨entriesEq, length⟩ := rep.entries_eq present
          have bound := rep.bound
          simp only [maxTableSize] at bound
          have scanned := scan_eq (fun entry => entry.dh.isSome && entry.dserial == dserial)
            (show entries.length ≤ maxInt by simp only [maxInt]; omega)
          rw [length] at scanned
          rw [entriesEq] at stops
          by_cases inside : entries.findIdx
              (fun entry => entry.dh.isSome && entry.dserial == dserial) < world.tbl.size
          · left
            have hit := inside
            rw [← length] at hit
            have stopped := List.findIdx_getElem (w := hit)
            simp only [Bool.and_eq_true, beq_iff_eq] at stopped
            obtain ⟨target, back⟩ := Option.isSome_iff_exists.mp stopped.1
            have alive := rep.owned (by rw [entriesEq]; exact List.getElem?_eq_getElem hit) back
            obtain ⟨entry, found, _, live⟩ := rep.occupied alive
            rw [entriesEq, List.getElem?_eq_getElem hit] at found
            cases found
            exact ⟨_, target, by simp [propIndex, zero, present, scanned, inside], oneGiven,
              ⟨_, live, Or.inr ⟨rfl, zero, stopped.2⟩⟩, alive⟩
          · right
            refine ⟨_, by simp [propIndex, zero, present, scanned, inside], ?_,
              Or.inl ⟨oneGiven, rfl⟩⟩
            rintro ⟨target, designated⟩
            obtain ⟨entry, member, hit⟩ := stops designated
            exact inside (length ▸ List.findIdx_lt_length_of_exists ⟨entry, member, hit⟩)

/-- Setting a property answers as the registry demands and changes only the flag of the
designated object.
-/
theorem gpgmeDataSetProp_represents (rep : world.Represents reg) {dh : Option Handle}
    {ref : Option DataRef} (given : world.ref dh = some ref) (dserial : Nat)
    (name : DataProp) (value : Int)
    : ∃ tbl,
        gpgmeDataSetProp world.tbl ref dserial name value
          = some (reg.accessError dh dserial name, tbl)
        ∧ ({ world with tbl } : PropWorld).Represents
            (reg.after {} (.setProp dh dserial name value)) := by
  rcases propIndex_represents rep given dserial with
    ⟨idx, target, looked, oneGiven, designated, alive⟩ | ⟨err, looked, nobody, reason⟩
  · have some' : ∃ target, reg.Designates dh dserial target := ⟨target, designated⟩
    cases name with
    | none =>
        exact ⟨world.tbl, by simp [gpgmeDataSetProp, looked, Registry.accessError, oneGiven,
          some'], by simpa [Registry.after] using rep⟩
    | other =>
        exact ⟨world.tbl, by simp [gpgmeDataSetProp, looked, Registry.accessError, oneGiven,
          some'], by simpa [Registry.after] using rep⟩
    | blankout =>
        obtain ⟨entries, entry, present, _, found, back, live, _, _⟩ := rep.entryOfHandle alive
        have chosen : some'.choose = target :=
          rep.serials.designated_unique some'.choose_spec designated
        refine ⟨{ world.tbl with
            table := some (entries.set idx { entry with blankout := value != 0 }) },
          by simp [gpgmeDataSetProp, looked, present, found, Registry.accessError, oneGiven,
            some'], ?_⟩
        rw [Registry.after, dif_pos some', chosen]
        refine rep.setSlot present found ?_ ?_ ?_ ?_ ?_ rep.last (rep.serials.setFlag _ _)
        · intro other slot
          by_cases same : slot = idx
          · subst same
            simp only [ne_eq, not_true_eq_false, false_and, true_and, false_or, back]
            constructor
            · intro held
              rw [rep.propidx_injective held alive]
            · intro held
              cases held
              exact alive
          · simp [same]
        · intro other slot apart held
          have different : other ≠ target := by
            rintro rfl
            exact apart (Option.some.inj (held.symm.trans alive))
          simp [Registry.setFlag, different]
        · intro other held
          cases back.symm.trans held
          simp [Registry.setFlag, live]
        · intro other gone
          have different : other ≠ target := by
            rintro rfl
            simp [alive] at gone
          simpa [Registry.setFlag, different] using rep.dead gone
        · have counted := rep.counted
          have member : 0 < reg.count := by
            rw [← counted]
            refine List.countP_pos_iff.mpr ⟨entry, ?_, by simp [back]⟩
            exact List.mem_of_getElem? ((rep.entries_eq present).1 ▸ found)
          simp only [back, Registry.setFlag, Option.isSome_some, Bool.toNat_true]
          omega
  · refine ⟨world.tbl, ?_, ?_⟩
    · rcases reason with ⟨oneGiven, rfl⟩ | ⟨oneGiven, rfl⟩ <;>
        simp [gpgmeDataSetProp, looked, Registry.accessError, oneGiven, nobody]
    · cases name <;> simpa [Registry.after, nobody] using rep

/-- Reading a property answers as the registry demands. -/
theorem gpgmeDataGetProp_represents (rep : world.Represents reg) {dh : Option Handle}
    {ref : Option DataRef} (given : world.ref dh = some ref) (dserial : Nat)
    (name : DataProp)
    : ∃ err value,
        gpgmeDataGetProp world.tbl ref dserial name = some (err, value)
        ∧ reg.Answers { err, value } (.getProp dh dserial name) := by
  rcases propIndex_represents rep given dserial with
    ⟨idx, target, looked, oneGiven, designated, alive⟩ | ⟨err, looked, nobody, reason⟩
  · have some' : ∃ target, reg.Designates dh dserial target := ⟨target, designated⟩
    obtain ⟨entries, entry, present, _, found, _, live, _, _⟩ := rep.entryOfHandle alive
    cases name with
    | none =>
        refine ⟨0, 0, by simp [gpgmeDataGetProp, looked], ?_⟩
        simp [Registry.Answers, Registry.accessError, oneGiven, some']
    | other =>
        refine ⟨gpgError ErrCode.unknownName, 0, by simp [gpgmeDataGetProp, looked], ?_⟩
        simp [Registry.Answers, Registry.accessError, oneGiven, some']
    | blankout =>
        refine ⟨0, entry.blankout.toNat, by simp [gpgmeDataGetProp, looked, present, found], ?_⟩
        refine ⟨by simp [Registry.accessError, oneGiven, some'], by simp, by simp, ?_⟩
        intro other held _ designated' live'
        cases rep.serials.designated_unique designated designated'
        rw [live] at live'
        cases live'
        rfl
  · refine ⟨err, 0, by simp [gpgmeDataGetProp, looked], ?_, by simp, by simp, ?_⟩
    · rcases reason with ⟨oneGiven, rfl⟩ | ⟨oneGiven, rfl⟩ <;>
        simp [Registry.accessError, oneGiven, nobody]
    · intro target _ _ designated
      exact absurd ⟨target, designated⟩ nobody

/-- The serial number of a live object is the one the registry gave it. -/
theorem gpgmeDataGetDserial_represents (rep : world.Represents reg) {dh : Option Handle}
    {ref : Option DataRef} (given : world.ref dh = some ref)
    : ∃ value,
        gpgmeDataGetDserial world.tbl ref = some value
        ∧ reg.Answers { value } (.getDserial dh) := by
  cases dh with
  | none =>
      cases given
      exact ⟨0, rfl, rfl⟩
  | some target =>
      obtain ⟨idx, alive, rfl⟩ := Option.map_eq_some_iff.mp given
      obtain ⟨_, entry, _, _, _, _, live, checked, _⟩ := rep.entryOfHandle alive
      refine ⟨entry.dserial, by simp [gpgmeDataGetDserial, checked], ?_⟩
      intro held live'
      rw [live] at live'
      cases live'
      rfl

/-- A creation enters the new object, or fails for want of memory with every index and
every entry of a live object as before.
-/
theorem gpgmeDataNew_represents (alloc : TableAlloc) (rep : world.Represents reg)
    {addr : Option Handle} (fresh : ∀ dh, addr = some dh → reg.live dh = none)
    (numbers : reg.created + 1 < 2 ^ 64) (room : reg.count < maxTableSize)
    : ∃ err next,
        gpgmeDataNew alloc world addr = some (err, next)
        ∧ (err = 0 ∨ (err = gpgError ErrCode.enomem ∧ next.propidx = world.propidx))
        ∧ next.Represents (reg.after { err } (.new alloc addr)) := by
  have nonzero : gpgError ErrCode.enomem ≠ 0 := by decide
  cases addr with
  | none => exact ⟨_, world, rfl, Or.inr ⟨rfl, rfl⟩, by simpa [Registry.after] using rep⟩
  | some dh =>
      obtain ⟨err, idx, tbl, inserted, ⟨rfl, entered⟩ | ⟨rfl, kept⟩⟩ :=
        insertIntoPropertyTable_represents alloc rep (fresh dh rfl) numbers room
      · exact ⟨0, { tbl, propidx := Function.update world.propidx dh (some idx) },
          by simp [gpgmeDataNew, inserted], Or.inl rfl, by simpa [Registry.after] using entered⟩
      · exact ⟨gpgError ErrCode.enomem, { world with tbl },
          by simp [gpgmeDataNew, inserted, nonzero], Or.inr ⟨rfl, rfl⟩,
          by simpa [Registry.after, nonzero] using kept⟩

end Represents

end Gpgme.Data
