import Gpgme.Data.PropertyTable

/-! What is left of the property table when the flag of one object is hidden.
Every function of `data.c` does the same to two tables that agree apart from that flag.
-/

namespace Gpgme.Data

-----------------------------------------------------------------------------------------
-- Hiding the flag of an object
-----------------------------------------------------------------------------------------

/-- An entry without the flag of the object with the number `serial`; nothing is left of an
unused entry.
-/
def Property.hide (serial : Nat) (entry : Property) : Property :=
  if entry.dh = none then {}
  else if entry.dserial = serial then { entry with blankout := false }
  else entry

def PropertyTable.hide (serial : Nat) (tbl : PropertyTable) : PropertyTable :=
  { tbl with table := tbl.table.map (List.map (Property.hide serial)) }

section Hide

variable (serial : Nat)

@[simp]
theorem Property.hide_dh (entry : Property) : (entry.hide serial).dh = entry.dh := by
  unfold hide
  split
  · next unused => rw [unused]
  · split <;> rfl

theorem Property.hide_dserial {entry : Property} (used : entry.dh.isSome)
    : (entry.hide serial).dserial = entry.dserial := by
  have used' : entry.dh ≠ none := Option.isSome_iff_ne_none.mp used
  simp only [hide, if_neg used']
  split <;> rfl

theorem Property.hide_of_ne {entry : Property} (used : entry.dh.isSome)
    (other : entry.dserial ≠ serial)
    : entry.hide serial = entry := by
  simp [hide, Option.isSome_iff_ne_none.mp used, other]

@[simp]
theorem Property.hide_hide (entry : Property)
    : (entry.hide serial).hide serial = entry.hide serial := by
  unfold hide
  repeat' split
  all_goals simp_all

@[simp]
theorem Property.hide_comp_hide
    : Property.hide serial ∘ Property.hide serial = Property.hide serial :=
  funext (Property.hide_hide serial)

theorem Property.hide_unused {entry : Property} (unused : entry.dh = none)
    : entry.hide serial = {} := by
  simp [hide, unused]

@[simp]
theorem PropertyTable.hide_size (tbl : PropertyTable) : (tbl.hide serial).size = tbl.size := by
  cases tbl
  rfl

@[simp]
theorem PropertyTable.hide_lastDserial (tbl : PropertyTable)
    : (tbl.hide serial).lastDserial = tbl.lastDserial :=
  rfl

theorem PropertyTable.hide_table (tbl : PropertyTable)
    : (tbl.hide serial).table = tbl.table.map (List.map (Property.hide serial)) :=
  rfl

theorem PropertyTable.hide_again (tbl : PropertyTable)
    : (tbl.hide serial).hide serial = tbl.hide serial := by
  simp [PropertyTable.hide, Option.map_map]

theorem scanFrom_hide (maxIdx : Nat) (stop : Property → Bool)
    (same : ∀ entry, stop (Property.hide serial entry) = stop entry) (entries : List Property)
    (left idx : Nat)
    : scanFrom maxIdx stop (entries.map (Property.hide serial)) left idx
      = scanFrom maxIdx stop entries left idx := by
  induction left generalizing idx with
  | zero => rfl
  | succ left ih =>
      simp only [scanFrom, List.getElem?_map]
      cases entries[idx]? with
      | none => rfl
      | some entry => simp only [Option.map_some, same, ih]

theorem hasSerial_hide (dserial : Nat) (entry : Property)
    : ((entry.hide serial).dh.isSome && (entry.hide serial).dserial == dserial)
      = (entry.dh.isSome && entry.dserial == dserial) := by
  cases used : entry.dh.isSome with
  | false => simp [used]
  | true => simp [used, Property.hide_dserial serial used]

-----------------------------------------------------------------------------------------
-- The functions of the property table
-----------------------------------------------------------------------------------------

theorem ensureTable_hide (alloc : TableAlloc) (tbl : PropertyTable)
    : ensureTable alloc (tbl.hide serial)
      = ((ensureTable alloc tbl).1, (ensureTable alloc tbl).2.hide serial) := by
  unfold ensureTable
  cases present : tbl.table with
  | some entries => simp [PropertyTable.hide, present]
  | none =>
      cases alloc propertyTableAllocationChunk <;>
        simp [PropertyTable.hide, present, Property.hide]

theorem fillSlot_hide (tbl : PropertyTable) (dh : Handle) (idx : Nat)
    : (fillSlot (tbl.hide serial) dh idx).map (Prod.map id (PropertyTable.hide serial))
      = (fillSlot tbl dh idx).map (Prod.map id (PropertyTable.hide serial)) := by
  unfold fillSlot
  cases present : tbl.table with
  | none => simp [PropertyTable.hide, present]
  | some entries =>
      simp only [PropertyTable.hide_table, present, Option.map_some, List.length_map,
        PropertyTable.hide_lastDserial]
      split
      · simp [PropertyTable.hide]
      · rfl

theorem enlargeTable_hide (alloc : TableAlloc) (tbl : PropertyTable) (entries : List Property)
    : (enlargeTable alloc (tbl.hide serial) (entries.map (Property.hide serial))).1
        = (enlargeTable alloc tbl entries).1
      ∧ (enlargeTable alloc (tbl.hide serial) (entries.map (Property.hide serial))).2.hide serial
        = (enlargeTable alloc tbl entries).2.hide serial := by
  have size : (tbl.hide serial).size = tbl.size := rfl
  by_cases overflows : CInt.toSize
      (CInt.toUnsigned (tbl.size + propertyTableAllocationChunk) * sizeofProperty)
        < CInt.toSize (tbl.size * sizeofProperty)
  · have overflows' := overflows
    rw [← size] at overflows'
    simp only [enlargeTable, if_pos overflows, if_pos overflows']
    exact ⟨trivial, tbl.hide_again serial⟩
  · simp only [enlargeTable, if_neg overflows, size]
    cases alloc (CInt.toUnsigned (tbl.size + propertyTableAllocationChunk)) with
    | none => exact ⟨rfl, tbl.hide_again serial⟩
    | some junk => exact ⟨rfl, by simp [PropertyTable.hide, ← List.map_take]⟩

theorem insertIntoPropertyTable_hide (alloc : TableAlloc) (tbl : PropertyTable) (dh : Handle)
    : (insertIntoPropertyTable alloc (tbl.hide serial) dh).map
          (Prod.map id (PropertyTable.hide serial))
      = (insertIntoPropertyTable alloc tbl dh).map (Prod.map id (PropertyTable.hide serial)) := by
  unfold insertIntoPropertyTable
  rw [ensureTable_hide]
  obtain ⟨failed, ready⟩ := ensureTable alloc tbl
  cases failed with
  | some err => simp [PropertyTable.hide, Option.map_map]
  | none =>
      cases present : ready.table with
      | none => simp [PropertyTable.hide_table, present]
      | some entries =>
          simp only [PropertyTable.hide_table, present, Option.map_some,
            PropertyTable.hide_size, scanFrom_hide serial maxUnsigned (fun entry => entry.dh.isNone) (by simp)]
          cases scanFrom maxUnsigned (fun entry => entry.dh.isNone) entries ready.size 0 with
          | none => rfl
          | some idx =>
              dsimp only
              split
              · exact fillSlot_hide serial ready dh idx
              · obtain ⟨sameErr, sameTable⟩ := enlargeTable_hide serial alloc ready entries
                generalize enlargeTable alloc (ready.hide serial)
                  (entries.map (Property.hide serial)) = hidden at sameErr sameTable ⊢
                generalize enlargeTable alloc ready entries = plain at sameErr sameTable ⊢
                obtain ⟨err, larger⟩ := hidden
                obtain ⟨_, larger'⟩ := plain
                dsimp only at sameErr sameTable
                subst sameErr
                cases err with
                | some err => simp [sameTable]
                | none =>
                    dsimp only
                    rw [← fillSlot_hide serial larger, sameTable, fillSlot_hide]

theorem entryOfHandle_hide (tbl : PropertyTable) (ref : DataRef) (idx : Int)
    : entryOfHandle (tbl.hide serial) ref idx
      = (entryOfHandle tbl ref idx).map (Property.hide serial) := by
  unfold entryOfHandle
  cases present : tbl.table with
  | none => simp [PropertyTable.hide_table, present]
  | some entries =>
      simp only [PropertyTable.hide_table, present, Option.map_some, PropertyTable.hide_size,
        List.getElem?_map]
      split
      · cases entries[idx.toNat]? with
        | none => rfl
        | some entry =>
            simp only [Option.map_some, Property.hide_dh]
            split <;> rfl
      · rfl

theorem entryOfHandle_dh {tbl : PropertyTable} {ref : DataRef} {idx : Int} {entry : Property}
    (checked : entryOfHandle tbl ref idx = some entry)
    : entry.dh = some ref.dh := by
  unfold entryOfHandle at checked
  repeat' split at checked
  all_goals simp_all

theorem gpgmeDataGetDserial_hide (tbl : PropertyTable) (ref : Option DataRef)
    : gpgmeDataGetDserial (tbl.hide serial) ref = gpgmeDataGetDserial tbl ref := by
  cases ref with
  | none => rfl
  | some ref =>
      simp only [gpgmeDataGetDserial, entryOfHandle_hide]
      cases checked : entryOfHandle tbl ref ref.propidx with
      | none => rfl
      | some entry =>
          have used : entry.dh.isSome := by rw [entryOfHandle_dh checked]; rfl
          simp [Property.hide_dserial serial used]

theorem removeFromPropertyTable_hide (tbl : PropertyTable) (ref : DataRef)
    : (removeFromPropertyTable (tbl.hide serial) ref).map (PropertyTable.hide serial)
      = (removeFromPropertyTable tbl ref).map (PropertyTable.hide serial) := by
  unfold removeFromPropertyTable
  rw [entryOfHandle_hide]
  cases present : tbl.table with
  | none => simp [PropertyTable.hide_table, present]
  | some entries =>
      cases entryOfHandle tbl ref ref.propidx with
      | none => simp [PropertyTable.hide_table, present]
      | some entry => simp [PropertyTable.hide, present, Property.hide_unused]

theorem propIndex_hide (tbl : PropertyTable) (dh : Option DataRef) (dserial : Nat)
    : propIndex (tbl.hide serial) dh dserial = propIndex tbl dh dserial := by
  unfold propIndex
  cases dh with
  | some ref => simp [entryOfHandle_hide, Option.map_map, Function.comp_def]
  | none =>
      cases present : tbl.table with
      | none => simp [PropertyTable.hide_table, present]
      | some entries =>
          simp only [PropertyTable.hide_table, present, Option.map_some,
            PropertyTable.hide_size, scanFrom_hide serial maxInt
              (fun entry => entry.dh.isSome && entry.dserial == dserial)
              (hasSerial_hide serial dserial)]

theorem gpgmeDataSetProp_hide (tbl : PropertyTable) (dh : Option DataRef) (dserial : Nat)
    : (gpgmeDataSetProp (tbl.hide serial) dh dserial .blankout 1).map
          (Prod.map id (PropertyTable.hide serial))
      = (gpgmeDataSetProp tbl dh dserial .blankout 1).map
          (Prod.map id (PropertyTable.hide serial)) := by
  unfold gpgmeDataSetProp
  rw [propIndex_hide]
  rcases propIndex tbl dh dserial with _ | err | idx
  · rfl
  · simp [PropertyTable.hide, Option.map_map]
  · cases present : tbl.table with
    | none => simp [PropertyTable.hide_table, present]
    | some entries =>
        cases found : entries[idx]? with
        | none => simp [PropertyTable.hide_table, present, found]
        | some entry =>
            have same
                : Property.hide serial
                    { dh := entry.dh, dserial := (entry.hide serial).dserial, blankout := true }
                  = Property.hide serial
                      { dh := entry.dh, dserial := entry.dserial, blankout := true } := by
              cases used : entry.dh with
              | none => rfl
              | some dh => rw [Property.hide_dserial serial (by rw [used]; rfl)]
            simp [PropertyTable.hide, present, found, same]

theorem scanFrom_stops {maxIdx : Nat} {stop : Property → Bool} {entries : List Property}
    {left idx found : Nat} (scanned : scanFrom maxIdx stop entries left idx = some found)
    (inside : found < idx + left)
    : ∃ entry, entries[found]? = some entry ∧ stop entry = true := by
  induction left generalizing idx with
  | zero =>
      cases scanned
      omega
  | succ left ih =>
      simp only [scanFrom] at scanned
      cases here : entries[idx]? with
      | none => simp [here] at scanned
      | some entry =>
          simp only [here] at scanned
          split at scanned
          · next stops =>
              cases scanned
              exact ⟨entry, here, stops⟩
          · split at scanned
            · exact ih scanned (by omega)
            · cases scanned

theorem gpgmeDataSetProp_hidden {tbl next : PropertyTable} {err : GpgError}
    (set : gpgmeDataSetProp tbl none serial .blankout 1 = some (err, next))
    : next.hide serial = tbl.hide serial := by
  simp only [gpgmeDataSetProp, propIndex] at set
  by_cases zero : serial = 0
  · simp only [if_pos zero, Option.some.injEq, Prod.mk.injEq] at set
    rw [← set.2]
  simp only [if_neg zero] at set
  cases present : tbl.table with
  | none =>
      simp only [present, Option.some.injEq, Prod.mk.injEq] at set
      rw [← set.2]
  | some entries =>
      simp only [present] at set
      cases scanned : scanFrom maxInt (fun entry => entry.dh.isSome && entry.dserial == serial)
          entries tbl.size 0 with
      | none => simp [scanned] at set
      | some idx =>
          simp only [scanned] at set
          by_cases inside : idx < tbl.size
          · obtain ⟨entry, found, stops⟩ := scanFrom_stops scanned (by omega)
            simp only [Bool.and_eq_true, beq_iff_eq] at stops
            simp only [if_pos inside, found, Option.some.injEq, Prod.mk.injEq] at set
            have used : entry.dh ≠ none := Option.isSome_iff_ne_none.mp stops.1
            have same : Property.hide serial { entry with blankout := true }
                = Property.hide serial entry := by
              simp [Property.hide, used, stops.2]
            have unset : (entries.map (Property.hide serial)).set idx (Property.hide serial entry)
                = entries.map (Property.hide serial) := by
              obtain ⟨bound, isEntry⟩ := List.getElem?_eq_some_iff.mp found
              refine List.ext_getElem? ?_
              intro slot
              by_cases here : idx = slot
              · subst here
                simp [bound, isEntry]
              · rw [List.getElem?_set_ne here]
            rw [← set.2]
            simp [PropertyTable.hide, present, same, unset]
          · simp only [if_neg inside, Option.some.injEq, Prod.mk.injEq] at set
            rw [← set.2]

end Hide

def PropWorld.hide (serial : Nat) (world : PropWorld) : PropWorld :=
  { world with tbl := world.tbl.hide serial }

section Hide

variable (serial : Nat)

@[simp]
theorem PropWorld.hide_tbl (world : PropWorld) : (world.hide serial).tbl = world.tbl.hide serial :=
  rfl

@[simp]
theorem PropWorld.hide_propidx (world : PropWorld)
    : (world.hide serial).propidx = world.propidx :=
  rfl

theorem gpgmeDataNew_hide (alloc : TableAlloc) (world : PropWorld) (addr : Option Handle)
    : (gpgmeDataNew alloc (world.hide serial) addr).map (Prod.map id (PropWorld.hide serial))
      = (gpgmeDataNew alloc world addr).map (Prod.map id (PropWorld.hide serial)) := by
  unfold gpgmeDataNew
  cases addr with
  | none => simp [PropWorld.hide, PropertyTable.hide_again]
  | some dh =>
      have inserted := insertIntoPropertyTable_hide serial alloc world.tbl dh
      simp only [PropWorld.hide_tbl, PropWorld.hide_propidx]
      generalize insertIntoPropertyTable alloc (world.tbl.hide serial) dh = hidden at inserted ⊢
      generalize insertIntoPropertyTable alloc world.tbl dh = plain at inserted ⊢
      rcases hidden with _ | ⟨⟨err, idx⟩, tbl⟩ <;> rcases plain with _ | ⟨⟨err', idx'⟩, tbl'⟩
      · rfl
      · simp at inserted
      · simp at inserted
      · simp only [Option.map_some, Prod.map_apply, id_eq, Option.some.injEq,
          Prod.mk.injEq] at inserted
        obtain ⟨⟨rfl, rfl⟩, same⟩ := inserted
        dsimp only
        split <;> simp [PropWorld.hide, same]

theorem gpgmeDataRelease_hide (world : PropWorld) (dh : Handle)
    : (gpgmeDataRelease (world.hide serial) dh).map (PropWorld.hide serial)
      = (gpgmeDataRelease world dh).map (PropWorld.hide serial) := by
  unfold gpgmeDataRelease
  simp only [PropWorld.hide_tbl, PropWorld.hide_propidx]
  cases world.propidx dh with
  | none => rfl
  | some idx =>
      have removed := removeFromPropertyTable_hide serial world.tbl ⟨dh, idx⟩
      dsimp only
      generalize removeFromPropertyTable (world.tbl.hide serial) ⟨dh, idx⟩ = hidden at removed ⊢
      generalize removeFromPropertyTable world.tbl ⟨dh, idx⟩ = plain at removed ⊢
      rcases hidden with _ | tbl <;> rcases plain with _ | tbl'
      · rfl
      · simp at removed
      · simp at removed
      · simp only [Option.map_some, Option.some.injEq] at removed
        simp [PropWorld.hide, removed]

end Hide

end Gpgme.Data
