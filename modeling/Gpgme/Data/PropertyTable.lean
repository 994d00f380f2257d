import Gpgme.Error

/-! The property table of `data.c`, addressed by slot index or by data serial number.
A failed assertion, an access outside the allocated table and the overflow of a signed
index have no result (`none`).
-/

namespace Gpgme.Data

-----------------------------------------------------------------------------------------
-- The table
-----------------------------------------------------------------------------------------

/-- The address of a data object; NULL is `none`. -/
abbrev Handle := Nat

/-- `struct property_s`. -/
structure Property where
  dh : Option Handle := none
  dserial : Nat := 0
  blankout : Bool := false
deriving DecidableEq, Repr

/-- The static variables of `data.c`: `property_table`, `property_table_size` and
`last_dserial`.
-/
structure PropertyTable where
  table : Option (List Property) := none
  size : Nat := 0
  lastDserial : Nat := 0

def propertyTableAllocationChunk : Nat := 32

/-- `sizeof (struct property_s)`: a pointer, a 64-bit number and a bit field. -/
def sizeofProperty : Nat := 24

/-- A data object pointer together with the `propidx` member it points to. -/
structure DataRef where
  dh : Handle
  propidx : Nat

/-- `for (idx = ...; idx < size; idx++) if (stop) break;` over the allocated entries, where
`left` is `size - idx`. An index variable of the given maximum overflows behind it.
-/
def scanFrom (maxIdx : Nat) (stop : Property → Bool) (entries : List Property)
    : Nat → Nat → Option Nat
  | 0, idx => some idx
  | left + 1, idx =>
      match entries[idx]? with
      | none => none
      | some entry =>
          if stop entry then some idx
          else if idx < maxIdx then scanFrom maxIdx stop entries left (idx + 1)
          else none

def maxUnsigned : Nat := 4294967295
def maxInt : Nat := 2147483647

/-- What the allocator answers to a request for a number of table entries: a failure or
the unspecified contents of the new memory.
-/
abbrev TableAlloc := Nat → Option (Nat → Property)

/-- The first part of `insert_into_property_table`: the table exists afterwards, or the
allocation failed. The size is assigned before the allocation is known to succeed.
-/
def ensureTable (alloc : TableAlloc) (tbl : PropertyTable) : Option GpgError × PropertyTable :=
  match tbl.table with
  | some _ => (none, tbl)
  | none =>
      let tbl := { tbl with size := propertyTableAllocationChunk }
      match alloc propertyTableAllocationChunk with
      | none => (some (gpgError ErrCode.enomem), tbl)
      | some _ =>
          (none, { tbl with table := some (List.replicate propertyTableAllocationChunk {}) })

/-- Enlarge the table by a chunk whose slots are unused but otherwise unspecified. -/
def enlargeTable (alloc : TableAlloc) (tbl : PropertyTable) (entries : List Property)
    : Option GpgError × PropertyTable :=
  let newsize := CInt.toUnsigned (tbl.size + propertyTableAllocationChunk)
  if CInt.toSize (newsize * sizeofProperty) < CInt.toSize (tbl.size * sizeofProperty) then
    (some (gpgError ErrCode.enomem), tbl)
  else
    match alloc newsize with
    | none => (some (gpgError ErrCode.enomem), tbl)
    | some junk =>
        let tail := (List.range' tbl.size (newsize - tbl.size)).map
          (fun idx => { junk idx with dh := none })
        (none, { tbl with table := some (entries.take tbl.size ++ tail), size := newsize })

/-- Take the slot `idx` for `dh`. -/
def fillSlot (tbl : PropertyTable) (dh : Handle) (idx : Nat)
    : Option ((GpgError × Nat) × PropertyTable) :=
  match tbl.table with
  | none => none
  | some entries =>
      if idx < entries.length then
        let dserial := CInt.toSize (tbl.lastDserial + 1)
        some ((0, idx), { tbl with
          table := some (entries.set idx { dh := some dh, dserial, blankout := false })
          lastDserial := dserial })
      else
        none

/-- The error code and the index of the new slot (0 where no slot was taken). -/
def insertIntoPropertyTable (alloc : TableAlloc) (tbl : PropertyTable) (dh : Handle)
    : Option ((GpgError × Nat) × PropertyTable) :=
  match ensureTable alloc tbl with
  | (some err, tbl) => some ((err, 0), tbl)
  | (none, tbl) =>
      match tbl.table with
      | none => none
      | some entries =>
          match scanFrom maxUnsigned (fun entry => entry.dh.isNone) entries tbl.size 0 with
          | none => none
          | some idx =>
              if idx < tbl.size then
                fillSlot tbl dh idx
              else
                match enlargeTable alloc tbl entries with
                | (some err, tbl) => some ((err, 0), tbl)
                | (none, larger) => fillSlot larger dh tbl.size

/-- The checks with which the functions of `data.c` go from a handle to its entry. -/
def entryOfHandle (tbl : PropertyTable) (ref : DataRef) (idx : Int) : Option Property :=
  match tbl.table with
  | none => none
  | some entries =>
      if CInt.toUnsigned idx < tbl.size ∧ 0 ≤ idx then
        match entries[idx.toNat]? with
        | none => none
        | some entry => if entry.dh = some ref.dh then some entry else none
      else
        none

def removeFromPropertyTable (tbl : PropertyTable) (ref : DataRef) : Option PropertyTable :=
  match tbl.table, entryOfHandle tbl ref ref.propidx with
  | some entries, some entry =>
      some { tbl with table := some (entries.set ref.propidx { entry with dh := none }) }
  | _, _ => none

/-- `_gpgme_data_get_dserial`; there is no serial number 0. -/
def gpgmeDataGetDserial (tbl : PropertyTable) : Option DataRef → Option Nat
  | none => some 0
  | some ref => (entryOfHandle tbl ref ref.propidx).map (fun entry => entry.dserial)

-----------------------------------------------------------------------------------------
-- Properties
-----------------------------------------------------------------------------------------

/-- `data_prop_t`; any other value of the enumeration type is unknown. -/
inductive DataProp where
  | none
  | blankout
  | other
deriving DecidableEq, Repr

/-- The lookup that `_gpgme_data_set_prop` and `_gpgme_data_get_prop` share: an error, or
an index held in a variable of type `int`.
-/
def propIndex (tbl : PropertyTable) (dh : Option DataRef) (dserial : Nat)
    : Option (Except GpgError Nat) :=
  match dh with
  | some ref =>
      if dserial ≠ 0 then
        some (.error (gpgError ErrCode.invValue))
      else
        (entryOfHandle tbl ref (CInt.toInt ref.propidx)).map (fun _ => .ok ref.propidx)
  | none =>
      if dserial = 0 then
        some (.error (gpgError ErrCode.invValue))
      else
        match tbl.table with
        | none => some (.error (gpgError ErrCode.notFound))
        | some entries =>
            match scanFrom maxInt
              (fun entry => entry.dh.isSome && entry.dserial == dserial) entries tbl.size 0 with
            | none => none
            | some idx =>
                if idx < tbl.size then some (.ok idx)
                else some (.error (gpgError ErrCode.notFound))

def gpgmeDataSetProp (tbl : PropertyTable) (dh : Option DataRef) (dserial : Nat)
    (name : DataProp) (value : Int)
    : Option (GpgError × PropertyTable) :=
  match propIndex tbl dh dserial with
  | none => none
  | some (.error err) => some (err, tbl)
  | some (.ok idx) =>
      match name with
      | .none => some (0, tbl)
      | .blankout =>
          match tbl.table with
          | none => none
          | some entries =>
              match entries[idx]? with
              | none => none
              | some entry =>
                  some (0, { tbl with
                    table := some (entries.set idx { entry with blankout := value != 0 }) })
      | .other => some (gpgError ErrCode.unknownName, tbl)

/-- The error code and the value stored at `r_value`, which is 0 on error. -/
def gpgmeDataGetProp (tbl : PropertyTable) (dh : Option DataRef) (dserial : Nat)
    (name : DataProp)
    : Option (GpgError × Nat) :=
  match propIndex tbl dh dserial with
  | none => none
  | some (.error err) => some (err, 0)
  | some (.ok idx) =>
      match name with
      | .none => some (0, 0)
      | .blankout =>
          match tbl.table with
          | none => none
          | some entries => (entries[idx]?).map (fun entry => (0, entry.blankout.toNat))
      | .other => some (gpgError ErrCode.unknownName, 0)

-----------------------------------------------------------------------------------------
-- Creation and release of data objects
-----------------------------------------------------------------------------------------

/-- The table and the `propidx` member of every live data object. -/
structure PropWorld where
  tbl : PropertyTable := {}
  propidx : Handle → Option Nat := fun _ => none

/-- `_gpgme_data_new`: `addr` is the answer of the allocator for the object itself. -/
def gpgmeDataNew (alloc : TableAlloc) (world : PropWorld) (addr : Option Handle)
    : Option (GpgError × PropWorld) :=
  match addr with
  | none => some (gpgError ErrCode.enomem, world)
  | some dh =>
      match insertIntoPropertyTable alloc world.tbl dh with
      | none => none
      | some ((err, idx), tbl) =>
          if err ≠ 0 then some (err, { world with tbl })
          else some (0, { tbl, propidx := Function.update world.propidx dh (some idx) })

/-- `_gpgme_data_release` of a live object. -/
def gpgmeDataRelease (world : PropWorld) (dh : Handle) : Option PropWorld :=
  match world.propidx dh with
  | none => none
  | some propidx =>
      (removeFromPropertyTable world.tbl ⟨dh, propidx⟩).map (fun tbl =>
        { tbl, propidx := Function.update world.propidx dh none })

end Gpgme.Data
