import Gpgme.Lib.CInt
import Gpgme.Lib.SeekableArray

/-! The memory based data object of `data-mem.c`.
A read outside a block or through a NULL pointer has no result (`none`); the refinement
shows that this never happens.
-/

namespace Gpgme.Data

-----------------------------------------------------------------------------------------
-- The allocator
-----------------------------------------------------------------------------------------

/-- One use of the allocator: a request for `n` bytes either fails or yields a block with
unspecified initial contents. No block is larger than the address space allows.
-/
structure Alloc where
  grant : Nat → Option (Nat → UInt8)
  bounded : ∀ size, 2 ^ 63 ≤ size → grant size = none

def Alloc.malloc (alloc : Alloc) (size : Nat) : Option (List UInt8) :=
  (alloc.grant size).map (fun junk => (List.range size).map junk)

/-- `realloc` keeps the old contents as far as they fit; a NULL pointer has none. -/
def Alloc.realloc (alloc : Alloc) (block : Option (List UInt8)) (size : Nat)
    : Option (List UInt8) :=
  (alloc.malloc size).map (fun fresh =>
    (block.getD []).take size ++ fresh.drop (block.getD []).length)

/-- `memcpy` of `items` to offset `start` of a block; copying nothing is always fine. -/
def memcpy (block : Option (List UInt8)) (start : Nat) (items : List UInt8)
    : Option (Option (List UInt8)) :=
  match block with
  | none => if items = [] then some none else none
  | some bytes =>
      if start + items.length ≤ bytes.length then
        some (some (SeekableArray.overwrite bytes start items))
      else
        none

-----------------------------------------------------------------------------------------
-- The object and its operations
-----------------------------------------------------------------------------------------

/-- The `data.mem` member of `struct gpgme_data`. `origBuffer` is the caller's memory. -/
structure Mem where
  buffer : Option (List UInt8) := none
  origBuffer : Option (List UInt8) := none
  size : Nat := 0
  length : Nat := 0
  offset : Int := 0

/-- The block that `mem_read` takes its bytes from. -/
def Mem.source (mem : Mem) : Option (List UInt8) := mem.buffer.or mem.origBuffer

def memRead (mem : Mem) (size : Nat) : Option (Int × List UInt8 × Mem) :=
  let amt := CInt.toSize (mem.length - mem.offset)
  if amt = 0 then
    some (0, [], mem)
  else
    let amt := if size < amt then size else amt
    mem.source.bind (fun src =>
      if 0 ≤ mem.offset ∧ mem.offset + amt ≤ src.length then
        some (CInt.toOff amt, (src.drop mem.offset.toNat).take amt,
          { mem with offset := CInt.toOff (mem.offset + amt) })
      else
        none)

/-- The delayed copy of a borrowed buffer. An inner `none` is a failed allocation. -/
def copyOrigBuffer (alloc : Alloc) (mem : Mem) (size : Nat) : Option (Option Mem) :=
  match mem.buffer, mem.origBuffer with
  | none, some orig =>
      let newSize :=
        if mem.size < CInt.toSize (mem.offset + size) then CInt.toSize (mem.offset + size)
        else mem.size
      match alloc.malloc newSize with
      | none => some none
      | some newBuffer =>
          if mem.length ≤ orig.length then
            (memcpy (some newBuffer) 0 (orig.take mem.length)).map (fun buffer =>
              some { mem with buffer, size := newSize })
          else
            none
  | _, _ => some (some mem)

def initialAlloc : Nat := 512

/-- Enlarge the buffer with exponential backoff; `none` is a failed allocation. -/
def growBuffer (alloc : Alloc) (mem : Mem) (size : Nat) : Option Mem :=
  let unused := CInt.toSize (mem.size - mem.offset)
  if unused < size then
    let wanted := CInt.toSize (mem.offset + size)
    let newSize := if mem.size ≠ 0 then CInt.toSize (2 * mem.size) else initialAlloc
    let newSize := if newSize < wanted then wanted else newSize
    match alloc.realloc mem.buffer newSize with
    | some newBuffer => some { mem with buffer := some newBuffer, size := newSize }
    | none =>
        -- Maybe we were too greedy, try again.
        if wanted < newSize then
          (alloc.realloc mem.buffer wanted).map (fun newBuffer =>
            { mem with buffer := some newBuffer, size := wanted })
        else
          none
  else
    some mem

def memWrite (alloc : Alloc) (mem : Mem) (buffer : List UInt8) : Option (Int × Mem) :=
  match copyOrigBuffer alloc mem buffer.length with
  | none => none
  | some none => some (-1, mem)
  | some (some mem) =>
      match growBuffer alloc mem buffer.length with
      | none => some (-1, mem)
      | some mem =>
          (memcpy mem.buffer (CInt.toSize mem.offset) buffer).map (fun stored =>
            let offset := CInt.toOff (mem.offset + buffer.length)
            (CInt.toOff buffer.length,
              { mem with
                buffer := stored
                offset
                length :=
                  if mem.length < CInt.toSize offset then CInt.toSize offset
                  else mem.length }))

def seekSet : Int := 0
def seekCur : Int := 1
def seekEnd : Int := 2

/-- Comparisons of `offset` with the unsigned length convert the signed operand. -/
def memSeek (mem : Mem) (offset : Int) (whence : Int) : Int × Mem :=
  if whence = seekSet then
    if offset < 0 ∨ mem.length < CInt.toSize offset then (-1, mem)
    else (offset, { mem with offset })
  else if whence = seekCur then
    if (0 < offset ∧ CInt.toSize (mem.length - mem.offset) < CInt.toSize offset)
        ∨ (offset < 0 ∧ mem.offset < CInt.toOff (-offset)) then
      (-1, mem)
    else
      let moved := CInt.toOff (mem.offset + offset)
      (moved, { mem with offset := moved })
  else if whence = seekEnd then
    if 0 < offset ∨ mem.length < CInt.toSize (CInt.toOff (-offset)) then (-1, mem)
    else
      let moved := CInt.toOff (mem.length + offset)
      (moved, { mem with offset := moved })
  else
    (-1, mem)

/-- The part of `gpgme_data_new_from_mem` that fills the new object; `none` is a failed
allocation of the copy.
-/
def newFromMem (alloc : Alloc) (buffer : List UInt8) (copy : Bool) : Option Mem :=
  if copy then
    (alloc.malloc buffer.length).map (fun bufcpy =>
      {
        buffer := some (SeekableArray.overwrite bufcpy 0 buffer)
        size := buffer.length
        length := buffer.length
      })
  else
    some { origBuffer := some buffer, size := buffer.length, length := buffer.length }

end Gpgme.Data
