import Gpgme.Data.MemRefinement
import Gpgme.Data.PropertyInvariant
import Gpgme.Operation.Decrypt
import Gpgme.Operation.StatusLines

/-! Data objects together with the decrypt operations that can blank them: `data.c`,
`data-mem.c` and the DECRYPTION_FAILED status of `decrypt.c`.
-/

namespace Gpgme.Data

-----------------------------------------------------------------------------------------
-- Objects, operations and events
-----------------------------------------------------------------------------------------

/-- What the callbacks of a data object work on: its own memory, or something outside of the
library such as a file, a stream or the application.
-/
inductive Payload where
  | mem (mem : Mem)
  | external

/-- The property table, the live data objects and the contexts. -/
structure DataWorld where
  props : PropWorld := {}
  payload : Handle → Option Payload := fun _ => none
  ctxs : Nat → Ctx := fun _ => {}

/-- What a call on a data object answers. The memory that an object leaves behind is known by
its length and by the bytes up to that length; it is missing where NULL is returned for an
error.
-/
inductive DataAnswer where
  | created
  | released
  | bytes (ret : Int) (bytes : List UInt8)
  | mem (result : Option (Nat × List UInt8))
deriving DecidableEq

/-- A call on an object, which is named by its serial number, a creation that failed, or a
call on a context.
-/
inductive DataEvent where
  | object (serial : Nat) (answer : DataAnswer)
  | refused (err : GpgError)
  | context (ctx : Nat) (err : GpgError)
deriving DecidableEq

/-- The calls. Where an object is not in memory, what its callback answers comes with the
call.
-/
inductive DataOp where
  | new (alloc : TableAlloc) (addr : Option Handle)
  | newFromMem (alloc : TableAlloc) (copyAlloc : Alloc) (addr : Option Handle)
      (buffer : List UInt8) (copy : Bool)
  | newExternal (alloc : TableAlloc) (addr : Option Handle)
  | release (dh : Handle)
  | read (dh : Handle) (size : Nat) (reply : MemAnswer)
  | write (dh : Handle) (alloc : Alloc) (buffer : List UInt8) (reply : Int)
  | seek (dh : Handle) (offset whence : Int) (reply : Int)
  | releaseAndGetMem (dh : Handle) (alloc : Alloc)
  /-- `gpgme_set_ctx_flag` with "ignore-mdc-error". -/
  | setIgnoreMdcError (ctx : Nat) (value : Bool)
  /-- `_gpgme_op_reset` and `_gpgme_op_decrypt_init_result`. -/
  | startDecrypt (ctx : Nat) (plaintext : Option Handle)
  | statusLine (ctx : Nat) (line : StatusLine)

namespace DataWorld

/-- A live object as the functions of `data.c` are given it. -/
def ref (world : DataWorld) (dh : Handle) : Option DataRef :=
  (world.props.propidx dh).map (fun propidx => ⟨dh, propidx⟩)

/-- The serial number of a live object. -/
def serial (world : DataWorld) (dh : Handle) : Option Nat :=
  (world.ref dh).bind (fun ref => gpgmeDataGetDserial world.props.tbl (some ref))

def setMem (world : DataWorld) (dh : Handle) (mem : Mem) : DataWorld :=
  { world with payload := Function.update world.payload dh (some (.mem mem)) }

-----------------------------------------------------------------------------------------
-- Creation and release
-----------------------------------------------------------------------------------------

/-- A creation: `_gpgme_data_new` and then the payload, for which there may be no memory. -/
def create (world : DataWorld) (alloc : TableAlloc) (addr : Option Handle)
    (payload : Option Payload)
    : Option (DataEvent × DataWorld) :=
  match gpgmeDataNew alloc world.props addr with
  | none => none
  | some (err, props) =>
      match addr with
      | none => some (.refused err, { world with props })
      | some dh =>
          if err ≠ 0 then some (.refused err, { world with props })
          else
            match payload with
            | none =>
                (gpgmeDataRelease props dh).map (fun props =>
                  (.refused (gpgError ErrCode.enomem), { world with props }))
            | some payload =>
                some (.object props.tbl.lastDserial .created,
                  { world with
                    props
                    payload := Function.update world.payload dh (some payload) })

/-- `gpgme_data_release`. -/
def release (world : DataWorld) (dh : Handle) : Option DataWorld :=
  (gpgmeDataRelease world.props dh).map (fun props =>
    { world with props, payload := Function.update world.payload dh none })

-----------------------------------------------------------------------------------------
-- Calls on an object
-----------------------------------------------------------------------------------------

/-- The blankout property of a live object, as an error code and a value. -/
def blankout (world : DataWorld) (dh : Handle) : Option (GpgError × Nat) :=
  (world.ref dh).bind (fun ref => gpgmeDataGetProp world.props.tbl (some ref) 0 .blankout)

/-- `gpgme_data_read`; the result is returned as an `int`. -/
def read (world : DataWorld) (dh : Handle) (size : Nat) (reply : MemAnswer)
    : Option (DataAnswer × DataWorld) :=
  match world.blankout dh with
  | none => none
  | some (err, blankout) =>
      if err ≠ 0 ∨ blankout ≠ 0 then some (.bytes 0 [], world)
      else
        match world.payload dh with
        | none => none
        | some .external => some (.bytes (CInt.toInt reply.1) reply.2, world)
        | some (.mem mem) =>
            (memRead mem size).map (fun (ret, bytes, mem) =>
              (.bytes (CInt.toInt ret) bytes, world.setMem dh mem))

/-- `gpgme_data_write`. -/
def write (world : DataWorld) (dh : Handle) (alloc : Alloc) (buffer : List UInt8) (reply : Int)
    : Option (DataAnswer × DataWorld) :=
  match world.payload dh with
  | none => none
  | some .external => some (.bytes (CInt.toInt reply) [], world)
  | some (.mem mem) =>
      (memWrite alloc mem buffer).map (fun (ret, mem) =>
        (.bytes (CInt.toInt ret) [], world.setMem dh mem))

/-- `gpgme_data_seek`, where no data is pending. -/
def seek (world : DataWorld) (dh : Handle) (offset whence : Int) (reply : Int)
    : Option (DataAnswer × DataWorld) :=
  match world.payload dh with
  | none => none
  | some .external => some (.bytes (CInt.toInt reply) [], world)
  | some (.mem mem) =>
      some (.bytes (CInt.toInt (memSeek mem offset whence).1) [],
        world.setMem dh (memSeek mem offset whence).2)

/-- The memory that `gpgme_data_release_and_get_mem` returns: an inner `none` is NULL after a
failed allocation. An object without any storage returns NULL and the length 0.
-/
def takeMem (mem : Mem) (blankout : Bool) (alloc : Alloc) : Option (Option (Nat × List UInt8)) :=
  let len := if blankout ∧ mem.length ≠ 0 then 1 else mem.length
  match mem.buffer with
  | none =>
      match mem.origBuffer with
      | none => if len = 0 then some (some (0, [])) else none
      | some orig =>
          match alloc.malloc len with
          | none => some none
          | some _ =>
              if blankout then some (some (len, List.replicate len 0))
              else if len ≤ orig.length then some (some (len, orig.take len))
              else none
  | some str =>
      if len ≤ str.length then
        if blankout ∧ len ≠ 0 then some (some (len, (str.set 0 0).take len))
        else some (some (len, str.take len))
      else none

/-- `gpgme_data_release_and_get_mem`; the object is released in every case. -/
def releaseAndGetMem (world : DataWorld) (dh : Handle) (alloc : Alloc)
    : Option (DataAnswer × DataWorld) :=
  match world.payload dh with
  | none => none
  | some .external => (world.release dh).map (fun next => (.mem none, next))
  | some (.mem mem) =>
      match world.blankout dh with
      | none => none
      | some (err, blankout) =>
          if err ≠ 0 then (world.release dh).map (fun next => (.mem none, next))
          else
            match takeMem mem (blankout != 0) alloc with
            | none => none
            | some result => (world.release dh).map (fun next => (.mem result, next))

-----------------------------------------------------------------------------------------
-- Calls on a context
-----------------------------------------------------------------------------------------

/-- The data of all operations is released, and the new one knows the serial number of its
plaintext.
-/
def startDecrypt (world : DataWorld) (ctx : Nat) (plaintext : Option Handle)
    : Option DataWorld :=
  let started (dserial : Nat) : DataWorld :=
    { world with
      ctxs := Function.update world.ctxs ctx
        { world.ctxs ctx with
          redrawSuggested := false
          passphrase := {}
          decrypt := { plaintextDserial := dserial }
          verify := {}
          encrypt := {}
          sign := {}
          genkey := {} } }
  match plaintext with
  | none => some (started 0)
  | some dh => (world.serial dh).map started

/-- The calls of `_gpgme_data_set_prop` that a status handler made. -/
def blankAll (tbl : PropertyTable) : List Nat → Option PropertyTable
  | [] => some tbl
  | dserial :: rest =>
      match gpgmeDataSetProp tbl none dserial .blankout 1 with
      | none => none
      | some (_, tbl) => blankAll tbl rest

/-- A status line of a decrypt operation. -/
def statusLine (world : DataWorld) (ctx : Nat) (line : StatusLine)
    : Option (GpgError × DataWorld) :=
  match decryptStatusHandlerInstalled { world.ctxs ctx with blankoutCalls := [] } line.code
      line.args with
  | none => none
  | some (err, _, handled) =>
      (blankAll world.props.tbl handled.blankoutCalls).map (fun tbl =>
        (err, { world with
          props := { world.props with tbl }
          ctxs := Function.update world.ctxs ctx handled }))

/-- An answer of an object. -/
def answering (world : DataWorld) (dh : Handle) (result : Option (DataAnswer × DataWorld))
    : Option (DataEvent × DataWorld) :=
  result.map (fun (answer, next) => (.object ((world.serial dh).getD 0) answer, next))

/-- One call. -/
def step (world : DataWorld) : DataOp → Option (DataEvent × DataWorld)
  | .new alloc addr => world.create alloc addr (some (.mem {}))
  | .newFromMem alloc copyAlloc addr buffer copy =>
      world.create alloc addr ((newFromMem copyAlloc buffer copy).map .mem)
  | .newExternal alloc addr => world.create alloc addr (some .external)
  | .release dh => world.answering dh ((world.release dh).map (fun next => (.released, next)))
  | .read dh size reply => world.answering dh (world.read dh size reply)
  | .write dh alloc buffer reply => world.answering dh (world.write dh alloc buffer reply)
  | .seek dh offset whence reply => world.answering dh (world.seek dh offset whence reply)
  | .releaseAndGetMem dh alloc => world.answering dh (world.releaseAndGetMem dh alloc)
  | .setIgnoreMdcError ctx value =>
      some (.context ctx 0, { world with
        ctxs := Function.update world.ctxs ctx { world.ctxs ctx with ignoreMdcError := value } })
  | .startDecrypt ctx plaintext =>
      (world.startDecrypt ctx plaintext).map (fun next => (.context ctx 0, next))
  | .statusLine ctx line =>
      (world.statusLine ctx line).map (fun (err, next) => (.context ctx err, next))

end DataWorld

end Gpgme.Data
