import Gpgme.Assuan.PatternLines
import Gpgme.Assuan.Recipients
import Gpgme.Lib.Calls
import Gpgme.Lib.Machine
import Gpgme.Lib.PipeTable

/-! The channels of `engine-gpgsm.c` when descriptors can be passed to the server: the callback
structures of the engine, the pipes that are made for them, and the operations that use them.
-/

namespace Gpgme.Channels

open CString

deriving instance DecidableEq for FdType

-----------------------------------------------------------------------------------------
-- Data objects
-----------------------------------------------------------------------------------------

/-- What a data object of the application keeps its bytes in. -/
inductive DataBacking where
  | memory
  | callback
  | descriptor (fd : Int)
deriving DecidableEq

/-- `gpgme_data_encoding_t`. -/
inductive DataEncoding where
  | none
  | binary
  | base64
  | armor
  | url
  | urlesc
  | url0
  | mime
deriving DecidableEq

/-- A data object of the application, or the one that an import makes of fingerprints. -/
inductive DataObject where
  | user (object : Nat) (backing : DataBacking) (encoding : DataEncoding)
  | helper (fingerprints : Str)
deriving DecidableEq

/-- `_gpgme_data_get_fd`: only the objects of `data-fd.c` have a descriptor. -/
def dataGetFd : Option DataObject → Option Nat
  | some (.user _ (.descriptor fd) _) => if fd < 0 then none else some fd.toNat
  | _ => none

/-- `gpgme_data_get_encoding`. -/
def dataGetEncoding : Option DataObject → DataEncoding
  | some (.user _ _ encoding) => encoding
  | _ => .none

/-- `map_data_enc`. -/
def mapDataEnc (data : Option DataObject) : Option Str :=
  match dataGetEncoding data with
  | .binary => some (str "--binary")
  | .base64 => some (str "--base64")
  | .armor => some (str "--armor")
  | _ => none

-----------------------------------------------------------------------------------------
-- The engine
-----------------------------------------------------------------------------------------

/-- The callback structures of the engine. -/
inductive Callback where
  | status
  | channel (fdType : FdType)
deriving DecidableEq

/-- The member `dir`, which is set once: the server writes what is read here. -/
def Callback.dir : Callback → Bool
  | status => true
  | channel .output => true
  | channel .input | channel .message => false

/-- `iocb_data_t`; -1 as a descriptor and NULL as a tag are `none`. -/
structure Iocb where
  fd : Option Nat := none
  serverFd : Option Nat := none
  data : Option DataObject := none
  tag : Option Nat := none

/-- A channel for which `gpgsm_set_fd` has made a pipe: its data object and the end that stays in
this process, by its place in the order of creation.
-/
structure Assignment where
  operation : Nat
  channel : FdType
  data : Option DataObject
  pipeEnd : Nat

/-- An I/O callback that has been registered, and what its descriptor referred to then. -/
structure Registration where
  operation : Nat
  callback : Callback
  data : Option DataObject
  fd : Nat
  file : Option (Option Nat)

/-- What has happened to an engine: the number of operations, the channels that were open when
the last one began, the pipe ends that `gpgsm_set_fd` made, and what it assigned and registered.
-/
structure History where
  operation : Nat := 0
  openBefore : List FdType := []
  made : List Nat := []
  assignments : List Assignment := []
  registrations : List Registration := []

/-- The engine in its process: the descriptors with a close notification for the engine, the tags
that the event loop knows, the descriptor table, and the numbers that somebody else has open.
The answers are those of the next calls that can fail; behind the last one all succeed.
-/
structure World where
  assuanCtx : Bool := true
  cb : Callback → Iocb := fun _ => {}
  inputHelperData : Option DataObject := none
  requestOrigin : Str := []
  answers : List GpgError := []
  notified : List Nat := []
  watched : List Nat := []
  ends : PipeEnds
  foreign : List Nat
  history : History := {}

/-- The error of libassuan for a connection that is not there. -/
def assInvValue : Nat := 261

namespace World

/-- `gpgsm_new`, in a process with these open files. -/
def new (others : Descriptors Unit) : World where
  ends := .inherit others
  foreign := (List.range others.bound).filter fun fd => (others.files fd).isSome

variable (w : World)

/-- How the next call that can fail ends. -/
def nextAnswer : GpgError := w.answers.headD 0

/-- A call that can fail. -/
def answer : GpgError × World := (w.nextAnswer, { w with answers := w.answers.tail })

/-- A call of libassuan. -/
def assuan : GpgError × World :=
  if w.assuanCtx then w.answer else (gpgError assInvValue, w)

def setCb (c : Callback) (iocb : Iocb) : World := { w with cb := Function.update w.cb c iocb }

/-- The order in which `close_notify_handler` compares the descriptors. -/
def callbacks : List Callback := [.status, .channel .input, .channel .output, .channel .message]

/-- `close_notify_handler`. -/
def closeNotifyHandler (fd : Nat) : World :=
  match callbacks.find? fun c => (w.cb c).fd == some fd with
  | none => w
  | some c =>
      { w with
        cb := Function.update w.cb c { w.cb c with fd := none, tag := none }
        watched := w.watched.filter fun tag => (w.cb c).tag ≠ some tag
        inputHelperData := if c = .channel .input then none else w.inputHelperData }

/-- The descriptor's notification is taken out of the table and called. -/
def notifyClose (fd : Nat) : World :=
  if fd ∈ w.notified then
    { w with notified := w.notified.filter (· ≠ fd) }.closeNotifyHandler fd
  else w

/-- `_gpgme_io_close`. -/
def ioClose : Option Nat → World
  | none => w
  | some fd => { w.notifyClose fd with ends := w.ends.close fd }

/-- The descriptor of a callback structure is closed and set to -1. -/
def closeFd (c : Callback) : World :=
  let w := w.ioClose (w.cb c).fd
  w.setCb c { w.cb c with fd := none }

/-- The descriptor for the server is closed and set to -1. -/
def closeServerFd (c : Callback) : World :=
  let w := w.ioClose (w.cb c).serverFd
  w.setCb c { w.cb c with serverFd := none }

-----------------------------------------------------------------------------------------
-- Setting up a channel
-----------------------------------------------------------------------------------------

/-- The end of `gpgsm_set_fd` after an error. -/
def leaveSetFd (c : Callback) : World := (w.closeFd c).closeServerFd c

/-- `gpgsm_set_fd` from the call of `assuan_sendfd` on. -/
def passDescriptor (channel : FdType) : GpgError × World :=
  let (err, w) := w.assuan
  if err ≠ 0 then (err, w.leaveSetFd (.channel channel))
  else
    let w := w.closeServerFd (.channel channel)
    let (err, w) := w.assuan
    if err ≠ 0 then (err, w.leaveSetFd (.channel channel)) else (0, w)

/-- The two ends of a new pipe are put in the structure of a channel. -/
def openPipe (channel : FdType) : World :=
  let c := Callback.channel channel
  let ((readEnd, writeEnd), ends) := w.ends.pipe
  let created := w.ends.ledger.created
  let iocb :=
    if c.dir then { w.cb c with fd := some readEnd, serverFd := some writeEnd }
    else { w.cb c with fd := some writeEnd, serverFd := some readEnd }
  let assignment :=
    { operation := w.history.operation
      channel
      data := iocb.data
      pipeEnd := if c.dir then created else created + 1 }
  { w.setCb c iocb with
    ends
    history := {
      w.history with
      made := w.history.made ++ [created, created + 1]
      assignments := w.history.assignments ++ [assignment] } }

/-- `_gpgme_io_set_close_notify` for the descriptor of a callback structure, when it succeeds. -/
def setCloseNotify (c : Callback) : World :=
  { w with notified := (w.cb c).fd.toList ++ w.notified }

/-- `gpgsm_set_fd`, with the assignment of the data object in front of each call. -/
def setFd (channel : FdType) (data : Option DataObject) : GpgError × World :=
  let c := Callback.channel channel
  let w := w.setCb c { w.cb c with data, serverFd := dataGetFd data }
  match dataGetFd data with
  | some _ => w.passDescriptor channel
  | none =>
      let (err, w) := w.answer
      if err ≠ 0 then (err, w)
      else
        let (err, w) := (w.openPipe channel).answer
        if err ≠ 0 then (gpgError ErrCode.general, w.leaveSetFd c)
        else (w.setCloseNotify c).passDescriptor channel

-----------------------------------------------------------------------------------------
-- Registering
-----------------------------------------------------------------------------------------

/-- The part of `start` that duplicates the descriptor from which libassuan reads. -/
def openStatus : GpgError × World :=
  let (err, w) := w.assuan
  if err ≠ 0 then (gpgError ErrCode.general, w)
  else
    let (err, w) := w.answer
    if err ≠ 0 then (err, w.setCb .status { w.cb .status with fd := none })
    else
      let w :=
        { w.setCb .status { w.cb .status with fd := some w.ends.number } with
          ends := w.ends.openEnd }
      let (err, w) := w.answer
      if err ≠ 0 then (gpgError ErrCode.general, w.closeFd .status)
      else (0, w.setCloseNotify .status)

/-- The event loop takes the callback, under the next tag. -/
def register (c : Callback) (fd : Nat) : World :=
  let tag := w.history.registrations.length
  let registration :=
    { operation := w.history.operation
      callback := c
      data := (w.cb c).data
      fd
      file := w.ends.fds.files fd }
  { w.setCb c { w.cb c with tag := some tag } with
    watched := tag :: w.watched
    history := { w.history with registrations := w.history.registrations ++ [registration] } }

/-- `add_io_cb`, which `start` calls for a structure with a descriptor. -/
def addIoCb (c : Callback) : GpgError × World :=
  match (w.cb c).fd with
  | none => (0, w)
  | some fd =>
      let (err, w) := w.answer
      if err ≠ 0 then (err, w)
      else if c.dir then (0, w.register c fd)
      else (w.register c fd).answer

/-- `gpgsm_cancel`. -/
def cancel : World :=
  { callbacks.foldl (fun w c => w.ioClose (w.cb c).fd) w with assuanCtx := false }

/-- `gpgsm_release`; what else it frees holds no descriptor. -/
def release : World := w.cancel

end World

-----------------------------------------------------------------------------------------
-- The calls of an operation
-----------------------------------------------------------------------------------------

/-- The calls that the operations consist of; a simple command has its line. -/
inductive Call where
  | malloc
  | command (line : Str)
  | setFd (channel : FdType) (data : Option DataObject) (opt : Option Str)
  | newHelper (fingerprints : Str)
  | releaseHelper
  | openStatus
  | addIoCb (callback : Callback)
  | writeLine (line : Str)

/-- What a call returns and does. -/
def World.call (w : World) : Call → GpgError × World
  | .malloc => w.answer
  | .command _ => w.assuan
  | .setFd channel data _ => w.setFd channel data
  | .newHelper fingerprints =>
      let (err, w) := w.answer
      if err ≠ 0 then (err, { w with inputHelperData := none })
      else (0, { w with inputHelperData := some (.helper fingerprints) })
  | .releaseHelper => (0, { w with inputHelperData := none })
  | .openStatus => w.openStatus
  | .addIoCb callback => w.addIoCb callback
  | .writeLine _ => w.assuan

/-- A part of an operation. -/
abbrev Steps (α : Type) := Calls Call GpgError α

namespace Steps

def malloc : Steps GpgError := .request .malloc

/-- `gpgsm_assuan_simple_command`. -/
def command (line : Str) : Steps GpgError := .request (.command line)

def setFd (channel : FdType) (data : Option DataObject) (opt : Option Str) : Steps GpgError :=
  .request (.setFd channel data opt)

/-- `gpgsm_clear_fd`, which does nothing when descriptors can be passed. -/
def clearFd (_ : FdType) : Steps Unit := pure ()

def addIoCb (callback : Callback) : Steps GpgError := .request (.addIoCb callback)

/-- Go on without an error. -/
def andThen (err : GpgError) (next : Steps GpgError) : Steps GpgError :=
  if err ≠ 0 then pure err else next

/-- The command at the beginning of `start`. -/
def sendOrigin (origin : Str) : Steps GpgError := do
  if origin = [] then return 0
  let err ← malloc
  if err ≠ 0 then return err
  let err ← command (GpgsmCommand.requestOrigin origin).line
  return if err ≠ 0 ∧ gpgErrCode err ≠ ErrCode.unknownOption then err else 0

/-- `start`. -/
def start (origin line : Str) : Steps GpgError := do
  let err ← sendOrigin origin
  if err ≠ 0 then return err
  let err ← .request .openStatus
  if err ≠ 0 then return err
  let err ← addIoCb .status
  let err ← andThen err (addIoCb (.channel .input))
  let err ← andThen err (addIoCb (.channel .output))
  let err ← andThen err (addIoCb (.channel .message))
  andThen err (.request (.writeLine line))

end Steps

end Gpgme.Channels
