import Gpgme.EngineGpg.BuildArgv
import Gpgme.EnginePipes

/-! The descriptors of the gpg engine during an operation: the pipes that it creates, the fields
that hold their ends, the registrations with the event loop, and the ways in which a descriptor
is closed.
-/

namespace Gpgme.Lifecycle

open CString

-----------------------------------------------------------------------------------------
-- The engine
-----------------------------------------------------------------------------------------

/-- The callbacks that the engine registers. -/
inductive Handler where
  | status
  | colon
  | command
  | data
deriving DecidableEq

/-- The status codes by which gpg asks for something. -/
inductive GetCode where
  | getBool
  | getLine
  | getHidden
deriving DecidableEq

/-- A `GET_*` line. -/
structure Request where
  code : GetCode
  keyword : Str
deriving DecidableEq

/-- A call of the command function: its arguments, its result, and the newline characters that
were written behind it.
-/
structure Call where
  code : Option GetCode
  keyword : Option Str
  fd : Option Nat
  failed : Bool
  processed : Bool
  newlines : Nat
deriving DecidableEq

/-- The member `cmd` of `struct engine_gpg`; -1 is `none`, as is the code 0. -/
structure Command where
  used : Bool
  fd : Option Nat := none
  idx : Option Nat := none
  code : Option GetCode := none
  keyword : Option Str := none
deriving DecidableEq

/-- The members of `struct engine_gpg` with descriptors and tags. -/
structure Gpg where
  statusRead : Option Nat := none
  statusWrite : Option Nat := none
  statusTag : Option Nat := none
  colonRead : Option Nat := none
  colonWrite : Option Nat := none
  colonTag : Option Nat := none
  colonFnc : Bool := false
  fdDataMap : MapPointer := .null
  cmd : Command
deriving DecidableEq

/-- The engine in its process. A use of a table that was freed is remembered, and so are what
gpg asks for and the calls of the command function. gpg waits from a request to its answer.
-/
structure World where
  ends : PipeEnds
  notify : Nat → Bool := fun _ => false
  io : IoTags Handler
  gpg : Gpg
  danglingUse : Bool := false
  waiting : Bool := false
  asked : List Request := []
  calls : List Call := []

/-- The fields of the engine that hold a descriptor. -/
inductive Slot where
  | statusRead
  | statusWrite
  | colonRead
  | colonWrite
  | cmd
  | map (s : MapSlot)
deriving DecidableEq

namespace Gpg

variable (gpg : Gpg)

def slot : Slot → Option Nat
  | .statusRead => gpg.statusRead
  | .statusWrite => gpg.statusWrite
  | .colonRead => gpg.colonRead
  | .colonWrite => gpg.colonWrite
  | .cmd => gpg.cmd.fd
  | .map s => mapSlot gpg.fdDataMap.entries s

/-- The tag next to a field. -/
def tagOf : Slot → Option Nat
  | .statusRead => gpg.statusTag
  | .colonRead => gpg.colonTag
  | .map s => mapTag gpg.fdDataMap.entries s
  | .statusWrite | .colonWrite | .cmd => none

/-- A change of the table, if there is one. -/
def modifyMap (change : List PipeEntry → List PipeEntry) : Gpg :=
  match gpg.fdDataMap with
  | .table entries => { gpg with fdDataMap := .table (change entries) }
  | .null | .freed => gpg

/-- The engine with a tag in the field for it. -/
def setTag (tag : Option Nat) : Slot → Gpg
  | .statusRead => { gpg with statusTag := tag }
  | .colonRead => { gpg with colonTag := tag }
  | .map (.fd i) => gpg.modifyMap fun entries => setMapTag entries tag i
  | .map (.peer _) | .statusWrite | .colonWrite | .cmd => gpg

/-- The direction of an entry of the table. -/
def inbound (i : Nat) : Bool := gpg.fdDataMap.entries[i]?.any PipeEntry.inbound

end Gpg

namespace World

variable (w : World)

-----------------------------------------------------------------------------------------
-- Closing
-----------------------------------------------------------------------------------------

/-- `if (tag) (*gpg->io_cbs.remove) (tag)` -/
def removeTag : Option Nat → World
  | none => w
  | some tag => { w with io := w.io.remove tag }

/-- `close_notify_handler`. -/
def closeNotifyHandler (fd : Nat) : World :=
  let gpg := w.gpg
  if gpg.statusRead = some fd then
    { w.removeTag gpg.statusTag with gpg := { gpg with statusRead := none } }
  else if gpg.statusWrite = some fd then { w with gpg := { gpg with statusWrite := none } }
  else if gpg.colonRead = some fd then
    { w.removeTag gpg.colonTag with gpg := { gpg with colonRead := none } }
  else if gpg.colonWrite = some fd then { w with gpg := { gpg with colonWrite := none } }
  else if gpg.cmd.fd = some fd then
    { w with gpg := { gpg with cmd := { gpg.cmd with fd := none } } }
  else
    match gpg.fdDataMap with
    | .null => w
    | .freed => { w with danglingUse := true }
    | .table entries =>
        let (entries, tag) := notifyEntries fd entries
        { w.removeTag tag with gpg := { gpg with fdDataMap := .table entries } }

/-- `_gpgme_io_close`: the notification runs once, in front of the close. -/
def ioClose (fd : Nat) : World :=
  let notified :=
    if w.notify fd then
      { w with notify := Function.update w.notify fd false }.closeNotifyHandler fd
    else w
  { notified with ends := notified.ends.close fd }

/-- `if (field != -1) _gpgme_io_close (field)` -/
def closeSlot (s : Slot) : World :=
  match w.gpg.slot s with
  | none => w
  | some fd => w.ioClose fd

/-- `free_fd_data_map`, on the table of the engine. -/
def freeFdDataMap : World :=
  match w.gpg.fdDataMap with
  | .null | .freed => w
  | .table entries =>
      let closed := ((mapSlots entries).map Slot.map).foldl closeSlot w
      { closed with gpg := { closed.gpg with fdDataMap := .freed } }

/-- `if (gpg->fd_data_map)`, then `free_fd_data_map` and the pointer becomes NULL. -/
def dropFdDataMap : World :=
  match w.gpg.fdDataMap with
  | .null => w
  | .table _ | .freed =>
      let freed := w.freeFdDataMap
      { freed with gpg := { freed.gpg with fdDataMap := .null } }

/-- The field that `gpg_cancel` closes first. -/
def commandSlot : Option Slot :=
  if w.gpg.cmd.used then
    if w.gpg.cmd.fd ≠ none then some .cmd else w.gpg.cmd.idx.map fun idx => .map (.fd idx)
  else none

/-- `gpg_cancel`. -/
def cancel : World :=
  let fields := w.commandSlot.toList ++ [.statusRead, .statusWrite, .colonRead, .colonWrite]
  (fields.foldl closeSlot w).dropFdDataMap

/-- `gpg_release`; what else it frees holds no descriptor. -/
def release : World := w.cancel

end World

-----------------------------------------------------------------------------------------
-- Preparing
-----------------------------------------------------------------------------------------

/-- What an operation sets up before it starts: the arguments and the data objects, the locale
and whether there is a handler for colon lines. `gpg_set_command_handler` adds the one entry for
the descriptor of the commands.
-/
structure Prepared where
  options : EngineGpg
  pgmname : Str
  lcCtype : Option Str := none
  lcMessages : Option Str := none
  colon : Bool := false
  command
    : options.cmdUsed = true → options.arglist.countP options.isCommand = 1

/-- A new pipe whose ends have their close notification. -/
def World.pipe (w : World) : (Nat × Nat) × World :=
  let (fds, ends) := w.ends.pipe
  (fds,
    { w with
      ends,
      notify := Function.update (Function.update w.notify fds.1 true) fds.2 true })

/-- The pipe of `gpg_new`. -/
def World.openStatus (w : World) : World :=
  let ((readEnd, writeEnd), w) := w.pipe
  { w with gpg := { w.gpg with statusRead := some readEnd, statusWrite := some writeEnd } }

/-- `gpg_set_colon_line_handler`. -/
def World.setColonLineHandler (w : World) : World :=
  let ((readEnd, writeEnd), w) := w.pipe
  { w with
    gpg := {
      w.gpg with colonRead := some readEnd, colonWrite := some writeEnd, colonFnc := true } }

/-- The engine before `start`, in a process with other open files. -/
def World.prepared (user : Bool) (others : Descriptors Unit) (p : Prepared) : World :=
  let new : World := {
    ends := .inherit others, io := { user }, gpg := { cmd := { used := p.options.cmdUsed } } }
  if p.colon then new.openStatus.setColonLineHandler else new.openStatus

-----------------------------------------------------------------------------------------
-- Starting
-----------------------------------------------------------------------------------------

/-- How the calls of `start` that can fail end: the name of the program, the memory for the
arguments with the locale, the environment, the two vectors, each text by its index, each pipe by
its index, the list of descriptors, the new process, and each registration.
-/
structure StartAnswers where
  program : Bool := true
  localeMemory : Nat → Bool := fun _ => true
  useAgent : Option Bool := some false
  argvMemory : Bool := true
  mapMemory : Bool := true
  textMemory : Nat → Bool := fun _ => true
  pipe : Nat → Bool := fun _ => true
  fdListMemory : Bool := true
  spawn : Bool := true
  add : Slot → AddAnswers := fun _ => {}

/-- The two arguments for a locale, at the front of the list. -/
def addLocale (gpg : EngineGpg) (option : Str) (memory : Nat → Bool) (first : Nat)
    : Option Str → Option EngineGpg
  | none => some gpg
  | some value =>
      if memory first && memory (first + 1) then
        some ((gpg.addArgExt [] value value.length true none).addArgExt [] option option.length
          true none)
      else none

/-- The arguments with the locale. -/
def Prepared.withLocale (p : Prepared) (memory : Nat → Bool) : Option EngineGpg := do
  let options ← addLocale p.options (str "--lc-ctype") memory 0 p.lcCtype
  addLocale options (str "--lc-messages") memory 2 p.lcMessages

/-- What `build_argv` has made so far. -/
structure Building where
  world : World
  argc : Nat := 0
  entries : List PipeEntry := []

/-- `argv[argc] = strdup (text)` and a check. -/
def buildText (answers : StartAnswers) (b : Building) : Except World Building :=
  if answers.textMemory b.argc then .ok { b with argc := b.argc + 1 } else .error b.world

/-- A data object: its pipe, and the argument with the number of the other end. The assertion
that `cmd.idx` is -1 holds because there is one entry for the commands.
-/
def buildData (answers : StartAnswers) (options : EngineGpg) (b : Building) (data : Nat)
    (inbound : Bool) (dupTo : Int)
    : Except World Building :=
  let datac := b.entries.length
  if !answers.pipe datac then .error b.world
  else
    let ((readEnd, writeEnd), w) := b.world.pipe
    let cmd := if options.isCallback data then { w.gpg.cmd with idx := some datac } else w.gpg.cmd
    let entry : PipeEntry := {
      data, inbound, dupTo
      fd := some (if inbound then readEnd else writeEnd)
      peerFd := some (if inbound then writeEnd else readEnd) }
    let made : Building := {
      b with
      world := { w with gpg := { w.gpg with cmd } }
      entries := b.entries ++ [entry] }
    if dupTo = -1 then buildText answers made else .ok made

def buildArg (answers : StartAnswers) (options : EngineGpg) (b : Building)
    : ArgAndData → Except World Building
  | .arg _ _ => buildText answers b
  | .data data inbound dupTo _ => buildData answers options b data inbound dupTo

/-- `build_argv`, up to the contents of the arguments. On every error the table is freed without
closing its descriptors.
-/
def World.buildArgv (w : World) (options : EngineGpg) (pgmname : Str) (answers : StartAnswers)
    : Except World World :=
  match answers.useAgent with
  | none => .error w
  | some useAgent =>
      let w := w.dropFdDataMap
      if !answers.argvMemory || !answers.mapMemory then .error w
      else do
        let b ← (options.optionArgs useAgent pgmname).foldlM (fun b _ => buildText answers b)
          { world := w }
        let b ← options.arglist.foldlM (buildArg answers options) b
        pure { b.world with gpg := { b.world.gpg with fdDataMap := .table b.entries } }

namespace World

variable (w : World)

/-- `add_io_cb`. -/
def addIoCb (answers : AddAnswers) (cb : IoCb Handler) (field : Slot) : Bool × World :=
  let ((added, tag), io) := w.io.add answers cb (w.gpg.tagOf field)
  let next := { w with io, gpg := w.gpg.setTag tag field }
  (added && (cb.dir != 0 || answers.nonblocking), next)

/-- The descriptors for the child, which ends with the first -1. -/
def fdList : List Nat :=
  let fields :=
    [w.gpg.statusWrite]
    ++ (if w.gpg.colonFnc then [w.gpg.colonWrite] else [])
    ++ w.gpg.fdDataMap.entries.map PipeEntry.peerFd
  (fields.takeWhile Option.isSome).reduceOption

/-- The end of a call that reports an error to its caller. -/
def checked : Bool × World → Except World World
  | (true, w) => .ok w
  | (false, w) => .error w

/-- "Park the cmd fd": it moves from the table to the member `cmd`. -/
def park (idx : Nat) : World :=
  let fd := w.gpg.slot (.map (.fd idx))
  let gpg := w.gpg.modifyMap fun entries => setMapSlot entries none (.fd idx)
  { w with gpg := { gpg with cmd := { gpg.cmd with fd } } }

/-- The registration of an entry of the table in `start`. -/
def registerEntry (answers : StartAnswers) (i : Nat) : Except World World :=
  let field := Slot.map (.fd i)
  if w.gpg.cmd.used ∧ w.gpg.cmd.idx = some i then .ok (w.park i)
  else
    checked (w.addIoCb (answers.add field)
      { fd := w.gpg.slot field, dir := (w.gpg.inbound i).toNat, handler := .data } field)

/-- The registration of the pipe for colon lines, if there is one. -/
def registerColon (answers : StartAnswers) : Except World World :=
  if w.gpg.colonFnc then
    checked (w.addIoCb (answers.add .colonRead)
      { fd := w.gpg.colonRead, dir := 1, handler := .colon } .colonRead)
  else .ok w

/-- The registrations of `start`. -/
def registerAll (answers : StartAnswers) : Except World World := do
  let w ← checked (w.addIoCb (answers.add .statusRead)
    { fd := w.gpg.statusRead, dir := 1, handler := .status } .statusRead)
  let w ← w.registerColon answers
  (List.range w.gpg.fdDataMap.entries.length).foldlM (fun w i => w.registerEntry answers i) w

/-- `start`; after an error the engine is as it was left there. -/
def start (p : Prepared) (answers : StartAnswers) : Except World World :=
  if !answers.program then .error w
  else
    match p.withLocale answers.localeMemory with
    | none => .error w
    | some options => do
        let w ← w.buildArgv options p.pgmname answers
        if !answers.fdListMemory || !answers.spawn then .error w
        else (w.fdList.foldl ioClose w).registerAll answers

end World

-----------------------------------------------------------------------------------------
-- Running
-----------------------------------------------------------------------------------------

/-- What a callback does with its descriptor: nothing more, a close, or an error. -/
inductive Handled where
  | stays
  | closes
  | fails
deriving DecidableEq

/-- A status line, with the answers of the monitor, of `strdup` for the keyword, of the
registration of the command descriptor and of the status handler.
-/
structure StatusLine where
  request : Option Request := none
  vetoed : Bool := false
  memory : Bool := true
  add : AddAnswers := {}
  failed : Bool := false
deriving DecidableEq

/-- What happens in a callback. -/
inductive Reaction where
  | line (line : StatusLine)
  | eof (failed : Bool)
  | handled (result : Handled)
  | answered (failed processed : Bool)
deriving DecidableEq

/-- What can happen after the start: the loop runs the callback of a tag, or the application
cancels the operation.
-/
inductive Event where
  | run (tag : Nat) (reaction : Reaction)
  | cancel
deriving DecidableEq

namespace World

variable (w : World)

/-- `read_status` at a line by which gpg asks for something. The result of `add_io_cb` is not
looked at.
-/
def readRequest (request : Request) (line : StatusLine) : Bool × World :=
  let cmd := {
    w.gpg.cmd with
    code := some request.code
    keyword := if line.memory then some request.keyword else none }
  let w := { w with gpg := { w.gpg with cmd } }
  if !line.memory then (false, w)
  else
    match cmd.idx with
    | none => (true, w)
    | some idx =>
        let (_, w) := w.addIoCb line.add { fd := cmd.fd, dir := 0, handler := .command }
          (.map (.fd idx))
        let gpg := w.gpg.modifyMap fun entries => setMapSlot entries cmd.fd (.fd idx)
        (true, { w with gpg := { gpg with cmd := { gpg.cmd with fd := none } } })

/-- `read_status` at a line. A callback on the status pipe handles the lines that it has read one
after the other, each of which is an event here; after an error there are no more of them.
-/
def readLine (line : StatusLine) : Bool × World :=
  let w := {
    w with asked := w.asked ++ line.request.toList, waiting := w.waiting || line.request.isSome }
  if line.vetoed then (false, w)
  else
    match line.request with
    | some request =>
        if w.gpg.cmd.used then w.readRequest request line else (!line.failed, w)
    | none => (!line.failed, w)

/-- `command_handler`. -/
def commandHandler (fd : Option Nat) (failed processed : Bool) : Bool × World :=
  let cmd := w.gpg.cmd
  let newlines := if failed || processed then 0 else 1
  let call : Call := { code := cmd.code, keyword := cmd.keyword, fd, failed, processed, newlines }
  let w := {
    w with
    calls := w.calls ++ [call]
    waiting := failed
    gpg := { w.gpg with cmd := { cmd with code := none } } }
  match cmd.idx with
  | none => (!failed, w)
  | some idx => (!failed, (w.removeTag (w.gpg.tagOf (.map (.fd idx)))).park idx)

/-- The rest of a callback that closes its descriptor or fails. -/
def finish (fd : Option Nat) : Handled → Bool × World
  | .stays => (true, w)
  | .closes => (true, fd.elim w w.ioClose)
  | .fails => (false, w)

/-- A callback, with the error that it returns to the loop. -/
def callback (cb : IoCb Handler) (reaction : Reaction) : Bool × World :=
  match cb.handler, reaction with
  | .status, .line line => w.readLine line
  | .status, .eof failed => w.finish cb.fd (if failed then .fails else .closes)
  | .colon, .handled result => w.finish cb.fd result
  | .data, .handled result => w.finish cb.fd result
  | .command, .answered failed processed => w.commandHandler cb.fd failed processed
  | _, _ => (true, w)

/-- One event; an error of a callback makes the loop cancel the operation. -/
def step : Event → World
  | .cancel => w.cancel
  | .run tag reaction =>
      match w.io.items tag with
      | none => w
      | some item =>
          match w.callback item.cb reaction with
          | (true, next) => next
          | (false, next) => next.cancel

end World

end Gpgme.Lifecycle
