import Gpgme.EngineGpg.Arguments
import Gpgme.Lib.BlockHeap
import Gpgme.Lib.FaultMachine

/-! The lists of engine information: the default list, which is made when it is first needed,
and the copies that contexts have of it. Their entries and strings are blocks of the heap; which
allocations are granted is given from outside. The locks are not modelled.
-/

namespace Gpgme.InfoLists

open CString

-----------------------------------------------------------------------------------------
-- Memory
-----------------------------------------------------------------------------------------

/-- What is allocated: a string, or a `struct _gpgme_engine_info`. -/
inductive Block where
  | string (text : Str)
  | info

abbrev Memory := BlockHeap Block

/-- What a program must not do: read a member that was never set, read or free a block that is
not live, or violate an `assert`.
-/
inductive Fault where
  | neverSet
  | notLive
  | assertion
deriving DecidableEq

def readString (mem : Memory) (id : Nat) : Except Fault Str :=
  match mem.read id with
  | some (.string text) => .ok text
  | _ => .error .notLive

/-- `free`. -/
def free (mem : Memory) (pointer : Option Nat) : Except Fault Memory :=
  match mem.free pointer with
  | some next => .ok next
  | none => .error .notLive

/-- `strdup` of a string that is not in the heap, where there is one. -/
def strdup (granted : Nat → Bool) (mem : Memory) : Option Str → Option Nat × Memory
  | none => (none, mem)
  | some text => mem.malloc granted (.string text)

/-- `strdup` of a string in the heap, unless the pointer to it is null. -/
def strdupOf (granted : Nat → Bool) (mem : Memory)
    : Option Nat → Except Fault (Option Nat × Memory)
  | none => .ok (none, mem)
  | some id => do
      let text ← readString mem id
      return mem.malloc granted (.string text)

-----------------------------------------------------------------------------------------
-- Engines
-----------------------------------------------------------------------------------------

/-- `gpgme_engine_info_t`, with its members set; the list itself stands for `next`. -/
structure EngineInfo where
  self : Nat
  protocol : Nat
  fileName : Option Nat
  homeDir : Option Nat
  version : Option Nat
  reqVersion : Str
deriving DecidableEq

/-- An entry of a list that is released: `calloc` sets the members to null, `malloc` does not set
them.
-/
inductive Node where
  | made (info : EngineInfo)
  | zeroed (self : Nat)
  | raw (self : Nat)

/-- The static functions of an engine. Those engines that start a program for `get_version` take
the file name of the engine when they get none; the others return a null pointer.
-/
structure EngineOps where
  getFileName : Option Str
  getHomeDir : Option Str := none
  startsProgram : Bool := true
  getReqVersion : Option Str := none

/-- `GPG_ERR_ENGINE_TOO_OLD`. -/
def engineTooOld : Nat := 300

/-- The version of pseudo engines. -/
def dummyVersion : Str := str "1.0.0"

section Engines

/-! `engine_ops` has a null pointer for an engine that is not built in. -/
variable (engines : List (Option EngineOps))

/-- The engine of a protocol. The test lets the length of the table pass; no list has an entry
with this protocol.
-/
def engineOps (proto : Nat) : Option EngineOps :=
  if engines.length < proto then none else (engines[proto]?).join

def engineGetFileName (proto : Nat) : Option Str := (engineOps engines proto).bind (·.getFileName)

def engineGetHomeDir (proto : Nat) : Option Str := (engineOps engines proto).bind (·.getHomeDir)

def engineGetReqVersion (proto : Nat) : Option Str :=
  (engineOps engines proto).bind (·.getReqVersion)

/-- The version that the program of an engine prints, which depends on the time of the call. -/
def reportedVersion (printed : Str → Option Str) (proto : Nat) (fileName : Option Str)
    : Option Str := do
  let ops ← engineOps engines proto
  guard ops.startsProgram
  let name ← fileName <|> ops.getFileName
  printed name

variable (granted : Nat → Bool)

def engineGetVersion (printed : Str → Option Str) (mem : Memory) (proto : Nat)
    (fileName : Option Str)
    : Option Nat × Memory :=
  strdup granted mem (reportedVersion engines printed proto fileName)

/-- The dummy version is set for an engine that has none. -/
def versionOrDummy (mem : Memory) (version : Option Nat) : Option Nat × Memory :=
  match version with
  | some id => (some id, mem)
  | none => strdup granted mem (some dummyVersion)

/-- `_gpgme_engine_info_release`. -/
def engineInfoRelease : Memory → List Node → Except Fault Memory
  | mem, [] => .ok mem
  | _, .raw _ :: _ => .error .neverSet
  | mem, .zeroed self :: rest => do
      let mem ← free mem (some self)
      engineInfoRelease mem rest
  | mem, .made info :: rest => do
      let mem ← free mem info.fileName
      let mem ← free mem info.homeDir
      let mem ← free mem info.version
      let mem ← free mem (some info.self)
      engineInfoRelease mem rest

-----------------------------------------------------------------------------------------
-- `gpgme_get_engine_info`
-----------------------------------------------------------------------------------------

/-- `GPGME_PROTOCOL_OpenPGP`, `CMS`, `GPGCONF`, `ASSUAN`, `G13`, `UISERVER` and `SPAWN`. -/
def protoList : List Nat := [0, 1, 2, 3, 4, 5, 6]

/-- Whether a version does not meet the minimal version, when both are given. -/
def tooOld (mem : Memory) (version minimal : Option Nat) : Except Fault Bool :=
  match version, minimal with
  | some version, some minimal => do
      let version ← readString mem version
      let minimal ← readString mem minimal
      return !compareVersions (some version) minimal
  | _, _ => .ok false

/-- The members of a new entry are freed after an error. -/
def freeMembers (mem : Memory) (fileName homeDir version : Option Nat)
    : Except Fault Memory := do
  let mem ← free mem fileName
  let mem ← free mem homeDir
  free mem version

/-- What one iteration of a loop allocates. -/
structure Members where
  fileName : Option Nat
  homeDir : Option Nat
  version : Option Nat
  entry : Option Nat

/-- The allocations of `gpgme_get_engine_info` that do not depend on one another. -/
def allocateMembers (mem : Memory) (version : Option Nat) (ofileName : Str)
    (ohomeDir : Option Str)
    : Members × Memory :=
  let fileName := strdup granted mem (some ofileName)
  let homeDir := strdup granted fileName.2 ohomeDir
  let entry := homeDir.2.malloc granted .info
  (⟨fileName.1, homeDir.1, version, entry.1⟩, entry.2)

/-- An iteration of `gpgme_get_engine_info` after the allocation of the version: its error and
what it allocated.
-/
def newMembers (minimal : Option Nat) (mem : Memory) (version : Option Nat) (ofileName : Str)
    (ohomeDir : Option Str)
    : Except Fault (GpgError × Members × Memory) :=
  let (made, mem) := allocateMembers granted mem version ofileName ohomeDir
  if made.fileName.isNone || (ohomeDir.isSome && made.homeDir.isNone) || made.entry.isNone then
    .ok (gpgError ErrCode.enomem, made, mem)
  else do
    let old ← tooOld mem version minimal
    if old then
      return (gpgError engineTooOld, made, mem)
    let (version, mem) := versionOrDummy granted mem version
    return (if version.isNone then gpgError ErrCode.enomem else 0, { made with version }, mem)

/-- The loop of `gpgme_get_engine_info`: the entries of the remaining protocols are appended. -/
def getEngineInfoLoop (printed : Str → Option Str) (minimal : Option Nat)
    : Memory → List EngineInfo → List Nat → Except Fault (GpgError × List EngineInfo × Memory)
  | mem, infos, [] => .ok (0, infos, mem)
  | mem, infos, proto :: protos =>
      let version := engineGetVersion engines granted printed mem proto none
      match engineGetFileName engines proto with
      | none => getEngineInfoLoop printed minimal version.2 infos protos
      | some ofileName => do
          let ohomeDir := engineGetHomeDir engines proto
          let (err, made, mem) ←
            newMembers granted minimal version.2 version.1 ofileName ohomeDir
          match (if err = 0 then made.entry else none) with
          | none => do
              let nodes := infos.map Node.made ++ made.entry.toList.map Node.zeroed
              let mem ← engineInfoRelease mem nodes
              let mem ← freeMembers mem made.fileName made.homeDir made.version
              return (err, [], mem)
          | some self =>
              let info : EngineInfo :=
                { self, protocol := proto, fileName := made.fileName, homeDir := made.homeDir,
                  version := made.version,
                  reqVersion := (engineGetReqVersion engines proto).getD dummyVersion }
              getEngineInfoLoop printed minimal mem (infos ++ [info]) protos

-----------------------------------------------------------------------------------------
-- `_gpgme_engine_info_copy` and `_gpgme_set_engine_info`
-----------------------------------------------------------------------------------------

/-- The error of an iteration of `_gpgme_engine_info_copy`. -/
def copyError (info : EngineInfo) (made : Members) : GpgError :=
  if made.fileName.isNone
    || (info.homeDir.isSome && made.homeDir.isNone)
    || (info.version.isSome && made.version.isNone)
    || made.entry.isNone
  then gpgError ErrCode.enomem
  else 0

/-- An iteration of `_gpgme_engine_info_copy`: its error and what it allocated. -/
def copyMembers (mem : Memory) (info : EngineInfo)
    : Except Fault (GpgError × Members × Memory) := do
  if info.fileName.isNone then throw .assertion
  let fileName ← strdupOf granted mem info.fileName
  let homeDir ← strdupOf granted fileName.2 info.homeDir
  let version ← strdupOf granted homeDir.2 info.version
  let entry := version.2.malloc granted .info
  let made : Members := ⟨fileName.1, homeDir.1, version.1, entry.1⟩
  return (copyError info made, made, entry.2)

/-- The loop of `_gpgme_engine_info_copy`. -/
def copyLoop
    : Memory → List EngineInfo → List EngineInfo
      → Except Fault (GpgError × List EngineInfo × Memory)
  | mem, copied, [] => .ok (0, copied, mem)
  | mem, copied, info :: rest => do
      let (err, made, mem) ← copyMembers granted mem info
      match (if err = 0 then made.entry else none) with
      | none => do
          let nodes := copied.map Node.made ++ made.entry.toList.map Node.raw
          let mem ← engineInfoRelease mem nodes
          let mem ← freeMembers mem made.fileName made.homeDir made.version
          return (err, [], mem)
      | some self =>
          let copy : EngineInfo :=
            { info with
              self, fileName := made.fileName, homeDir := made.homeDir,
              version := made.version }
          copyLoop mem (copied ++ [copy]) rest

/-- The file name that is duplicated: the given one, or the default of the engine. -/
def newFileName (proto : Nat) (fileName : Option Str) : Except Fault Str :=
  match fileName <|> engineGetFileName engines proto with
  | some text => .ok text
  | none => .error .assertion

/-- `_gpgme_set_engine_info` from the check of the version on: when the dummy version is not
allocated, the new members are freed, and the function goes on.
-/
def installMembers (mem : Memory) (info : EngineInfo) (fileName homeDir version : Option Nat)
    : Except Fault (EngineInfo × Memory) := do
  let mem ←
    if version.isNone then do
      let mem ← free mem fileName
      free mem homeDir
    else .ok mem
  if info.fileName.isNone then throw .assertion
  let mem ← freeMembers mem info.fileName info.homeDir info.version
  return ({ info with fileName, homeDir, version }, mem)

/-- `_gpgme_set_engine_info`. -/
def setEngineInfo (printed : Str → Option Str) (mem : Memory) (infos : List EngineInfo)
    (proto : Nat) (fileName homeDir : Option Str)
    : Except Fault (GpgError × List EngineInfo × Memory) :=
  if engines.length < proto then .ok (gpgError ErrCode.invValue, infos, mem)
  else
    match infos.span fun info => info.protocol != proto with
    | (_, []) => .ok (gpgError ErrCode.invEngine, infos, mem)
    | (before, info :: after) => do
        let name ← newFileName engines proto fileName
        let file := strdup granted mem (some name)
        if file.1.isNone then return (gpgError ErrCode.enomem, infos, file.2)
        let directory := homeDir <|> engineGetHomeDir engines proto
        let home := strdup granted file.2 directory
        if directory.isSome && home.1.isNone then
          let mem ← free home.2 file.1
          return (gpgError ErrCode.enomem, infos, mem)
        let reported := engineGetVersion engines granted printed home.2 proto (some name)
        let version := versionOrDummy granted reported.2 reported.1
        let (installed, mem) ← installMembers version.2 info file.1 home.1 version.1
        return (0, before ++ installed :: after, mem)

-----------------------------------------------------------------------------------------
-- Calls
-----------------------------------------------------------------------------------------

/-- The default list, `engine_minimal_version`, and the lists of the contexts. -/
structure State where
  mem : Memory := {}
  engineInfo : List EngineInfo := []
  minimalVersion : Option Nat := none
  copies : List (List EngineInfo) := []

/-- `gpgme_get_engine_info`. -/
def gpgmeGetEngineInfo (printed : Str → Option Str) (state : State)
    : Except Fault (GpgError × State) :=
  if state.engineInfo = [] then do
    let (err, infos, mem) ←
      getEngineInfoLoop engines granted printed state.minimalVersion state.mem [] protoList
    return (err, { state with engineInfo := infos, mem })
  else .ok (0, state)

/-- `_gpgme_engine_info_copy`; a list that it returns is one more list of a context. -/
def engineInfoCopy (printed : Str → Option Str) (state : State)
    : Except Fault (GpgError × State) := do
  let (err, ready) ← gpgmeGetEngineInfo engines granted printed state
  if err ≠ 0 then return (err, ready)
  let (err, copied, mem) ← copyLoop granted ready.mem [] ready.engineInfo
  return (err, { ready with mem, copies := ready.copies ++ if err = 0 then [copied] else [] })

/-- `gpgme_set_engine_info`. -/
def gpgmeSetEngineInfo (printed : Str → Option Str) (state : State) (proto : Nat)
    (fileName homeDir : Option Str)
    : Except Fault (GpgError × State) := do
  let (err, ready) ← gpgmeGetEngineInfo engines granted printed state
  if err ≠ 0 then return (err, ready)
  let (err, infos, mem) ←
    setEngineInfo engines granted printed ready.mem ready.engineInfo proto fileName homeDir
  return (err, { ready with mem, engineInfo := infos })

/-- `gpgme_ctx_set_engine_info` for the context of the list with a number. -/
def gpgmeCtxSetEngineInfo (printed : Str → Option Str) (state : State) (ctx : Nat) (proto : Nat)
    (fileName homeDir : Option Str)
    : Except Fault (GpgError × State) :=
  match state.copies[ctx]? with
  | none => .ok (gpgError ErrCode.invValue, state)
  | some infos => do
      let (err, infos, mem) ←
        setEngineInfo engines granted printed state.mem infos proto fileName homeDir
      return (err, { state with mem, copies := state.copies.set ctx infos })

/-- `_gpgme_set_engine_minimal_version`. -/
def setEngineMinimalVersion (state : State) (value : Option Str)
    : Except Fault (GpgError × State) := do
  let mem ← free state.mem state.minimalVersion
  let minimal := strdup granted mem value
  return (if value.isSome && minimal.1.isNone then 1 else 0,
    { state with mem := minimal.2, minimalVersion := minimal.1 })

/-- `gpgme_release` as far as the list of the context is concerned. -/
def gpgmeRelease (state : State) (ctx : Nat) : Except Fault (GpgError × State) :=
  match state.copies[ctx]? with
  | none => .ok (0, state)
  | some infos => do
      let mem ← engineInfoRelease state.mem (infos.map Node.made)
      return (0, { state with mem, copies := state.copies.eraseIdx ctx })

/-- The calls, with what the programs of the engines print at their time. -/
inductive Call where
  | getEngineInfo (printed : Str → Option Str)
  | engineInfoCopy (printed : Str → Option Str)
  | setEngineInfo (printed : Str → Option Str) (proto : Nat) (fileName homeDir : Option Str)
  | ctxSetEngineInfo (printed : Str → Option Str) (ctx proto : Nat)
    (fileName homeDir : Option Str)
  | setMinimalVersion (value : Option Str)
  | release (ctx : Nat)

def step (state : State) : Call → Except Fault (GpgError × State)
  | .getEngineInfo printed => gpgmeGetEngineInfo engines granted printed state
  | .engineInfoCopy printed => engineInfoCopy engines granted printed state
  | .setEngineInfo printed proto fileName homeDir =>
      gpgmeSetEngineInfo engines granted printed state proto fileName homeDir
  | .ctxSetEngineInfo printed ctx proto fileName homeDir =>
      gpgmeCtxSetEngineInfo engines granted printed state ctx proto fileName homeDir
  | .setMinimalVersion value => setEngineMinimalVersion granted state value
  | .release ctx => gpgmeRelease state ctx

end Engines

end Gpgme.InfoLists
