import Gpgme.Error
import Gpgme.Lib.CString
import Gpgme.Lib.CountedVector

/-! The arguments that `engine-gpg.c` collects for a run of the program, and the vector that
`build_argv` makes of them. The vector is counted in a first pass and filled in a second one.
-/

namespace Gpgme

open CString

-----------------------------------------------------------------------------------------
-- Version numbers
-----------------------------------------------------------------------------------------

def isdigit (c : UInt8) : Bool := digitValue c < 10

/-- `MAXVAL`, the largest value that another digit may follow. -/
def maxVersionValue : Nat := 214748363

/-- The loop of `parse_version_number`. -/
def versionDigits : Nat → Str → Nat × Str
  | value, [] => (value, [])
  | value, c :: rest =>
      if isdigit c ∧ value ≤ maxVersionValue then
        versionDigits (value * 10 + digitValue c) rest
      else
        (value, c :: rest)

/-- `parse_version_number`; leading zeros are not allowed. -/
def parseVersionNumber (s : Str) : Option (Nat × Str) :=
  if s.head? = some 48 ∧ s.tail.head?.any isdigit then none
  else
    let (value, rest) := versionDigits 0 s
    if maxVersionValue < value then none else some (value, rest)

/-- `parse_version_string`: the three numbers and what follows them. -/
def parseVersionString (s : Str) : Option (Nat × Nat × Nat × Str) := do
  let (major, rest) ← parseVersionNumber s
  guard (rest.head? = some 46)
  let (minor, rest) ← parseVersionNumber rest.tail
  guard (rest.head? = some 46)
  let (micro, rest) ← parseVersionNumber rest.tail
  pure (major, minor, micro, rest)

/-- `_gpgme_compare_versions`: whether the first version is at least the second one. -/
def compareVersions (myVersion : Option Str) (rqVersion : Str) : Bool :=
  match myVersion.bind parseVersionString, parseVersionString rqVersion with
  | some (myMajor, myMinor, myMicro, myPlvl), some (rqMajor, rqMinor, rqMicro, rqPlvl) =>
      rqMajor < myMajor
      || (myMajor == rqMajor && rqMinor < myMinor)
      || (myMajor == rqMajor && myMinor == rqMinor && rqMicro < myMicro)
      || (myMajor == rqMajor && myMinor == rqMinor && myMicro == rqMicro && !(myPlvl < rqPlvl))
  | _, _ => false

-----------------------------------------------------------------------------------------
-- The engine
-----------------------------------------------------------------------------------------

/-- `struct arg_and_data_s`. An entry is made by `_add_arg`, which stores no data object, or by
`add_data`, which stores no `arg_locp`.
-/
inductive ArgAndData where
  | arg (text : Str) (argLocp : Option Nat)
  | data (data : Nat) (inbound : Bool) (dupTo : Int) (printFd : Bool)
deriving DecidableEq

/-- `gpgme_pinentry_mode_t`. -/
inductive PinentryMode where
  | default
  | ask
  | cancel
  | error
  | loopback
deriving DecidableEq

/-- The part of `struct engine_gpg` that decides on the arguments. -/
structure EngineGpg where
  version : Option Str := none
  arglist : List ArgAndData := []
  cmdUsed : Bool := false
  cmdCbData : Option Nat := none
  cmdIdx : Int := -1
  pinentryMode : PinentryMode := .default
  requestOrigin : Str := []
  autoKeyLocate : Option Str := none
  trustModel : Option Str := none
  noSymkeyCache : Bool := false
  offline : Bool := false
  ignoreMdcError : Bool := false

/-- The flags of a context that the engine copies. -/
structure CtxFlags where
  requestOrigin : Option Str := none
  autoKeyLocate : Option Str := none
  trustModel : Option Str := none
  noSymkeyCache : Bool := false
  offline : Bool := false
  ignoreMdcError : Bool := false

namespace EngineGpg

/-- `have_gpg_version`. -/
def haveGpgVersion (gpg : EngineGpg) (version : String) : Bool :=
  compareVersions gpg.version (str version)

/-- `_add_arg`, which takes the first `arglen` bytes of the argument. -/
def addArgExt (gpg : EngineGpg) (start arg : Str) (arglen : Nat) (front : Bool)
    (argLocp : Option Nat)
    : EngineGpg :=
  let entry := ArgAndData.arg (start ++ arg.take arglen) argLocp
  if front then { gpg with arglist := entry :: gpg.arglist }
  else { gpg with arglist := gpg.arglist ++ [entry] }

/-- `add_arg`. -/
def addArg (gpg : EngineGpg) (arg : Str) : EngineGpg :=
  gpg.addArgExt [] arg arg.length false none

/-- `add_arg_with_locp`. -/
def addArgWithLocp (gpg : EngineGpg) (arg : Str) (locp : Nat) : EngineGpg :=
  gpg.addArgExt [] arg arg.length false (some locp)

/-- `add_data`; -2 as the target asks for the number of the descriptor. -/
def addData (gpg : EngineGpg) (data : Nat) (dupTo : Int) (inbound : Bool) : EngineGpg :=
  let entry :=
    if dupTo = -2 then ArgAndData.data data inbound (-1) true
    else ArgAndData.data data inbound dupTo false
  { gpg with arglist := gpg.arglist ++ [entry] }

/-- `gpg_set_command_handler`; the address of the command structure stands for a data object. -/
def setCommandHandler (gpg : EngineGpg) (cmd : Nat) : EngineGpg :=
  { (gpg.addArg (str "--command-fd")).addData cmd (-2) false with
    cmdCbData := some cmd,
    cmdUsed := true }

/-- `gpg_set_engine_flags`. -/
def setEngineFlags (gpg : EngineGpg) (ctx : CtxFlags) : EngineGpg :=
  let requestOrigin :=
    match ctx.requestOrigin with
    | some origin =>
        if gpg.haveGpgVersion "2.2.6" then
          if origin.length + 1 > 10 then str "xxx" else origin
        else
          []
    | none => []
  let autoKeyLocate :=
    match ctx.autoKeyLocate with
    | some locate =>
        if gpg.haveGpgVersion "2.1.18" then some (str "--auto-key-locate=" ++ locate)
        else gpg.autoKeyLocate
    | none => gpg.autoKeyLocate
  let trustModel :=
    match ctx.trustModel with
    | some model => if model ≠ [] then some (str "--trust-model=" ++ model) else gpg.trustModel
    | none => gpg.trustModel
  { gpg with
    requestOrigin,
    autoKeyLocate,
    trustModel,
    noSymkeyCache := ctx.noSymkeyCache && gpg.haveGpgVersion "2.2.7",
    offline := ctx.offline && gpg.haveGpgVersion "2.1.23",
    ignoreMdcError := ctx.ignoreMdcError }

end EngineGpg

-----------------------------------------------------------------------------------------
-- The first pass
-----------------------------------------------------------------------------------------

namespace ArgAndData

def isData : ArgAndData → Bool
  | arg _ _ => false
  | data _ _ _ _ => true

/-- A data object whose special file name is an argument. -/
def isSpecial : ArgAndData → Bool
  | arg _ _ => false
  | data _ _ dupTo printFd => dupTo == -1 && !printFd

/-- The second pass makes an argument of the entry. -/
def takesSlot : ArgAndData → Bool
  | arg _ _ => true
  | data _ _ dupTo _ => dupTo == -1

end ArgAndData

namespace EngineGpg

def needSpecial (gpg : EngineGpg) : Bool := gpg.arglist.any ArgAndData.isSpecial

/-- The value of `argc` after the first pass. -/
def countArgs (gpg : EngineGpg) (useAgent : Bool) : Nat :=
  1 + gpg.arglist.length + gpg.needSpecial.toNat + useAgent.toNat
    + (gpg.pinentryMode != .default).toNat + (!gpg.cmdUsed).toNat + 4

/-- The value of `datac` after the first pass. -/
def countData (gpg : EngineGpg) : Nat := gpg.arglist.countP ArgAndData.isData

/-- The argument for the pinentry mode. -/
def pinentryArg (gpg : EngineGpg) : Option Str :=
  if gpg.pinentryMode ≠ .default ∧ gpg.haveGpgVersion "2.1.0" then
    match gpg.pinentryMode with
    | .default => none
    | .ask => some (str "--pinentry-mode=ask")
    | .cancel => some (str "--pinentry-mode=cancel")
    | .error => some (str "--pinentry-mode=error")
    | .loopback => some (str "--pinentry-mode=loopback")
  else
    none

/-- The options that the second pass adds from the flags of the engine. -/
def flagArgs (gpg : EngineGpg) : List Str :=
  (if gpg.requestOrigin = [] then [] else [str "--request-origin=" ++ gpg.requestOrigin])
  ++ gpg.autoKeyLocate.toList
  ++ gpg.trustModel.toList
  ++ (if gpg.noSymkeyCache then [str "--no-symkey-cache"] else [])
  ++ (if gpg.ignoreMdcError then [str "--ignore-mdc-error"] else [])
  ++ (if gpg.offline then [str "--disable-dirmngr"] else [])

/-- `_gpgme_get_basename`. -/
def getBasename (name : Str) : Str := (name.reverse.takeWhile (· != 47)).reverse

/-- The arguments that the second pass writes in front of the argument list. -/
def optionArgs (gpg : EngineGpg) (useAgent : Bool) (pgmname : Str) : List Str :=
  [getBasename pgmname]
  ++ (if gpg.needSpecial then [str "--enable-special-filenames"] else [])
  ++ (if useAgent then [str "--use-agent"] else [])
  ++ gpg.flagArgs
  ++ gpg.pinentryArg.toList
  ++ (if gpg.cmdUsed then [] else [str "--batch"])
  ++ [str "--no-sk-comments"]

end EngineGpg

-----------------------------------------------------------------------------------------
-- The second pass
-----------------------------------------------------------------------------------------

/-- `struct fd_data_map_s`. -/
structure FdDataMap where
  data : Nat := 0
  inbound : Bool := false
  dupTo : Int := 0
  fd : Int := 0
  peerFd : Int := 0
  argLoc : Nat := 0
deriving DecidableEq

/-- What the system answers: the environment, the two vectors, the text of each argument, and
the pipe and its handlers for each data object.
-/
structure System where
  inGpgOneMode : Bool := false
  agentInfo : Except GpgError (Option Str) := .ok none
  argvMemory : Bool := true
  mapMemory : Bool := true
  textMemory : Nat → Bool := fun _ => true
  pipe : Nat → Option (Int × Int)
  closeNotify : Nat → Bool := fun _ => true
  syserror : GpgError

/-- What the second pass has built so far, with the values stored through an `arg_locp`. -/
structure Vectors where
  argv : CountedVector Str
  fdDataMap : CountedVector FdDataMap
  cmdIdx : Int
  argLocs : List (Nat × Nat) := []

/-- The reasons that end the second pass early. -/
inductive Stop where
  | error (err : GpgError)
  | assertion

abbrev Pass := Except (Stop × Vectors) Vectors

/-- `argv[argc] = strdup (text)`, a check and `argc++`. -/
def pushText (sys : System) (v : Vectors) (text : Str) : Pass :=
  if sys.textMemory v.argv.next then .ok { v with argv := v.argv.push text }
  else .error (.error sys.syserror, { v with argv := v.argv.put none })

/-- The text for a descriptor. -/
def fdText (printFd : Bool) (fd : Int) : Str :=
  (if printFd then [] else str "-&") ++ str (toString fd)

/-- Whether the data object is the one of the command handler. -/
def EngineGpg.isCallback (gpg : EngineGpg) (data : Nat) : Bool :=
  gpg.cmdUsed && gpg.cmdCbData == some data

/-- The second pass at a data object. -/
def buildData (sys : System) (gpg : EngineGpg) (v : Vectors) (data : Nat) (inbound : Bool)
    (dupTo : Int) (printFd : Bool)
    : Pass :=
  let datac := v.fdDataMap.next
  let stopped (stop : Stop) (entry : FdDataMap) : Pass :=
    .error (stop, { v with fdDataMap := v.fdDataMap.put (some entry) })
  match sys.pipe datac with
  | none => stopped (.error sys.syserror) { inbound }
  | some (readEnd, writeEnd) =>
      if !sys.closeNotify datac then stopped (.error (gpgError ErrCode.general)) { inbound }
      else
        let fd := if inbound then readEnd else writeEnd
        let peerFd := if inbound then writeEnd else readEnd
        if gpg.isCallback data && v.cmdIdx != -1 then stopped .assertion { inbound, fd, peerFd }
        else
          let cmdIdx := if gpg.isCallback data then (datac : Int) else v.cmdIdx
          let entry : FdDataMap := { data, inbound, dupTo, fd, peerFd }
          if dupTo = -1 then
            if sys.textMemory v.argv.next then
              .ok { v with
                cmdIdx,
                argv := v.argv.push (fdText printFd peerFd),
                fdDataMap := v.fdDataMap.push { entry with argLoc := v.argv.next } }
            else
              .error (.error sys.syserror,
                { v with
                  cmdIdx,
                  argv := v.argv.put none,
                  fdDataMap := v.fdDataMap.put (some entry) })
          else
            .ok { v with cmdIdx, fdDataMap := v.fdDataMap.push entry }

/-- The second pass at an entry of the argument list. -/
def buildArg (sys : System) (gpg : EngineGpg) (v : Vectors) : ArgAndData → Pass
  | .arg text argLocp =>
      let stored := argLocp.toList.map (fun loc => (loc, v.argv.next))
      pushText sys { v with argLocs := v.argLocs ++ stored } text
  | .data data inbound dupTo printFd => buildData sys gpg v data inbound dupTo printFd

/-- How a call of `build_argv` ends. -/
inductive Outcome where
  | refused (err : GpgError)
  | stopped (stop : Stop) (v : Vectors)
  | built (v : Vectors)

/-- What was written, unless the call ended before the second pass. -/
def Outcome.vectors : Outcome → Option Vectors
  | refused _ => none
  | stopped _ v => some v
  | built v => some v

/-- Both loops of the second pass. -/
def fillVectors (sys : System) (gpg : EngineGpg) (options : List Str) (v : Vectors) : Pass := do
  let v ← options.foldlM (pushText sys) v
  gpg.arglist.foldlM (buildArg sys gpg) v

/-- `use_agent`, from the environment of the program. -/
def System.useAgent (sys : System) : Except GpgError Bool :=
  if sys.inGpgOneMode then sys.agentInfo.map (fun info => (info.getD []).contains 58)
  else .ok false

/-- `build_argv`. -/
def buildArgv (sys : System) (gpg : EngineGpg) (pgmname : Str) : Outcome :=
  match sys.useAgent with
  | .error err => .refused err
  | .ok useAgent =>
      if sys.argvMemory && sys.mapMemory then
        let v : Vectors := {
          argv := .allocate (gpg.countArgs useAgent),
          fdDataMap := .allocate gpg.countData,
          cmdIdx := gpg.cmdIdx }
        match fillVectors sys gpg (gpg.optionArgs useAgent pgmname) v with
        | .error (stop, v) => .stopped stop v
        | .ok v => .built v
      else
        .refused sys.syserror

end Gpgme
