import Gpgme.Lib.Lines
import Gpgme.Operation.StatusLines

/-! The status output of gpg, after `read_status` of `engine-gpg.c`. -/

namespace Gpgme

open CString

-----------------------------------------------------------------------------------------
-- Status lines
-----------------------------------------------------------------------------------------

/-- What every status line starts with. -/
def statusPrefix : Str := str "[GNUPG:] "

/-- A line as a C string: a carriage return at its end is cut off, and so is everything
behind a NUL byte.
-/
def lineString (line : Str) : Str :=
  let line := if line.getLast? = some 13 then line.dropLast else line
  line.takeWhile (· != 0)

/-- The keyword and the arguments of a status line; other lines are skipped. -/
def splitStatusLine (line : Str) : Option (Str × Str) :=
  let text := lineString line
  let rest := text.drop statusPrefix.length
  if startsWith text statusPrefix then
    match rest with
    | [] => none
    | c :: _ =>
        if 65 ≤ c ∧ c ≤ 90 then some (word rest, (skipWord rest).tail) else none
  else
    none

/-- The line that a status handler gets; an unknown keyword has no code. -/
def parseStatusLine (line : Str) : Option StatusLine :=
  match splitStatusLine line with
  | none => none
  | some (keyword, args) => (parseStatus keyword).map (fun code => { code, args })

/-- The status lines in a stream of bytes, when `pending` has already been read. -/
def statusLinesOf (pending bytes : Str) : List StatusLine :=
  (Lines.complete pending bytes).filterMap parseStatusLine

-----------------------------------------------------------------------------------------
-- The reader
-----------------------------------------------------------------------------------------

/-- The part of `struct engine_gpg` that `read_status` uses. The monitor answers with an
error code that may depend on all its earlier calls; `buffer` holds the bytes in front of
`readpos`.
-/
structure GpgStatus where
  ctx : Ctx
  monCb : Option (List (Str × Str) → GpgError) := none
  monCalls : List (Str × Str) := []
  cmdUsed : Bool := false
  cmdCode : Option StatusCode := none
  cmdKeyword : Option Str := none
  buffer : Str := []
  eof : Bool := false

/-- Call the monitor, if there is one. -/
def GpgStatus.callMonitor (gpg : GpgStatus) (keyword args : Str) : GpgError × GpgStatus :=
  match gpg.monCb with
  | none => (0, gpg)
  | some answer =>
      let calls := gpg.monCalls ++ [(keyword, args)]
      (answer calls, { gpg with monCalls := calls })

/-- The special error code that a status handler may return is dropped. -/
def dropFalse (err : GpgError) : GpgError := if gpgErrCode err = ErrCode.false then 0 else err

/-- Pass a line to the status handler. -/
def GpgStatus.callHandler (handler : StatusHandler) (gpg : GpgStatus) (code : StatusCode)
    (args : Str)
    : Option (GpgError × GpgStatus) :=
  (handler gpg.ctx code args).map (fun (err, _, ctx) => (dropFalse err, { gpg with ctx }))

/-- Whether a line asks for a command that the application has to answer. -/
def StatusCode.isCommand : StatusCode → Bool
  | .getBool | .getLine | .getHidden => true
  | _ => false

/-- Handle a line behind the monitor. A line with an unknown code would be passed to the
handler where the enumeration is an unsigned type, and every handler ignores it.
-/
def GpgStatus.dispatchLine (handler : StatusHandler) (gpg : GpgStatus) (keyword args : Str)
    : Option (GpgError × GpgStatus) :=
  match parseStatus keyword with
  | none => some (0, gpg)
  | some code =>
      if gpg.cmdUsed && code.isCommand then
        some (0, { gpg with cmdCode := some code, cmdKeyword := some args })
      else
        gpg.callHandler handler code args

/-- Handle a line that has been read completely. -/
def GpgStatus.handleLine (handler : StatusHandler) (gpg : GpgStatus) (line : Str)
    : Option (GpgError × GpgStatus) :=
  match splitStatusLine line with
  | none => some (0, gpg)
  | some (keyword, args) =>
      if parseStatus keyword = some .progress then gpg.dispatchLine handler keyword args
      else
        let (err, gpg) := gpg.callMonitor keyword args
        if err ≠ 0 then some (err, gpg) else gpg.dispatchLine handler keyword args

/-- The loop of `read_status` over the bytes that were read. An error leaves at once, and
then the buffer is not kept up to date.
-/
def readBytes (handler : StatusHandler) : GpgStatus → Str → Option (GpgError × GpgStatus)
  | gpg, [] => some (0, gpg)
  | gpg, c :: rest =>
      if c = Lines.lineFeed then
        match gpg.handleLine handler gpg.buffer with
        | none => none
        | some (err, gpg) =>
            if err ≠ 0 then some (err, gpg)
            else readBytes handler { gpg with buffer := [] } rest
      else
        readBytes handler { gpg with buffer := gpg.buffer ++ [c] } rest

/-- The end of file: the answer of the monitor is overwritten by that of the handler. -/
def readEof (handler : StatusHandler) (gpg : GpgStatus) : Option (GpgError × GpgStatus) :=
  let (_, gpg) := GpgStatus.callMonitor { gpg with eof := true } [] []
  gpg.callHandler handler .eof []

/-- `read_status` with a status handler installed, given what the read returns: the bytes,
or the error. No bytes are the end of file.
-/
def readStatus (handler : StatusHandler) (gpg : GpgStatus) (read : Except Nat Str)
    : Option (GpgError × GpgStatus) :=
  match read with
  | .error index => some (gpgErrorFromSyserror index, gpg)
  | .ok [] => readEof handler gpg
  | .ok bytes => readBytes handler gpg bytes

/-- One call of `read_status` that returns no error. -/
def readStatusOk (handler : StatusHandler) (gpg : GpgStatus) (read : Except Nat Str)
    : Option (Unit × GpgStatus) :=
  match readStatus handler gpg read with
  | some (0, next) => some ((), next)
  | _ => none

theorem readStatusOk_eq_some {handler : StatusHandler} {gpg next : GpgStatus}
    {read : Except Nat Str} {answer : Unit}
    : readStatusOk handler gpg read = some (answer, next)
      ↔ readStatus handler gpg read = some (0, next) := by
  unfold readStatusOk
  split
  · next ran => simp [ran]
  · next other =>
      simp only [reduceCtorEq, false_iff]
      exact other next

/-- The bytes of a sequence of reads. -/
def bytesOf (reads : List (Except Nat Str)) : Str :=
  reads.flatMap (fun read =>
    match read with
    | .error _ => []
    | .ok bytes => bytes)

end Gpgme
