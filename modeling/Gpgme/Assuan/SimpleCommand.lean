import Gpgme.Assuan.StatusHandler
import Gpgme.Lib.ReplyLoop

/-! Simple commands: `gpgsm_assuan_simple_command` and `uiserver_assuan_simple_command`. Each
sends a line and reads the answer up to its `OK` or `ERR`.
-/

namespace Gpgme

open CString

-----------------------------------------------------------------------------------------
-- The callbacks
-----------------------------------------------------------------------------------------

/-- A call of the monitor or of the function that gets the status lines of a command. -/
inductive CallbackCall where
  | monitor (keyword args : Str)
  | status (code : Option StatusCode) (args : Str)

/-- The calls that have been made, with their answers. -/
abbrev CallbackLog := List (CallbackCall × GpgError)

/-- The monitor of the engine and the status function of a command. Their answers may depend on
all that has been called before.
-/
structure CommandCallbacks where
  monCb : Option (CallbackLog → Str → Str → GpgError) := none
  statusFnc : Option (CallbackLog → Option StatusCode → Str → GpgError) := none

/-- `r >= 0` for the code of a keyword, where an unknown keyword has the code -1. -/
def isCode (unsignedCode : Bool) (code : Option StatusCode) : Bool := unsignedCode || code.isSome

/-- Call the monitor, if there is one, for anything but the progress of the operation. -/
def CommandCallbacks.callMonitor (callbacks : CommandCallbacks) (log : CallbackLog)
    (keyword args : Str)
    : GpgError × CallbackLog :=
  match callbacks.monCb with
  | none => (0, log)
  | some answer =>
      if parseStatus keyword = some .progress then (0, log)
      else
        let err := answer log keyword args
        (err, log ++ [(.monitor keyword args, err)])

/-- A status line of gpgsm. -/
def CommandCallbacks.gpgsmStatus (unsignedCode : Bool) (callbacks : CommandCallbacks)
    (log : CallbackLog) (text : Str)
    : GpgError × CallbackLog :=
  let keyword := word text
  let args := (skipWord text).tail
  let code := parseStatus keyword
  let (cbErr, log) := callbacks.callMonitor log keyword args
  match callbacks.statusFnc with
  | none => (cbErr, log)
  | some fnc =>
      if isCode unsignedCode code && cbErr == 0 then
        let cbErr := fnc log code args
        (cbErr, log ++ [(.status code args, cbErr)])
      else
        (cbErr, log)

/-- A status line of the UI server. -/
def CommandCallbacks.uiserverStatus (unsignedCode : Bool) (callbacks : CommandCallbacks)
    (log : CallbackLog) (text : Str)
    : GpgError × CallbackLog :=
  let keyword := word text
  let args := (skipWord text).tail
  let code := parseStatus keyword
  let (err, log) := callbacks.callMonitor log keyword args
  if err ≠ 0 then (err, log)
  else
    match callbacks.statusFnc with
    | none => (gpgError ErrCode.general, log)
    | some fnc =>
        if isCode unsignedCode code then
          let err := fnc log code args
          (err, log ++ [(.status code args, err)])
        else
          (gpgError ErrCode.general, log)

-----------------------------------------------------------------------------------------
-- The commands
-----------------------------------------------------------------------------------------

/-- A line that both functions skip. -/
def isSkipped (line : Str) : Bool := line.isEmpty || line.head? == some 35

/-- `atoi` of what stands behind `ERR`. -/
def errorNumber (line : Str) : GpgError := errOfInt (atoi (line.drop 4))

/-- What `gpgsm_assuan_simple_command` keeps while it reads: the first error of a callback. -/
structure GpgsmReply where
  log : CallbackLog
  cbErr : GpgError := 0

/-- The body of the loop in `gpgsm_assuan_simple_command`. -/
def gpgsmReplyLine (unsignedCode : Bool) (callbacks : CommandCallbacks) (reply : GpgsmReply)
    : ServerLine → ReplyLoop.Next GpgsmReply (GpgError × CallbackLog)
  | .failed err => .stop (if err = 0 then reply.cbErr else err, reply.log)
  | .text line =>
      if isSkipped line then .goOn reply
      else if isResponse (str "OK") line then .stop (reply.cbErr, reply.log)
      else if startsWith line (str "ERR ") then
        let err := if reply.cbErr ≠ 0 then reply.cbErr else errorNumber line
        if err = 0 then .goOn { reply with cbErr := 0 } else .stop (err, reply.log)
      else if startsWith line (str "S ") then
        if reply.cbErr ≠ 0 then .goOn reply
        else
          let (cbErr, log) :=
            callbacks.gpgsmStatus unsignedCode reply.log (cstring (line.drop 2))
          .goOn { log, cbErr }
      else
        .stop (if reply.cbErr ≠ 0 then reply.cbErr else gpgError ErrCode.general, reply.log)

/-- `gpgsm_assuan_simple_command`, with the answer to writing the line and the lines that can
then be read.
-/
def gpgsmAssuanSimpleCommand (unsignedCode : Bool) (written : GpgError)
    (callbacks : CommandCallbacks) (log : CallbackLog) (lines : List ServerLine)
    : Option ((GpgError × CallbackLog) × List ServerLine) :=
  if written ≠ 0 then some ((written, log), lines)
  else ReplyLoop.run (gpgsmReplyLine unsignedCode callbacks) { log } lines

/-- The body of the loop in `uiserver_assuan_simple_command`. -/
def uiserverReplyLine (unsignedCode : Bool) (callbacks : CommandCallbacks) (log : CallbackLog)
    : ServerLine → ReplyLoop.Next CallbackLog (GpgError × CallbackLog)
  | .failed err => .stop (err, log)
  | .text line =>
      if isSkipped line then .goOn log
      else if isResponse (str "OK") line then .stop (0, log)
      else
        let (err, log) :=
          if startsWith line (str "ERR ") then (errorNumber line, log)
          else if startsWith line (str "S ") then
            callbacks.uiserverStatus unsignedCode log (cstring (line.drop 2))
          else
            (gpgError ErrCode.general, log)
        if err = 0 then .goOn log else .stop (err, log)

/-- `uiserver_assuan_simple_command`. -/
def uiserverAssuanSimpleCommand (unsignedCode : Bool) (written : GpgError)
    (callbacks : CommandCallbacks) (log : CallbackLog) (lines : List ServerLine)
    : Option ((GpgError × CallbackLog) × List ServerLine) :=
  if written ≠ 0 then some ((written, log), lines)
  else ReplyLoop.run (uiserverReplyLine unsignedCode callbacks) log lines

-----------------------------------------------------------------------------------------
-- A server that answers every command
-----------------------------------------------------------------------------------------

/-- The lines in front of the last one of an answer: comments, empty lines and status lines. -/
def IsInformation (line : Str) : Prop := isSkipped line = true ∨ startsWith line (str "S ") = true

/-- The last line of an answer. -/
def IsVerdict (line : Str) : Prop :=
  isResponse (str "OK") line = true
  ∨ (startsWith line (str "ERR ") = true ∧ atoi (line.drop 4) ≠ 0)

/-- The answer to a command. -/
structure CommandAnswer where
  information : List Str
  verdict : Str
  informs : ∀ line ∈ information, IsInformation line
  decides : IsVerdict verdict

def CommandAnswer.lines (answer : CommandAnswer) : List ServerLine :=
  (answer.information ++ [answer.verdict]).map .text

/-- A command with its callbacks and the answer of the server. -/
structure CommandExchange where
  callbacks : CommandCallbacks
  answer : CommandAnswer

/-- The answers to some commands in the order in which they arrive. -/
def answerStream (exchanges : List CommandExchange) : List ServerLine :=
  exchanges.flatMap (fun exchange => exchange.answer.lines)

/-- The error in the last line of an answer. -/
def verdictError (verdict : Str) : GpgError :=
  if isResponse (str "OK") verdict then 0 else errorNumber verdict

/-- The first error among the answers of callbacks. -/
def firstError (calls : CallbackLog) : Option GpgError := (calls.map Prod.snd).find? (· != 0)

/-- Every command reads the lines of its own answer and no others, and it returns the first
error of its callbacks or else the one of the server. The lines of later answers stand behind
those that a command is to read.
-/
def RepliesInStep
    (command
      : CommandCallbacks → CallbackLog → List ServerLine
        → Option ((GpgError × CallbackLog) × List ServerLine))
    : CallbackLog → List CommandExchange → Prop
  | _, [] => True
  | log, exchange :: later =>
      ∃ err calls,
        command exchange.callbacks log (answerStream (exchange :: later))
          = some ((err, log ++ calls), answerStream later)
        ∧ err = (firstError calls).getD (verdictError exchange.answer.verdict)
        ∧ RepliesInStep command (log ++ calls) later

/-- The calls for a status line when all callbacks answer without an error. -/
def CommandCallbacks.willingMonitor (callbacks : CommandCallbacks) (keyword args : Str)
    : CallbackLog :=
  if callbacks.monCb.isSome ∧ parseStatus keyword ≠ some .progress then
    [(.monitor keyword args, 0)]
  else
    []

/-- A status line that has a function to go to: its keyword is known, there is a status function,
and neither that nor the monitor returns an error.
-/
structure CommandCallbacks.Takes (unsignedCode : Bool) (callbacks : CommandCallbacks)
    (log : CallbackLog) (keyword args : Str)
    : Prop where
  known : isCode unsignedCode (parseStatus keyword) = true
  monitor
    : ∀ answer,
        callbacks.monCb = some answer
        → parseStatus keyword ≠ some .progress
        → answer log keyword args = 0
  status
    : ∃ fnc,
        callbacks.statusFnc = some fnc
        ∧ fnc (log ++ callbacks.willingMonitor keyword args) (parseStatus keyword) args = 0

/-- The calls for the lines of an answer when all callbacks answer without an error. -/
def CommandCallbacks.willingCalls (callbacks : CommandCallbacks) : List Str → CallbackLog
  | [] => []
  | line :: rest =>
      let text := cstring (line.drop 2)
      (if startsWith line (str "S ") then
        callbacks.willingMonitor (word text) (skipWord text).tail
          ++ [(.status (parseStatus (word text)) (skipWord text).tail, 0)]
      else
        [])
        ++ callbacks.willingCalls rest

/-- Every status line of an answer has a function to go to. -/
def CommandCallbacks.TakesLines (unsignedCode : Bool) (callbacks : CommandCallbacks)
    : CallbackLog → List Str → Prop
  | _, [] => True
  | log, line :: rest =>
      let text := cstring (line.drop 2)
      (startsWith line (str "S ")
        → callbacks.Takes unsignedCode log (word text) (skipWord text).tail)
      ∧ callbacks.TakesLines unsignedCode (log ++ callbacks.willingCalls [line]) rest

/-- Every status line of every answer has a function to go to. -/
def TakesAll (unsignedCode : Bool) : CallbackLog → List CommandExchange → Prop
  | _, [] => True
  | log, { callbacks, answer } :: later =>
      callbacks.TakesLines unsignedCode log answer.information
      ∧ TakesAll unsignedCode (log ++ callbacks.willingCalls answer.information) later

-----------------------------------------------------------------------------------------
-- Kinds of lines
-----------------------------------------------------------------------------------------

theorem head_of_startsWith {line start : Str} {c : UInt8}
    (starts : startsWith line (c :: start) = true)
    : line.head? = some c := by
  unfold startsWith at starts
  cases line with
  | nil => simp at starts
  | cons d rest =>
      simp only [List.length_cons, List.take_succ_cons, beq_iff_eq, List.cons.injEq] at starts
      rw [starts.1, List.head?_cons]

theorem not_isSkipped {line : Str} {c : UInt8} (first : line.head? = some c) (other : c ≠ 35)
    : isSkipped line = false := by
  cases line with
  | nil => cases first
  | cons d rest =>
      cases first
      simpa [isSkipped] using other

theorem head_of_isResponse {line keyword : Str} {c : UInt8}
    (response : isResponse (c :: keyword) line = true)
    : line.head? = some c := by
  unfold isResponse at response
  exact head_of_startsWith (Bool.and_eq_true_iff.mp response).1

theorem not_ok_of_head {line : Str} {c : UInt8} (first : line.head? = some c) (other : c ≠ 79)
    : isResponse (str "OK") line = false := by
  by_contra response
  rw [Bool.not_eq_false] at response
  have found : line.head? = some 79 := head_of_isResponse response
  rw [first] at found
  exact other (Option.some.inj found)

theorem errorNumber_ne_zero {line : Str} (number : atoi (line.drop 4) ≠ 0)
    : errorNumber line ≠ 0 := by
  intro zero
  have value : CInt.toUnsigned (atoi (line.drop 4)) % 4294967296 = 0 := by
    simpa [errorNumber, errOfInt] using congrArg UInt32.toNat zero
  unfold CInt.toUnsigned at value
  unfold atoi CInt.toInt at value number
  omega

-----------------------------------------------------------------------------------------
-- The answers of callbacks
-----------------------------------------------------------------------------------------

/-- An error as something to report. -/
def reported (err : GpgError) : Option GpgError := if err = 0 then none else some err

@[simp]
theorem firstError_nil : firstError [] = none := rfl

@[simp]
theorem firstError_append (calls more : CallbackLog)
    : firstError (calls ++ more) = (firstError calls).or (firstError more) := by
  simp [firstError, List.find?_append]

@[simp]
theorem firstError_single (call : CallbackCall) (err : GpgError)
    : firstError [(call, err)] = reported err := by
  by_cases zero : err = 0 <;> simp [firstError, reported, zero]

@[simp]
theorem reported_zero : reported 0 = none := rfl

namespace CommandCallbacks

variable {unsignedCode : Bool} (callbacks : CommandCallbacks)

/-- What a function adds to the log, given that it reports its first error. -/
def Reports (log : CallbackLog) (result : GpgError × CallbackLog) : Prop :=
  ∃ calls, result.2 = log ++ calls ∧ firstError calls = reported result.1

theorem callMonitor_reports (log : CallbackLog) (keyword args : Str)
    : Reports log (callbacks.callMonitor log keyword args) := by
  unfold callMonitor
  split
  · exact ⟨[], by simp, rfl⟩
  · next answer _ =>
      split
      · exact ⟨[], by simp, rfl⟩
      · exact ⟨_, rfl, firstError_single _ _⟩

theorem gpgsmStatus_reports (unsignedCode : Bool) (log : CallbackLog) (text : Str)
    : Reports log (callbacks.gpgsmStatus unsignedCode log text) := by
  obtain ⟨calls, logged, first⟩ :=
    callbacks.callMonitor_reports log (word text) (skipWord text).tail
  unfold gpgsmStatus
  dsimp only
  split
  · exact ⟨calls, logged, first⟩
  · next fnc _ =>
      split
      · next asked =>
          have fine : (callbacks.callMonitor log (word text) (skipWord text).tail).1 = 0 := by
            simpa using (Bool.and_eq_true_iff.mp asked).2
          refine ⟨calls ++ [_], by rw [logged, List.append_assoc], ?_⟩
          rw [firstError_append, first, fine, reported_zero, Option.none_or, firstError_single,
            logged]
      · exact ⟨calls, logged, first⟩

theorem callMonitor_willing {log : CallbackLog} {keyword args : Str}
    (fine : (callbacks.callMonitor log keyword args).1 = 0)
    : callbacks.callMonitor log keyword args
      = (0, log ++ callbacks.willingMonitor keyword args) := by
  unfold callMonitor willingMonitor at *
  cases installed : callbacks.monCb with
  | none => simp
  | some answer =>
      rw [installed] at fine
      dsimp only at fine ⊢
      by_cases progress : parseStatus keyword = some .progress
      · simp [progress]
      · rw [if_neg progress] at fine ⊢
        dsimp only at fine
        simp [progress, fine]

theorem callMonitor_eq_zero_iff {log : CallbackLog} {keyword args : Str}
    : (callbacks.callMonitor log keyword args).1 = 0
      ↔ ∀ answer,
          callbacks.monCb = some answer
          → parseStatus keyword ≠ some .progress
          → answer log keyword args = 0 := by
  unfold callMonitor
  split
  · next absent => simp [absent]
  · next answer installed =>
      split
      · next progress => simp [progress]
      · next other => simp [installed, other]

theorem uiserverStatus_eq_zero_iff {log : CallbackLog} {text : Str}
    : (callbacks.uiserverStatus unsignedCode log text).1 = 0
      ↔ callbacks.Takes unsignedCode log (word text) (skipWord text).tail := by
  have general : gpgError ErrCode.general ≠ 0 := by decide
  unfold uiserverStatus
  dsimp only
  by_cases fine : (callbacks.callMonitor log (word text) (skipWord text).tail).1 = 0
  · have willing := callbacks.callMonitor_willing fine
    rw [if_neg (by simpa using fine), willing]
    dsimp only
    constructor
    · intro zero
      split at zero
      · exact absurd zero general
      · next fnc installed =>
          split at zero
          · next known =>
              exact ⟨known, callbacks.callMonitor_eq_zero_iff.mp fine, fnc, installed, zero⟩
          · exact absurd zero general
    · rintro ⟨known, _, fnc, installed, zero⟩
      simp only [installed, known, if_true]
      exact zero
  · rw [if_pos fine]
    constructor
    · exact fun zero => absurd zero fine
    · exact fun takes => absurd (callbacks.callMonitor_eq_zero_iff.mpr takes.monitor) fine

theorem uiserverStatus_of_takes {log : CallbackLog} {text : Str}
    (takes : callbacks.Takes unsignedCode log (word text) (skipWord text).tail)
    : callbacks.uiserverStatus unsignedCode log text
      = (0, log ++ (callbacks.willingMonitor (word text) (skipWord text).tail
          ++ [(.status (parseStatus (word text)) (skipWord text).tail, 0)])) := by
  have willing := callbacks.callMonitor_willing
    (callbacks.callMonitor_eq_zero_iff.mpr takes.monitor)
  obtain ⟨known, _, fnc, installed, zero⟩ := takes
  unfold uiserverStatus
  dsimp only
  rw [willing]
  simp only [ne_eq, not_true_eq_false, if_false, installed, known, if_true, zero,
    List.append_assoc]

theorem firstError_willingMonitor (keyword args : Str)
    : firstError (callbacks.willingMonitor keyword args) = none := by
  unfold willingMonitor
  split <;> simp

theorem firstError_willingCalls (lines : List Str)
    : firstError (callbacks.willingCalls lines) = none := by
  induction lines with
  | nil => rfl
  | cons line rest ih =>
      simp only [willingCalls, firstError_append, ih, Option.or_none]
      split
      · simp [firstError_willingMonitor]
      · rfl

theorem willingCalls_cons (line : Str) (rest : List Str)
    : callbacks.willingCalls (line :: rest)
      = callbacks.willingCalls [line] ++ callbacks.willingCalls rest := by
  simp [willingCalls]

end CommandCallbacks

-----------------------------------------------------------------------------------------
-- gpgsm stays in step
-----------------------------------------------------------------------------------------

section InStep

variable {unsignedCode : Bool} {callbacks : CommandCallbacks}

/-- What is kept while the lines of an answer are read. -/
def GpgsmReply.Keeps (log : CallbackLog) (reply : GpgsmReply) : Prop :=
  CommandCallbacks.Reports log (reply.cbErr, reply.log)

theorem gpgsmReplyLine_information (reply : GpgsmReply) {line : Str}
    (informs : IsInformation line)
    : ∃ next,
        gpgsmReplyLine unsignedCode callbacks reply (.text line) = .goOn next
        ∧ ∀ log, reply.Keeps log → next.Keeps log := by
  unfold gpgsmReplyLine
  dsimp only
  rcases informs with skipped | status
  · exact ⟨reply, by rw [if_pos skipped], fun _ keeps => keeps⟩
  · have first : line.head? = some 83 := head_of_startsWith status
    have noError : startsWith line (str "ERR ") = false := by
      by_contra error
      rw [Bool.not_eq_false] at error
      have found : line.head? = some 69 := head_of_startsWith error
      rw [first] at found
      cases found
    rw [not_isSkipped first (by decide), not_ok_of_head first (by decide), noError, status]
    simp only [Bool.false_eq_true, if_false, if_true]
    by_cases failed : reply.cbErr ≠ 0
    · exact ⟨reply, by rw [if_pos failed], fun _ keeps => keeps⟩
    · rw [if_neg failed]
      refine ⟨_, rfl, ?_⟩
      rintro log ⟨calls, logged, firsts⟩
      obtain ⟨more, logged', firsts'⟩ :=
        callbacks.gpgsmStatus_reports unsignedCode reply.log (cstring (line.drop 2))
      refine ⟨calls ++ more, ?_, ?_⟩
      · change (callbacks.gpgsmStatus unsignedCode reply.log (cstring (line.drop 2))).2 = _
        rw [logged', ← List.append_assoc, ← logged]
      · rw [firstError_append, firsts, firsts', not_not.mp failed]
        rfl

theorem gpgsmReplyLine_verdict {reply : GpgsmReply} {line : Str} (decides : IsVerdict line)
    : gpgsmReplyLine unsignedCode callbacks reply (.text line)
      = .stop ((reported reply.cbErr).getD (verdictError line), reply.log) := by
  unfold gpgsmReplyLine verdictError
  dsimp only
  rcases decides with ok | ⟨error, number⟩
  · have first : line.head? = some 79 := head_of_isResponse ok
    rw [not_isSkipped first (by decide), ok]
    by_cases failed : reply.cbErr = 0 <;> simp [reported, failed]
  · have first : line.head? = some 69 := head_of_startsWith error
    have nonzero := errorNumber_ne_zero number
    rw [not_isSkipped first (by decide), not_ok_of_head first (by decide), error]
    by_cases failed : reply.cbErr = 0 <;> simp [reported, failed, nonzero]

theorem gpgsmAssuanSimpleCommand_answered (unsignedCode : Bool) (callbacks : CommandCallbacks)
    (log : CallbackLog) (answer : CommandAnswer) (later : List ServerLine)
    : ∃ calls,
        gpgsmAssuanSimpleCommand unsignedCode 0 callbacks log (answer.lines ++ later)
        = some (((firstError calls).getD (verdictError answer.verdict), log ++ calls), later) := by
  have continues : ∀ reply, ∀ item ∈ answer.information.map ServerLine.text,
      ∃ next, gpgsmReplyLine unsignedCode callbacks reply item = .goOn next := by
    intro reply item member
    obtain ⟨line, among, rfl⟩ := List.mem_map.mp member
    obtain ⟨next, acted, _⟩ := gpgsmReplyLine_information reply (answer.informs line among)
    exact ⟨next, acted⟩
  obtain ⟨reply, passed⟩ := ReplyLoop.through_of_goOn continues ({ log } : GpgsmReply)
  have start : GpgsmReply.Keeps log { log } := ⟨[], by simp, rfl⟩
  have kept : reply.Keeps log := by
    refine ReplyLoop.through_induct ?_ start passed
    intro reply item next member keeps acted
    obtain ⟨line, among, rfl⟩ := List.mem_map.mp member
    obtain ⟨next', acted', keeps'⟩ :=
      gpgsmReplyLine_information reply (answer.informs line among)
    rw [acted'] at acted
    cases acted
    exact keeps' log keeps
  obtain ⟨calls, logged, firsts⟩ := kept
  refine ⟨calls, ?_⟩
  unfold gpgsmAssuanSimpleCommand CommandAnswer.lines
  rw [if_neg (by simp), List.map_append, List.append_assoc,
    ReplyLoop.run_append_of_through passed]
  simp only [List.map_cons, List.map_nil, List.cons_append, List.nil_append, ReplyLoop.run,
    gpgsmReplyLine_verdict answer.decides]
  rw [firsts, ← logged]

theorem gpgsm_repliesInStep (unsignedCode : Bool) (exchanges : List CommandExchange)
    (log : CallbackLog)
    : RepliesInStep (gpgsmAssuanSimpleCommand unsignedCode 0) log exchanges := by
  induction exchanges generalizing log with
  | nil => trivial
  | cons exchange later ih =>
      obtain ⟨calls, ran⟩ := gpgsmAssuanSimpleCommand_answered unsignedCode exchange.callbacks log
        exchange.answer (answerStream later)
      exact ⟨_, calls, ran, rfl, ih _⟩

-----------------------------------------------------------------------------------------
-- The UI server stays in step with some answers
-----------------------------------------------------------------------------------------

theorem uiserverReplyLine_skipped {log : CallbackLog} {line : Str}
    (skipped : isSkipped line = true)
    : uiserverReplyLine unsignedCode callbacks log (.text line) = .goOn log := by
  unfold uiserverReplyLine
  dsimp only
  rw [if_pos skipped]

theorem uiserverReplyLine_status {log : CallbackLog} {line : Str}
    (status : startsWith line (str "S ") = true)
    : uiserverReplyLine unsignedCode callbacks log (.text line)
      = if (callbacks.uiserverStatus unsignedCode log (cstring (line.drop 2))).1 = 0 then
          .goOn (callbacks.uiserverStatus unsignedCode log (cstring (line.drop 2))).2
        else
          .stop (callbacks.uiserverStatus unsignedCode log (cstring (line.drop 2))) := by
  have first : line.head? = some 83 := head_of_startsWith status
  have noError : startsWith line (str "ERR ") = false := by
    by_contra error
    rw [Bool.not_eq_false] at error
    have found : line.head? = some 69 := head_of_startsWith error
    rw [first] at found
    cases found
  unfold uiserverReplyLine
  dsimp only
  rw [not_isSkipped first (by decide), not_ok_of_head first (by decide), noError, status]
  simp only [Bool.false_eq_true, if_false, if_true]

theorem uiserverReplyLine_verdict {log : CallbackLog} {line : Str} (decides : IsVerdict line)
    : uiserverReplyLine unsignedCode callbacks log (.text line)
      = .stop (verdictError line, log) := by
  unfold uiserverReplyLine verdictError
  dsimp only
  rcases decides with ok | ⟨error, number⟩
  · have first : line.head? = some 79 := head_of_isResponse ok
    rw [not_isSkipped first (by decide), ok]
    simp
  · have first : line.head? = some 69 := head_of_startsWith error
    have nonzero := errorNumber_ne_zero number
    rw [not_isSkipped first (by decide), not_ok_of_head first (by decide), error]
    simp [nonzero]

theorem uiserver_through (unsignedCode : Bool) (callbacks : CommandCallbacks)
    {information : List Str} (informs : ∀ line ∈ information, IsInformation line)
    (log : CallbackLog)
    : (callbacks.TakesLines unsignedCode log information
        → ReplyLoop.through (uiserverReplyLine unsignedCode callbacks) log
            (information.map .text)
          = some (log ++ callbacks.willingCalls information))
      ∧ (¬ callbacks.TakesLines unsignedCode log information
        → ReplyLoop.through (uiserverReplyLine unsignedCode callbacks) log
            (information.map .text)
          = none) := by
  induction information generalizing log with
  | nil => exact ⟨fun _ => by simp [ReplyLoop.through, CommandCallbacks.willingCalls],
      fun absent => absurd trivial absent⟩
  | cons line rest ih =>
      have later := ih (fun line member => informs line (List.mem_cons_of_mem _ member))
      rw [callbacks.willingCalls_cons]
      simp only [CommandCallbacks.TakesLines, List.map_cons, ReplyLoop.through]
      rcases informs line List.mem_cons_self with skipped | status
      · have noStatus : startsWith line (str "S ") = false := by
          by_contra status
          rw [Bool.not_eq_false] at status
          have first : line.head? = some 83 := head_of_startsWith status
          rw [not_isSkipped first (by decide)] at skipped
          cases skipped
        have silent : callbacks.willingCalls [line] = [] := by
          simp [CommandCallbacks.willingCalls, noStatus]
        rw [uiserverReplyLine_skipped skipped, silent, noStatus]
        simpa using later log
      · have logged : callbacks.willingCalls [line]
            = callbacks.willingMonitor (word (cstring (line.drop 2)))
                (skipWord (cstring (line.drop 2))).tail
              ++ [(.status (parseStatus (word (cstring (line.drop 2))))
                (skipWord (cstring (line.drop 2))).tail, 0)] := by
          simp [CommandCallbacks.willingCalls, status]
        rw [uiserverReplyLine_status status]
        by_cases takes : callbacks.Takes unsignedCode log (word (cstring (line.drop 2)))
            (skipWord (cstring (line.drop 2))).tail
        · rw [callbacks.uiserverStatus_of_takes takes, ← logged]
          simpa [status, takes, List.append_assoc] using
            later (log ++ callbacks.willingCalls [line])
        · have failed := mt callbacks.uiserverStatus_eq_zero_iff.mp takes
          rw [if_neg failed]
          simp [status, takes]

theorem uiserverAssuanSimpleCommand_answered (unsignedCode : Bool)
    (callbacks : CommandCallbacks) (log : CallbackLog) (answer : CommandAnswer)
    (later : List ServerLine)
    : (callbacks.TakesLines unsignedCode log answer.information
        → uiserverAssuanSimpleCommand unsignedCode 0 callbacks log (answer.lines ++ later)
          = some ((verdictError answer.verdict,
              log ++ callbacks.willingCalls answer.information), later))
      ∧ (¬ callbacks.TakesLines unsignedCode log answer.information
        → ∃ result back,
            uiserverAssuanSimpleCommand unsignedCode 0 callbacks log (answer.lines ++ later)
              = some (result, back)
            ∧ later.length < back.length) := by
  obtain ⟨passes, stops⟩ := uiserver_through unsignedCode callbacks answer.informs log
  unfold uiserverAssuanSimpleCommand CommandAnswer.lines
  rw [if_neg (by simp), List.map_append, List.append_assoc]
  constructor
  · intro takes
    rw [ReplyLoop.run_append_of_through (passes takes)]
    simp only [List.map_cons, List.map_nil, List.cons_append, List.nil_append, ReplyLoop.run,
      uiserverReplyLine_verdict answer.decides]
  · intro refuses
    obtain ⟨result, back, ran⟩ := ReplyLoop.run_append_of_stopped (stops refuses)
      (List.map ServerLine.text [answer.verdict] ++ later)
    refine ⟨result, _, ran, ?_⟩
    simp only [List.length_append, List.length_map, List.length_singleton]
    omega

theorem uiserver_repliesInStep_iff (unsignedCode : Bool) (exchanges : List CommandExchange)
    (log : CallbackLog)
    : RepliesInStep (uiserverAssuanSimpleCommand unsignedCode 0) log exchanges
      ↔ TakesAll unsignedCode log exchanges := by
  induction exchanges generalizing log with
  | nil => exact Iff.rfl
  | cons exchange later ih =>
      obtain ⟨callbacks, answer⟩ := exchange
      obtain ⟨takes, refuses⟩ := uiserverAssuanSimpleCommand_answered unsignedCode callbacks log
        answer (answerStream later)
      constructor
      · rintro ⟨err, calls, ran, _, after⟩
        by_cases taken : callbacks.TakesLines unsignedCode log answer.information
        · have read := ran.symm.trans (takes taken)
          simp only [Option.some.injEq, Prod.mk.injEq, and_true] at read
          rw [read.2] at after
          exact ⟨taken, (ih _).mp after⟩
        · obtain ⟨result, back, ran', longer⟩ := refuses taken
          have read := ran.symm.trans ran'
          simp only [Option.some.injEq, Prod.mk.injEq] at read
          rw [read.2] at longer
          exact absurd longer (lt_irrefl _)
      · rintro ⟨taken, after⟩
        refine ⟨_, _, takes taken, ?_, (ih _).mpr after⟩
        rw [callbacks.firstError_willingCalls]
        rfl

end InStep

/-- Answers stay in step with the commands: always with gpgsm, and with the UI server exactly
when every status line has a function to go to.
-/
theorem simple_commands_in_step_iff (unsignedCode : Bool) (exchanges : List CommandExchange)
    (log : CallbackLog)
    : RepliesInStep (gpgsmAssuanSimpleCommand unsignedCode 0) log exchanges
      ∧ (RepliesInStep (uiserverAssuanSimpleCommand unsignedCode 0) log exchanges
          ↔ TakesAll unsignedCode log exchanges) :=
  ⟨gpgsm_repliesInStep unsignedCode exchanges log,
    uiserver_repliesInStep_iff unsignedCode exchanges log⟩

/-- A command without a status function, whose answer has a status line. -/
def progressExchange : CommandExchange where
  callbacks := {}
  answer :=
    { information := [str "S PROGRESS tick ? 0 0"]
      verdict := str "OK"
      informs := by
        intro line member
        rw [List.mem_singleton.mp member]
        exact Or.inr (by decide)
      decides := Or.inl (by decide) }

/-- The `OK` is left for the next command. -/
theorem uiserver_reply_left_behind
    : ¬ RepliesInStep (uiserverAssuanSimpleCommand false 0) [] [progressExchange] := by
  rintro ⟨err, calls, ran, _⟩
  have left : (uiserverAssuanSimpleCommand false 0 progressExchange.callbacks []
      (answerStream [progressExchange])).map (fun read => read.2.length) = some 1 := by
    decide +kernel
  rw [ran] at left
  cases left

end Gpgme
