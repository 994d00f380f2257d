import Gpgme.EngineGpg.ReadPipes

/-! `status_handler` of the engines that talk to an Assuan server, `engine-gpgsm.c` and
`engine-uiserver.c`. The colon output of a command arrives in data lines, and the bytes of a
line that has not ended are kept in the attic of the engine object.
-/

namespace Gpgme

open CString

/-- What `assuan_read_line` returns. -/
inductive ServerLine where
  | failed (err : GpgError)
  | text (line : Str)

/-- The part of the engine object that `status_handler` uses. The handlers answer with an error
code that may depend on all their calls; `none` is the call of the colon handler at the end of
the output. The attic is given by those of its bytes that count. The engine for the UI server has
no monitor.
-/
structure AssuanEngine where
  colonFnc : Option (List (Option Str) → GpgError) := none
  /-- What the colon handler leaves in the line that it gets. -/
  colonWrites : List (Option Str) → List UInt8 := fun _ => []
  colonAny : Bool := false
  attic : Str := []
  statusFnc : Option (List StatusCall → GpgError) := none
  monCb : Option (List (Str × Str) → GpgError) := none
  /-- The answer to writing the bytes of a data line into the inline data object. -/
  inlineData : Option (Str → GpgError) := none
  statusClosed : Bool := false
  colonCalls : List (Option Str) := []
  statusCalls : List StatusCall := []
  monCalls : List (Str × Str) := []
  /-- The data lines that have been read for the colon handler. -/
  dataLines : List Str := []

-----------------------------------------------------------------------------------------
-- Data lines
-----------------------------------------------------------------------------------------

/-- The byte of an escape; `_gpgme_hextobyte` returns -1 when there is no such byte. -/
def escapedByte (high low : UInt8) : UInt8 :=
  match hextobyte high low with
  | none => 255
  | some value => UInt8.ofNat value

/-- The bytes of a data line. A percent sign without two characters behind it stands for itself. -/
def unescape : Str → Str
  | [] => []
  | c :: rest =>
      if c = 37 then
        match rest with
        | high :: low :: rest => escapedByte high low :: unescape rest
        | [high] => [c, high]
        | [] => [c]
      else
        c :: unescape rest

/-- Call the colon handler. -/
def AssuanEngine.callColon (engine : AssuanEngine) (line : Option Str) : GpgError × AssuanEngine :=
  match engine.colonFnc with
  | none => (0, engine)
  | some fnc =>
      let colonCalls := engine.colonCalls ++ [line]
      (fnc colonCalls, { engine with colonCalls })

/-- Whether a carriage return stands in front of the line feed. -/
def endsInReturn (line : Str) : Bool := 1 < line.length + 1 && line.getLast? == some 13

/-- The line without its carriage return. -/
def withoutReturn (line : Str) : Str := if endsInReturn line then line.dropLast else line

/-- What stands in the attic when the handler has refused a line. The length still counts the
line feed and the carriage return.
-/
def refusedLine (line written : Str) : Str :=
  overwrite (withoutReturn line ++ [0]) (withoutReturn line).length written
    ++ if endsInReturn line then [Lines.lineFeed] else []

/-- Put a byte into the attic, and pass the line on when it ends. -/
def AssuanEngine.putByte (engine : AssuanEngine) (c : UInt8) : GpgError × AssuanEngine :=
  if c = Lines.lineFeed then
    let (err, next) :=
      AssuanEngine.callColon { engine with colonAny := true }
        (some (cstring (withoutReturn engine.attic)))
    if err = 0 then (0, { next with attic := [] })
    else (err, { next with attic := refusedLine engine.attic (next.colonWrites next.colonCalls) })
  else
    (0, { engine with attic := engine.attic ++ [c] })

/-- The loop over the bytes of a data line, up to the first error. -/
def AssuanEngine.putBytes : AssuanEngine → Str → GpgError × AssuanEngine
  | engine, [] => (0, engine)
  | engine, c :: rest =>
      let (err, next) := engine.putByte c
      if err = 0 then next.putBytes rest else (err, next)

/-- A data line. -/
def AssuanEngine.handleData (engine : AssuanEngine) (payload : Str) : GpgError × AssuanEngine :=
  match engine.colonFnc, engine.inlineData with
  | some _, _ =>
      AssuanEngine.putBytes { engine with dataLines := engine.dataLines ++ [payload] }
        (unescape payload)
  | none, some write => (write (unescape payload), engine)
  | none, none => (0, engine)

theorem AssuanEngine.handleData_installed {engine : AssuanEngine}
    {fnc : List (Option Str) → GpgError} (installed : engine.colonFnc = some fnc) (payload : Str)
    : engine.handleData payload
      = AssuanEngine.putBytes { engine with dataLines := engine.dataLines ++ [payload] }
          (unescape payload) := by
  unfold handleData
  split
  · rfl
  · next absent _ =>
      rw [installed] at absent
      cases absent
  · next absent _ =>
      rw [installed] at absent
      cases absent

-----------------------------------------------------------------------------------------
-- The other lines
-----------------------------------------------------------------------------------------

/-- The line is a keyword that ends, or that is followed by a blank. -/
def isResponse (keyword text : Str) : Bool :=
  startsWith text keyword
    && match text[keyword.length]? with
      | none => true
      | some c => c == 0 || c == blank

/-- The error of an `ERR` line. -/
def errorOfLine (text : Str) : GpgError :=
  let err := if text[3]? = some blank then errOfInt (atoi (text.drop 4)) else 0
  if err = 0 then gpgError ErrCode.general else err

/-- Call the status handler, if there is one. -/
def AssuanEngine.callStatus (engine : AssuanEngine) (code : Option StatusCode) (args : Str)
    : GpgError × AssuanEngine :=
  match engine.statusFnc with
  | none => (0, engine)
  | some fnc =>
      let statusCalls := engine.statusCalls ++ [(code, args)]
      (dropFalse (fnc statusCalls), { engine with statusCalls })

/-- An `OK` line. The colon handler is told about the end only if it has got a line. -/
def AssuanEngine.handleOk (engine : AssuanEngine) : GpgError × AssuanEngine :=
  let (err, engine) := engine.callStatus (some .eof) []
  if err = 0 ∧ engine.colonFnc.isSome ∧ engine.colonAny then
    let (err, engine) := AssuanEngine.callColon { engine with colonAny := false } none
    (err, { engine with statusClosed := true })
  else
    (err, { engine with statusClosed := true })

/-- Call the monitor, if there is one, for anything but the progress of the operation. -/
def AssuanEngine.callMonitor (engine : AssuanEngine) (keyword args : Str)
    : GpgError × AssuanEngine :=
  match engine.monCb with
  | none => (0, engine)
  | some answer =>
      if parseStatus keyword = some .progress then (0, engine)
      else
        let monCalls := engine.monCalls ++ [(keyword, args)]
        (answer monCalls, { engine with monCalls })

/-- A status line. An unknown keyword has the code -1, which is not negative where the codes are
unsigned.
-/
def AssuanEngine.handleStatus (unsignedCode : Bool) (engine : AssuanEngine) (text : Str)
    : GpgError × AssuanEngine :=
  let keyword := word text
  let args := (skipWord text).tail
  let (err, engine) := engine.callMonitor keyword args
  if err ≠ 0 then (err, engine)
  else
    match parseStatus keyword with
    | some code => engine.callStatus (some code) args
    | none => if unsignedCode then engine.callStatus none args else (0, engine)

/-- One round of the loop in `status_handler`. An inquiry gets no data, and other lines are
ignored.
-/
def AssuanEngine.handleLine (unsignedCode : Bool) (engine : AssuanEngine)
    : ServerLine → GpgError × AssuanEngine
  | .failed err => (err, engine)
  | .text line =>
      if isResponse (str "ERR") line then (errorOfLine line, engine)
      else if isResponse (str "OK") line then engine.handleOk
      else if 2 < line.length ∧ startsWith line (str "D ") then engine.handleData (line.drop 2)
      else if 2 < line.length ∧ startsWith line (str "S ") then
        engine.handleStatus unsignedCode (cstring (line.drop 2))
      else
        (0, engine)

/-- `status_handler`, with the lines that are available while it runs. It returns at an error, at
an `OK` line, and when no line is pending.
-/
def AssuanEngine.statusHandler (unsignedCode : Bool)
    : AssuanEngine → List ServerLine → GpgError × AssuanEngine
  | engine, [] => (0, engine)
  | engine, line :: pending =>
      let (err, next) := engine.handleLine unsignedCode line
      if err ≠ 0 ∨ next.statusClosed then (err, next)
      else next.statusHandler unsignedCode pending

-----------------------------------------------------------------------------------------
-- Operations
-----------------------------------------------------------------------------------------

/-- An operation: its handlers, and the lines that are available in each call of
`status_handler`.
-/
structure AssuanOperation where
  colonFnc : List (Option Str) → GpgError
  colonWrites : List (Option Str) → List UInt8 := fun _ => []
  statusFnc : Option (List StatusCall → GpgError) := none
  monCb : Option (List (Str × Str) → GpgError) := none
  calls : List (List ServerLine)

/-- `gpgsm_set_colon_line_handler` and the functions that set the other handlers. The descriptor
of the status lines is opened again; the records of the calls begin anew.
-/
def AssuanEngine.setHandlers (engine : AssuanEngine) (op : AssuanOperation) : AssuanEngine :=
  { engine with
    colonFnc := some op.colonFnc
    colonWrites := op.colonWrites
    colonAny := false
    statusFnc := op.statusFnc
    monCb := op.monCb
    statusClosed := false
    colonCalls := []
    statusCalls := []
    monCalls := []
    dataLines := [] }

/-- The calls of `status_handler` during an operation, up to the first error or the end. -/
def AssuanEngine.serve (unsignedCode : Bool)
    : AssuanEngine → List (List ServerLine) → GpgError × AssuanEngine
  | engine, [] => (0, engine)
  | engine, lines :: calls =>
      let (err, next) := engine.statusHandler unsignedCode lines
      if err ≠ 0 ∨ next.statusClosed then (err, next) else next.serve unsignedCode calls

/-- A whole operation on an engine. -/
def AssuanEngine.operate (unsignedCode : Bool) (engine : AssuanEngine) (op : AssuanOperation)
    : GpgError × AssuanEngine :=
  (engine.setHandlers op).serve unsignedCode op.calls

-----------------------------------------------------------------------------------------
-- Invariants of an operation
-----------------------------------------------------------------------------------------

section Invariants

variable {unsignedCode : Bool} {P : GpgError → AssuanEngine → Prop}

theorem AssuanEngine.statusHandler_induct {engine : AssuanEngine}
    (running : engine.statusClosed = false) (start : P 0 engine)
    (keep : ∀ engine line, engine.statusClosed = false → P 0 engine →
      P (engine.handleLine unsignedCode line).1 (engine.handleLine unsignedCode line).2)
    (lines : List ServerLine)
    : P (engine.statusHandler unsignedCode lines).1
        (engine.statusHandler unsignedCode lines).2 := by
  induction lines generalizing engine with
  | nil => exact start
  | cons line pending ih =>
      have kept := keep engine line running start
      unfold statusHandler
      dsimp only
      split
      · exact kept
      · next goes =>
          simp only [ne_eq, not_or, not_not, Bool.not_eq_true] at goes
          rw [goes.1] at kept
          exact ih goes.2 kept

theorem AssuanEngine.serve_induct {engine : AssuanEngine}
    (running : engine.statusClosed = false) (start : P 0 engine)
    (keep : ∀ engine line, engine.statusClosed = false → P 0 engine →
      P (engine.handleLine unsignedCode line).1 (engine.handleLine unsignedCode line).2)
    (calls : List (List ServerLine))
    : P (engine.serve unsignedCode calls).1 (engine.serve unsignedCode calls).2 := by
  induction calls generalizing engine with
  | nil => exact start
  | cons lines calls ih =>
      have kept := statusHandler_induct running start keep lines
      unfold serve
      dsimp only
      split
      · exact kept
      · next goes =>
          simp only [ne_eq, not_or, not_not, Bool.not_eq_true] at goes
          rw [goes.1] at kept
          exact ih goes.2 kept

theorem AssuanEngine.operate_induct {engine : AssuanEngine} {op : AssuanOperation}
    (start : P 0 (engine.setHandlers op))
    (keep : ∀ engine line, engine.statusClosed = false → P 0 engine →
      P (engine.handleLine unsignedCode line).1 (engine.handleLine unsignedCode line).2)
    : P (engine.operate unsignedCode op).1 (engine.operate unsignedCode op).2 :=
  serve_induct rfl start keep op.calls

end Invariants

/-- No call of a handler was answered with an error. -/
def NoError {α : Type} (fnc : List α → GpgError) (calls : List α) : Prop :=
  ∀ front call, front ++ [call] <+: calls → fnc (front ++ [call]) = 0

theorem noError_nil {α : Type} (fnc : List α → GpgError) : NoError fnc [] := by
  intro front call within
  simp at within

theorem noError_concat {α : Type} {fnc : List α → GpgError} {calls : List α} {call : α}
    : NoError fnc (calls ++ [call]) ↔ NoError fnc calls ∧ fnc (calls ++ [call]) = 0 := by
  constructor
  · intro fine
    refine ⟨?_, fine calls call (List.prefix_refl _)⟩
    intro front last within
    exact fine front last (within.trans (List.prefix_append _ _))
  · rintro ⟨fine, answer⟩ front last within
    rcases List.prefix_concat_iff.mp within with same | within
    · rw [same]
      exact answer
    · exact fine front last within

/-- The calls of the other handlers leave alone what belongs to the colon handler. -/
structure AssuanEngine.SameColon (before after : AssuanEngine) : Prop where
  colonFnc : after.colonFnc = before.colonFnc
  attic : after.attic = before.attic
  colonCalls : after.colonCalls = before.colonCalls
  dataLines : after.dataLines = before.dataLines

theorem AssuanEngine.SameColon.refl (engine : AssuanEngine) : engine.SameColon engine :=
  ⟨rfl, rfl, rfl, rfl⟩

theorem AssuanEngine.callStatus_sameColon (engine : AssuanEngine) (code : Option StatusCode)
    (args : Str)
    : engine.SameColon (engine.callStatus code args).2 := by
  unfold callStatus
  split
  · exact .refl engine
  · exact ⟨rfl, rfl, rfl, rfl⟩

theorem AssuanEngine.callMonitor_sameColon (engine : AssuanEngine) (keyword args : Str)
    : engine.SameColon (engine.callMonitor keyword args).2 := by
  unfold callMonitor
  split
  · exact .refl engine
  · split
    · exact .refl engine
    · exact ⟨rfl, rfl, rfl, rfl⟩

theorem AssuanEngine.SameColon.trans {first second third : AssuanEngine}
    (left : first.SameColon second) (right : second.SameColon third)
    : first.SameColon third :=
  ⟨right.colonFnc.trans left.colonFnc, right.attic.trans left.attic,
    right.colonCalls.trans left.colonCalls, right.dataLines.trans left.dataLines⟩

theorem AssuanEngine.handleStatus_sameColon (unsignedCode : Bool) (engine : AssuanEngine)
    (text : Str)
    : engine.SameColon (engine.handleStatus unsignedCode text).2 := by
  have monitored := engine.callMonitor_sameColon (word text) (skipWord text).tail
  unfold handleStatus
  dsimp only
  split
  · exact monitored
  · split
    · exact monitored.trans (callStatus_sameColon _ _ _)
    · split
      · exact monitored.trans (callStatus_sameColon _ _ _)
      · exact monitored

theorem AssuanEngine.handleLine_cases (unsignedCode : Bool) (engine : AssuanEngine)
    (line : ServerLine)
    : engine.SameColon (engine.handleLine unsignedCode line).2
      ∨ (∃ payload, engine.handleLine unsignedCode line = engine.handleData payload)
      ∨ ∃ next : AssuanEngine,
          engine.SameColon next
          ∧ engine.handleLine unsignedCode line
            = ((next.callColon none).1, { (next.callColon none).2 with statusClosed := true }) := by
  unfold handleLine
  cases line with
  | failed err => exact Or.inl (.refl engine)
  | text line =>
      dsimp only
      split
      · exact Or.inl (.refl engine)
      split
      · have answered := engine.callStatus_sameColon (some .eof) []
        unfold handleOk
        dsimp only
        split
        · refine Or.inr (Or.inr ⟨{ (engine.callStatus (some .eof) []).2 with colonAny := false },
            ?_, rfl⟩)
          exact answered.trans ⟨rfl, rfl, rfl, rfl⟩
        · exact Or.inl (answered.trans ⟨rfl, rfl, rfl, rfl⟩)
      split
      · exact Or.inr (Or.inl ⟨_, rfl⟩)
      split
      · exact Or.inl (engine.handleStatus_sameColon unsignedCode _)
      · exact Or.inl (.refl engine)

-----------------------------------------------------------------------------------------
-- The data lines that are read
-----------------------------------------------------------------------------------------

/-- What a data line carries. -/
def ServerLine.payload : ServerLine → Option Str
  | .failed _ => none
  | .text line =>
      if isResponse (str "ERR") line ∨ isResponse (str "OK") line then none
      else if 2 < line.length ∧ startsWith line (str "D ") then some (line.drop 2)
      else none

/-- The lines that a call of `status_handler` reads. -/
def AssuanEngine.linesRead (unsignedCode : Bool)
    : AssuanEngine → List ServerLine → List ServerLine
  | _, [] => []
  | engine, line :: pending =>
      let (err, next) := engine.handleLine unsignedCode line
      line
        :: if err ≠ 0 ∨ next.statusClosed then [] else next.linesRead unsignedCode pending

/-- The lines that the calls of `status_handler` read during an operation. -/
def AssuanEngine.linesServed (unsignedCode : Bool)
    : AssuanEngine → List (List ServerLine) → List ServerLine
  | _, [] => []
  | engine, lines :: calls =>
      let (err, next) := engine.statusHandler unsignedCode lines
      engine.linesRead unsignedCode lines
        ++ if err ≠ 0 ∨ next.statusClosed then [] else next.linesServed unsignedCode calls

/-- The data lines that an operation receives. -/
def AssuanOperation.received (unsignedCode : Bool) (engine : AssuanEngine) (op : AssuanOperation)
    : List Str :=
  ((engine.setHandlers op).linesServed unsignedCode op.calls).filterMap ServerLine.payload

/-- Lines leave the colon handler as it is and are recorded if they carry data. -/
structure AssuanEngine.Records (before : AssuanEngine) (lines : List ServerLine)
    (after : AssuanEngine)
    : Prop where
  colonFnc : after.colonFnc = before.colonFnc
  dataLines : after.dataLines = before.dataLines ++ lines.filterMap ServerLine.payload

theorem AssuanEngine.Records.trans {first second third : AssuanEngine}
    {early late : List ServerLine} (left : first.Records early second)
    (right : second.Records late third)
    : first.Records (early ++ late) third := by
  refine ⟨right.colonFnc.trans left.colonFnc, ?_⟩
  rw [right.dataLines, left.dataLines, List.filterMap_append, List.append_assoc]

theorem AssuanEngine.SameColon.records {before after : AssuanEngine}
    (same : before.SameColon after) {line : ServerLine} (none : line.payload = none)
    : before.Records [line] after :=
  ⟨same.colonFnc, by simp [same.dataLines, none]⟩

theorem AssuanEngine.callColon_colon (engine : AssuanEngine) (line : Option Str)
    : (engine.callColon line).2.colonFnc = engine.colonFnc
      ∧ (engine.callColon line).2.dataLines = engine.dataLines
      ∧ (engine.callColon line).2.attic = engine.attic := by
  unfold callColon
  split <;> exact ⟨rfl, rfl, rfl⟩

theorem AssuanEngine.putBytes_colon (engine : AssuanEngine) (bytes : Str)
    : (engine.putBytes bytes).2.colonFnc = engine.colonFnc
      ∧ (engine.putBytes bytes).2.dataLines = engine.dataLines := by
  induction bytes generalizing engine with
  | nil => exact ⟨rfl, rfl⟩
  | cons c rest ih =>
      have put
          : (engine.putByte c).2.colonFnc = engine.colonFnc
            ∧ (engine.putByte c).2.dataLines = engine.dataLines := by
        have called :=
          AssuanEngine.callColon_colon { engine with colonAny := true }
            (some (cstring (withoutReturn engine.attic)))
        unfold putByte
        split
        · dsimp only
          split <;> exact ⟨called.1, called.2.1⟩
        · exact ⟨rfl, rfl⟩
      unfold putBytes
      dsimp only
      split
      · have later := ih (engine.putByte c).2
        exact ⟨later.1.trans put.1, later.2.trans put.2⟩
      · exact put

theorem AssuanEngine.handleOk_colon (engine : AssuanEngine)
    : engine.handleOk.2.colonFnc = engine.colonFnc
      ∧ engine.handleOk.2.dataLines = engine.dataLines := by
  have answered := engine.callStatus_sameColon (some .eof) []
  unfold handleOk
  dsimp only
  split
  · have called :=
      AssuanEngine.callColon_colon
        { (engine.callStatus (some .eof) []).2 with colonAny := false } none
    exact ⟨called.1.trans answered.colonFnc, called.2.1.trans answered.dataLines⟩
  · exact ⟨answered.colonFnc, answered.dataLines⟩

theorem AssuanEngine.handleLine_records (unsignedCode : Bool) {engine : AssuanEngine}
    {fnc : List (Option Str) → GpgError} (installed : engine.colonFnc = some fnc)
    (line : ServerLine)
    : engine.Records [line] (engine.handleLine unsignedCode line).2 := by
  cases line with
  | failed err => exact ⟨rfl, by simp [handleLine, ServerLine.payload]⟩
  | text line =>
      unfold handleLine
      dsimp only
      split
      · next error => exact (SameColon.refl engine).records (by simp [ServerLine.payload, error])
      split
      · next done =>
          have ended := engine.handleOk_colon
          exact ⟨ended.1, by simp [ended.2, ServerLine.payload, done]⟩
      split
      · next error done data =>
          have put :=
            AssuanEngine.putBytes_colon
              { engine with dataLines := engine.dataLines ++ [line.drop 2] }
              (unescape (line.drop 2))
          rw [handleData_installed installed]
          exact ⟨put.1, by simp [put.2, ServerLine.payload, error, done, data]⟩
      · next error done data =>
          have carries : (ServerLine.text line).payload = none := by
            simp only [ServerLine.payload, if_neg data, ite_self]
          split
          · exact (engine.handleStatus_sameColon unsignedCode _).records carries
          · exact (SameColon.refl engine).records carries

theorem AssuanEngine.statusHandler_records (unsignedCode : Bool) {engine : AssuanEngine}
    {fnc : List (Option Str) → GpgError} (installed : engine.colonFnc = some fnc)
    (lines : List ServerLine)
    : engine.Records (engine.linesRead unsignedCode lines)
        (engine.statusHandler unsignedCode lines).2 := by
  induction lines generalizing engine with
  | nil => exact ⟨rfl, by simp [statusHandler, linesRead]⟩
  | cons line pending ih =>
      have recorded := engine.handleLine_records unsignedCode installed line
      unfold statusHandler linesRead
      dsimp only
      split
      · exact recorded
      · exact recorded.trans (ih (recorded.colonFnc.trans installed))

theorem AssuanEngine.serve_records (unsignedCode : Bool) {engine : AssuanEngine}
    {fnc : List (Option Str) → GpgError} (installed : engine.colonFnc = some fnc)
    (calls : List (List ServerLine))
    : engine.Records (engine.linesServed unsignedCode calls)
        (engine.serve unsignedCode calls).2 := by
  induction calls generalizing engine with
  | nil => exact ⟨rfl, by simp [serve, linesServed]⟩
  | cons lines calls ih =>
      have recorded := engine.statusHandler_records unsignedCode installed lines
      unfold serve linesServed
      dsimp only
      split
      · rw [List.append_nil]
        exact recorded
      · exact recorded.trans (ih (recorded.colonFnc.trans installed))

theorem AssuanEngine.operate_dataLines (unsignedCode : Bool) (engine : AssuanEngine)
    (op : AssuanOperation)
    : (engine.operate unsignedCode op).2.dataLines = op.received unsignedCode engine := by
  have installed : (engine.setHandlers op).colonFnc = some op.colonFnc := rfl
  exact (AssuanEngine.serve_records unsignedCode installed op.calls).dataLines

end Gpgme
