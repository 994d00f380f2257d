import Gpgme.Assuan.StatusHandler

/-! The lines that a colon handler gets out of the data lines of an Assuan server. The attic of
the engine object is not emptied between two operations, so that its bytes reach the handler of
the next operation.
-/

namespace Gpgme

open CString

-----------------------------------------------------------------------------------------
-- Escapes
-----------------------------------------------------------------------------------------

/-- The data line does not end within an escape. -/
def endsWhole : Str → Bool
  | [] => true
  | c :: rest =>
      if c = 37 then
        match rest with
        | _ :: _ :: rest => endsWhole rest
        | _ => false
      else
        endsWhole rest

theorem unescape_literal {c : UInt8} (literal : c ≠ 37) (rest : Str)
    : unescape (c :: rest) = c :: unescape rest := by
  rw [unescape.eq_def]
  exact if_neg literal

theorem unescape_append {first : Str} (whole : endsWhole first) (second : Str)
    : unescape (first ++ second) = unescape first ++ unescape second := by
  fun_induction endsWhole first with
  | case1 => rfl
  | case2 high low rest ih =>
      simp only [List.cons_append, unescape, if_true]
      rw [ih whole]
  | case3 rest short => cases whole
  | case4 c rest literal ih =>
      rw [List.cons_append, unescape_literal literal, unescape_literal literal, ih whole,
        List.cons_append]

theorem unescape_flatten {payloads : List Str} (whole : ∀ payload ∈ payloads, endsWhole payload)
    : unescape payloads.flatten = payloads.flatMap unescape := by
  induction payloads with
  | nil => rfl
  | cons payload rest ih =>
      obtain ⟨first, later⟩ := List.forall_mem_cons.mp whole
      rw [List.flatten_cons, List.flatMap_cons, unescape_append first, ih later]

-----------------------------------------------------------------------------------------
-- The calls of a handler
-----------------------------------------------------------------------------------------

section Answers

variable {fnc : List (Option Str) → GpgError} {calls : List (Option Str)}

/-- The lines that are passed to a handler after some calls, up to the first error. -/
def untilError (fnc : List (Option Str) → GpgError) (calls : List (Option Str))
    : List Str → List Str
  | [] => []
  | line :: rest =>
      line
        :: if fnc (calls ++ [some line]) = 0 then untilError fnc (calls ++ [some line]) rest else []

/-- The handler accepts all lines. -/
def Accepts (fnc : List (Option Str) → GpgError) (calls : List (Option Str)) : List Str → Prop
  | [] => True
  | line :: rest =>
      fnc (calls ++ [some line]) = 0 ∧ Accepts fnc (calls ++ [some line]) rest

theorem untilError_append {first : List Str} (accepts : Accepts fnc calls first)
    (second : List Str)
    : untilError fnc calls (first ++ second)
      = first ++ untilError fnc (calls ++ first.map some) second := by
  induction first generalizing calls with
  | nil => simp
  | cons line rest ih =>
      rw [List.cons_append, untilError, if_pos accepts.1, ih accepts.2, List.map_cons,
        List.append_assoc, List.singleton_append, List.cons_append]

theorem accepts_append {first second : List Str}
    : Accepts fnc calls (first ++ second)
      ↔ Accepts fnc calls first ∧ Accepts fnc (calls ++ first.map some) second := by
  induction first generalizing calls with
  | nil => simp [Accepts]
  | cons line rest ih =>
      rw [List.cons_append, Accepts, Accepts, ih, List.map_cons, List.append_assoc,
        List.singleton_append, and_assoc]

theorem untilError_of_accepts {lines : List Str} (accepts : Accepts fnc calls lines)
    : untilError fnc calls lines = lines := by
  have whole := untilError_append accepts []
  rwa [List.append_nil, untilError, List.append_nil] at whole

end Answers

-----------------------------------------------------------------------------------------
-- Data lines
-----------------------------------------------------------------------------------------

/-- The C string that a handler gets for a line. -/
def lineText (line : Str) : Str := cstring (withoutReturn line)

/-- The bytes of data lines. -/
def decoded (payloads : List Str) : Str := payloads.flatMap unescape

/-- The texts of the lines that end in data lines. -/
def linesOf (payloads : List Str) : List Str :=
  (Lines.complete [] (decoded payloads)).map lineText

theorem refusedLine_ne_nil (line written : Str) : refusedLine line written ≠ [] := by
  intro none
  have length := congrArg List.length (List.append_eq_nil_iff.mp none).1
  rw [length_overwrite (by simp)] at length
  simp at length

theorem AssuanEngine.putByte_lineFeed {engine : AssuanEngine}
    {fnc : List (Option Str) → GpgError} (installed : engine.colonFnc = some fnc)
    : ∃ attic,
        engine.putByte Lines.lineFeed
          = (fnc (engine.colonCalls ++ [some (lineText engine.attic)]),
              { engine with
                colonAny := true
                colonCalls := engine.colonCalls ++ [some (lineText engine.attic)]
                attic })
        ∧ (fnc (engine.colonCalls ++ [some (lineText engine.attic)]) = 0 → attic = [])
        ∧ (fnc (engine.colonCalls ++ [some (lineText engine.attic)]) ≠ 0 → attic ≠ []) := by
  unfold putByte callColon
  rw [if_pos rfl]
  simp only [installed]
  split
  · next fine => exact ⟨[], by rw [lineText, fine], fun _ => rfl, fun failed => absurd fine failed⟩
  · next failed => exact ⟨_, rfl, fun fine => absurd fine failed, fun _ => refusedLine_ne_nil _ _⟩

/-- What a loop over bytes leaves in an engine: the handler has got the lines that end in them, up
to the first error, and the attic is left with the unfinished line, or with the refused one.
-/
structure PutsLines (fnc : List (Option Str) → GpgError) (engine : AssuanEngine) (bytes : Str)
    (err : GpgError) (after : AssuanEngine)
    : Prop where
  installed : after.colonFnc = some fnc
  dataLines : after.dataLines = engine.dataLines
  calls
    : after.colonCalls
      = engine.colonCalls
        ++ (untilError fnc engine.colonCalls
            ((Lines.complete engine.attic bytes).map lineText)).map some
  accepts : err = 0 → Accepts fnc engine.colonCalls ((Lines.complete engine.attic bytes).map lineText)
  attic : err = 0 → after.attic = Lines.unfinished engine.attic bytes
  refused
    : err ≠ 0
      → ¬ Accepts fnc engine.colonCalls ((Lines.complete engine.attic bytes).map lineText)
        ∧ after.attic ≠ []

theorem AssuanEngine.putBytes_puts {engine : AssuanEngine} {fnc : List (Option Str) → GpgError}
    (installed : engine.colonFnc = some fnc) (bytes : Str)
    : PutsLines fnc engine bytes (engine.putBytes bytes).1 (engine.putBytes bytes).2 := by
  induction bytes generalizing engine with
  | nil =>
      refine ⟨installed, rfl, ?_, fun _ => trivial, fun _ => rfl, fun failed => absurd rfl failed⟩
      simp [Lines.complete, untilError, putBytes]
  | cons c rest ih =>
      by_cases ends : c = Lines.lineFeed
      · subst ends
        obtain ⟨attic, put, emptied, kept⟩ := putByte_lineFeed installed
        rw [putBytes, put]
        dsimp only
        split
        · next fine =>
            obtain rfl := emptied fine
            have later := @ih { engine with
              colonAny := true
              colonCalls := engine.colonCalls ++ [some (lineText engine.attic)]
              attic := [] } installed
            refine ⟨later.installed, later.dataLines, ?_, ?_, ?_, ?_⟩
            · rw [later.calls, Lines.complete, if_pos rfl, List.map_cons, untilError, if_pos fine,
                List.map_cons, List.append_assoc, List.singleton_append]
            · intro ended
              rw [Lines.complete, if_pos rfl, List.map_cons]
              exact ⟨fine, later.accepts ended⟩
            · intro ended
              rw [Lines.unfinished, if_pos rfl]
              exact later.attic ended
            · intro failed
              rw [Lines.complete, if_pos rfl, List.map_cons]
              obtain ⟨refused, left⟩ := later.refused failed
              exact ⟨fun accepts => refused accepts.2, left⟩
        · next failed =>
            refine ⟨installed, rfl, ?_, fun fine => absurd fine failed,
              fun fine => absurd fine failed, fun _ => ?_⟩
            · rw [Lines.complete, if_pos rfl, List.map_cons, untilError, if_neg failed,
                List.map_cons, List.map_nil]
            · rw [Lines.complete, if_pos rfl, List.map_cons]
              exact ⟨fun accepts => failed accepts.1, kept failed⟩
      · have put : engine.putByte c = (0, { engine with attic := engine.attic ++ [c] }) := by
          rw [putByte, if_neg ends]
        have later := @ih { engine with attic := engine.attic ++ [c] } installed
        rw [putBytes, put]
        dsimp only
        rw [if_pos rfl]
        refine ⟨later.installed, later.dataLines, ?_, ?_, ?_, ?_⟩
        · rw [later.calls, Lines.complete, if_neg ends]
        · rw [Lines.complete, if_neg ends]
          exact later.accepts
        · rw [Lines.unfinished, if_neg ends]
          exact later.attic
        · rw [Lines.complete, if_neg ends]
          exact later.refused

-----------------------------------------------------------------------------------------
-- Operations
-----------------------------------------------------------------------------------------

/-- During an operation that found an empty attic, the handler gets the lines of the data lines
that have been read.
-/
structure Reassembles (fnc : List (Option Str) → GpgError) (err : GpgError)
    (engine : AssuanEngine)
    : Prop where
  installed : engine.colonFnc = some fnc
  passed : engine.colonCalls.filterMap id = untilError fnc [] (linesOf engine.dataLines)
  attic
    : Accepts fnc [] (linesOf engine.dataLines)
      → engine.attic = Lines.unfinished [] (decoded engine.dataLines)
  refused : ¬ Accepts fnc [] (linesOf engine.dataLines) → engine.attic ≠ []
  running
    : err = 0
      → engine.statusClosed = false
      → Accepts fnc [] (linesOf engine.dataLines)
        ∧ engine.colonCalls = (linesOf engine.dataLines).map some

section Reassembly

variable {fnc : List (Option Str) → GpgError} {engine : AssuanEngine}

theorem linesOf_concat (payloads : List Str) (payload : Str)
    : linesOf (payloads ++ [payload])
      = linesOf payloads
        ++ (Lines.complete (Lines.unfinished [] (decoded payloads)) (unescape payload)).map
            lineText := by
  unfold linesOf decoded
  rw [List.flatMap_append, List.flatMap_singleton, Lines.complete_append, List.map_append]

theorem unfinished_concat (payloads : List Str) (payload : Str)
    : Lines.unfinished [] (decoded (payloads ++ [payload]))
      = Lines.unfinished (Lines.unfinished [] (decoded payloads)) (unescape payload) := by
  unfold decoded
  rw [List.flatMap_append, List.flatMap_singleton, Lines.unfinished_append]

theorem Reassembles.handleData (reassembles : Reassembles fnc 0 engine)
    (running : engine.statusClosed = false) (payload : Str)
    : Reassembles fnc (engine.handleData payload).1 (engine.handleData payload).2 := by
  obtain ⟨accepts, calls⟩ := reassembles.running rfl running
  have attic := reassembles.attic accepts
  rw [AssuanEngine.handleData_installed reassembles.installed]
  have installed
      : ({ engine with dataLines := engine.dataLines ++ [payload] } : AssuanEngine).colonFnc
        = some fnc :=
    reassembles.installed
  have puts := AssuanEngine.putBytes_puts installed (unescape payload)
  generalize AssuanEngine.putBytes _ (unescape payload) = result at puts
  obtain ⟨err, after⟩ := result
  have dataLines : after.dataLines = engine.dataLines ++ [payload] := puts.dataLines
  have lines := linesOf_concat engine.dataLines payload
  rw [← attic] at lines
  have passed := puts.calls
  dsimp only at passed
  rw [calls] at passed
  have accepted : Accepts fnc [] (linesOf after.dataLines)
      ↔ Accepts fnc ((linesOf engine.dataLines).map some)
          ((Lines.complete engine.attic (unescape payload)).map lineText) := by
    rw [dataLines, lines, accepts_append, List.nil_append]
    exact and_iff_right accepts
  have refusing (refused : ¬ Accepts fnc [] (linesOf after.dataLines)) : err ≠ 0 := by
    intro fine
    have all := puts.accepts fine
    dsimp only at all
    rw [calls] at all
    exact refused (accepted.mpr all)
  have accepting (accepts' : Accepts fnc [] (linesOf after.dataLines)) : err = 0 := by
    by_contra failed
    have refused := (puts.refused failed).1
    dsimp only at refused
    rw [calls] at refused
    exact refused (accepted.mp accepts')
  refine ⟨puts.installed, ?_, ?_, ?_, ?_⟩
  · dsimp only
    rw [dataLines, lines, untilError_append accepts, passed, List.filterMap_append]
    simp
  · intro accepts'
    dsimp only
    rw [puts.attic (accepting accepts'), dataLines, unfinished_concat, attic]
  · intro refused
    exact (puts.refused (refusing refused)).2
  · intro fine _
    have accepts' : Accepts fnc [] (linesOf after.dataLines) := by
      by_contra refused
      exact refusing refused fine
    refine ⟨accepts', ?_⟩
    dsimp only
    rw [passed, untilError_of_accepts (accepted.mp accepts'), dataLines, lines, List.map_append]

theorem Reassembles.callColon_end {next : AssuanEngine} (reassembles : Reassembles fnc 0 engine)
    (same : engine.SameColon next)
    : Reassembles fnc (next.callColon none).1
        { (next.callColon none).2 with statusClosed := true } := by
  have installed : next.colonFnc = some fnc := same.colonFnc.trans reassembles.installed
  unfold AssuanEngine.callColon
  rw [installed]
  dsimp only
  refine ⟨rfl, ?_, ?_, ?_, fun _ running => nomatch running⟩
  · rw [same.colonCalls, same.dataLines, ← reassembles.passed]
    simp
  · rw [same.dataLines, same.attic]
    exact reassembles.attic
  · rw [same.dataLines, same.attic]
    exact reassembles.refused

theorem Reassembles.sameColon {next : AssuanEngine} {err : GpgError}
    (reassembles : Reassembles fnc 0 engine) (running : engine.statusClosed = false)
    (same : engine.SameColon next)
    : Reassembles fnc err next := by
  refine ⟨same.colonFnc.trans reassembles.installed, ?_, ?_, ?_, ?_⟩
  · rw [same.colonCalls, same.dataLines]
    exact reassembles.passed
  · rw [same.dataLines, same.attic]
    exact reassembles.attic
  · rw [same.dataLines, same.attic]
    exact reassembles.refused
  · rw [same.dataLines, same.colonCalls]
    intro _ _
    exact reassembles.running rfl running

theorem Reassembles.handleLine (reassembles : Reassembles fnc 0 engine)
    (running : engine.statusClosed = false) (unsignedCode : Bool) (line : ServerLine)
    : Reassembles fnc (engine.handleLine unsignedCode line).1
        (engine.handleLine unsignedCode line).2 := by
  rcases engine.handleLine_cases unsignedCode line with same | ⟨payload, data⟩ | ⟨next, same, ended⟩
  · exact reassembles.sameColon running same
  · rw [data]
    exact reassembles.handleData running payload
  · rw [ended]
    exact reassembles.callColon_end same

theorem operate_reassembles (unsignedCode : Bool) (empty : engine.attic = [])
    (op : AssuanOperation)
    : Reassembles op.colonFnc (engine.operate unsignedCode op).1
        (engine.operate unsignedCode op).2 := by
  refine AssuanEngine.operate_induct ?_ ?_
  · refine ⟨rfl, rfl, fun _ => empty, fun refused => absurd trivial refused, fun _ _ => ?_⟩
    exact ⟨trivial, rfl⟩
  · intro engine line running reassembles
    exact reassembles.handleLine running unsignedCode line

end Reassembly

-----------------------------------------------------------------------------------------
-- The length of the attic
-----------------------------------------------------------------------------------------

theorem length_unescape_le (payload : Str) : (unescape payload).length ≤ payload.length := by
  fun_induction unescape payload with
  | case1 => simp
  | case2 high low rest ih =>
      simp only [List.length_cons]
      omega
  | case3 high => simp
  | case4 => simp
  | case5 c rest literal ih =>
      simp only [List.length_cons]
      omega

theorem length_refusedLine (line written : Str)
    : (refusedLine line written).length = line.length + 1 := by
  unfold refusedLine withoutReturn
  rw [List.length_append, length_overwrite (by simp)]
  split
  · next returns =>
      have some : line ≠ [] := by
        rintro rfl
        cases returns
      have positive := List.length_pos_of_ne_nil some
      simp only [List.length_append, List.length_dropLast, List.length_singleton]
      omega
  · simp

theorem AssuanEngine.putByte_length (engine : AssuanEngine) (c : UInt8)
    : (engine.putByte c).2.attic.length ≤ engine.attic.length + 1 := by
  unfold putByte
  split
  · dsimp only
    split
    · simp
    · exact (length_refusedLine _ _).le
  · simp

theorem AssuanEngine.putBytes_length (engine : AssuanEngine) (bytes : Str)
    : (engine.putBytes bytes).2.attic.length ≤ engine.attic.length + bytes.length := by
  induction bytes generalizing engine with
  | nil => simp [putBytes]
  | cons c rest ih =>
      have put := engine.putByte_length c
      have later := ih (engine.putByte c).2
      unfold putBytes
      dsimp only
      rw [List.length_cons]
      split
      · omega
      · dsimp only
        omega

/-- No more bytes are in the attic than the operation has received. -/
def AssuanEngine.ShortAttic (engine : AssuanEngine) : Prop :=
  engine.attic.length ≤ engine.dataLines.flatten.length

theorem AssuanEngine.ShortAttic.handleLine {engine : AssuanEngine} (short : engine.ShortAttic)
    {fnc : List (Option Str) → GpgError} (installed : engine.colonFnc = some fnc)
    (unsignedCode : Bool) (line : ServerLine)
    : (engine.handleLine unsignedCode line).2.ShortAttic := by
  unfold ShortAttic at short ⊢
  rcases engine.handleLine_cases unsignedCode line with
    same | ⟨payload, data⟩ | ⟨next, same, ended⟩
  · rw [same.attic, same.dataLines]
    exact short
  · have put :=
      AssuanEngine.putBytes_length
        { engine with dataLines := engine.dataLines ++ [payload] } (unescape payload)
    have shorter := length_unescape_le payload
    rw [data, AssuanEngine.handleData_installed installed, (AssuanEngine.putBytes_colon _ _).2]
    simp only [List.flatten_append, List.flatten_singleton, List.length_append]
    dsimp only at put
    omega
  · obtain ⟨_, dataLines, attic⟩ := next.callColon_colon none
    rw [ended]
    dsimp only
    rw [attic, dataLines, same.attic, same.dataLines]
    exact short

theorem operate_shortAttic (unsignedCode : Bool) {engine : AssuanEngine}
    (empty : engine.attic = []) (op : AssuanOperation)
    : (engine.operate unsignedCode op).2.ShortAttic := by
  refine And.right (a := (engine.operate unsignedCode op).2.colonFnc = some op.colonFnc) ?_
  refine AssuanEngine.operate_induct
    (P := fun _ engine => engine.colonFnc = some op.colonFnc ∧ engine.ShortAttic) ?_ ?_
  · refine ⟨rfl, ?_⟩
    simp [AssuanEngine.ShortAttic, AssuanEngine.setHandlers, empty]
  · rintro engine line _ ⟨installed, short⟩
    exact ⟨(engine.handleLine_records unsignedCode installed line).colonFnc.trans installed,
      short.handleLine installed unsignedCode line⟩

-----------------------------------------------------------------------------------------
-- Operations one after the other
-----------------------------------------------------------------------------------------

/-- Operations on one engine object. -/
def AssuanEngine.operateAll (unsignedCode : Bool)
    : AssuanEngine → List AssuanOperation → AssuanEngine
  | engine, [] => engine
  | engine, op :: rest => (engine.operate unsignedCode op).2.operateAll unsignedCode rest

/-- The data lines of an operation end with a line feed, and its handler has accepted all lines. -/
def AssuanOperation.Settled (op : AssuanOperation) (dataLines : List Str) : Prop :=
  Accepts op.colonFnc [] (linesOf dataLines) ∧ Lines.unfinished [] (decoded dataLines) = []

/-- All operations are settled with the data lines that they read. -/
def SettledRun (unsignedCode : Bool) : AssuanEngine → List AssuanOperation → Prop
  | _, [] => True
  | engine, op :: rest =>
      op.Settled (engine.operate unsignedCode op).2.dataLines
      ∧ SettledRun unsignedCode (engine.operate unsignedCode op).2 rest

/-- The operation's data lines cut no escape and hold no binary zero. -/
def ProperLines (dataLines : List Str) : Prop :=
  (∀ payload ∈ dataLines, endsWhole payload) ∧ ∀ c ∈ unescape dataLines.flatten, c ≠ 0

/-- The handler has got exactly the lines of the operation's own output, up to its first
error.
-/
def OwnLines (op : AssuanOperation) (after : AssuanEngine) : Prop :=
  after.colonCalls.filterMap id
    = untilError op.colonFnc []
        ((Lines.complete [] (unescape after.dataLines.flatten)).map withoutReturn)

theorem mem_withoutReturn {line : Str} {c : UInt8} (member : c ∈ withoutReturn line)
    : c ∈ line := by
  unfold withoutReturn at member
  split at member
  · exact List.mem_of_mem_dropLast member
  · exact member

theorem ProperLines.linesOf_eq {dataLines : List Str} (proper : ProperLines dataLines)
    : linesOf dataLines
      = (Lines.complete [] (unescape dataLines.flatten)).map withoutReturn := by
  obtain ⟨whole, nulFree⟩ := proper
  unfold linesOf decoded
  rw [← unescape_flatten whole]
  refine List.map_congr_left fun line found => cstring_of_nulFree fun c member => nulFree c ?_
  simpa using Lines.mem_complete found (mem_withoutReturn member)

theorem operate_attic_iff (unsignedCode : Bool) {engine : AssuanEngine} (empty : engine.attic = [])
    (op : AssuanOperation)
    : (engine.operate unsignedCode op).2.attic = []
      ↔ op.Settled (engine.operate unsignedCode op).2.dataLines := by
  have reassembles := operate_reassembles unsignedCode empty op
  constructor
  · intro left
    have accepts : Accepts op.colonFnc []
        (linesOf (engine.operate unsignedCode op).2.dataLines) := by
      by_contra refused
      exact reassembles.refused refused left
    exact ⟨accepts, (reassembles.attic accepts).symm.trans left⟩
  · rintro ⟨accepts, ended⟩
    rw [reassembles.attic accepts, ended]

theorem SettledRun.attic_empty {unsignedCode : Bool} {engine : AssuanEngine}
    {ops : List AssuanOperation} (settled : SettledRun unsignedCode engine ops)
    (empty : engine.attic = [])
    : (engine.operateAll unsignedCode ops).attic = [] := by
  induction ops generalizing engine with
  | nil => exact empty
  | cons op rest ih =>
      exact ih settled.2 ((operate_attic_iff unsignedCode empty op).mpr settled.1)

/-- An operation with the line of one letter. -/
def oneLetter (letter : UInt8) : AssuanOperation where
  colonFnc _ := 0
  calls := [[.text (str "D " ++ [letter] ++ str "%0A")]]

theorem oneLetter_foreign (unsignedCode : Bool) {engine : AssuanEngine} {letter first : UInt8}
    {rest : Str} (left : engine.attic = first :: rest) (plain : letter = 97 ∨ letter = 98)
    (other : first ≠ letter)
    : ProperLines (engine.operate unsignedCode (oneLetter letter)).2.dataLines
      ∧ ¬ OwnLines (oneLetter letter) (engine.operate unsignedCode (oneLetter letter)).2 := by
  have dataLines : (engine.operate unsignedCode (oneLetter letter)).2.dataLines
      = [letter :: str "%0A"] := by
    rcases plain with rfl | rfl <;> rfl
  have calls : (engine.operate unsignedCode (oneLetter letter)).2.colonCalls
      = [some (lineText (engine.attic ++ [letter]))] := by
    rcases plain with rfl | rfl <;> rfl
  have bytes : unescape [letter :: str "%0A"].flatten = [letter, Lines.lineFeed] := by
    rcases plain with rfl | rfl <;> rfl
  refine ⟨?_, ?_⟩
  · rw [dataLines, ProperLines, bytes]
    rcases plain with rfl | rfl <;> decide +kernel
  · have own : (Lines.complete [] [letter, Lines.lineFeed]).map withoutReturn = [[letter]] := by
      rcases plain with rfl | rfl <;> decide
    have unreturned : withoutReturn (first :: rest ++ [letter]) = first :: rest ++ [letter] := by
      have last : (first :: rest ++ [letter]).getLast? = some letter := List.getLast?_concat
      rw [withoutReturn, endsInReturn, last]
      rcases plain with rfl | rfl <;> simp
    have foreign : lineText (first :: rest ++ [letter]) ≠ [letter] := by
      rw [lineText, unreturned]
      unfold cstring
      rw [List.cons_append, List.takeWhile_cons]
      split <;> simp [other]
    unfold OwnLines
    rw [dataLines, calls, bytes, own, left]
    simpa [untilError] using foreign

/-- When all earlier operations were settled, the handler gets the lines of its own operation, and
`linelen` counts no more bytes than the operation has received. When one was not settled, there is
a next operation whose handler gets bytes of it.
-/
theorem dataLines_reassembled (unsignedCode : Bool) {earlier : List AssuanOperation}
    (settled : SettledRun unsignedCode {} earlier) (op : AssuanOperation) {after : AssuanEngine}
    (ran
      : after
        = ((AssuanEngine.operateAll unsignedCode {} earlier).operate unsignedCode op).2)
    : after.dataLines
        = op.received unsignedCode (AssuanEngine.operateAll unsignedCode {} earlier)
      ∧ after.ShortAttic
      ∧ (ProperLines after.dataLines → OwnLines op after)
      ∧ (¬ op.Settled after.dataLines
        → ∃ later,
            ProperLines (after.operate unsignedCode later).2.dataLines
            ∧ ¬ OwnLines later (after.operate unsignedCode later).2) := by
  have empty := settled.attic_empty rfl
  subst ran
  refine ⟨AssuanEngine.operate_dataLines unsignedCode _ op,
    operate_shortAttic unsignedCode empty op, ?_, ?_⟩
  · intro proper
    have passed := (operate_reassembles unsignedCode empty op).passed
    rw [proper.linesOf_eq] at passed
    exact passed
  · intro unsettled
    have left : ((AssuanEngine.operateAll unsignedCode {} earlier).operate unsignedCode op).2.attic
        ≠ [] := fun none => unsettled ((operate_attic_iff unsignedCode empty op).mp none)
    obtain ⟨first, rest, bytes⟩ := List.exists_cons_of_ne_nil left
    by_cases letter : first = 97
    · exact ⟨oneLetter 98, oneLetter_foreign unsignedCode bytes (Or.inr rfl) (by simp [letter])⟩
    · exact ⟨oneLetter 97, oneLetter_foreign unsignedCode bytes (Or.inl rfl) letter⟩

/-- An operation whose output is one data line and the end. -/
def oneDataLine (payload : Str) : AssuanOperation where
  colonFnc _ := 0
  calls := [[.text (str "D " ++ payload), .text (str "OK")]]

/-- Two operations whose output ends with a line feed. -/
theorem dataLines_reassembled_two
    : SettledRun true {} [oneDataLine (str "ab%0A")]
      ∧ OwnLines (oneDataLine (str "c%0D%0A"))
          ((AssuanEngine.operateAll true {} [oneDataLine (str "ab%0A")]).operate true
            (oneDataLine (str "c%0D%0A"))).2 := by
  have settled : SettledRun true {} [oneDataLine (str "ab%0A")] :=
    ⟨⟨⟨rfl, trivial⟩, by decide +kernel⟩, trivial⟩
  refine ⟨settled, (dataLines_reassembled true settled _ rfl).2.2.1 ?_⟩
  unfold ProperLines
  decide +kernel

/-- The unterminated output of an operation reaches the handler of the next one. -/
theorem dataLines_leak
    : ((AssuanEngine.operateAll true {} [oneDataLine (str "ab")]).operate true
          (oneDataLine (str "c%0A"))).2.colonCalls
        = [some (str "abc"), none]
      ∧ ProperLines
          ((AssuanEngine.operateAll true {} [oneDataLine (str "ab")]).operate true
            (oneDataLine (str "c%0A"))).2.dataLines
      ∧ ¬ OwnLines (oneDataLine (str "c%0A"))
          ((AssuanEngine.operateAll true {} [oneDataLine (str "ab")]).operate true
            (oneDataLine (str "c%0A"))).2 := by
  refine ⟨?_, ?_, ?_⟩
  · decide +kernel
  · unfold ProperLines
    decide +kernel
  · unfold OwnLines
    decide +kernel

end Gpgme
