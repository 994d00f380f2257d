import Mathlib.Data.List.TakeWhile
import Gpgme.EngineGpg.ReadStatus
import Gpgme.Lib.LineBuffer

/-! The buffers of `read_status` and `read_colon_line` of `engine-gpg.c`. Both functions share
their loops and differ in what they do with a line that has ended.
-/

namespace Gpgme

open CString LineBuffer

/-- The C string at the start of a buffer. -/
def cstring (buffer : List UInt8) : Str := buffer.takeWhile (· != 0)

/-- The functions that are called with a line may write into it, up to its terminator. -/
def overwrite (buffer : List UInt8) (p : Nat) (written : List UInt8) : List UInt8 :=
  (written ++ buffer.drop written.length).take p ++ buffer.drop p

-----------------------------------------------------------------------------------------
-- The status pipe
-----------------------------------------------------------------------------------------

/-- A call of the status handler; a keyword that is not known has the code -1. -/
abbrev StatusCall := Option StatusCode × Str

/-- The part of `struct engine_gpg` that `read_status` uses besides the buffer. The status
handler and the monitor answer with an error code that may depend on all their calls, and the
handler leaves its arguments changed; the calls are recorded in order.
-/
structure StatusPipe where
  fnc : List StatusCall → GpgError
  writes : List StatusCall → List UInt8
  monCb : Option (List (Str × Str) → GpgError) := none
  cmdUsed : Bool := false
  calls : List StatusCall := []
  monCalls : List (Str × Str) := []
  commands : List (StatusCode × Str) := []
  eof : Bool := false

/-- The keyword and the arguments in the text of a status line. -/
def splitStatusText (text : Str) : Option (Str × Str) :=
  let rest := text.drop statusPrefix.length
  if startsWith text statusPrefix then
    match rest with
    | [] => none
    | c :: _ =>
        if 65 ≤ c ∧ c ≤ 90 then some (word rest, (skipWord rest).tail) else none
  else
    none

/-- Call the monitor, if there is one. -/
def StatusPipe.callMonitor (pipe : StatusPipe) (keyword args : Str) : GpgError × StatusPipe :=
  match pipe.monCb with
  | none => (0, pipe)
  | some answer =>
      let monCalls := pipe.monCalls ++ [(keyword, args)]
      (answer monCalls, { pipe with monCalls })

/-- Call the status handler. -/
def StatusPipe.callFnc (pipe : StatusPipe) (code : Option StatusCode) (args : Str)
    : Except (GpgError × StatusPipe) StatusPipe :=
  let calls := pipe.calls ++ [(code, args)]
  let err := dropFalse (pipe.fnc calls)
  if err ≠ 0 then .error (err, { pipe with calls }) else .ok { pipe with calls }

/-- The code behind the monitor. No status code is negative, so that the compiler may give the
type `gpgme_status_code_t` an unsigned integer type, and then `r >= 0` holds of the code -1, too.
-/
def StatusPipe.dispatch (unsignedCode : Bool) (pipe : StatusPipe) (keyword args : Str)
    : Except (GpgError × StatusPipe) StatusPipe :=
  match parseStatus keyword with
  | none => if unsignedCode then pipe.callFnc none args else .ok pipe
  | some code =>
      if pipe.cmdUsed && code.isCommand then
        .ok { pipe with commands := pipe.commands ++ [(code, args)] }
      else
        pipe.callFnc (some code) args

/-- What `read_status` does with the text of a line. -/
def StatusPipe.handleText (unsignedCode : Bool) (pipe : StatusPipe) (text : Str)
    : Except (GpgError × StatusPipe) StatusPipe :=
  match splitStatusText text with
  | none => .ok pipe
  | some (keyword, args) =>
      if parseStatus keyword = some .progress then pipe.dispatch unsignedCode keyword args
      else
        let (err, pipe) := pipe.callMonitor keyword args
        if err ≠ 0 then .error (err, pipe) else pipe.dispatch unsignedCode keyword args

/-- The line feed and a carriage return in front of it become NUL. -/
def terminateStatusLine (buffer : List UInt8) (p : Nat) : List UInt8 :=
  let buffer := if 0 < p ∧ buffer[p - 1]? = some 13 then buffer.set (p - 1) 0 else buffer
  buffer.set p 0

/-- What `read_status` does at a line feed. -/
def statusLineHandler (unsignedCode : Bool) : LineHandler StatusPipe (GpgError × StatusPipe) :=
  fun pipe buffer p =>
    let buffer := terminateStatusLine buffer p
    match pipe.handleText unsignedCode (cstring buffer) with
    | .error e => .error e
    | .ok next => .ok (next, overwrite buffer p (next.writes next.calls))

/-- `read_status`. A read of no bytes is the end of file, where the answer of the monitor is
overwritten by that of the handler.
-/
def StatusPipe.readStatus (unsignedCode : Bool) (pipe : StatusPipe) (reader : Reader)
    (chunk : Chunk)
    : Option (Except (GpgError × StatusPipe) (StatusPipe × Reader)) :=
  if chunk.bytes = [] then
    let (_, pipe) := StatusPipe.callMonitor { pipe with eof := true } [] []
    match pipe.callFnc (some .eof) [] with
    | .error e => some (.error e)
    | .ok pipe => some (.ok (pipe, reader))
  else
    LineBuffer.read (statusLineHandler unsignedCode) pipe reader chunk

-----------------------------------------------------------------------------------------
-- The colon pipe
-----------------------------------------------------------------------------------------

/-- A preprocess function, which may write into the line: an error, or the text that is left in the
line buffer and the new line that it may give for `r_line`.
-/
abbrev PreprocessFnc := Str → Except GpgError (Str × Option Str)

/-- The part of `struct engine_gpg` that `read_colon_line` uses besides the buffer. The lines
that are passed on are recorded; `none` is the call at the end of file. The handler may change
the line, and its answer is ignored.
-/
structure ColonPipe where
  preprocessFnc : Option PreprocessFnc := none
  writes : List (Option Str) → List UInt8
  lines : List (Option Str) := []
  eof : Bool := false

/-- The lines of a preprocessed text, of which the first is passed on in any case. -/
def preprocessedLines (text : Str) : List Str :=
  let whole := Lines.complete [] text
  let last := Lines.unfinished [] text
  if last ≠ [] ∨ whole = [] then whole ++ [last] else whole

/-- What `read_colon_line` does with the text of a line. -/
def ColonPipe.handleText (pipe : ColonPipe) (text : Str)
    : Except (GpgError × ColonPipe) ColonPipe :=
  if text ≠ [] ∧ 58 ∈ text then
    match pipe.preprocessFnc with
    | none => .ok { pipe with lines := pipe.lines ++ [some text] }
    | some preprocess =>
        match preprocess text with
        | .error err => .error (err, pipe)
        | .ok (left, none) => .ok { pipe with lines := pipe.lines ++ [some left] }
        | .ok (_, some processed) =>
            .ok { pipe with lines := pipe.lines ++ (preprocessedLines processed).map some }
  else
    .ok pipe

/-- What `read_colon_line` does at a line feed. -/
def colonLineHandler : LineHandler ColonPipe (GpgError × ColonPipe) :=
  fun pipe buffer p =>
    let buffer := buffer.set p 0
    match pipe.handleText (cstring buffer) with
    | .error e => .error e
    | .ok next => .ok (next, overwrite buffer p (next.writes next.lines))

/-- `read_colon_line`. -/
def ColonPipe.readColonLine (pipe : ColonPipe) (reader : Reader) (chunk : Chunk)
    : Option (Except (GpgError × ColonPipe) (ColonPipe × Reader)) :=
  if chunk.bytes = [] then
    some (.ok ({ pipe with eof := true, lines := pipe.lines ++ [none] }, reader))
  else
    LineBuffer.read colonLineHandler pipe reader chunk

-----------------------------------------------------------------------------------------
-- The handlers act on the text of a line
-----------------------------------------------------------------------------------------

theorem length_overwrite {buffer : List UInt8} {p : Nat} (inside : p < buffer.length)
    (written : List UInt8)
    : (overwrite buffer p written).length = buffer.length := by
  simp only [overwrite, List.length_append, List.length_take, List.length_drop]
  omega

theorem drop_overwrite {buffer : List UInt8} {p : Nat} (inside : p < buffer.length)
    (written : List UInt8)
    : (overwrite buffer p written).drop (p + 1) = buffer.drop (p + 1) := by
  have length : ((written ++ buffer.drop written.length).take p).length = p := by
    simp only [List.length_take, List.length_append, List.length_drop]
    omega
  unfold overwrite
  rw [List.drop_append, length, List.drop_drop]
  simp [length]

theorem cstring_append_nul (text rest : Str) : cstring (text ++ 0 :: rest) = cstring text := by
  unfold cstring
  rw [List.takeWhile_append]
  split
  · next all =>
      simp only [List.takeWhile_cons, bne_self_eq_false, Bool.false_eq_true, if_false,
        List.append_nil]
      exact (List.takeWhile_sublist _).eq_of_length all |>.symm
  · rfl

theorem cstring_of_nulFree {text : Str} (nulFree : ∀ c ∈ text, c ≠ 0) : cstring text = text := by
  refine List.takeWhile_eq_self_iff.mpr fun c member => ?_
  simpa using nulFree c member

theorem set_nul_eq {buffer : List UInt8} {p : Nat} (inside : p < buffer.length)
    : buffer.set p 0 = buffer.take p ++ 0 :: buffer.drop (p + 1) :=
  List.set_eq_take_append_cons_drop .. |>.trans (if_pos inside)

theorem cstring_terminateStatusLine {buffer : List UInt8} {p : Nat} (inside : p < buffer.length)
    : cstring (terminateStatusLine buffer p) = lineString (buffer.take p) := by
  have last : (buffer.take p).getLast? = some 13 ↔ 0 < p ∧ buffer[p - 1]? = some 13 := by
    rw [List.getLast?_take]
    by_cases first : p = 0
    · simp [first]
    · have found : buffer[p - 1]? = some (buffer[p - 1]) := List.getElem?_eq_getElem (by omega)
      rw [if_neg first, found, Option.some_or]
      simp only [Option.some.injEq, iff_and_self]
      omega
  unfold terminateStatusLine lineString
  dsimp only
  by_cases returned : 0 < p ∧ buffer[p - 1]? = some 13
  · rw [if_pos returned, if_pos (last.mpr returned), List.dropLast_take inside,
      set_nul_eq (by simpa using inside), cstring_append_nul, List.take_set,
      set_nul_eq (by simp only [List.length_take]; omega), cstring_append_nul, List.take_take,
      Nat.min_eq_left (by omega)]
    rfl
  · rw [if_neg returned, if_neg (fun ends => returned (last.mp ends)), set_nul_eq inside,
      cstring_append_nul]
    rfl

theorem length_terminateStatusLine (buffer : List UInt8) (p : Nat)
    : (terminateStatusLine buffer p).length = buffer.length := by
  unfold terminateStatusLine
  dsimp only
  split <;> simp

theorem drop_terminateStatusLine (buffer : List UInt8) (p : Nat)
    : (terminateStatusLine buffer p).drop (p + 1) = buffer.drop (p + 1) := by
  unfold terminateStatusLine
  dsimp only
  rw [List.drop_set_of_lt (by omega)]
  split
  · exact List.drop_set_of_lt (by omega)
  · rfl

theorem statusLineHandler_handles (unsignedCode : Bool)
    : Handles (statusLineHandler unsignedCode)
        (fun pipe line => pipe.handleText unsignedCode (lineString line)) := by
  intro pipe buffer p inside
  unfold statusLineHandler
  dsimp only
  rw [cstring_terminateStatusLine inside]
  split
  · next failed => rw [failed]
  · next next handled =>
      rw [handled]
      have length := length_terminateStatusLine buffer p
      have within : p < (terminateStatusLine buffer p).length := by omega
      refine ⟨_, rfl, ?_, ?_⟩
      · rw [length_overwrite within, length]
      · rw [drop_overwrite within, drop_terminateStatusLine]

theorem colonLineHandler_handles
    : Handles colonLineHandler (fun pipe line => pipe.handleText (cstring line)) := by
  intro pipe buffer p inside
  unfold colonLineHandler
  dsimp only
  rw [set_nul_eq inside, cstring_append_nul, ← set_nul_eq inside]
  split
  · next failed => rw [failed]
  · next next handled =>
      rw [handled]
      have within : p < (buffer.set p 0).length := by simpa using inside
      refine ⟨_, rfl, ?_, ?_⟩
      · rw [length_overwrite within, List.length_set]
      · rw [drop_overwrite within, List.drop_set_of_lt (by omega)]

-----------------------------------------------------------------------------------------
-- The calls that a stream leads to
-----------------------------------------------------------------------------------------

/-- The call for a line whose keyword is known. -/
def knownStatusCall (line : Str) : Option StatusCall :=
  (parseStatusLine line).map (fun parsed => (some parsed.code, parsed.args))

/-- The call for a line, which an unknown keyword has when the codes are unsigned. -/
def statusCallOf (unsignedCode : Bool) (line : Str) : Option StatusCall :=
  match splitStatusLine line with
  | none => none
  | some (keyword, args) =>
      match parseStatus keyword with
      | none => if unsignedCode then some (none, args) else none
      | some code => some (some code, args)

/-- The line is not a status line, or its keyword is known. -/
def KnownKeyword (line : Str) : Prop :=
  ∀ keyword args, splitStatusLine line = some (keyword, args) → (parseStatus keyword).isSome

/-- The handler and the monitor return no error. -/
def StatusPipe.Willing (pipe : StatusPipe) : Prop :=
  (∀ calls, dropFalse (pipe.fnc calls) = 0)
  ∧ ∀ answer, pipe.monCb = some answer → ∀ monCalls, answer monCalls = 0

theorem StatusPipe.callFnc_ok {pipe next : StatusPipe} {code : Option StatusCode} {args : Str}
    (handled : pipe.callFnc code args = .ok next)
    : next = { pipe with calls := pipe.calls ++ [(code, args)] } := by
  unfold StatusPipe.callFnc at handled
  dsimp only at handled
  split at handled
  · cases handled
  · cases handled
    rfl

theorem StatusPipe.callMonitor_frame (pipe : StatusPipe) (keyword args : Str)
    : ∃ monCalls, (pipe.callMonitor keyword args).2 = { pipe with monCalls } := by
  unfold StatusPipe.callMonitor
  split
  · exact ⟨pipe.monCalls, rfl⟩
  · exact ⟨_, rfl⟩

theorem StatusPipe.dispatch_calls {unsignedCode : Bool} {pipe next : StatusPipe} {line : Str}
    {keyword args : Str} (noCommands : pipe.cmdUsed = false)
    (split : splitStatusLine line = some (keyword, args))
    (handled : pipe.dispatch unsignedCode keyword args = .ok next)
    : next.calls = pipe.calls ++ (statusCallOf unsignedCode line).toList
      ∧ next.cmdUsed = false := by
  unfold StatusPipe.dispatch at handled
  simp only [statusCallOf, split]
  cases code : parseStatus keyword with
  | none =>
      cases unsignedCode with
      | false =>
          simp only [code, Bool.false_eq_true, if_false, Except.ok.injEq] at handled
          subst handled
          simpa using noCommands
      | true =>
          simp only [code, if_true] at handled
          obtain rfl := StatusPipe.callFnc_ok handled
          exact ⟨rfl, noCommands⟩
  | some known =>
      simp only [code, noCommands, Bool.false_and, Bool.false_eq_true, if_false] at handled
      obtain rfl := StatusPipe.callFnc_ok handled
      exact ⟨rfl, noCommands⟩

theorem StatusPipe.handleText_calls {unsignedCode : Bool} {pipe next : StatusPipe} {line : Str}
    (noCommands : pipe.cmdUsed = false)
    (handled : pipe.handleText unsignedCode (lineString line) = .ok next)
    : next.calls = pipe.calls ++ (statusCallOf unsignedCode line).toList
      ∧ next.cmdUsed = false := by
  have same : splitStatusText (lineString line) = splitStatusLine line := rfl
  unfold StatusPipe.handleText at handled
  rw [same] at handled
  cases split : splitStatusLine line with
  | none =>
      rw [split] at handled
      cases handled
      exact ⟨by simp [statusCallOf, split], noCommands⟩
  | some parts =>
      obtain ⟨keyword, args⟩ := parts
      rw [split] at handled
      dsimp only at handled
      split at handled
      · exact StatusPipe.dispatch_calls noCommands split handled
      · obtain ⟨monCalls, monitored⟩ := pipe.callMonitor_frame keyword args
        split at handled
        · cases handled
        · rw [monitored] at handled
          have dispatched : next.calls
                = ({ pipe with monCalls } : StatusPipe).calls
                  ++ (statusCallOf unsignedCode line).toList
              ∧ next.cmdUsed = false :=
            StatusPipe.dispatch_calls noCommands split handled
          exact dispatched

theorem StatusPipe.foldlM_calls {unsignedCode : Bool} {pipe next : StatusPipe}
    {lines : List Str} (noCommands : pipe.cmdUsed = false)
    (handled
      : lines.foldlM (fun pipe line => pipe.handleText unsignedCode (lineString line)) pipe
        = .ok next)
    : next.calls = pipe.calls ++ lines.filterMap (statusCallOf unsignedCode) := by
  induction lines generalizing pipe with
  | nil =>
      cases handled
      simp
  | cons line rest ih =>
      rw [List.foldlM_cons] at handled
      cases first : pipe.handleText unsignedCode (lineString line) with
      | error e =>
          rw [first] at handled
          cases handled
      | ok middle =>
          rw [first] at handled
          obtain ⟨calls, noCommands'⟩ := StatusPipe.handleText_calls noCommands first
          rw [ih noCommands' handled, calls, List.append_assoc]
          cases called : statusCallOf unsignedCode line <;> simp [called]

theorem StatusPipe.Willing.callFnc {pipe : StatusPipe} (willing : pipe.Willing)
    (code : Option StatusCode) (args : Str)
    : ∃ next, pipe.callFnc code args = .ok next ∧ next.Willing := by
  refine ⟨{ pipe with calls := pipe.calls ++ [(code, args)] }, ?_, willing⟩
  simp [StatusPipe.callFnc, willing.1]

theorem StatusPipe.Willing.dispatch {pipe : StatusPipe} (willing : pipe.Willing)
    (unsignedCode : Bool) (keyword args : Str)
    : ∃ next, pipe.dispatch unsignedCode keyword args = .ok next ∧ next.Willing := by
  unfold StatusPipe.dispatch
  split
  · split
    · exact willing.callFnc none args
    · exact ⟨pipe, rfl, willing⟩
  · split
    · exact ⟨_, rfl, willing⟩
    · exact willing.callFnc _ args

theorem StatusPipe.Willing.handleText {pipe : StatusPipe} (willing : pipe.Willing)
    (unsignedCode : Bool) (text : Str)
    : ∃ next, pipe.handleText unsignedCode text = .ok next ∧ next.Willing := by
  have monitored (keyword args : Str)
      : (pipe.callMonitor keyword args).1 = 0 ∧ (pipe.callMonitor keyword args).2.Willing := by
    unfold StatusPipe.callMonitor
    split
    · exact ⟨rfl, willing⟩
    · next answer installed => exact ⟨willing.2 answer installed _, willing⟩
  unfold StatusPipe.handleText
  split
  · exact ⟨pipe, rfl, willing⟩
  · next keyword args _ =>
      obtain ⟨accepted, willing'⟩ := monitored keyword args
      split
      · exact willing.dispatch unsignedCode keyword args
      · simp only [accepted, ne_eq, not_true_eq_false, if_false]
        exact willing'.dispatch unsignedCode keyword args

theorem StatusPipe.Willing.foldlM {pipe : StatusPipe} (willing : pipe.Willing)
    (unsignedCode : Bool) (lines : List Str)
    : ∃ next,
        lines.foldlM (fun pipe line => pipe.handleText unsignedCode (lineString line)) pipe
        = .ok next := by
  induction lines generalizing pipe with
  | nil => exact ⟨pipe, rfl⟩
  | cons line rest ih =>
      obtain ⟨middle, handled, willing'⟩ := willing.handleText unsignedCode (lineString line)
      obtain ⟨next, later⟩ := ih willing'
      refine ⟨next, ?_⟩
      rw [List.foldlM_cons, handled]
      exact later

theorem statusCalls_known_iff (unsignedCode : Bool) (lines : List Str)
    : lines.filterMap (statusCallOf unsignedCode) = lines.filterMap knownStatusCall
      ↔ unsignedCode = false ∨ ∀ line ∈ lines, KnownKeyword line := by
  have known {line : Str} (fine : unsignedCode = false ∨ KnownKeyword line)
      : statusCallOf unsignedCode line = knownStatusCall line := by
    unfold statusCallOf knownStatusCall parseStatusLine
    cases split : splitStatusLine line with
    | none => rfl
    | some parts =>
        obtain ⟨keyword, args⟩ := parts
        dsimp only
        cases code : parseStatus keyword with
        | some found => rfl
        | none =>
            rcases fine with signed | fine
            · simp [signed]
            · simpa [code] using fine keyword args split
  constructor
  · intro same
    by_contra unknown
    simp only [not_or, not_forall, Bool.not_eq_false] at unknown
    obtain ⟨rfl, line, member, odd⟩ := unknown
    simp only [KnownKeyword, not_forall] at odd
    obtain ⟨keyword, args, split, code⟩ := odd
    have absent : parseStatus keyword = none := by simpa using code
    have called : (none, args) ∈ lines.filterMap (statusCallOf true) :=
      List.mem_filterMap.mpr ⟨line, member, by simp [statusCallOf, split, absent]⟩
    rw [same] at called
    obtain ⟨_, _, answered⟩ := List.mem_filterMap.mp called
    simp [knownStatusCall] at answered
  · rintro (signed | all)
    · exact List.filterMap_congr fun line _ => known (Or.inl signed)
    · exact List.filterMap_congr fun line member => known (Or.inr (all line member))

/-- A line that `read_colon_line` passes on. -/
def colonLine (line : Str) : Bool := !line.isEmpty && line.contains 58

theorem ColonPipe.foldlM_lines {pipe : ColonPipe} (plain : pipe.preprocessFnc = none)
    {lines : List Str} (nulFree : ∀ line ∈ lines, ∀ c ∈ line, c ≠ 0)
    : lines.foldlM (fun pipe line => pipe.handleText (cstring line)) pipe
      = .ok { pipe with lines := pipe.lines ++ (lines.filter colonLine).map some } := by
  induction lines generalizing pipe with
  | nil => simp [pure, Except.pure]
  | cons line rest ih =>
      have whole : cstring line = line := cstring_of_nulFree (nulFree line List.mem_cons_self)
      have later : ∀ found ∈ rest, ∀ c ∈ found, c ≠ 0 :=
        fun found member => nulFree found (List.mem_cons_of_mem _ member)
      have handled : pipe.handleText line
          = .ok { pipe with lines := pipe.lines ++ (([line].filter colonLine).map some) } := by
        unfold ColonPipe.handleText
        by_cases passes : line ≠ [] ∧ 58 ∈ line
        · simp [plain, passes, colonLine]
        · have skipped : colonLine line = false := by
            simpa [colonLine, List.isEmpty_iff, imp_iff_or_not, or_comm] using passes
          simp [passes, skipped]
      have parts : (line :: rest).filter colonLine
          = [line].filter colonLine ++ rest.filter colonLine :=
        List.filter_append [line] rest
      rw [List.foldlM_cons, whole, handled, parts, List.map_append, ← List.append_assoc]
      exact ih plain later

-----------------------------------------------------------------------------------------
-- Chunk independence
-----------------------------------------------------------------------------------------

theorem StatusPipe.readStatus_read (unsignedCode : Bool) (pipe : StatusPipe) (reader : Reader)
    (chunk : Chunk) (nonempty : chunk.bytes ≠ [])
    : pipe.readStatus unsignedCode reader chunk
      = LineBuffer.read (statusLineHandler unsignedCode) pipe reader chunk := by
  unfold StatusPipe.readStatus
  rw [if_neg nonempty]

theorem ColonPipe.readColonLine_read (pipe : ColonPipe) (reader : Reader) (chunk : Chunk)
    (nonempty : chunk.bytes ≠ [])
    : pipe.readColonLine reader chunk = LineBuffer.read colonLineHandler pipe reader chunk := by
  unfold ColonPipe.readColonLine
  rw [if_neg nonempty]

theorem readStatus_calls (unsignedCode : Bool) {pipe : StatusPipe} {reader : Reader}
    {chunks : List Chunk} (noCommands : pipe.cmdUsed = false) (start : reader.Holds [])
    (fits : FitsAll (StatusPipe.readStatus unsignedCode) pipe reader chunks)
    : ∃ result,
        readAll (StatusPipe.readStatus unsignedCode) pipe reader chunks = some result
        ∧ (pipe.Willing → ∃ ended, result = .ok ended)
        ∧ ∀ next reader',
            result = .ok (next, reader')
            → next.calls
              = pipe.calls
                ++ (Lines.complete [] (stream chunks)).filterMap (statusCallOf unsignedCode) := by
  obtain ⟨result, ran, agrees⟩ :=
    readAll_agrees (StatusPipe.readStatus_read unsignedCode)
      (statusLineHandler_handles unsignedCode) start fits
  refine ⟨result, ran, ?_, ?_⟩
  · intro willing
    obtain ⟨next, handled⟩ :=
      willing.foldlM unsignedCode (Lines.complete [] (stream chunks))
    rw [handled] at agrees
    cases result with
    | error e => exact absurd agrees id
    | ok ended => exact ⟨ended, rfl⟩
  · rintro next reader' rfl
    cases handled : (Lines.complete [] (stream chunks)).foldlM
        (fun pipe line => pipe.handleText unsignedCode (lineString line)) pipe with
    | error e =>
        rw [handled] at agrees
        exact absurd agrees id
    | ok last =>
        rw [handled] at agrees
        obtain ⟨rfl, _⟩ := agrees
        exact StatusPipe.foldlM_calls noCommands handled

theorem readColonLine_lines {pipe : ColonPipe} {reader : Reader} {chunks : List Chunk}
    (plain : pipe.preprocessFnc = none) (start : reader.Holds [])
    (nulFree : ∀ c ∈ stream chunks, c ≠ 0)
    (fits : FitsAll ColonPipe.readColonLine pipe reader chunks)
    : ∃ next reader',
        readAll ColonPipe.readColonLine pipe reader chunks = some (.ok (next, reader'))
        ∧ next.lines
          = pipe.lines ++ ((Lines.complete [] (stream chunks)).filter colonLine).map some := by
  obtain ⟨result, ran, agrees⟩ :=
    readAll_agrees ColonPipe.readColonLine_read colonLineHandler_handles start fits
  have clean : ∀ line ∈ Lines.complete [] (stream chunks), ∀ c ∈ line, c ≠ 0 :=
    fun line found c member => nulFree c (by simpa using Lines.mem_complete found member)
  rw [ColonPipe.foldlM_lines plain clean] at agrees
  cases result with
  | error e => exact absurd agrees id
  | ok ended =>
      obtain ⟨next, reader'⟩ := ended
      obtain ⟨rfl, _⟩ := agrees
      exact ⟨_, reader', ran, rfl⟩

/-- Reading the pipes does not depend on the cuts between the reads. The lines that are passed
on from the colon pipe are the claimed ones; the calls of the status handler are those for the
known keywords exactly when the type of the codes is signed or no unknown keyword occurs.
-/
theorem pipes_chunk_independent (unsignedCode : Bool) {pipe : StatusPipe} {colon : ColonPipe}
    {reader : Reader} {chunks : List Chunk} (noCommands : pipe.cmdUsed = false)
    (plain : colon.preprocessFnc = none) (start : reader.Holds [])
    (nulFree : ∀ c ∈ stream chunks, c ≠ 0)
    (fits : FitsAll (StatusPipe.readStatus unsignedCode) pipe reader chunks)
    (fits' : FitsAll ColonPipe.readColonLine colon reader chunks)
    : (∃ result,
        readAll (StatusPipe.readStatus unsignedCode) pipe reader chunks = some result
        ∧ (pipe.Willing → ∃ ended, result = .ok ended)
        ∧ ∀ next reader',
            result = .ok (next, reader')
            → (next.calls
                = pipe.calls ++ (Lines.complete [] (stream chunks)).filterMap knownStatusCall
              ↔ unsignedCode = false
                ∨ ∀ line ∈ Lines.complete [] (stream chunks), KnownKeyword line))
      ∧ ∃ next reader',
          readAll ColonPipe.readColonLine colon reader chunks = some (.ok (next, reader'))
          ∧ next.lines
            = colon.lines
              ++ ((Lines.complete [] (stream chunks)).filter colonLine).map some := by
  refine ⟨?_, readColonLine_lines plain start nulFree fits'⟩
  obtain ⟨result, ran, returns, calls⟩ :=
    readStatus_calls unsignedCode noCommands start fits
  refine ⟨result, ran, returns, ?_⟩
  intro next reader' ended
  rw [calls next reader' ended, List.append_cancel_left_eq]
  exact statusCalls_known_iff unsignedCode _

/-- Reads of these texts one after the other. -/
def readsOf (texts : List Str) : List Chunk := texts.map fun bytes => { bytes, fresh := fun _ => 0 }

/-- The buffer of a new engine. -/
def newReader : Reader := { buffer := List.replicate 1024 0, readpos := 0 }

theorem newReader_holds : newReader.Holds [] := ⟨Nat.zero_le _, rfl⟩

/-- A pipe whose handler accepts every call and leaves its arguments alone. -/
def newPipe : StatusPipe := { fnc := fun _ => 0, writes := fun _ => [] }

/-- A status line with a carriage return that is cut within its keyword. -/
def cutLine : List Chunk := readsOf [str "[GNUPG:] NEW", str "SIG x\r\n"]

theorem pipes_chunk_independent_cut
    : ∃ next reader',
        readAll (StatusPipe.readStatus true) newPipe newReader cutLine = some (.ok (next, reader'))
        ∧ next.calls = [(some .newsig, str "x")] := by
  have lines : Lines.complete [] (stream cutLine) = [str "[GNUPG:] NEWSIG x\r"] := by decide
  have nulFree : ∀ c ∈ stream cutLine, c ≠ 0 := by decide +kernel
  have short : ∀ chunk ∈ cutLine, chunk.bytes ≠ [] ∧ chunk.bytes.length ≤ 256 := by decide
  have fits : FitsAll (StatusPipe.readStatus true) newPipe newReader cutLine :=
    fitsAll_of_short (StatusPipe.readStatus_read true) (statusLineHandler_handles true)
      newReader_holds short
  have fits' : FitsAll ColonPipe.readColonLine { writes := fun _ => [] } newReader cutLine :=
    fitsAll_of_short ColonPipe.readColonLine_read colonLineHandler_handles newReader_holds short
  obtain ⟨⟨result, ran, returns, calls⟩, _⟩ :=
    pipes_chunk_independent true rfl rfl newReader_holds nulFree fits fits'
  obtain ⟨⟨next, reader'⟩, rfl⟩ := returns ⟨fun _ => rfl, by simp [newPipe]⟩
  refine ⟨next, reader', ran, ?_⟩
  have known := (calls next reader' rfl).mpr (Or.inr ?_)
  · rw [known, lines]
    decide +kernel
  · rw [lines]
    intro line member keyword args split
    obtain rfl := List.mem_singleton.mp member
    have parts : splitStatusLine (str "[GNUPG:] NEWSIG x\r") = some (str "NEWSIG", str "x") := by
      decide
    rw [parts] at split
    cases split
    decide +kernel

/-- A line with an unknown keyword is passed on where the codes are unsigned. -/
theorem readStatus_passes_unknown
    : ∃ next reader',
        readAll (StatusPipe.readStatus true) newPipe newReader (readsOf [str "[GNUPG:] FOO x\n"])
          = some (.ok (next, reader'))
        ∧ next.calls
          ≠ newPipe.calls
            ++ (Lines.complete [] (stream (readsOf [str "[GNUPG:] FOO x\n"]))).filterMap
              knownStatusCall := by
  have lines : Lines.complete [] (stream (readsOf [str "[GNUPG:] FOO x\n"]))
      = [str "[GNUPG:] FOO x"] := by decide
  have fits : FitsAll (StatusPipe.readStatus true) newPipe newReader
      (readsOf [str "[GNUPG:] FOO x\n"]) :=
    fitsAll_of_short (StatusPipe.readStatus_read true) (statusLineHandler_handles true)
      newReader_holds (by decide)
  obtain ⟨result, ran, returns, calls⟩ :=
    readStatus_calls true rfl newReader_holds fits
  obtain ⟨⟨next, reader'⟩, rfl⟩ := returns ⟨fun _ => rfl, by simp [newPipe]⟩
  refine ⟨next, reader', ran, ?_⟩
  rw [calls next reader' rfl, lines]
  decide +kernel

end Gpgme
