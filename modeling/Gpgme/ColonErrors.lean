import Gpgme.Assuan.StatusHandler

/-! What becomes of the error codes that a colon handler returns. `status_handler` of the Assuan
engines returns them; `read_colon_line` of `engine-gpg.c` does not look at them.
-/

namespace Gpgme

open CString LineBuffer

-----------------------------------------------------------------------------------------
-- The colon pipe of gpg
-----------------------------------------------------------------------------------------

/-- The function that is called in front of the colon handler. -/
abbrev Preprocess := Option PreprocessFnc

/-- The preprocess function returns an error for a line. -/
def PreprocessFails (preprocess : Preprocess) (text : Str) : Prop :=
  text ≠ [] ∧ 58 ∈ text ∧ ∃ function err, preprocess = some function ∧ function text = .error err

/-- The calls of the colon handler for a line: without a new line, what the preprocess function has
left of the line.
-/
def colonCallsOf (preprocess : Preprocess) (text : Str) : List (Option Str) :=
  if text ≠ [] ∧ 58 ∈ text then
    match preprocess with
    | none => [some text]
    | some function =>
        match function text with
        | .error _ => []
        | .ok (left, none) => [some left]
        | .ok (_, some processed) => (preprocessedLines processed).map some
  else
    []

/-- The read that returns no bytes. -/
def endOfFile : Chunk := { bytes := [], fresh := fun _ => 0 }

/-- Read a stream up to its end. -/
def ColonPipe.readStream (pipe : ColonPipe) (reader : Reader) (chunks : List Chunk)
    : Option (Except (GpgError × ColonPipe) (ColonPipe × Reader)) :=
  readAll ColonPipe.readColonLine pipe reader (chunks ++ [endOfFile])

/-- The calls of the colon handler during the reads. -/
def colonCallsMade : Except (GpgError × ColonPipe) (ColonPipe × Reader) → List (Option Str)
  | .error (_, pipe) => pipe.lines
  | .ok (pipe, _) => pipe.lines

/-- The calls for a stream, if every line is preprocessed. -/
def streamCalls (preprocess : Preprocess) (bytes : Str) : List (Option Str) :=
  (Lines.complete [] bytes).flatMap (fun line => colonCallsOf preprocess (cstring line)) ++ [none]

theorem ColonPipe.handleText_fails {pipe : ColonPipe} {text : Str}
    (fails : PreprocessFails pipe.preprocessFnc text)
    : ∃ e, pipe.handleText text = .error e := by
  obtain ⟨nonempty, colon, function, err, installed, failed⟩ := fails
  unfold ColonPipe.handleText
  rw [if_pos ⟨nonempty, colon⟩, installed]
  simp only [failed]
  exact ⟨_, rfl⟩

theorem ColonPipe.handleText_calls {pipe : ColonPipe} {text : Str}
    (fine : ¬ PreprocessFails pipe.preprocessFnc text)
    : pipe.handleText text
      = .ok { pipe with lines := pipe.lines ++ colonCallsOf pipe.preprocessFnc text } := by
  unfold ColonPipe.handleText colonCallsOf
  by_cases passes : text ≠ [] ∧ 58 ∈ text
  · rw [if_pos passes, if_pos passes]
    cases installed : pipe.preprocessFnc with
    | none => rfl
    | some function =>
        dsimp only
        cases processed : function text with
        | error err => exact absurd ⟨passes.1, passes.2, function, err, installed, processed⟩ fine
        | ok result =>
            obtain ⟨left, new⟩ := result
            cases new <;> rfl
  · rw [if_neg passes, if_neg passes]
    simp

theorem ColonPipe.foldlM_calls (pipe : ColonPipe) (lines : List Str)
    : ((∃ line ∈ lines, PreprocessFails pipe.preprocessFnc (cstring line))
        ∧ ∃ e, lines.foldlM (fun pipe line => pipe.handleText (cstring line)) pipe = .error e)
      ∨ ((∀ line ∈ lines, ¬ PreprocessFails pipe.preprocessFnc (cstring line))
        ∧ lines.foldlM (fun pipe line => pipe.handleText (cstring line)) pipe
          = .ok { pipe with
              lines := pipe.lines
                ++ lines.flatMap (fun line => colonCallsOf pipe.preprocessFnc (cstring line)) }) := by
  induction lines generalizing pipe with
  | nil =>
      refine Or.inr ⟨by simp, ?_⟩
      simp [pure, Except.pure]
  | cons line rest ih =>
      rw [List.foldlM_cons]
      by_cases fails : PreprocessFails pipe.preprocessFnc (cstring line)
      · obtain ⟨e, failed⟩ := pipe.handleText_fails fails
        rw [failed]
        exact Or.inl ⟨⟨line, List.mem_cons_self, fails⟩, e, rfl⟩
      · rw [ColonPipe.handleText_calls fails]
        rcases ih { pipe with
          lines := pipe.lines ++ colonCallsOf pipe.preprocessFnc (cstring line) } with
          ⟨⟨found, member, fails'⟩, failed⟩ | ⟨fine, handled⟩
        · exact Or.inl ⟨⟨found, List.mem_cons_of_mem _ member, fails'⟩, failed⟩
        · refine Or.inr ⟨List.forall_mem_cons.mpr ⟨fails, fine⟩, ?_⟩
          rw [List.flatMap_cons, ← List.append_assoc]
          exact handled

theorem readAll_concat {σ ε : Type} {step : σ → Reader → Chunk → Option (Except ε (σ × Reader))}
    {s : σ} {reader : Reader} {chunks : List Chunk} {chunk : Chunk}
    : readAll step s reader (chunks ++ [chunk])
      = match readAll step s reader chunks with
        | some (.ok (s, reader)) => step s reader chunk
        | result => result := by
  induction chunks generalizing s reader with
  | nil =>
      simp only [List.nil_append, readAll]
      split <;> simp_all
  | cons first rest ih =>
      simp only [List.cons_append, readAll]
      cases step s reader first with
      | none => rfl
      | some result =>
          cases result with
          | error e => rfl
          | ok ended => exact ih

theorem ColonPipe.readStream_calls {pipe : ColonPipe} {reader : Reader} {chunks : List Chunk}
    (start : reader.Holds []) (fits : FitsAll ColonPipe.readColonLine pipe reader chunks)
    (fresh : pipe.lines = [])
    : ∃ result,
        pipe.readStream reader chunks = some result
        ∧ (((∃ line ∈ Lines.complete [] (stream chunks),
                PreprocessFails pipe.preprocessFnc (cstring line))
            ∧ ∃ e, result = .error e)
          ∨ ((∀ line ∈ Lines.complete [] (stream chunks),
                ¬ PreprocessFails pipe.preprocessFnc (cstring line))
            ∧ (∃ ended, result = .ok ended)
            ∧ colonCallsMade result = streamCalls pipe.preprocessFnc (stream chunks))) := by
  obtain ⟨result, ran, agrees⟩ :=
    readAll_agrees ColonPipe.readColonLine_read colonLineHandler_handles start fits
  unfold ColonPipe.readStream
  rw [readAll_concat, ran]
  rcases pipe.foldlM_calls (Lines.complete [] (stream chunks)) with
    ⟨fails, e, failed⟩ | ⟨fine, handled⟩
  · rw [failed] at agrees
    cases result with
    | ok ended => exact absurd agrees id
    | error e' => exact ⟨_, rfl, Or.inl ⟨fails, e', rfl⟩⟩
  · rw [handled] at agrees
    cases result with
    | error e => exact absurd agrees id
    | ok ended =>
        obtain ⟨pipe', reader'⟩ := ended
        obtain ⟨rfl, _⟩ := agrees
        refine ⟨_, rfl, Or.inr ⟨fine, ⟨_, rfl⟩, ?_⟩⟩
        simp [colonCallsMade, streamCalls, fresh]

-----------------------------------------------------------------------------------------
-- The data lines of gpgsm
-----------------------------------------------------------------------------------------

section Assuan

variable {fnc : List (Option Str) → GpgError}

/-- The colon handler is installed, and an answer other than an error means that it has accepted
every call.
-/
structure Reports (fnc : List (Option Str) → GpgError) (err : GpgError) (engine : AssuanEngine)
    : Prop where
  installed : engine.colonFnc = some fnc
  accepted : err = 0 → NoError fnc engine.colonCalls

theorem Reports.sameColon {before after : AssuanEngine} {err : GpgError}
    (reports : Reports fnc 0 before) (same : before.SameColon after)
    : Reports fnc err after := by
  refine ⟨same.colonFnc.trans reports.installed, fun _ => ?_⟩
  rw [same.colonCalls]
  exact reports.accepted rfl

theorem Reports.callColon {engine : AssuanEngine} (reports : Reports fnc 0 engine)
    (line : Option Str)
    : Reports fnc (engine.callColon line).1 (engine.callColon line).2 := by
  unfold AssuanEngine.callColon
  rw [reports.installed]
  exact ⟨rfl, fun fine => noError_concat.mpr ⟨reports.accepted rfl, fine⟩⟩

theorem Reports.putByte {engine : AssuanEngine} (reports : Reports fnc 0 engine) (c : UInt8)
    : Reports fnc (engine.putByte c).1 (engine.putByte c).2 := by
  unfold AssuanEngine.putByte
  split
  · have marked : Reports fnc 0 { engine with colonAny := true } :=
      reports.sameColon ⟨rfl, rfl, rfl, rfl⟩
    have called := marked.callColon (some (cstring (withoutReturn engine.attic)))
    dsimp only
    split
    · next fine => exact ⟨called.installed, fun _ => called.accepted fine⟩
    · exact ⟨called.installed, called.accepted⟩
  · exact ⟨reports.installed, reports.accepted⟩

theorem Reports.putBytes {engine : AssuanEngine} (reports : Reports fnc 0 engine) (bytes : Str)
    : Reports fnc (engine.putBytes bytes).1 (engine.putBytes bytes).2 := by
  induction bytes generalizing engine with
  | nil => exact reports
  | cons c rest ih =>
      have put := reports.putByte c
      unfold AssuanEngine.putBytes
      dsimp only
      split
      · next fine =>
          rw [fine] at put
          exact ih put
      · exact put

theorem Reports.handleLine {engine : AssuanEngine} (reports : Reports fnc 0 engine)
    (unsignedCode : Bool) (line : ServerLine)
    : Reports fnc (engine.handleLine unsignedCode line).1
        (engine.handleLine unsignedCode line).2 := by
  rcases engine.handleLine_cases unsignedCode line with same | ⟨payload, data⟩ | ⟨next, same, ended⟩
  · exact reports.sameColon same
  · rw [data, AssuanEngine.handleData_installed reports.installed]
    have noted : Reports fnc 0 { engine with dataLines := engine.dataLines ++ [payload] } :=
      ⟨reports.installed, reports.accepted⟩
    exact noted.putBytes (unescape payload)
  · rw [ended]
    have before : Reports fnc 0 next := reports.sameColon same
    have called := before.callColon none
    exact ⟨called.installed, called.accepted⟩

theorem operate_reports (unsignedCode : Bool) (engine : AssuanEngine) (op : AssuanOperation)
    : Reports op.colonFnc (engine.operate unsignedCode op).1
        (engine.operate unsignedCode op).2 := by
  refine AssuanEngine.operate_induct ⟨rfl, fun _ => noError_nil op.colonFnc⟩ ?_
  intro engine line _ reports
  exact reports.handleLine unsignedCode line

end Assuan

-----------------------------------------------------------------------------------------
-- Both engines
-----------------------------------------------------------------------------------------

/-- The engine for gpgsm returns an error whenever the colon handler does. The one for gpg does
so exactly when the handler accepts all calls for the stream, or the preprocess function fails.
-/
theorem colon_errors_returned_iff (fnc : List (Option Str) → GpgError) {pipe : ColonPipe}
    {reader : Reader} {chunks : List Chunk} (fresh : pipe.lines = []) (start : reader.Holds [])
    (fits : FitsAll ColonPipe.readColonLine pipe reader chunks)
    : (∃ result,
        pipe.readStream reader chunks = some result
        ∧ ((¬ NoError fnc (colonCallsMade result) → ∃ e, result = .error e)
          ↔ NoError fnc (streamCalls pipe.preprocessFnc (stream chunks))
            ∨ ∃ line ∈ Lines.complete [] (stream chunks),
                PreprocessFails pipe.preprocessFnc (cstring line)))
      ∧ ∀ unsignedCode engine op,
          ¬ NoError op.colonFnc (AssuanEngine.operate unsignedCode engine op).2.colonCalls
          → (AssuanEngine.operate unsignedCode engine op).1 ≠ 0 := by
  constructor
  · obtain ⟨result, ran, outcome⟩ := ColonPipe.readStream_calls start fits fresh
    refine ⟨result, ran, ?_⟩
    rcases outcome with ⟨fails, failed⟩ | ⟨fine, ⟨ended, rfl⟩, calls⟩
    · exact iff_of_true (fun _ => failed) (Or.inr fails)
    · rw [calls]
      constructor
      · intro returned
        refine Or.inl (by_contra fun refused => ?_)
        obtain ⟨e, failed⟩ := returned refused
        cases failed
      · rintro (accepted | ⟨line, member, fails⟩) refused
        · exact absurd accepted refused
        · exact absurd fails (fine line member)
  · intro unsignedCode engine op refused fine
    exact refused ((operate_reports unsignedCode engine op).accepted fine)

/-- A handler that refuses every call. -/
def refusing (_ : List (Option Str)) : GpgError := 1

/-- A stream without a line, whose end the handler accepts. -/
theorem colon_errors_returned_empty
    : ∃ result,
        ColonPipe.readStream { writes := fun _ => [] } newReader (readsOf [str "x"])
          = some result
        ∧ (¬ NoError (fun _ => 0) (colonCallsMade result) → ∃ e, result = .error e) := by
  have fits : FitsAll ColonPipe.readColonLine { writes := fun _ => [] } newReader
      (readsOf [str "x"]) :=
    fitsAll_of_short ColonPipe.readColonLine_read colonLineHandler_handles newReader_holds
      (by decide)
  obtain ⟨⟨result, ran, returned⟩, _⟩ :=
    colon_errors_returned_iff (fun _ => 0) rfl newReader_holds fits
  exact ⟨result, ran, returned.mpr (Or.inl fun _ _ _ => rfl)⟩

/-- The handler refuses a line that comes from gpg, and nothing is returned. -/
theorem colon_error_dropped
    : ∃ ended,
        ColonPipe.readStream { writes := fun _ => [] } newReader (readsOf [str "a:\n"])
          = some (.ok ended)
        ∧ ¬ NoError refusing (colonCallsMade (.ok ended)) := by
  have fits : FitsAll ColonPipe.readColonLine { writes := fun _ => [] } newReader
      (readsOf [str "a:\n"]) :=
    fitsAll_of_short ColonPipe.readColonLine_read colonLineHandler_handles newReader_holds
      (by decide)
  obtain ⟨result, ran, outcome⟩ := ColonPipe.readStream_calls newReader_holds fits rfl
  rcases outcome with ⟨⟨_, _, _, _, function, _, absent, _⟩, _⟩ | ⟨_, ⟨ended, rfl⟩, calls⟩
  · cases absent
  · refine ⟨ended, ran, fun accepted => ?_⟩
    have made : streamCalls none (stream (readsOf [str "a:\n"]))
        = [some (str "a:")] ++ [none] := by decide
    rw [calls, made] at accepted
    have answer := accepted [] (some (str "a:")) (List.prefix_append _ _)
    cases answer

end Gpgme
