import Gpgme.ColonErrors

/-! The monitor of the status lines may refuse a line with an error. `read_status` of
`engine-gpg.c` and `status_handler` of `engine-gpgsm.c` call it in front of the status handler.
-/

namespace Gpgme

open CString LineBuffer

/-- A monitor has been called between two records of its calls, and it has answered with an
error.
-/
def MonitorVetoes (monCb : Option (List (Str × Str) → GpgError)) (before after : List (Str × Str))
    : Prop :=
  ∃ answer call, monCb = some answer ∧ after = before ++ [call] ∧ answer after ≠ 0

theorem not_monitorVetoes_same (monCb : Option (List (Str × Str) → GpgError))
    (calls : List (Str × Str))
    : ¬ MonitorVetoes monCb calls calls := by
  rintro ⟨_, call, _, same, _⟩
  simpa using congrArg List.length same

-----------------------------------------------------------------------------------------
-- The engine for gpg
-----------------------------------------------------------------------------------------

namespace StatusPipe

/-- The pipe as a line leaves it. -/
def afterLine : Except (GpgError × StatusPipe) StatusPipe → StatusPipe
  | .error (_, pipe) => pipe
  | .ok pipe => pipe

/-- The pipe as a call of `read_status` leaves it. -/
def afterRead : Except (GpgError × StatusPipe) (StatusPipe × Reader) → StatusPipe
  | .error (_, pipe) => pipe
  | .ok (pipe, _) => pipe

/-- The call returns an error, and it has not called the status handler since it was in the
given state.
-/
def Refused (now : StatusPipe) (result : Except (GpgError × StatusPipe) (StatusPipe × Reader))
    : Prop :=
  ∃ err final, result = .error (err, final) ∧ err ≠ 0 ∧ final.calls = now.calls

/-- A call of `read_status` honours a veto for a line that it completes: `now` is the state in
which the line is taken up.
-/
def HonoursLines (unsignedCode : Bool) (pipe : StatusPipe) (reader : Reader) (chunk : Chunk)
    : Prop :=
  ∀ front line rest now,
    Lines.complete (reader.buffer.take reader.readpos) chunk.bytes = front ++ line :: rest
    → front.foldlM (fun pipe line => pipe.handleText unsignedCode (lineString line)) pipe = .ok now
    → MonitorVetoes now.monCb now.monCalls
        (afterLine (now.handleText unsignedCode (lineString line))).monCalls
    → ∃ result, pipe.readStatus unsignedCode reader chunk = some result ∧ now.Refused result

/-- A call of `read_status` honours a veto for the end of file. -/
def HonoursEnd (unsignedCode : Bool) (pipe : StatusPipe) (reader : Reader) (chunk : Chunk)
    : Prop :=
  ∀ result,
    chunk.bytes = []
    → pipe.readStatus unsignedCode reader chunk = some result
    → MonitorVetoes pipe.monCb pipe.monCalls (afterRead result).monCalls
    → pipe.Refused result

/-- Every call of `read_status` that a stream leads to honours the vetoes. -/
def HonoursVetoes (unsignedCode : Bool) (pipe : StatusPipe) (reader : Reader)
    (chunks : List Chunk)
    : Prop :=
  ∀ earlier chunk later now reader',
    chunks = earlier ++ chunk :: later
    → readAll (StatusPipe.readStatus unsignedCode) pipe reader earlier = some (.ok (now, reader'))
    → HonoursLines unsignedCode now reader' chunk ∧ HonoursEnd unsignedCode now reader' chunk

/-- The monitor answers the call for the end of file with an error. -/
def VetoesEnd (pipe : StatusPipe) : Prop :=
  ∃ answer, pipe.monCb = some answer ∧ answer (pipe.monCalls ++ [([], [])]) ≠ 0

theorem callFnc_monCalls (pipe : StatusPipe) (code : Option StatusCode) (args : Str)
    : (afterLine (pipe.callFnc code args)).monCalls = pipe.monCalls := by
  unfold callFnc
  dsimp only
  split <;> rfl

theorem dispatch_monCalls (unsignedCode : Bool) (pipe : StatusPipe) (keyword args : Str)
    : (afterLine (pipe.dispatch unsignedCode keyword args)).monCalls = pipe.monCalls := by
  unfold dispatch
  split
  · split
    · exact callFnc_monCalls pipe none args
    · rfl
  · split
    · rfl
    · exact callFnc_monCalls pipe _ args

theorem callMonitor_calls (pipe : StatusPipe) (keyword args : Str)
    : (pipe.callMonitor keyword args).2.calls = pipe.calls := by
  obtain ⟨monCalls, asked⟩ := pipe.callMonitor_frame keyword args
  rw [asked]

theorem callMonitor_of_vetoes {pipe : StatusPipe} {keyword args : Str}
    (vetoes
      : MonitorVetoes pipe.monCb pipe.monCalls (pipe.callMonitor keyword args).2.monCalls)
    : (pipe.callMonitor keyword args).1 ≠ 0 := by
  unfold callMonitor at vetoes ⊢
  cases installed : pipe.monCb with
  | none =>
      rw [installed] at vetoes
      exact absurd vetoes (not_monitorVetoes_same none pipe.monCalls)
  | some answer =>
      rw [installed] at vetoes
      obtain ⟨answer', _, same, _, refused⟩ := vetoes
      cases same
      exact refused

theorem handleText_vetoed {unsignedCode : Bool} {pipe : StatusPipe} {text : Str}
    (vetoes
      : MonitorVetoes pipe.monCb pipe.monCalls
          (afterLine (pipe.handleText unsignedCode text)).monCalls)
    : ∃ err next,
        pipe.handleText unsignedCode text = .error (err, next)
        ∧ err ≠ 0
        ∧ next.calls = pipe.calls := by
  have silent := not_monitorVetoes_same pipe.monCb pipe.monCalls
  unfold handleText at vetoes ⊢
  split at vetoes
  · exact absurd vetoes silent
  · next keyword args _ =>
      split at vetoes
      · rw [dispatch_monCalls] at vetoes
        exact absurd vetoes silent
      · next noProgress =>
          have refused : (pipe.callMonitor keyword args).1 ≠ 0 := by
            refine callMonitor_of_vetoes ?_
            dsimp only at vetoes
            split at vetoes
            · exact vetoes
            · rwa [dispatch_monCalls] at vetoes
          refine ⟨(pipe.callMonitor keyword args).1, (pipe.callMonitor keyword args).2, ?_,
            refused, pipe.callMonitor_calls keyword args⟩
          dsimp only
          rw [if_neg noProgress, if_pos refused]

theorem honoursLines (unsignedCode : Bool) {pipe : StatusPipe} {reader : Reader} {chunk : Chunk}
    (within : reader.readpos ≤ reader.buffer.length)
    (nonempty : chunk.bytes ≠ [])
    (fits : chunk.bytes.length ≤ reader.room)
    : HonoursLines unsignedCode pipe reader chunk := by
  intro front line rest now lines reached vetoes
  obtain ⟨err, next, handled, refused, calls⟩ := handleText_vetoed vetoes
  obtain ⟨result, ran, agrees⟩ :=
    read_agrees (statusLineHandler_handles unsignedCode) (s := pipe) ⟨within, rfl⟩ fits
  have stops : (front ++ line :: rest).foldlM
        (fun pipe line => pipe.handleText unsignedCode (lineString line)) pipe
      = .error (err, next) := by
    rw [List.foldlM_append, reached]
    simp only [bind, Except.bind, List.foldlM_cons, handled]
  rw [lines, stops] at agrees
  have same : result = .error (err, next) := by
    cases result with
    | error e => exact congrArg Except.error agrees
    | ok ended => exact agrees.elim
  refine ⟨result, ?_, err, next, same, refused, calls⟩
  unfold readStatus
  rw [if_neg nonempty]
  exact ran

theorem readStatus_end (unsignedCode : Bool) (pipe : StatusPipe) (reader : Reader)
    {chunk : Chunk} (empty : chunk.bytes = [])
    : ∃ result,
        pipe.readStatus unsignedCode reader chunk = some result
        ∧ (afterRead result).monCalls
          = (StatusPipe.callMonitor { pipe with eof := true } [] []).2.monCalls
        ∧ (afterRead result).calls = pipe.calls ++ [(some .eof, [])] := by
  have calls := callMonitor_calls { pipe with eof := true } [] []
  unfold readStatus
  rw [if_pos empty]
  dsimp only
  generalize (StatusPipe.callMonitor { pipe with eof := true } [] []).2 = asked at calls ⊢
  unfold callFnc
  dsimp only
  split
  · next failed =>
      split at failed <;> cases failed
      exact ⟨_, rfl, rfl, by rw [← calls]; rfl⟩
  · next answered =>
      split at answered <;> cases answered
      exact ⟨_, rfl, rfl, by rw [← calls]; rfl⟩

theorem honoursEnd_iff (unsignedCode : Bool) (pipe : StatusPipe) (reader : Reader)
    {chunk : Chunk} (empty : chunk.bytes = [])
    : HonoursEnd unsignedCode pipe reader chunk ↔ ¬ pipe.VetoesEnd := by
  obtain ⟨result, ran, monCalls, calls⟩ := readStatus_end unsignedCode pipe reader empty
  constructor
  · rintro honours ⟨answer, installed, refused⟩
    have asked : (afterRead result).monCalls = pipe.monCalls ++ [([], [])] := by
      simp only [monCalls, callMonitor, installed]
    obtain ⟨err, final, same, _, unseen⟩ := honours result empty ran
      ⟨answer, ([], []), installed, asked, by rwa [asked]⟩
    rw [same] at calls
    have longer : final.calls = pipe.calls ++ [(some .eof, [])] := calls
    rw [unseen] at longer
    simpa using congrArg List.length longer
  · intro willing other _ ran' vetoes
    rw [ran] at ran'
    cases ran'
    rw [monCalls] at vetoes
    refine absurd ?_ willing
    unfold callMonitor at vetoes
    cases installed : pipe.monCb with
    | none =>
        simp only [installed] at vetoes
        exact absurd vetoes (not_monitorVetoes_same none pipe.monCalls)
    | some answer =>
        simp only [installed] at vetoes
        obtain ⟨answer', _, same, _, refused⟩ := vetoes
        cases same
        exact ⟨answer, installed, refused⟩

theorem honoursEnd_of_bytes (unsignedCode : Bool) (pipe : StatusPipe) (reader : Reader)
    {chunk : Chunk} (nonempty : chunk.bytes ≠ [])
    : HonoursEnd unsignedCode pipe reader chunk :=
  fun _ empty => absurd empty nonempty

end StatusPipe

-----------------------------------------------------------------------------------------
-- The engine for gpgsm
-----------------------------------------------------------------------------------------

namespace AssuanEngine

/-- A call of `status_handler` honours the vetoes for its lines: `now` is the engine when the
line is taken up.
-/
def HonoursVetoes (unsignedCode : Bool) (engine : AssuanEngine) (lines : List ServerLine) : Prop :=
  ∀ front line rest now,
    lines = front ++ line :: rest
    → engine.statusHandler unsignedCode front = (0, now)
    → now.statusClosed = false
    → MonitorVetoes now.monCb now.monCalls (now.handleLine unsignedCode line).2.monCalls
    → (engine.statusHandler unsignedCode lines).1 ≠ 0
      ∧ (engine.statusHandler unsignedCode lines).2.statusCalls = now.statusCalls

/-- The calls of the other handlers leave alone what belongs to the monitor. -/
structure SameMonitor (before after : AssuanEngine) : Prop where
  monCb : after.monCb = before.monCb
  monCalls : after.monCalls = before.monCalls

theorem callColon_sameMonitor (engine : AssuanEngine) (line : Option Str)
    : engine.SameMonitor (engine.callColon line).2 := by
  unfold callColon
  split <;> exact ⟨rfl, rfl⟩

theorem callStatus_sameMonitor (engine : AssuanEngine) (code : Option StatusCode) (args : Str)
    : engine.SameMonitor (engine.callStatus code args).2 := by
  unfold callStatus
  split <;> exact ⟨rfl, rfl⟩

theorem SameMonitor.trans {first second third : AssuanEngine} (left : first.SameMonitor second)
    (right : second.SameMonitor third)
    : first.SameMonitor third :=
  ⟨right.monCb.trans left.monCb, right.monCalls.trans left.monCalls⟩

theorem putByte_sameMonitor (engine : AssuanEngine) (c : UInt8)
    : engine.SameMonitor (engine.putByte c).2 := by
  have called := callColon_sameMonitor { engine with colonAny := true }
    (some (cstring (withoutReturn engine.attic)))
  unfold putByte
  split
  · dsimp only
    split <;> exact ⟨called.monCb, called.monCalls⟩
  · exact ⟨rfl, rfl⟩

theorem putBytes_sameMonitor (engine : AssuanEngine) (bytes : Str)
    : engine.SameMonitor (engine.putBytes bytes).2 := by
  induction bytes generalizing engine with
  | nil => exact ⟨rfl, rfl⟩
  | cons c rest ih =>
      have first := engine.putByte_sameMonitor c
      unfold putBytes
      dsimp only
      split
      · exact first.trans (ih _)
      · exact first

theorem handleData_sameMonitor (engine : AssuanEngine) (payload : Str)
    : engine.SameMonitor (engine.handleData payload).2 := by
  unfold handleData
  split
  · have put := putBytes_sameMonitor { engine with dataLines := engine.dataLines ++ [payload] }
      (unescape payload)
    exact ⟨put.monCb, put.monCalls⟩
  · exact ⟨rfl, rfl⟩
  · exact ⟨rfl, rfl⟩

theorem handleOk_sameMonitor (engine : AssuanEngine) : engine.SameMonitor engine.handleOk.2 := by
  have answered := engine.callStatus_sameMonitor (some .eof) []
  unfold handleOk
  dsimp only
  split
  · have told := callColon_sameMonitor
      { (engine.callStatus (some .eof) []).2 with colonAny := false } none
    exact ⟨told.monCb.trans answered.monCb, told.monCalls.trans answered.monCalls⟩
  · exact ⟨answered.monCb, answered.monCalls⟩

theorem handleLine_monitor (unsignedCode : Bool) (engine : AssuanEngine) (line : ServerLine)
    : engine.SameMonitor (engine.handleLine unsignedCode line).2
      ∨ ∃ text,
          engine.handleLine unsignedCode line = engine.handleStatus unsignedCode text := by
  unfold handleLine
  cases line with
  | failed err => exact Or.inl ⟨rfl, rfl⟩
  | text line =>
      dsimp only
      split
      · exact Or.inl ⟨rfl, rfl⟩
      split
      · exact Or.inl engine.handleOk_sameMonitor
      split
      · exact Or.inl (engine.handleData_sameMonitor _)
      split
      · exact Or.inr ⟨_, rfl⟩
      · exact Or.inl ⟨rfl, rfl⟩

theorem callMonitor_statusCalls (engine : AssuanEngine) (keyword args : Str)
    : (engine.callMonitor keyword args).2.statusCalls = engine.statusCalls := by
  unfold callMonitor
  split
  · rfl
  · split <;> rfl

theorem callMonitor_of_vetoes {engine : AssuanEngine} {keyword args : Str}
    (vetoes
      : MonitorVetoes engine.monCb engine.monCalls (engine.callMonitor keyword args).2.monCalls)
    : (engine.callMonitor keyword args).1 ≠ 0 := by
  have silent := not_monitorVetoes_same engine.monCb engine.monCalls
  unfold callMonitor at vetoes ⊢
  split at vetoes
  · exact absurd vetoes silent
  · next answer installed =>
      split at vetoes
      · exact absurd vetoes silent
      · next noProgress =>
          obtain ⟨answer', _, same, _, refused⟩ := vetoes
          rw [installed] at same
          cases same
          rwa [if_neg noProgress]

theorem handleLine_vetoed {unsignedCode : Bool} {engine : AssuanEngine} {line : ServerLine}
    (vetoes
      : MonitorVetoes engine.monCb engine.monCalls
          (engine.handleLine unsignedCode line).2.monCalls)
    : (engine.handleLine unsignedCode line).1 ≠ 0
      ∧ (engine.handleLine unsignedCode line).2.statusCalls = engine.statusCalls := by
  rcases engine.handleLine_monitor unsignedCode line with same | ⟨text, handled⟩
  · rw [same.monCalls] at vetoes
    exact absurd vetoes (not_monitorVetoes_same engine.monCb engine.monCalls)
  · rw [handled] at vetoes ⊢
    have asked : (engine.handleStatus unsignedCode text).2.monCalls
        = (engine.callMonitor (word text) (skipWord text).tail).2.monCalls := by
      unfold handleStatus
      dsimp only
      split
      · rfl
      · split
        · exact (callStatus_sameMonitor _ _ _).monCalls
        · split
          · exact (callStatus_sameMonitor _ _ _).monCalls
          · rfl
    rw [asked] at vetoes
    have refused := callMonitor_of_vetoes vetoes
    unfold handleStatus
    dsimp only
    rw [if_pos refused]
    exact ⟨refused, engine.callMonitor_statusCalls _ _⟩

theorem statusHandler_append {unsignedCode : Bool} {engine now : AssuanEngine}
    {front : List ServerLine} (rest : List ServerLine)
    (reached : engine.statusHandler unsignedCode front = (0, now))
    (running : now.statusClosed = false)
    : engine.statusHandler unsignedCode (front ++ rest) = now.statusHandler unsignedCode rest := by
  induction front generalizing engine with
  | nil =>
      cases reached
      rfl
  | cons line front ih =>
      simp only [List.cons_append, statusHandler] at reached ⊢
      split at reached
      · next stops =>
          have answer : (engine.handleLine unsignedCode line).1 = 0 := congrArg Prod.fst reached
          have left : (engine.handleLine unsignedCode line).2 = now := congrArg Prod.snd reached
          rw [answer, left, running] at stops
          simp at stops
      · next goes =>
          rw [if_neg goes]
          exact ih reached

theorem honoursVetoes (unsignedCode : Bool) (engine : AssuanEngine) (lines : List ServerLine)
    : HonoursVetoes unsignedCode engine lines := by
  intro front line rest now split reached running vetoes
  obtain ⟨refused, calls⟩ := handleLine_vetoed vetoes
  rw [split, statusHandler_append (line :: rest) reached running]
  unfold statusHandler
  dsimp only
  rw [if_pos (Or.inl refused)]
  exact ⟨refused, calls⟩

end AssuanEngine

-----------------------------------------------------------------------------------------
-- Both engines
-----------------------------------------------------------------------------------------

theorem StatusPipe.readAll_within {unsignedCode : Bool} {pipe now : StatusPipe}
    {reader reader' : Reader} {chunks : List Chunk}
    (within : reader.readpos ≤ reader.buffer.length)
    (fits : FitsAll (StatusPipe.readStatus unsignedCode) pipe reader chunks)
    (ran
      : readAll (StatusPipe.readStatus unsignedCode) pipe reader chunks
        = some (.ok (now, reader')))
    : reader'.readpos ≤ reader'.buffer.length := by
  obtain ⟨result, ran', agrees⟩ :=
    readAll_agrees (StatusPipe.readStatus_read unsignedCode)
      (statusLineHandler_handles unsignedCode) ⟨within, rfl⟩ fits
  rw [ran] at ran'
  cases ran'
  cases acted : (Lines.complete (reader.buffer.take reader.readpos) (stream chunks)).foldlM
      (fun pipe line => pipe.handleText unsignedCode (lineString line)) pipe with
  | error e =>
      rw [acted] at agrees
      exact agrees.elim
  | ok next =>
      rw [acted] at agrees
      exact agrees.2.1

theorem fitsAll_append {σ ε : Type} {step : σ → Reader → Chunk → Option (Except ε (σ × Reader))}
    {s s' : σ} {reader reader' : Reader} {earlier later : List Chunk}
    (fits : FitsAll step s reader (earlier ++ later))
    (ran : readAll step s reader earlier = some (.ok (s', reader')))
    : FitsAll step s reader earlier ∧ FitsAll step s' reader' later := by
  induction earlier generalizing s reader with
  | nil =>
      cases ran
      exact ⟨trivial, fits⟩
  | cons chunk rest ih =>
      obtain ⟨nonempty, room, fits⟩ := fits
      simp only [readAll] at ran
      cases stepped : step s reader chunk with
      | none =>
          rw [stepped] at ran
          cases ran
      | some result =>
          rw [stepped] at ran
          cases result with
          | error e => cases ran
          | ok ended =>
              obtain ⟨first, last⟩ := ih (fits _ _ stepped) ran
              refine ⟨⟨nonempty, room, ?_⟩, last⟩
              intro s₁ reader₁ stepped'
              rw [stepped] at stepped'
              cases stepped'
              exact first

/-- The vetoes of a monitor are honoured for every line. With gpg the one for the end of the
stream is lost.
-/
theorem monitor_vetoes_honoured_iff (unsignedCode : Bool) {pipe : StatusPipe} {reader : Reader}
    {chunks : List Chunk} (within : reader.readpos ≤ reader.buffer.length)
    (fits : FitsAll (StatusPipe.readStatus unsignedCode) pipe reader chunks)
    : (pipe.HonoursVetoes unsignedCode reader (chunks ++ [endOfFile])
        ↔ ∀ now reader',
            readAll (StatusPipe.readStatus unsignedCode) pipe reader chunks
              = some (.ok (now, reader'))
            → ¬ now.VetoesEnd)
      ∧ ∀ (engine : AssuanEngine) (lines : List ServerLine),
          engine.HonoursVetoes unsignedCode lines := by
  refine ⟨?_, AssuanEngine.honoursVetoes unsignedCode⟩
  constructor
  · intro honours now reader' ran
    have atEnd := (honours chunks endOfFile [] now reader' rfl ran).2
    exact (StatusPipe.honoursEnd_iff unsignedCode now reader' rfl).mp atEnd
  · intro willing earlier chunk later now reader' split ran
    rcases List.eq_nil_or_concat later with rfl | ⟨later, last, rfl⟩
    · -- The call is the one for the end of file, which completes no line.
      obtain ⟨rfl, same⟩ := List.append_inj' split rfl
      cases same
      refine ⟨?_, (StatusPipe.honoursEnd_iff unsignedCode now reader' rfl).mpr
        (willing now reader' ran)⟩
      intro front line rest _ lines
      simp [endOfFile, Lines.complete] at lines
    · rw [List.concat_eq_append, ← List.cons_append, ← List.append_assoc] at split
      obtain ⟨rfl, _⟩ := List.append_inj' split rfl
      obtain ⟨before, nonempty, room, _⟩ := fitsAll_append fits ran
      exact ⟨StatusPipe.honoursLines unsignedCode
          (StatusPipe.readAll_within within before ran) nonempty room,
        StatusPipe.honoursEnd_of_bytes unsignedCode now reader' nonempty⟩

/-- A monitor that refuses the end of the stream. -/
def endRefused (calls : List (Str × Str)) : GpgError :=
  if calls.getLast? = some ([], []) then 1 else 0

/-- A status pipe with that monitor. -/
def endRefusedPipe : StatusPipe :=
  { fnc := fun _ => 0, writes := fun _ => [], monCb := some endRefused }

/-- One status line. -/
def oneStatusLine : Chunk :=
  { bytes := str "[GNUPG:] KEY_CONSIDERED\n", fresh := fun _ => 0 }

/-- A monitor that refuses every line, but not the end of the stream. -/
def lineRefused (calls : List (Str × Str)) : GpgError :=
  if calls.getLast? = some ([], []) then 0 else 1

def lineRefusedPipe : StatusPipe :=
  { fnc := fun _ => 0, writes := fun _ => [], monCb := some lineRefused }

theorem monitor_vetoes_honoured_line
    : lineRefusedPipe.HonoursVetoes false { buffer := [], readpos := 0 }
        ([oneStatusLine] ++ [endOfFile]) := by
  have fits : FitsAll (StatusPipe.readStatus false) lineRefusedPipe
      { buffer := [], readpos := 0 } [oneStatusLine] :=
    ⟨by decide, by decide, fun _ _ _ => trivial⟩
  refine (monitor_vetoes_honoured_iff false (Nat.le_refl 0) fits).1.mpr ?_
  rintro now reader ran -
  have vetoed : (readAll (StatusPipe.readStatus false) lineRefusedPipe
      { buffer := [], readpos := 0 } [oneStatusLine]).map (fun result => result.isOk)
        = some false := by
    decide +kernel
  rw [ran] at vetoed
  cases vetoed

/-- The monitor refuses the end of the stream, and the status handler is called for it. -/
theorem monitor_veto_lost_at_end
    : ¬ endRefusedPipe.HonoursVetoes false { buffer := [], readpos := 0 } [endOfFile] := by
  intro honours
  have atEnd := (honours [] endOfFile [] endRefusedPipe { buffer := [], readpos := 0 } rfl rfl).2
  refine (StatusPipe.honoursEnd_iff false endRefusedPipe { buffer := [], readpos := 0 } rfl).mp
    atEnd ⟨endRefused, rfl, ?_⟩
  decide

end Gpgme
