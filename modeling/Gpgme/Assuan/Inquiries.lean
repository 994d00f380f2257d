import Gpgme.Assuan.SimpleCommand

/-! Inquiries of an Assuan server and its error lines. The status handlers of `engine-gpgsm.c`,
`engine-uiserver.c`, `engine-g13.c` and `engine-assuan.c` each have their own dispatcher for the
lines of the server. The handlers of the last two return command errors apart from other errors,
because their protocol is session based.
-/

namespace Gpgme

open CString ReplyLoop

namespace ErrCode

def assCanceled : Nat := 277
def eagain : Nat := 32774

end ErrCode

/-- The reply to an inquiry that ends the data, also sent by
`assuan_send_data (ctx, NULL, 0)`.
-/
def replyEnd : Str := str "END"

/-- The reply to an inquiry that `assuan_send_data (ctx, NULL, 1)` sends. -/
def replyCancel : Str := str "CAN"

/-- An error of the engine and an error of the command, and what the handler leaves. -/
abbrev LineResult (σ : Type) := (GpgError × GpgError) × σ

/-- The condition of a loop: it goes on as long as there is no error. -/
def whileNoError {σ : Type} (err : GpgError) (s : σ) : Next σ (LineResult σ) :=
  if err = 0 then .goOn s else .stop ((err, 0), s)

-----------------------------------------------------------------------------------------
-- gpgsm and the UI server
-----------------------------------------------------------------------------------------

/-- The engine and the lines that it has sent. -/
structure AssuanPeer where
  engine : AssuanEngine
  sent : List Str := []

/-- A line that ends up with the branch for inquiries. Such a line is none of the others. -/
def ServerLine.inquires : ServerLine → Bool
  | .failed _ => false
  | .text line => isResponse (str "INQUIRE") line

/-- The body of the loop in `status_handler` of `engine-gpgsm.c`. The callback for inquiries
provides no data.
-/
def gpgsmStatusLine (unsignedCode : Bool) (peer : AssuanPeer) (line : ServerLine)
    : Next AssuanPeer (LineResult AssuanPeer) :=
  let (err, engine) := peer.engine.handleLine unsignedCode line
  let sent := if line.inquires then peer.sent ++ [replyEnd] else peer.sent
  if engine.statusClosed then .stop ((err, 0), { engine, sent })
  else whileNoError err { engine, sent }

/-- The body of the loop in `status_handler` of `engine-uiserver.c`, which has no monitor. -/
def uiserverStatusLine (unsignedCode : Bool) (peer : AssuanPeer) (line : ServerLine)
    : Next AssuanPeer (LineResult AssuanPeer) :=
  gpgsmStatusLine unsignedCode { peer with engine := { peer.engine with monCb := none } } line

-----------------------------------------------------------------------------------------
-- The callbacks of the user
-----------------------------------------------------------------------------------------

/-- A call of one of the user's callbacks. The data callback gets `none` at the end of the data;
the inquire callback is told to clean up by a call in finish mode.
-/
inductive UserCall where
  | data (bytes : Option Str)
  | status (keyword args : Str)
  | inquire (keyword args : Str)
  | finish

/-- The callbacks may answer depending on all their calls. That for inquiries answers with an
error and with whether it has returned a data object.
-/
structure UserCallbacks where
  dataCb : Option (List UserCall → GpgError) := none
  statusCb : Option (List UserCall → GpgError) := none
  inqCb : Option (List UserCall → GpgError × Bool) := none

/-- The part of a session based engine that its status handler uses. -/
structure UserSession where
  callbacks : UserCallbacks
  calls : List UserCall := []
  sent : List Str := []
  statusClosed : Bool := false
  lastOpErr : GpgError := 0

namespace UserSession

/-- Call one of the callbacks for data and status lines, if it is there. -/
def call (session : UserSession) (callback : Option (List UserCall → GpgError)) (made : UserCall)
    : GpgError × UserSession :=
  match callback with
  | none => (0, session)
  | some answer =>
      let calls := session.calls ++ [made]
      (answer calls, { session with calls })

/-- Call the inquire callback, if it is there. Returned data is not sent. -/
def inquire (session : UserSession) (keyword args : Str) : GpgError × UserSession :=
  match session.callbacks.inqCb with
  | none => (0, session)
  | some answer =>
      let calls := session.calls ++ [.inquire keyword args]
      let (err, returned) := answer calls
      if err = 0 ∧ returned then
        let calls := calls ++ [.finish]
        ((answer calls).1, { session with calls })
      else
        (err, { session with calls })

def send (session : UserSession) (reply : Str) : UserSession :=
  { session with sent := session.sent ++ [reply] }

/-- Reply to an inquiry as the answer of the callback says: the end of the data, or that the
inquiry is canceled. Other errors get no reply.
-/
def sendAnswer (session : UserSession) (err : GpgError) : GpgError × UserSession :=
  if err = 0 then (0, session.send replyEnd)
  else if gpgErrCode err = ErrCode.assCanceled then (0, session.send replyCancel)
  else (err, session)

end UserSession

/-- The keyword and the arguments behind some blanks. -/
def keywordAndArgs (text : Str) : Str × Str :=
  let src := skipBlanks text
  (word src, skipBlanks (skipWord src))

-----------------------------------------------------------------------------------------
-- g13
-----------------------------------------------------------------------------------------

/-- The keyword and the arguments of a status line in `engine-g13.c`. The first blank is looked
for from the start, so that leading blanks leave the keyword and the arguments the same.
-/
def g13StatusArgs (text : Str) : Str × Str :=
  if text.head? = some blank then (skipBlanks text, skipBlanks text)
  else (word text, skipBlanks (skipWord text))

/-- The body of the loop in `status_handler` of `engine-g13.c`. -/
def g13StatusLine (session : UserSession)
    : ServerLine → Next UserSession (LineResult UserSession)
  | .failed err => whileNoError err session
  | .text line =>
      if isResponse (str "ERR") line then .stop ((0, errorOfLine line), session)
      else if isResponse (str "OK") line then
        .stop ((0, 0), { session with statusClosed := true })
      else if 2 < line.length ∧ startsWith line (str "D ") then
        let bytes := unescape (line.drop 2)
        if bytes ≠ [] then
          let (err, session) := session.call session.callbacks.dataCb (.data (some bytes))
          whileNoError err session
        else
          .goOn session
      else if 2 < line.length ∧ startsWith line (str "S ") then
        let (keyword, args) := g13StatusArgs (cstring (line.drop 2))
        let (err, session) := session.call session.callbacks.statusCb (.status keyword args)
        whileNoError err session
      else if isResponse (str "INQUIRE") line then
        let (keyword, args) := keywordAndArgs (cstring (line.drop 7))
        let (err, session) := session.inquire keyword args
        let (err, session) := session.sendAnswer err
        whileNoError err (session.send replyEnd)
      else
        .goOn session

-----------------------------------------------------------------------------------------
-- The plain Assuan engine
-----------------------------------------------------------------------------------------

/-- The number behind `ERR` is taken as it is. -/
def llassErrorOfLine (text : Str) : GpgError :=
  if text[3]? = some blank then errorNumber text else gpgError ErrCode.general

/-- The body of the loop in `llass_status_handler` of `engine-assuan.c`. -/
def llassStatusLine (session : UserSession)
    : ServerLine → Next UserSession (LineResult UserSession)
  | .failed err =>
      if gpgErrCode err = ErrCode.eagain then .goOn session else whileNoError err session
  | .text line =>
      if startsWith line (str "D ") then
        let bytes := unescape (line.drop 2)
        if bytes ≠ [] then
          let (err, session) := session.call session.callbacks.dataCb (.data (some bytes))
          whileNoError err session
        else
          .goOn session
      else if isResponse (str "END") line then
        let (err, session) := session.call session.callbacks.dataCb (.data none)
        whileNoError err session
      else if 2 < line.length ∧ startsWith line (str "S ") then
        let (keyword, args) := keywordAndArgs (cstring (line.drop 2))
        let (err, session) := session.call session.callbacks.statusCb (.status keyword args)
        whileNoError err session
      else if isResponse (str "INQUIRE") line then
        let (keyword, args) := keywordAndArgs (cstring (line.drop 7))
        let (err, session) := session.inquire keyword args
        let (err, session) := session.sendAnswer err
        whileNoError err session
      else if isResponse (str "ERR") line then
        let err := llassErrorOfLine line
        .stop ((0, err), { session with lastOpErr := err })
      else if isResponse (str "OK") line then
        .stop ((0, 0), { session with lastOpErr := 0, statusClosed := true })
      else
        .goOn session

-----------------------------------------------------------------------------------------
-- What proper answers are
-----------------------------------------------------------------------------------------

section Properly

variable {σ : Type}

/-- A call of a status handler takes up a line in the state `now`. -/
def TakesUp (body : σ → ServerLine → Next σ (LineResult σ)) (s : σ)
    (lines : List ServerLine) (now : σ) (text : Str)
    : Prop :=
  ∃ front rest, lines = front ++ .text text :: rest ∧ through body s front = some now

/-- Every inquiry behind which a call of the status handler goes on reading has got one reply,
and every error line ends the call with an error.
-/
structure AnswersProperly (sent : σ → List Str)
    (body : σ → ServerLine → Next σ (LineResult σ)) (s : σ) (lines : List ServerLine)
    : Prop where
  inquiries
    : ∀ now text next,
        TakesUp body s lines now text
        → isResponse (str "INQUIRE") text = true
        → body now (.text text) = .goOn next
        → ∃ reply, (reply = replyEnd ∨ reply = replyCancel) ∧ sent next = sent now ++ [reply]
  errors
    : ∀ now text,
        TakesUp body s lines now text
        → isResponse (str "ERR") text = true
        → ∃ err opErr last,
            drain body s lines = .stop ((err, opErr), last) ∧ (err ≠ 0 ∨ opErr ≠ 0)

theorem TakesUp.stops {body : σ → ServerLine → Next σ (LineResult σ)} {s now : σ}
    {lines : List ServerLine} {text : Str} {result : LineResult σ}
    (taken : TakesUp body s lines now text)
    (stops : body now (.text text) = .stop result)
    : drain body s lines = .stop result := by
  obtain ⟨front, rest, rfl, passed⟩ := taken
  rw [drain_append_of_through passed, drain, stops]

end Properly

-----------------------------------------------------------------------------------------
-- Kinds of lines
-----------------------------------------------------------------------------------------

theorem not_isResponse_of_head {line keyword : Str} {c d : UInt8} (first : line.head? = some c)
    (other : c ≠ d)
    : isResponse (d :: keyword) line = false := by
  by_contra response
  rw [Bool.not_eq_false] at response
  have found := head_of_isResponse response
  rw [first] at found
  exact other (Option.some.inj found)

theorem not_startsWith_of_head {line start : Str} {c d : UInt8} (first : line.head? = some c)
    (other : c ≠ d)
    : startsWith line (d :: start) = false := by
  by_contra starts
  rw [Bool.not_eq_false] at starts
  have found := head_of_startsWith starts
  rw [first] at found
  exact other (Option.some.inj found)

theorem take_of_isResponse {text keyword : Str} (response : isResponse keyword text = true)
    : text.take keyword.length = keyword := by
  unfold isResponse startsWith at response
  exact beq_iff_eq.mp (Bool.and_eq_true_iff.mp response).1

theorem not_end_of_error {text : Str} (error : isResponse (str "ERR") text = true)
    : isResponse (str "END") text = false := by
  by_contra ends
  rw [Bool.not_eq_false] at ends
  have same : text.take 3 = str "END" := take_of_isResponse ends
  have other : text.take 3 = str "ERR" := take_of_isResponse error
  rw [other] at same
  revert same
  decide

theorem errorOfLine_ne_zero (text : Str) : errorOfLine text ≠ 0 := by
  unfold errorOfLine
  dsimp only
  generalize (if text[3]? = some blank then errOfInt (atoi (text.drop 4)) else 0) = err
  by_cases zero : err = 0
  · rw [if_pos zero]
    decide
  · rwa [if_neg zero]

theorem whileNoError_eq_goOn {σ : Type} {err : GpgError} {s next : σ}
    (goes : whileNoError err s = .goOn next)
    : err = 0 ∧ next = s := by
  unfold whileNoError at goes
  split at goes
  · next fine =>
      cases goes
      exact ⟨fine, rfl⟩
  · cases goes

-----------------------------------------------------------------------------------------
-- gpgsm and the UI server
-----------------------------------------------------------------------------------------

theorem handleLine_error {unsignedCode : Bool} {engine : AssuanEngine} {text : Str}
    (error : isResponse (str "ERR") text = true)
    : engine.handleLine unsignedCode (.text text) = (errorOfLine text, engine) := by
  unfold AssuanEngine.handleLine
  dsimp only
  rw [if_pos error]

theorem gpgsmStatusLine_error (unsignedCode : Bool) (peer : AssuanPeer) {text : Str}
    (error : isResponse (str "ERR") text = true)
    : ∃ last, gpgsmStatusLine unsignedCode peer (.text text)
        = .stop ((errorOfLine text, 0), last) := by
  unfold gpgsmStatusLine
  rw [handleLine_error error]
  dsimp only
  split
  · exact ⟨_, rfl⟩
  · unfold whileNoError
    rw [if_neg (errorOfLine_ne_zero text)]
    exact ⟨_, rfl⟩

theorem gpgsmStatusLine_inquiry {unsignedCode : Bool} (peer : AssuanPeer) {next : AssuanPeer}
    {text : Str}
    (inquires : isResponse (str "INQUIRE") text = true)
    (goes : gpgsmStatusLine unsignedCode peer (.text text) = .goOn next)
    : next.sent = peer.sent ++ [replyEnd] := by
  have inquiry : (ServerLine.text text).inquires = true := inquires
  unfold gpgsmStatusLine at goes
  dsimp only at goes
  rw [if_pos inquiry] at goes
  split at goes
  · cases goes
  · rw [(whileNoError_eq_goOn goes).2]

theorem gpgsm_answersProperly (unsignedCode : Bool) (peer : AssuanPeer) (lines : List ServerLine)
    : AnswersProperly AssuanPeer.sent (gpgsmStatusLine unsignedCode) peer lines where
  inquiries := fun _ _ _ _ inquires goes =>
    ⟨replyEnd, Or.inl rfl, gpgsmStatusLine_inquiry _ inquires goes⟩
  errors := by
    intro now text taken error
    obtain ⟨last, stops⟩ := gpgsmStatusLine_error unsignedCode now error
    exact ⟨_, _, last, taken.stops stops, Or.inl (errorOfLine_ne_zero text)⟩

theorem uiserver_answersProperly (unsignedCode : Bool) (peer : AssuanPeer)
    (lines : List ServerLine)
    : AnswersProperly AssuanPeer.sent (uiserverStatusLine unsignedCode) peer lines where
  inquiries := by
    intro now text next _ inquires goes
    have sent := gpgsmStatusLine_inquiry
      { now with engine := { now.engine with monCb := none } } inquires goes
    exact ⟨replyEnd, Or.inl rfl, sent⟩
  errors := by
    intro now text taken error
    obtain ⟨last, stops⟩ := gpgsmStatusLine_error unsignedCode
      { now with engine := { now.engine with monCb := none } } error
    exact ⟨_, _, last, taken.stops stops, Or.inl (errorOfLine_ne_zero text)⟩

-----------------------------------------------------------------------------------------
-- g13
-----------------------------------------------------------------------------------------

/-- The user's answer to the inquiry in a line. -/
def UserSession.answerTo (session : UserSession) (text : Str) : GpgError :=
  let (keyword, args) := keywordAndArgs (cstring (text.drop 7))
  (session.inquire keyword args).1

/-- The answer of the user lets the engine go on: there is a reply for it. -/
def HasReply (err : GpgError) : Prop := err = 0 ∨ gpgErrCode err = ErrCode.assCanceled

theorem UserSession.inquire_sent (session : UserSession) (keyword args : Str)
    : (session.inquire keyword args).2.sent = session.sent := by
  unfold inquire
  split
  · rfl
  · dsimp only
    split <;> rfl

theorem UserSession.sendAnswer_of_hasReply (session : UserSession) {err : GpgError}
    (reply : HasReply err)
    : ∃ line,
        (line = replyEnd ∨ line = replyCancel)
        ∧ session.sendAnswer err = (0, session.send line) := by
  unfold sendAnswer
  by_cases fine : err = 0
  · exact ⟨replyEnd, Or.inl rfl, if_pos fine⟩
  · rcases reply with zero | canceled
    · exact absurd zero fine
    · exact ⟨replyCancel, Or.inr rfl, by rw [if_neg fine, if_pos canceled]⟩

theorem UserSession.sendAnswer_of_not_hasReply (session : UserSession) {err : GpgError}
    (refused : ¬ HasReply err)
    : err ≠ 0 ∧ session.sendAnswer err = (err, session) := by
  unfold HasReply at refused
  push Not at refused
  unfold sendAnswer
  exact ⟨refused.1, by rw [if_neg refused.1, if_neg refused.2]⟩

theorem g13StatusLine_inquiry (session : UserSession) {text : Str}
    (inquires : isResponse (str "INQUIRE") text = true)
    : ∃ asked : UserSession,
        asked.sent = session.sent
        ∧ g13StatusLine session (.text text)
          = whileNoError (asked.sendAnswer (session.answerTo text)).1
              ((asked.sendAnswer (session.answerTo text)).2.send replyEnd) := by
  have first : text.head? = some 73 := head_of_isResponse inquires
  refine ⟨(session.inquire (keywordAndArgs (cstring (text.drop 7))).1
      (keywordAndArgs (cstring (text.drop 7))).2).2, session.inquire_sent _ _, ?_⟩
  have noError : isResponse (str "ERR") text = false := not_isResponse_of_head first (by decide)
  have noOk : isResponse (str "OK") text = false := not_isResponse_of_head first (by decide)
  have noData : startsWith text (str "D ") = false := not_startsWith_of_head first (by decide)
  have noStatus : startsWith text (str "S ") = false := not_startsWith_of_head first (by decide)
  unfold g13StatusLine UserSession.answerTo
  simp only [noError, noOk, noData, noStatus, inquires, Bool.false_eq_true, and_false, if_false,
    if_true]

theorem g13StatusLine_error (session : UserSession) {text : Str}
    (error : isResponse (str "ERR") text = true)
    : g13StatusLine session (.text text) = .stop ((0, errorOfLine text), session) := by
  unfold g13StatusLine
  dsimp only
  rw [if_pos error]

theorem g13_answersProperly_iff (session : UserSession) (lines : List ServerLine)
    : AnswersProperly UserSession.sent g13StatusLine session lines
      ↔ ∀ now text,
          TakesUp g13StatusLine session lines now text
          → isResponse (str "INQUIRE") text = true
          → ¬ HasReply (now.answerTo text) := by
  constructor
  · intro proper now text taken inquires reply
    obtain ⟨asked, same, handled⟩ := g13StatusLine_inquiry now inquires
    obtain ⟨line, _, answered⟩ := UserSession.sendAnswer_of_hasReply asked reply
    rw [answered] at handled
    obtain ⟨line', _, sent⟩ := proper.inquiries now text _ taken inquires handled
    have twice : ((asked.send line).send replyEnd).sent = now.sent ++ [line, replyEnd] := by
      simp [UserSession.send, same]
    rw [twice] at sent
    simpa using congrArg List.length sent
  · intro silent
    constructor
    · intro now text next taken inquires goes
      obtain ⟨asked, _, handled⟩ := g13StatusLine_inquiry now inquires
      obtain ⟨failed, answered⟩ :=
        UserSession.sendAnswer_of_not_hasReply asked (silent now text taken inquires)
      rw [handled, answered] at goes
      exact absurd (whileNoError_eq_goOn goes).1 failed
    · intro now text taken error
      exact ⟨_, _, _, taken.stops (g13StatusLine_error now error), Or.inr (errorOfLine_ne_zero text)⟩

-----------------------------------------------------------------------------------------
-- The plain Assuan engine
-----------------------------------------------------------------------------------------

theorem llassStatusLine_inquiry {session next : UserSession} {text : Str}
    (inquires : isResponse (str "INQUIRE") text = true)
    (goes : llassStatusLine session (.text text) = .goOn next)
    : ∃ reply,
        (reply = replyEnd ∨ reply = replyCancel) ∧ next.sent = session.sent ++ [reply] := by
  have first : text.head? = some 73 := head_of_isResponse inquires
  have noData : startsWith text (str "D ") = false := not_startsWith_of_head first (by decide)
  have noEnd : isResponse (str "END") text = false := not_isResponse_of_head first (by decide)
  have noStatus : startsWith text (str "S ") = false := not_startsWith_of_head first (by decide)
  unfold llassStatusLine at goes
  simp only [noData, noEnd, noStatus, inquires, Bool.false_eq_true, and_false, if_false,
    if_true] at goes
  have same := session.inquire_sent (keywordAndArgs (cstring (text.drop 7))).1
    (keywordAndArgs (cstring (text.drop 7))).2
  generalize session.inquire (keywordAndArgs (cstring (text.drop 7))).1
    (keywordAndArgs (cstring (text.drop 7))).2 = asked at same goes
  obtain ⟨fine, rfl⟩ := whileNoError_eq_goOn goes
  by_cases reply : HasReply asked.1
  · obtain ⟨line, kind, answered⟩ := UserSession.sendAnswer_of_hasReply asked.2 reply
    exact ⟨line, kind, by rw [answered, ← same]; rfl⟩
  · obtain ⟨failed, answered⟩ :=
      UserSession.sendAnswer_of_not_hasReply asked.2 reply
    rw [answered] at fine
    exact absurd fine failed

theorem llassStatusLine_error (session : UserSession) {text : Str}
    (error : isResponse (str "ERR") text = true)
    : ∃ last,
        llassStatusLine session (.text text) = .stop ((0, llassErrorOfLine text), last) := by
  have first : text.head? = some 69 := head_of_isResponse error
  have noData : startsWith text (str "D ") = false := not_startsWith_of_head first (by decide)
  have noStatus : startsWith text (str "S ") = false := not_startsWith_of_head first (by decide)
  have noInquiry : isResponse (str "INQUIRE") text = false :=
    not_isResponse_of_head first (by decide)
  unfold llassStatusLine
  simp only [noData, not_end_of_error error, noStatus, noInquiry, error, Bool.false_eq_true,
    and_false, if_false, if_true]
  exact ⟨_, rfl⟩

theorem llassErrorOfLine_eq_zero_iff (text : Str)
    : llassErrorOfLine text = 0 ↔ text[3]? = some blank ∧ atoi (text.drop 4) = 0 := by
  unfold llassErrorOfLine
  by_cases numbered : text[3]? = some blank
  · rw [if_pos numbered]
    refine ⟨fun zero => ⟨numbered, not_not.mp fun number => errorNumber_ne_zero number zero⟩, ?_⟩
    rintro ⟨_, number⟩
    unfold errorNumber
    rw [number]
    decide
  · rw [if_neg numbered]
    have general : gpgError ErrCode.general ≠ 0 := by decide
    exact ⟨fun zero => absurd zero general, fun ⟨number, _⟩ => absurd number numbered⟩

theorem llass_answersProperly_iff (session : UserSession) (lines : List ServerLine)
    : AnswersProperly UserSession.sent llassStatusLine session lines
      ↔ ∀ now text,
          TakesUp llassStatusLine session lines now text
          → isResponse (str "ERR") text = true
          → ¬ (text[3]? = some blank ∧ atoi (text.drop 4) = 0) := by
  constructor
  · intro proper now text taken error zero
    obtain ⟨last, stops⟩ := llassStatusLine_error now error
    obtain ⟨err, opErr, last', stops', failed⟩ := proper.errors now text taken error
    rw [taken.stops stops, (llassErrorOfLine_eq_zero_iff text).mpr zero] at stops'
    cases stops'
    simp at failed
  · intro numbered
    constructor
    · intro now text next _ inquires goes
      exact llassStatusLine_inquiry inquires goes
    · intro now text taken error
      obtain ⟨last, stops⟩ := llassStatusLine_error now error
      exact ⟨_, _, last, taken.stops stops,
        Or.inr (mt (llassErrorOfLine_eq_zero_iff text).mp (numbered now text taken error))⟩

/-- Inquiries and errors are answered properly: always by gpgsm and the UI server, by g13 as long
as no inquiry gets a reply, and by the plain Assuan engine as long as no error has the number 0.
-/
theorem inquiries_and_errors_answered_iff (unsignedCode : Bool)
    : (∀ peer lines,
        AnswersProperly AssuanPeer.sent (gpgsmStatusLine unsignedCode) peer lines
        ∧ AnswersProperly AssuanPeer.sent (uiserverStatusLine unsignedCode) peer lines)
      ∧ (∀ session lines,
          AnswersProperly UserSession.sent g13StatusLine session lines
          ↔ ∀ now text,
              TakesUp g13StatusLine session lines now text
              → isResponse (str "INQUIRE") text = true
              → ¬ HasReply (now.answerTo text))
      ∧ (∀ session lines,
          AnswersProperly UserSession.sent llassStatusLine session lines
          ↔ ∀ now text,
              TakesUp llassStatusLine session lines now text
              → isResponse (str "ERR") text = true
              → ¬ (text[3]? = some blank ∧ atoi (text.drop 4) = 0)) :=
  ⟨fun peer lines => ⟨gpgsm_answersProperly unsignedCode peer lines,
      uiserver_answersProperly unsignedCode peer lines⟩,
    g13_answersProperly_iff, llass_answersProperly_iff⟩

/-- g13 sends two replies to an inquiry, and an error with the number 0 does not end a command of
the plain Assuan engine.
-/
theorem inquiry_answered_twice_and_error_lost
    : ¬ AnswersProperly UserSession.sent g13StatusLine { callbacks := {} }
          [.text (str "INQUIRE PASSPHRASE")]
      ∧ ¬ AnswersProperly UserSession.sent llassStatusLine { callbacks := {} }
          [.text (str "ERR 0 failed")] := by
  constructor
  · intro proper
    exact (g13_answersProperly_iff _ _).mp proper { callbacks := {} } (str "INQUIRE PASSPHRASE")
      ⟨[], [], rfl, rfl⟩ (by decide) (Or.inl (by decide))
  · intro proper
    exact (llass_answersProperly_iff _ _).mp proper { callbacks := {} } (str "ERR 0 failed")
      ⟨[], [], rfl, rfl⟩ (by decide) ⟨by decide, by decide⟩

end Gpgme
