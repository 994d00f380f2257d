import Gpgme.Error
import Gpgme.Lib.FaultMachine
import Gpgme.Status

/-! The interactors of the C++ binding, which answer what gpg asks while a key is edited, after
`editinteractor.cpp`.
-/

namespace Gpgme.Interaction

open CString FaultMachine

-----------------------------------------------------------------------------------------
-- Answers
-----------------------------------------------------------------------------------------

/-- Why a call does not return: the descriptor takes nothing any more, or an assertion fails. -/
inductive Fault where
  | blocked | assertion
deriving DecidableEq

/-- An `Error` as a condition. -/
def failed (code : Nat) : Bool := code != ErrCode.noError && code != ErrCode.canceled

/-- What `Error::fromSystemError` makes of `errno`: it is an error, and not a cancellation. -/
abbrev SystemError := { code : Nat // failed code = true }

/-- What a call of `gpgme_io_write` does: how it fails, or how many bytes are taken at most. -/
abbrev IoWrite := Except SystemError Nat

/-- The static `writeAll`, with the bytes that are written, the calls of `gpgme_io_write` that are
left and the failure. After a short write it starts again with the first byte.
-/
def writeAll (buf : Str)
    : List IoWrite → Nat → Except Fault (Str × List IoWrite × Option SystemError)
  | writes, 0 => .ok ([], writes, none)
  | [], _ + 1 => .error .blocked
  | .error failure :: writes, _ + 1 => .ok ([], writes, some failure)
  | .ok most :: writes, toWrite + 1 => do
      let n := min most (toWrite + 1)
      let (text, writes, failure) ← writeAll buf writes (toWrite + 1 - n)
      pure (buf.take n ++ text, writes, failure)

/-- An answer is written with a newline behind it. -/
def writeLine (writes : List IoWrite) (answer : Str)
    : Except Fault (Str × Option SystemError) := do
  let (text, writes, failure) ← writeAll answer writes answer.length
  match failure with
  | some failure => pure (text, some failure)
  | none => do
      let (newline, _, failure) ← writeAll (str "\n") writes 1
      pure (text ++ newline, failure)

/-- The text of an answer on the descriptor. -/
def answerLine (answer : Str) : Str := answer ++ str "\n"

/-- The whole answer is taken. -/
def Takes (writes : List IoWrite) (answer : Str) : Prop :=
  writeLine writes answer = .ok (answerLine answer, none)

instance (writes : List IoWrite) (answer : Str) : Decidable (Takes writes answer) :=
  inferInstanceAs (Decidable (_ = _))

theorem answerLine_ne_nil {answer : Str} : answerLine answer ≠ [] := by simp [answerLine, str]

-----------------------------------------------------------------------------------------
-- Interactors
-----------------------------------------------------------------------------------------

/-- `EditInteractor` with its virtual functions, for states `σ` and the members `δ` of the derived
class. Errors are given by their codes, 0 for none; `action` yields nothing when an assertion
fails.
-/
structure Interactor (σ δ : Type) where
  startState : σ
  errorState : σ
  nextState : δ → σ → Nat → StatusCode → Str → (σ × Nat) × δ
  action : δ → σ → Option ((Option Str × Nat) × δ)

/-- `EditInteractor::Private` and the members of the derived class. -/
structure Session (σ δ : Type) where
  state : σ
  error : Nat
  members : δ

/-- A call of the callback: the status line and what its writes do. -/
structure Event where
  status : StatusCode
  args : Str
  writes : List IoWrite
deriving DecidableEq

/-- `needsNoResponse`. -/
def needsNoResponse : StatusCode → Bool
  | .alreadySigned | .error | .getBool | .getLine | .keyCreated | .needPassphraseSym
  | .scOpFailure | .cardctrl | .backupKeyCreated => false
  | _ => true

/-- `GPG_ERR_NO_PASSPHRASE`. -/
def noPassphrase : Nat := 177

/-- The static `status_to_error`. -/
def statusToError : StatusCode → Nat
  | .missingPassphrase => noPassphrase
  | .alreadySigned => ErrCode.user1
  | .sigexpired => ErrCode.sigExpired
  | _ => ErrCode.noError

/-- `encodedError`: the errors of the binding have the source `GPG_ERR_SOURCE_USER_1`. -/
def encodedError (code : Nat) : GpgError := gpgErrMake 32 code

variable {σ δ : Type} [DecidableEq σ]

namespace Interactor

variable (x : Interactor σ δ)

/-- The interactor before the first status line. -/
def session (members : δ) : Session σ δ where
  state := x.startState
  error := ErrCode.noError
  members := members

/-- What a status line leads to before anything is written. -/
structure Decision (σ δ : Type) where
  state : σ
  error : Nat
  members : δ
  answer : Option Str

/-- The state and the action for a status line. -/
def decision (s : Session σ δ) (status : StatusCode) (args : Str)
    : Except Fault (Decision σ δ) :=
  let err := statusToError status
  if failed err then .ok ⟨s.state, err, s.members, none⟩
  else
    let ((state, err), members) := x.nextState s.members s.state s.error status args
    if failed err then .ok ⟨s.state, err, members, none⟩
    else if state ≠ s.state ∧ s.error = ErrCode.noError then
      match x.action members state with
      | none => .error .assertion
      | some ((answer, err), members) =>
          if failed err then .ok ⟨state, err, members, none⟩
          else .ok ⟨state, ErrCode.noError, members, answer⟩
    else .ok ⟨state, ErrCode.noError, members, none⟩

/-- What is written for a decision, and the error that is left then. -/
def Decision.write (d : Decision σ δ) (writes : List IoWrite) : Except Fault (Str × Nat) :=
  match d.answer with
  | none => .ok ([], d.error)
  | some answer => do
      let (text, failure) ← writeLine writes answer
      pure (text, failure.elim ErrCode.noError Subtype.val)

/-- The value that is returned, with what was written, and the session behind the call. -/
def settle (s : Session σ δ) (d : Decision σ δ) (text : Str) (err : Nat)
    : (GpgError × Str) × Session σ δ :=
  if failed err then ((encodedError err, text), ⟨x.errorState, err, d.members⟩)
  else ((encodedError s.error, text), ⟨d.state, s.error, d.members⟩)

/-- `edit_interactor_callback_impl`. -/
def callback (s : Session σ δ) (event : Event)
    : Except Fault ((GpgError × Str) × Session σ δ) := do
  let d ← x.decision s event.status event.args
  let (text, err) ← d.write event.writes
  pure (x.settle s d text err)

/-- Whatever the interactor answers to the event, the descriptor takes the whole line. -/
def Delivers (s : Session σ δ) (event : Event) : Prop :=
  match x.decision s event.status event.args with
  | .ok d => ∀ answer ∈ d.answer, Takes event.writes answer
  | .error _ => True

instance (s : Session σ δ) (event : Event) : Decidable (x.Delivers s event) := by
  unfold Delivers
  split <;> infer_instance

/-- The calls of the callback for the events of a dialogue that come back. -/
def calls (members : δ) (events : List Event)
    : List (Executed (Session σ δ) Event (GpgError × Str)) :=
  (run x.callback (x.session members) events).1

/-- The lines of the dialogue, each with the arguments of the status line that it answers. -/
def transcript (calls : List (Executed (Session σ δ) Event (GpgError × Str)))
    : List (Str × Str) :=
  (calls.filter fun call => call.output.2 ≠ []).map fun call => (call.input.args, call.output.2)

-----------------------------------------------------------------------------------------
-- What a call can do
-----------------------------------------------------------------------------------------

variable {x} {s next : Session σ δ} {event : Event} {status : StatusCode} {args text : Str}
  {err : GpgError} {d : Decision σ δ}

/-- The line is rejected, is passed over without an action, or leads to a new state and its action.
-/
inductive Decides (x : Interactor σ δ) (s : Session σ δ) (status : StatusCode) (args : Str)
    : Decision σ δ → Prop where
  | rejects {state : σ} {error : Nat} {members : δ} (fails : failed error = true)
    : Decides x s status args ⟨state, error, members, none⟩
  | passes {state : σ} {error : Nat} {members : δ}
    (stated : x.nextState s.members s.state s.error status args = ((state, error), members))
    (fine : failed error = false) (idle : state = s.state ∨ s.error ≠ ErrCode.noError)
    : Decides x s status args ⟨state, ErrCode.noError, members, none⟩
  | acts {state : σ} {error error' : Nat} {members members' : δ} {answer : Option Str}
    (clean : s.error = ErrCode.noError)
    (stated : x.nextState s.members s.state s.error status args = ((state, error), members))
    (fine : failed error = false) (moved : state ≠ s.state)
    (acted : x.action members state = some ((answer, error'), members'))
    (quiet : failed error' = false)
    : Decides x s status args ⟨state, ErrCode.noError, members', answer⟩

theorem decision_cases (decided : x.decision s status args = .ok d)
    : x.Decides s status args d := by
  unfold decision at decided
  dsimp only at decided
  split at decided
  · next fails =>
      cases decided
      exact .rejects fails
  · split at decided
    · next fails =>
        cases decided
        exact .rejects fails
    · next fine =>
        have fine := Bool.eq_false_of_not_eq_true fine
        split at decided
        · next moved =>
            split at decided
            · cases decided
            · next acted =>
                split at decided
                · next fails =>
                    cases decided
                    exact .rejects fails
                · next quiet =>
                    cases decided
                    exact .acts moved.2 rfl fine moved.1 acted (Bool.eq_false_of_not_eq_true quiet)
        · next still =>
            cases decided
            refine .passes rfl fine ?_
            rw [not_and_or, not_not] at still
            exact still

theorem ne_noError_of_failed {code : Nat} (fails : failed code = true)
    : code ≠ ErrCode.noError := by
  rintro rfl
  cases fails

theorem encodedError_ne_zero {code : Nat} (error : code ≠ ErrCode.noError)
    : encodedError code ≠ 0 := by
  unfold encodedError gpgErrMake
  rw [if_neg (show ¬code = 0 from error)]
  intro zero
  have value := congrArg UInt32.toNat zero
  simp only [UInt32.toNat_ofNat', UInt32.toNat_zero] at value
  omega

/-- What a call does when the descriptor takes the whole answer. -/
inductive Responds (x : Interactor σ δ) (s : Session σ δ) (event : Event)
    : GpgError × Str → Session σ δ → Prop where
  | rejects {error : Nat} {members : δ} (fails : failed error = true)
    : Responds x s event (encodedError error, []) ⟨x.errorState, error, members⟩
  | passes {state : σ} {error : Nat} {members : δ}
    (stated : x.nextState s.members s.state s.error event.status event.args
      = ((state, error), members))
    (fine : failed error = false) (idle : state = s.state ∨ s.error ≠ ErrCode.noError)
    : Responds x s event (encodedError s.error, []) ⟨state, s.error, members⟩
  | acts {state : σ} {error error' : Nat} {members members' : δ} {answer : Option Str}
    (clean : s.error = ErrCode.noError)
    (stated : x.nextState s.members s.state s.error event.status event.args
      = ((state, error), members))
    (fine : failed error = false) (moved : state ≠ s.state)
    (acted : x.action members state = some ((answer, error'), members'))
    (quiet : failed error' = false)
    : Responds x s event (0, answer.elim [] answerLine) ⟨state, ErrCode.noError, members'⟩

omit [DecidableEq σ] in
theorem Decision.write_of_takes {writes : List IoWrite}
    (delivers : ∀ answer ∈ d.answer, Takes writes answer)
    : d.write writes
      = .ok (d.answer.elim [] answerLine, d.answer.elim d.error fun _ => ErrCode.noError) := by
  unfold Decision.write
  cases given : d.answer with
  | none => rfl
  | some answer =>
      have taken : writeLine writes answer = _ := delivers answer given
      simp only [taken]
      rfl

theorem callback_cases (delivers : x.Delivers s event)
    (ran : x.callback s event = .ok ((err, text), next))
    : x.Responds s event (err, text) next := by
  unfold callback at ran
  unfold Delivers at delivers
  cases decided : x.decision s event.status event.args with
  | error fault =>
      rw [decided] at ran
      cases ran
  | ok d =>
      rw [decided] at ran delivers
      replace ran : (do
        let (text, err) ← d.write event.writes
        pure (x.settle s d text err)) = Except.ok ((err, text), next) := ran
      rw [Decision.write_of_takes delivers] at ran
      cases decision_cases decided with
      | rejects fails =>
          replace ran := Except.ok.inj ran
          simp only [settle, Option.elim_none, fails, if_true] at ran
          cases ran
          exact .rejects fails
      | passes stated fine idle =>
          cases ran
          exact .passes stated fine idle
      | @acts state error error' members members' answer clean stated fine moved acted quiet' =>
          have quiet : failed (answer.elim ErrCode.noError fun _ => ErrCode.noError) = false := by
            cases answer <;> rfl
          replace ran := Except.ok.inj ran
          simp only [settle, quiet, clean] at ran
          cases ran
          exact .acts clean stated fine moved acted quiet'

-----------------------------------------------------------------------------------------
-- After an error
-----------------------------------------------------------------------------------------

theorem callback_iff
    : x.callback s event = .ok ((err, text), next)
      ↔ ∃ d written code,
          x.decision s event.status event.args = .ok d
          ∧ d.write event.writes = .ok (written, code)
          ∧ x.settle s d written code = ((err, text), next) := by
  unfold callback
  cases x.decision s event.status event.args with
  | error fault => simp [bind, Except.bind]
  | ok d =>
      cases wrote : d.write event.writes with
      | error fault => simp [bind, Except.bind, wrote]
      | ok result =>
          obtain ⟨written, code⟩ := result
          simp [bind, Except.bind, wrote, pure, Except.pure]

theorem error_of_callback (ran : x.callback s event = .ok ((err, text), next)) (error : err ≠ 0)
    : next.error ≠ ErrCode.noError := by
  obtain ⟨d, written, code, _, _, settled⟩ := callback_iff.mp ran
  unfold settle at settled
  split at settled
  · next fails =>
      cases settled
      exact ne_noError_of_failed fails
  · cases settled
    intro clean
    exact error (congrArg encodedError clean)

theorem callback_of_error (dead : s.error ≠ ErrCode.noError)
    (ran : x.callback s event = .ok ((err, text), next))
    : (err ≠ 0 ∧ text = []) ∧ next.error ≠ ErrCode.noError := by
  obtain ⟨d, written, code, decided, wrote, settled⟩ := callback_iff.mp ran
  have silent : d.answer = none := by
    cases decision_cases decided with
    | rejects => rfl
    | passes => rfl
    | acts clean => exact absurd clean dead
  unfold Decision.write at wrote
  rw [silent] at wrote
  cases wrote
  unfold settle at settled
  split at settled
  · next fails =>
      cases settled
      exact ⟨⟨encodedError_ne_zero (ne_noError_of_failed fails), rfl⟩, ne_noError_of_failed fails⟩
  · cases settled
    exact ⟨⟨encodedError_ne_zero dead, rfl⟩, dead⟩

/-- Once a call has returned an error, every later call returns an error and writes nothing. -/
theorem silent_after_error (x : Interactor σ δ) (members : δ) (events : List Event)
    : (x.calls members events).Pairwise fun earlier later =>
        earlier.output.1 ≠ 0 → later.output.1 ≠ 0 ∧ later.output.2 = [] := by
  let silent (earlier later : Executed (Session σ δ) Event (GpgError × Str)) : Prop :=
    earlier.output.1 ≠ 0 → later.output.1 ≠ 0 ∧ later.output.2 = []
  let holds (history : List (Executed (Session σ δ) Event (GpgError × Str))) (s : Session σ δ) :=
    history.Pairwise silent
    ∧ ∀ call ∈ history, call.output.1 ≠ 0 → s.error ≠ ErrCode.noError
  have allowed : Along x.callback (fun _ _ => True) (x.session members) events :=
    along_of_forall (fun _ _ => trivial) events
  obtain ⟨last, ⟨kept, _⟩, _⟩ := run_invariant holds (fun _ => True) (fun _ _ _ => trivial)
    (by
      intro history s event output next held _ ran
      obtain ⟨pairs, dead⟩ := held
      refine ⟨List.pairwise_append.mpr ⟨pairs, List.pairwise_singleton .., ?_⟩, ?_⟩
      · intro earlier before later now error
        rw [List.mem_singleton.mp now]
        exact (callback_of_error (dead earlier before error) ran).1
      · intro call member error
        rcases List.mem_append.mp member with before | now
        · exact (callback_of_error (dead call before error) ran).2
        · rw [List.mem_singleton.mp now] at error
          exact error_of_callback ran error)
    ⟨.nil, by simp⟩ allowed
  exact kept

-----------------------------------------------------------------------------------------
-- Dialogues
-----------------------------------------------------------------------------------------

variable {members : δ} {events : List Event}

omit [DecidableEq σ] in
@[simp]
theorem transcript_append (earlier later : List (Executed (Session σ δ) Event (GpgError × Str)))
    : transcript (earlier ++ later) = transcript earlier ++ transcript later := by
  simp [transcript]

omit [DecidableEq σ] in
theorem transcript_silent : transcript [⟨s, event, (err, [])⟩] = [] := rfl

omit [DecidableEq σ] in
theorem transcript_answered (answer : Str)
    : transcript [⟨s, event, (err, answerLine answer)⟩]
      = [(event.args, answerLine answer)] := by
  simp [transcript, answerLine_ne_nil]

/-- What the transcript held about the members and the state is kept by every line that is not
rejected.
-/
structure Scripted (x : Interactor σ δ) (said : δ → σ → List (Str × Str) → Prop) : Prop where
  alive : x.startState ≠ x.errorState
  idle
    : ∀ {members state error status args},
        needsNoResponse status = true
        → x.nextState members state error status args = ((state, ErrCode.noError), members)
  stays
    : ∀ {members members' state status args error before},
        said members state before
        → state ≠ x.errorState
        → needsNoResponse status = false
        → x.nextState members state ErrCode.noError status args = ((state, error), members')
        → failed error = false
        → said members' state before
  turns
    : ∀ {members members' last state state' status args error error' answer before},
        said members state before
        → state ≠ x.errorState
        → needsNoResponse status = false
        → x.nextState members state ErrCode.noError status args = ((state', error), members')
        → failed error = false
        → state' ≠ state
        → x.action members' state' = some ((answer, error'), last)
        → failed error' = false
        → state' ≠ x.errorState
          ∧ said last state' (before ++ answer.toList.map fun text => (args, answerLine text))

/-- The transcript is said in some state, which is that of the session unless an error is kept. -/
def Holds (x : Interactor σ δ) (said : δ → σ → List (Str × Str) → Prop) (before : List (Str × Str))
    (s : Session σ δ)
    : Prop :=
  (∃ members state, said members state before)
  ∧ (s.error = ErrCode.noError → said s.members s.state before ∧ s.state ≠ x.errorState)

omit [DecidableEq σ] in
theorem Scripted.step {said : δ → σ → List (Str × Str) → Prop} {before : List (Str × Str)}
    {output : GpgError × Str} (scripted : x.Scripted said) (held : x.Holds said before s)
    (responds : x.Responds s event output next)
    : x.Holds said (before ++ transcript [⟨s, event, output⟩]) next := by
  obtain ⟨past, now⟩ := held
  cases responds with
  | rejects fails =>
      rw [transcript_silent, List.append_nil]
      exact ⟨past, fun clean => absurd clean (ne_noError_of_failed fails)⟩
  | @passes state error members' stated fine idle =>
      rw [transcript_silent, List.append_nil]
      refine ⟨past, fun (clean : s.error = ErrCode.noError) => ?_⟩
      obtain rfl := idle.resolve_right (not_not_intro clean)
      rw [clean] at stated
      obtain ⟨saidNow, alive⟩ := now clean
      refine ⟨?_, alive⟩
      cases needs : needsNoResponse event.status with
      | true =>
          rw [scripted.idle needs] at stated
          cases stated
          exact saidNow
      | false => exact scripted.stays saidNow alive needs stated fine
  | @acts state error error' members' last answer clean stated fine moved acted quiet =>
      obtain ⟨saidNow, alive⟩ := now clean
      rw [clean] at stated
      have needs : needsNoResponse event.status = false := by
        by_contra quiet
        rw [scripted.idle (Bool.eq_true_of_not_eq_false quiet)] at stated
        cases stated
        exact moved rfl
      obtain ⟨living, saidNext⟩ :=
        scripted.turns saidNow alive needs stated fine moved acted quiet
      have entry : transcript [⟨s, event, ((0 : GpgError), answer.elim [] answerLine)⟩]
          = answer.toList.map fun text => (event.args, answerLine text) := by
        cases answer with
        | none => rfl
        | some text => exact transcript_answered text
      rw [entry]
      exact ⟨⟨last, state, saidNext⟩, fun _ => ⟨saidNext, living⟩⟩

theorem Scripted.dialogue {said : δ → σ → List (Str × Str) → Prop} (scripted : x.Scripted said)
    (initial : said members x.startState [])
    (delivers : Along x.callback x.Delivers (x.session members) events)
    : (∃ members' state, said members' state (transcript (x.calls members events)))
      ∧ ∀ call ∈ x.calls members events,
          (∃ next, x.Responds call.state call.input call.output next)
          ∧ (call.state.error = ErrCode.noError → call.state.state ≠ x.errorState) := by
  let holds (history : List (Executed (Session σ δ) Event (GpgError × Str))) (s : Session σ δ) :=
    x.Holds said (transcript history) s
    ∧ ∀ call ∈ history,
        (∃ next, x.Responds call.state call.input call.output next)
        ∧ (call.state.error = ErrCode.noError → call.state.state ≠ x.errorState)
  obtain ⟨last, ⟨held, good⟩, _⟩ := run_invariant holds (fun _ => True) (fun _ _ _ => trivial)
    (by
      intro history s event output next held delivered ran
      obtain ⟨before, good⟩ := held
      have responds := callback_cases delivered ran
      refine ⟨transcript_append _ _ ▸ scripted.step before responds, fun call member => ?_⟩
      rcases List.mem_append.mp member with earlier | now
      · exact good call earlier
      · rw [List.mem_singleton.mp now]
        exact ⟨⟨next, responds⟩, fun clean => (before.2 clean).2⟩)
    ⟨⟨⟨members, x.startState, initial⟩, fun _ => ⟨initial, scripted.alive⟩⟩, by simp⟩ delivers
  exact ⟨held.1, good⟩

/-- Each line of a transcript is right after what was said before it. -/
def Justified (why : List (Str × Str) → Str × Str → Prop) (lines : List (Str × Str)) : Prop :=
  ∀ before entry after, lines = before ++ entry :: after → why before entry

theorem justified_nil {why : List (Str × Str) → Str × Str → Prop} : Justified why [] := by
  intro before entry after split
  simp at split

theorem Justified.concat {why : List (Str × Str) → Str × Str → Prop} {lines : List (Str × Str)}
    {entry : Str × Str} (justified : Justified why lines) (right : why lines entry)
    : Justified why (lines ++ [entry]) := by
  intro before entry' after split
  rcases List.eq_nil_or_concat after with rfl | ⟨middle, last, rfl⟩
  · obtain ⟨rfl, same⟩ := List.append_inj' split rfl
    cases same
    exact right
  · rw [List.concat_eq_append, ← List.cons_append, ← List.append_assoc] at split
    obtain ⟨kept, _⟩ := List.append_inj' split rfl
    exact justified before entry' middle kept

end Interactor

end Gpgme.Interaction
