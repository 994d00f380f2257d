import Mathlib.Data.List.TakeWhile
import Gpgme.Operation.Composition

/-! The combined operations compared with their parts: `decrypt_verify_status_handler` and
`encrypt_sign_status_handler` pass one buffer through two handlers, and the first one may cut
it before the second one parses it.
-/

namespace Gpgme

open CString

-----------------------------------------------------------------------------------------
-- Cut PLAINTEXT lines
-----------------------------------------------------------------------------------------

theorem dropWhile_append_of_longer {p : UInt8 → Bool} {front rest : Str}
    (longer : rest.length < ((front ++ rest).dropWhile p).length)
    : (front ++ rest).dropWhile p = front.dropWhile p ++ rest := by
  rw [List.dropWhile_append] at longer ⊢
  split
  · next scanned =>
      have shorter := (List.dropWhile_suffix p : rest.dropWhile p <:+ rest).length_le
      rw [if_pos scanned] at longer
      omega
  · rfl

theorem length_skipWord_lt {s : Str} (found : skipBlanks s ≠ [])
    : (skipWord (skipBlanks s)).length < (skipBlanks s).length := by
  have head := List.head_dropWhile_not (· == blank) found
  cases scanned : skipBlanks s with
  | nil => exact absurd scanned found
  | cons c rest =>
      have first : c ≠ blank := by
        unfold skipBlanks at scanned
        simpa [scanned] using head
      have shorter : (skipWord rest).length ≤ rest.length :=
        (List.dropWhile_suffix _).length_le
      have moved : skipWord (c :: rest) = skipWord rest := by simp [skipWord, first]
      rw [moved, List.length_cons]
      omega

/-- The start of the field behind the first one. -/
def nextField (s : Str) : Str := skipBlanks (skipWord s)

theorem nextField_suffix (s : Str) : nextField s <:+ s :=
  (List.dropWhile_suffix _).trans (List.dropWhile_suffix _)

theorem nextField_append_of_longer {front rest : Str}
    (longer : rest.length < (nextField (front ++ rest)).length)
    : nextField (front ++ rest) = nextField front ++ rest := by
  unfold nextField at longer ⊢
  have behind : skipWord (front ++ rest) = skipWord front ++ rest := by
    apply dropWhile_append_of_longer
    calc rest.length
        < (skipBlanks (skipWord (front ++ rest))).length := longer
      _ ≤ (skipWord (front ++ rest)).length := (List.dropWhile_suffix _).length_le
  rw [behind] at longer ⊢
  exact dropWhile_append_of_longer longer

/-- The file name of a PLAINTEXT line and what follows it. -/
def plaintextName (args : Str) : Str := nextField (nextField (skipBlanks args))

/-- The type of a PLAINTEXT line says MIME. -/
def plaintextMime (args : Str) : Bool := (skipBlanks args).take 2 == [54, 68]

theorem parsePlaintext_eq (args : Str) (fileName : Option Str)
    : parsePlaintext args fileName
      = if plaintextName args = [] then (fileName, plaintextMime args, args)
        else
          (some (word (plaintextName args)), plaintextMime args,
            args.take (args.length - (skipWord (plaintextName args)).length)) := by
  unfold parsePlaintext plaintextName plaintextMime nextField
  split
  · next typed =>
      rw [typed]
      rfl
  · dsimp only
    split
    · next timed =>
        rw [timed]
        rfl
    · split
      · next named => rw [if_pos named]
      · next other => rw [if_neg other]

theorem plaintext_front {front rest : Str}
    (longer : rest.length < (plaintextName (front ++ rest)).length)
    : plaintextName (front ++ rest) = plaintextName front ++ rest
      ∧ (plaintextName front ≠ [] → plaintextMime (front ++ rest) = plaintextMime front) := by
  unfold plaintextName at longer ⊢
  have timed := (nextField_suffix (nextField (skipBlanks (front ++ rest)))).length_le
  have typed := (nextField_suffix (skipBlanks (front ++ rest))).length_le
  have start : skipBlanks (front ++ rest) = skipBlanks front ++ rest :=
    dropWhile_append_of_longer (by unfold skipBlanks at *; omega)
  rw [start] at longer timed typed ⊢
  have second := nextField_append_of_longer (longer.trans_le timed)
  rw [second] at longer ⊢
  refine ⟨nextField_append_of_longer longer, ?_⟩
  intro named
  -- The type is followed by a blank, so that its first two characters are in front.
  have found : skipWord (skipBlanks front) ≠ [] := by
    intro empty
    apply named
    simp only [nextField, empty]
    rfl
  have started : skipBlanks front ≠ [] := by
    intro empty
    exact found (by rw [empty]; rfl)
  have behind := List.length_pos_of_ne_nil found
  have type := length_skipWord_lt started
  unfold plaintextMime
  rw [start, List.take_append_of_le_length (by omega)]

theorem parsePlaintext_cut (args : Str) (fileName fileName' : Option Str)
    : ∃ left,
        parsePlaintext (parsePlaintext args fileName').2.2 fileName
        = ((parsePlaintext args fileName).1, (parsePlaintext args fileName).2.1, left) := by
  by_cases named : plaintextName args = []
  · have uncut : (parsePlaintext args fileName').2.2 = args := by
      rw [parsePlaintext_eq, if_pos named]
    rw [uncut]
    exact ⟨_, rfl⟩
  · obtain ⟨rest, rest_eq⟩ : ∃ rest, rest = skipWord (plaintextName args) := ⟨_, rfl⟩
    have shorter : rest.length < (plaintextName args).length :=
      rest_eq ▸ length_skipWord_lt named
    obtain ⟨front, whole⟩ : rest <:+ args := by
      rw [rest_eq]
      exact (List.dropWhile_suffix _).trans
        ((nextField_suffix _).trans ((nextField_suffix _).trans (List.dropWhile_suffix _)))
    have cut : args.take (args.length - rest.length) = front := by simp [← whole]
    obtain ⟨name, mime⟩ := plaintext_front (whole ▸ shorter)
    rw [whole] at name mime
    have same : plaintextName front = word (plaintextName args) := by
      have parts : word (plaintextName args) ++ rest = plaintextName args :=
        rest_eq ▸ List.takeWhile_append_dropWhile
      exact List.append_cancel_right (name.symm.trans parts.symm)
    have named' : plaintextName front ≠ [] := by
      intro empty
      simp only [name, empty, List.nil_append, lt_self_iff_false] at shorter
    have idempotent : word (word (plaintextName args)) = word (plaintextName args) := by
      exact List.takeWhile_idem ..
    refine ⟨front.take (front.length - (skipWord (plaintextName front)).length), ?_⟩
    rw [parsePlaintext_eq args, parsePlaintext_eq args, if_neg named, if_neg named]
    simp only [← rest_eq, cut]
    rw [parsePlaintext_eq, if_neg named', mime named', same, idempotent]

-----------------------------------------------------------------------------------------
-- What the handlers depend on
-----------------------------------------------------------------------------------------

theorem passphraseStatusHandler_dependsOn
    : passphraseStatusHandler.DependsOn fun ctx =>
        (ctx.environment, ctx.passphrase, ctx.statusCalls) := by
  intro ctx ctx' code args err left next same handled
  obtain ⟨⟩ := ctx
  obtain ⟨⟩ := ctx'
  simp only [Ctx.environment, Prod.mk.injEq, Ctx.Environment.mk.injEq] at same
  obtain ⟨⟨rfl, rfl, rfl, rfl, rfl⟩, rfl, rfl⟩ := same
  revert handled
  cases code <;> simp only [passphraseStatusHandler, Ctx.callStatusCb] <;> (repeat' split) <;>
    · intro handled
      cases handled
      exact ⟨_, rfl, rfl⟩

theorem passphraseStatusHandler_dependsOn_decrypt
    : passphraseStatusHandler.DependsOn Ctx.decryptPart := by
  have frames : passphraseStatusHandler.Frames fun ctx => (ctx.blankoutCalls, ctx.decrypt) :=
    passphraseStatusHandler_frames fun _ _ _ => rfl
  refine passphraseStatusHandler_dependsOn.extend frames ?_
  simp [Ctx.decryptPart, and_assoc]

theorem passphraseStatusHandler_dependsOn_sign
    : passphraseStatusHandler.DependsOn Ctx.signPart := by
  have frames : passphraseStatusHandler.Frames Ctx.sign :=
    passphraseStatusHandler_frames fun _ _ _ => rfl
  refine passphraseStatusHandler_dependsOn.extend frames ?_
  simp [Ctx.signPart, and_assoc]

theorem decryptStatusSwitch_dependsOn : decryptStatusSwitch.DependsOn Ctx.decryptPart := by
  intro ctx ctx' code args err left next same handled
  obtain ⟨⟩ := ctx
  obtain ⟨⟩ := ctx'
  simp only [Ctx.decryptPart, Ctx.environment, Prod.mk.injEq, Ctx.Environment.mk.injEq] at same
  obtain ⟨⟨rfl, rfl, rfl, rfl, rfl⟩, rfl, rfl, rfl, rfl⟩ := same
  revert handled
  cases code <;> simp only [decryptStatusSwitch, Ctx.callStatusCb] <;> (repeat' split) <;>
    · intro handled
      cases handled
      exact ⟨_, rfl, rfl⟩

theorem signStatusSwitch_dependsOn : signStatusSwitch.DependsOn Ctx.signPart := by
  intro ctx ctx' code args err left next same handled
  obtain ⟨⟩ := ctx
  obtain ⟨⟩ := ctx'
  simp only [Ctx.signPart, Ctx.environment, Prod.mk.injEq, Ctx.Environment.mk.injEq] at same
  obtain ⟨⟨rfl, rfl, rfl, rfl, rfl⟩, rfl, rfl, rfl⟩ := same
  revert handled
  cases code <;> simp only [signStatusSwitch, noteInvalidSigner, Ctx.callStatusCb] <;>
    (repeat' split) <;>
    · intro handled
      cases handled
      exact ⟨_, rfl, rfl⟩

theorem encryptStatusHandler_dependsOn : encryptStatusHandler.DependsOn Ctx.encryptPart := by
  intro ctx ctx' code args err left next same handled
  obtain ⟨⟩ := ctx
  obtain ⟨⟩ := ctx'
  simp only [Ctx.encryptPart, Ctx.environment, Prod.mk.injEq, Ctx.Environment.mk.injEq] at same
  obtain ⟨⟨rfl, rfl, rfl, rfl, rfl⟩, rfl⟩ := same
  revert handled
  cases code <;> simp only [encryptStatusHandler] <;> (repeat' split) <;>
    · intro handled
      cases handled
      exact ⟨_, rfl, rfl⟩

theorem verifyStatusHandler_dependsOn : verifyStatusHandler.DependsOn Ctx.verifyPart := by
  intro ctx ctx' code args err left next same handled
  obtain ⟨⟩ := ctx
  obtain ⟨⟩ := ctx'
  simp only [Ctx.verifyPart, Ctx.environment, Prod.mk.injEq, Ctx.Environment.mk.injEq] at same
  obtain ⟨⟨rfl, rfl, rfl, rfl, rfl⟩, rfl⟩ := same
  simp only [verifyStatusHandler, Option.map_eq_some_iff, Prod.exists, Prod.mk.injEq] at handled ⊢
  obtain ⟨_, _, opd, switched, rfl, rfl, rfl⟩ := handled
  exact ⟨_, ⟨_, _, opd, switched, rfl, rfl, rfl⟩, rfl⟩

-----------------------------------------------------------------------------------------
-- The combined operations
-----------------------------------------------------------------------------------------

/-- The static `decrypt_verify_status_handler`. -/
def decryptVerifyStatusHandler : StatusHandler :=
  (progressStatusHandler.andThen decryptStatusHandler).andThen verifyStatusHandler

/-- The operations whose lines go through the handlers of two others. -/
inductive CombinedOperation where
  | decryptVerify | encryptSign
deriving DecidableEq

namespace CombinedOperation

/-- The handler that gets a line first. -/
def first : CombinedOperation → StatusHandler
  | .decryptVerify => decryptStatusHandler
  | .encryptSign => encryptStatusHandler

/-- The handler that gets what the first one leaves of the line. -/
def second : CombinedOperation → StatusHandler
  | .decryptVerify => verifyStatusHandler
  | .encryptSign => signStatusHandler

/-- The handler that is installed. -/
def handler : CombinedOperation → StatusHandler
  | .decryptVerify => decryptVerifyStatusHandler
  | .encryptSign => encryptSignStatusHandler

/-- A context has the operation data that the two handlers left in contexts of their own. -/
def SameData : CombinedOperation → Ctx → Ctx → Ctx → Prop
  | .decryptVerify, whole, first, second =>
      whole.decrypt = first.decrypt ∧ whole.verify = second.verify
  | .encryptSign, whole, first, second =>
      whole.encrypt = first.encrypt ∧ whole.sign = second.sign

/-- The handlers, each run alone on the lines, leave the operation data of a context. -/
def EqualsParts (op : CombinedOperation) (first second : Ctx) (lines : List StatusLine)
    (whole : Ctx)
    : Prop :=
  ∃ errs alone errs' alone',
    Machine.run (stepStatus op.first) first lines = some (errs, alone)
    ∧ Machine.run (stepStatus op.second) second lines = some (errs', alone')
    ∧ op.SameData whole alone alone'

/-- The parts of the context that the handlers work on are the same. -/
def Related : CombinedOperation → Ctx → Ctx → Ctx → Prop
  | .decryptVerify, whole, first, second =>
      whole.decryptPart = first.decryptPart ∧ whole.verifyPart = second.verifyPart
  | .encryptSign, whole, first, second =>
      whole.encryptPart = first.encryptPart ∧ whole.signPart = second.signPart

theorem Related.refl (op : CombinedOperation) (ctx : Ctx) : op.Related ctx ctx ctx := by
  cases op <;> exact ⟨rfl, rfl⟩

theorem Related.sameData {op : CombinedOperation} {whole first second : Ctx}
    (related : op.Related whole first second)
    : op.SameData whole first second := by
  cases op <;> simp_all [Related, SameData, Ctx.decryptPart, Ctx.verifyPart, Ctx.encryptPart,
    Ctx.signPart]

end CombinedOperation

theorem chained_step {α β : Type} {view : Ctx → α} {view' : Ctx → β}
    {first second : StatusHandler} (free : ProgressFree view) (free' : ProgressFree view')
    (depends : first.DependsOn view) (depends' : second.DependsOn view')
    (frames : first.Frames view') (frames' : second.Frames view) {whole alone alone' next : Ctx}
    {code : StatusCode} {args left : Str}
    (handled : (progressStatusHandler.andThen first).andThen second whole code args
      = some (0, left, next))
    (same : view whole = view alone) (same' : view' whole = view' alone')
    : ∃ passed last last',
        first alone code args = some (0, passed, last)
        ∧ second alone' code passed = some (0, left, last')
        ∧ view next = view last
        ∧ view' next = view' last' := by
  rcases StatusHandler.andThen_cases handled with ⟨failed, _⟩ | ⟨passed, middle, started, ended⟩
  · exact absurd rfl failed
  obtain ⟨redrawSuggested, progressCalls, moved⟩ :=
    progressStatusHandler_andThen first whole code args
  rw [moved] at started
  obtain ⟨last, started', kept⟩ :=
    depends ((free whole redrawSuggested progressCalls).trans same) started
  have unchanged : view' middle = view' alone' :=
    (frames started).trans ((free' whole redrawSuggested progressCalls).trans same')
  obtain ⟨last', ended', kept'⟩ := depends' unchanged ended
  exact ⟨passed, last, last', started', ended', (frames' ended).trans kept, kept'⟩

namespace CombinedOperation

theorem Related.step {op : CombinedOperation} {whole first second next : Ctx}
    {code : StatusCode} {args left : Str} (related : op.Related whole first second)
    (handled : op.handler whole code args = some (0, left, next))
    : ∃ passed first' second',
        op.first first code args = some (0, passed, first')
        ∧ op.second second code passed = some (0, left, second')
        ∧ op.Related next first' second' := by
  cases op with
  | decryptVerify =>
      exact chained_step (fun _ _ _ => rfl) (fun _ _ _ => rfl)
        (passphraseStatusHandler_dependsOn_decrypt.andThen decryptStatusSwitch_dependsOn)
        verifyStatusHandler_dependsOn decryptStatusHandler_frames verifyStatusHandler_frames
        handled related.1 related.2
  | encryptSign =>
      exact chained_step (fun _ _ _ => rfl) (fun _ _ _ => rfl) encryptStatusHandler_dependsOn
        (passphraseStatusHandler_dependsOn_sign.andThen signStatusSwitch_dependsOn)
        encryptStatusHandler_frames signStatusHandler_frames handled related.1 related.2

end CombinedOperation

-----------------------------------------------------------------------------------------
-- What is left of a line for the second handler
-----------------------------------------------------------------------------------------

/-- A FAILURE line that its parser does not cut: it has no error number, or it comes from the
exit of gpg.
-/
def StatusLine.FailureUncut (line : StatusLine) : Prop :=
  line.code = .failure → (parseFailure line.args).2 = line.args

/-- A FAILURE line from which the same number is read when it is parsed twice. -/
def StatusLine.FailureNumberKept (line : StatusLine) : Prop :=
  line.code = .failure
  → (parseFailure (parseFailure line.args).2).1 = (parseFailure line.args).1

theorem passphraseStatusHandler_passes {ctx next : Ctx} {code : StatusCode} {args left : Str}
    {err : GpgError} (handled : passphraseStatusHandler ctx code args = some (err, left, next))
    : left = args := by
  obtain ⟨_, _, _, answered⟩ := passphraseStatusHandler_changes ctx code args
  rw [answered] at handled
  cases handled
  rfl

namespace CombinedOperation

/-- What the first handler may hand on to the second. -/
def Passes (op : CombinedOperation) (code : StatusCode) (args passed : Str) : Prop :=
  passed = args
  ∨ (code = .failure ∧ passed = (parseFailure args).2)
  ∨ (op = .decryptVerify ∧ code = .plaintext
    ∧ ∃ fileName, passed = (parsePlaintext args fileName).2.2)

theorem first_passes {op : CombinedOperation} {ctx next : Ctx} {code : StatusCode}
    {args passed : Str} (handled : op.first ctx code args = some (0, passed, next))
    : op.Passes code args passed
      ∧ (code = .failure → passed = (parseFailure args).2) := by
  cases op with
  | decryptVerify =>
      rcases StatusHandler.andThen_cases handled with ⟨failed, _⟩ | ⟨_, middle, before, switched⟩
      · exact absurd rfl failed
      obtain rfl := passphraseStatusHandler_passes before
      unfold decryptStatusSwitch at switched
      dsimp only at switched
      unfold Passes
      split at switched
      -- the arm for PLAINTEXT
      case h_10 =>
        cases switched
        exact ⟨Or.inr (Or.inr ⟨rfl, rfl, _, rfl⟩), by simp⟩
      all_goals
        (repeat' split at switched) <;>
          · simp only [Option.some.injEq, Prod.mk.injEq] at switched
            obtain ⟨-, rfl, -⟩ := switched
            simp_all
  | encryptSign =>
      simp only [first] at handled
      unfold encryptStatusHandler at handled
      dsimp only at handled
      unfold Passes
      split at handled <;> (repeat' split at handled) <;>
        · simp only [Option.some.injEq, Prod.mk.injEq] at handled
          obtain ⟨-, rfl, -⟩ := handled
          simp_all

/-- The second handler does not call the status callback. -/
def Quiet : CombinedOperation → Ctx → Prop
  | .decryptVerify, _ => True
  | .encryptSign, ctx => ctx.callback = none

theorem signStatusHandler_failure {ctx : Ctx} (quiet : ctx.callback = none) (args : Str)
    : signStatusHandler ctx .failure args
      = some (0, (parseFailure args).2,
          { ctx with sign := { ctx.sign with failureCode := (parseFailure args).1 } }) := by
  have before : passphraseStatusHandler ctx .failure args = some (0, args, ctx) := by
    simp only [passphraseStatusHandler, Ctx.callStatusCb]
    unfold Ctx.callback at quiet
    split
    · rfl
    · next callback =>
        split
        · rfl
        · next full => simp [full, callback] at quiet
  unfold signStatusHandler
  rw [StatusHandler.andThen_of_ok before]
  rfl

/-- Record a failure in the data of the second handler. -/
def withFailure : CombinedOperation → Ctx → GpgError → Ctx
  | .decryptVerify, ctx, failureCode => { ctx with verify := { ctx.verify with failureCode } }
  | .encryptSign, ctx, failureCode => { ctx with sign := { ctx.sign with failureCode } }

theorem second_failure (op : CombinedOperation) {ctx : Ctx} (quiet : op.Quiet ctx) (args : Str)
    : stepStatus op.second ctx ⟨.failure, args⟩
      = some (0, op.withFailure ctx (parseFailure args).1) := by
  cases op with
  | decryptVerify => rfl
  | encryptSign => simp [stepStatus, second, withFailure, signStatusHandler_failure quiet]

theorem second_plaintext (ctx : Ctx) (args : Str) (fileName : Option Str)
    : stepStatus verifyStatusHandler ctx ⟨.plaintext, (parsePlaintext args fileName).2.2⟩
      = stepStatus verifyStatusHandler ctx ⟨.plaintext, args⟩ := by
  simp only [stepStatus, verifyStatusHandler, verifyStatusSwitch]
  split
  · rfl
  · obtain ⟨left, parsed⟩ := parsePlaintext_cut args ctx.verify.fileName fileName
    simp [parsed]

theorem second_passed {op : CombinedOperation} {ctx : Ctx} {code : StatusCode}
    {args passed : Str} (passes : op.Passes code args passed)
    (kept : StatusLine.FailureUncut ⟨code, args⟩
      ∨ (op.Quiet ctx ∧ StatusLine.FailureNumberKept ⟨code, args⟩))
    : stepStatus op.second ctx ⟨code, passed⟩ = stepStatus op.second ctx ⟨code, args⟩ := by
  rcases passes with rfl | ⟨rfl, rfl⟩ | ⟨rfl, rfl, fileName, rfl⟩
  · rfl
  · rcases kept with uncut | ⟨quiet, number⟩
    · rw [uncut rfl]
    · rw [op.second_failure quiet, op.second_failure quiet, number rfl]
  · exact second_plaintext ctx args fileName

theorem Quiet.step {op : CombinedOperation} {ctx next : Ctx} {line : StatusLine}
    {err : GpgError} (stepped : stepStatus op.second ctx line = some (err, next))
    (quiet : op.Quiet ctx)
    : op.Quiet next := by
  cases op with
  | decryptVerify => trivial
  | encryptSign =>
      obtain ⟨left, handled⟩ := stepStatus_handled stepped
      have environment : next.environment = ctx.environment :=
        congrArg Prod.fst (signStatusHandler_frames handled)
      simp only [Ctx.environment, Ctx.Environment.mk.injEq] at environment
      have callback : next.callback = ctx.callback := by
        unfold Ctx.callback
        rw [environment.2.1, environment.2.2.1]
      exact callback.trans quiet

theorem Related.step_kept {op : CombinedOperation} {whole first second next : Ctx}
    {line : StatusLine} {answer : Unit} (related : op.Related whole first second)
    (kept : line.FailureUncut ∨ (op.Quiet second ∧ line.FailureNumberKept))
    (stepped : stepStatusOk op.handler whole line = some (answer, next))
    : ∃ first' second',
        stepStatus op.first first line = some (0, first')
        ∧ stepStatus op.second second line = some (0, second')
        ∧ op.Related next first' second'
        ∧ (op.Quiet second → op.Quiet second') := by
  obtain ⟨left, handled⟩ := stepStatusOk_handled stepped
  obtain ⟨passed, first', second', started, ended, related'⟩ := related.step handled
  have same := second_passed (first_passes started).1 kept
  have ended' : stepStatus op.second second line = some (0, second') := by
    rw [← same]
    simp [stepStatus, ended]
  exact ⟨first', second', by simp [stepStatus, started], ended', related', Quiet.step ended'⟩

theorem Related.run {op : CombinedOperation} {whole first second last : Ctx}
    {lines : List StatusLine} {answers : List Unit} (related : op.Related whole first second)
    (kept : (∀ line ∈ lines, line.FailureUncut)
      ∨ (op.Quiet second ∧ ∀ line ∈ lines, line.FailureNumberKept))
    (ran : Machine.run (stepStatusOk op.handler) whole lines = some (answers, last))
    : ∃ errs alone errs' alone',
        Machine.run (stepStatus op.first) first lines = some (errs, alone)
        ∧ Machine.run (stepStatus op.second) second lines = some (errs', alone')
        ∧ op.Related last alone alone' := by
  induction lines generalizing whole first second answers with
  | nil =>
      cases ran
      exact ⟨[], first, [], second, rfl, rfl, related⟩
  | cons line rest ih =>
      obtain ⟨_, next, later, stepped, tail, _⟩ := Machine.run_cons_iff.mp ran
      obtain ⟨first', second', started, ended, related', quiet⟩ :=
        related.step_kept (kept.imp (· line List.mem_cons_self)
          (And.imp_right (· line List.mem_cons_self))) stepped
      have kept' : (∀ line ∈ rest, line.FailureUncut)
          ∨ (op.Quiet second' ∧ ∀ line ∈ rest, line.FailureNumberKept) := by
        refine kept.imp ?_ (And.imp quiet ?_)
        · exact fun all found member => all found (List.mem_cons_of_mem _ member)
        · exact fun all found member => all found (List.mem_cons_of_mem _ member)
      obtain ⟨errs, alone, errs', alone', head, head', final⟩ := ih related' kept' tail
      refine ⟨0 :: errs, alone, 0 :: errs', alone', ?_, ?_, final⟩
      · exact Machine.run_cons_iff.mpr ⟨0, first', errs, started, head, rfl⟩
      · exact Machine.run_cons_iff.mpr ⟨0, second', errs', ended, head', rfl⟩

/-- After every first part of the lines the handlers alone leave the operation data. -/
def EqualsPartsThroughout (op : CombinedOperation) (whole first second : Ctx)
    (lines : List StatusLine)
    : Prop :=
  ∀ early answers middle,
    early <+: lines
    → Machine.run (stepStatusOk op.handler) whole early = some (answers, middle)
    → op.EqualsParts first second early middle

theorem EqualsPartsThroughout.step {op : CombinedOperation} {whole first second next : Ctx}
    {first' second' : Ctx} {line : StatusLine} {rest : List StatusLine} {answer : Unit}
    {err err' : GpgError} (equal : op.EqualsPartsThroughout whole first second (line :: rest))
    (stepped : stepStatusOk op.handler whole line = some (answer, next))
    (started : stepStatus op.first first line = some (err, first'))
    (ended : stepStatus op.second second line = some (err', second'))
    : op.EqualsPartsThroughout next first' second' rest := by
  intro early answers middle prefixed ran
  obtain ⟨errs, alone, errs', alone', head, head', same⟩ :=
    equal (line :: early) (answer :: answers) middle (List.cons_prefix_cons.mpr ⟨rfl, prefixed⟩)
      (Machine.run_cons_iff.mpr ⟨answer, next, answers, stepped, ran, rfl⟩)
  obtain ⟨_, _, later, begun, head, _⟩ := Machine.run_cons_iff.mp head
  obtain ⟨_, _, later', begun', head', _⟩ := Machine.run_cons_iff.mp head'
  rw [started] at begun
  rw [ended] at begun'
  cases begun
  cases begun'
  exact ⟨later, alone, later', alone', head, head', same⟩

theorem numberKept_of_equalsParts {op : CombinedOperation} {whole first second next : Ctx}
    {line : StatusLine} {answer : Unit} (quiet : op.Quiet second)
    (related : op.Related whole first second)
    (stepped : stepStatusOk op.handler whole line = some (answer, next))
    (equal : op.EqualsParts first second [line] next)
    : line.FailureNumberKept := by
  intro failure
  obtain ⟨code, args⟩ := line
  dsimp only at failure
  subst failure
  obtain ⟨left, handled⟩ := stepStatusOk_handled stepped
  obtain ⟨passed, first', second', started, ended, related'⟩ := related.step handled
  obtain rfl := (first_passes started).2 rfl
  have ended' : stepStatus op.second second ⟨.failure, (parseFailure args).2⟩
      = some (0, second') := by
    simp [stepStatus, ended]
  rw [op.second_failure quiet] at ended'
  obtain ⟨_, alone, _, alone', _, head', same⟩ := equal
  obtain ⟨_, _, _, begun, done, _⟩ := Machine.run_cons_iff.mp head'
  rw [op.second_failure quiet] at begun
  cases begun
  cases done
  have data := related'.sameData
  simp only [Option.some.injEq, Prod.mk.injEq, true_and] at ended'
  subst ended'
  cases op with
  | decryptVerify =>
      have recorded := data.2.symm.trans same.2
      simpa [withFailure] using congrArg VerifyData.failureCode recorded
  | encryptSign =>
      have recorded := data.2.symm.trans same.2
      simpa [withFailure] using congrArg SignData.failureCode recorded

theorem numberKept_of_equalsPartsThroughout {op : CombinedOperation}
    {whole first second last : Ctx} {lines : List StatusLine} {answers : List Unit}
    (quiet : op.Quiet second) (related : op.Related whole first second)
    (ran : Machine.run (stepStatusOk op.handler) whole lines = some (answers, last))
    (equal : op.EqualsPartsThroughout whole first second lines)
    : ∀ line ∈ lines, line.FailureNumberKept := by
  induction lines generalizing whole first second answers with
  | nil => simp
  | cons line rest ih =>
      obtain ⟨answer, next, later, stepped, tail, _⟩ := Machine.run_cons_iff.mp ran
      have alone : Machine.run (stepStatusOk op.handler) whole [line] = some ([answer], next) :=
        Machine.run_cons_iff.mpr ⟨answer, next, [], stepped, rfl, rfl⟩
      have kept : line.FailureNumberKept :=
        numberKept_of_equalsParts quiet related stepped
          (equal [line] [answer] next (List.prefix_append [line] rest) alone)
      obtain ⟨first', second', started, ended, related', stays⟩ :=
        related.step_kept (Or.inr ⟨quiet, kept⟩) stepped
      have later := ih (stays quiet) related' tail (equal.step stepped started ended)
      intro found member
      rcases List.mem_cons.mp member with rfl | member
      · exact kept
      · exact later found member

end CombinedOperation

/-- In a run of a combined handler that cuts no FAILURE line, the operation data is what the
two handlers leave alone. Where the second handler does not forward its lines, the data is
the same all along exactly when no line loses its error number.
-/
theorem combinedHandler_equals_parts (op : CombinedOperation) {ctx last : Ctx}
    {lines : List StatusLine} {answers : List Unit}
    (ran : Machine.run (stepStatusOk op.handler) ctx lines = some (answers, last))
    : ((∀ line ∈ lines, line.FailureUncut) → op.EqualsParts ctx ctx lines last)
      ∧ (op.Quiet ctx
        → (op.EqualsPartsThroughout ctx ctx ctx lines
          ↔ ∀ line ∈ lines, line.FailureNumberKept)) := by
  have related := CombinedOperation.Related.refl op ctx
  constructor
  · intro uncut
    obtain ⟨errs, alone, errs', alone', head, head', final⟩ := related.run (Or.inl uncut) ran
    exact ⟨errs, alone, errs', alone', head, head', final.sameData⟩
  · intro quiet
    constructor
    · exact CombinedOperation.numberKept_of_equalsPartsThroughout quiet related ran
    · intro kept early answers middle prefixed ran
      have kept' : ∀ line ∈ early, line.FailureNumberKept :=
        fun line member => kept line (prefixed.subset member)
      obtain ⟨errs, alone, errs', alone', head, head', final⟩ :=
        related.run (Or.inr ⟨quiet, kept'⟩) ran
      exact ⟨errs, alone, errs', alone', head, head', final.sameData⟩

/-- A file name that the first handler cuts off and a failure that is no loss. -/
theorem combinedHandler_equals_parts_plaintext
    : ∃ last,
        Machine.run (stepStatusOk decryptVerifyStatusHandler) {}
            [⟨.plaintext, str "62 1 note end"⟩, ⟨.failure, str "gpg-exit 33554433"⟩]
          = some ([(), ()], last)
        ∧ CombinedOperation.decryptVerify.EqualsParts {} {}
            [⟨.plaintext, str "62 1 note end"⟩, ⟨.failure, str "gpg-exit 33554433"⟩] last := by
  obtain ⟨last, ran⟩ : ∃ last,
      Machine.run (stepStatusOk CombinedOperation.decryptVerify.handler) {}
          [⟨.plaintext, str "62 1 note end"⟩, ⟨.failure, str "gpg-exit 33554433"⟩]
        = some ([(), ()], last) := ⟨_, rfl⟩
  refine ⟨last, ran, (combinedHandler_equals_parts .decryptVerify ran).1 ?_⟩
  intro line member
  simp only [List.mem_cons, List.not_mem_nil, or_false] at member
  rcases member with rfl | rfl
  · exact fun failure => nomatch failure
  · exact fun _ => by decide

/-- The first handler cuts a FAILURE line behind its location, and the second one does not
find an error number there.
-/
theorem combinedHandler_loses_failure
    : ∃ last,
        Machine.run (stepStatusOk decryptVerifyStatusHandler) {} [⟨.failure, str "decrypt 53"⟩]
          = some ([()], last)
        ∧ ¬ CombinedOperation.decryptVerify.EqualsParts {} {}
            [⟨.failure, str "decrypt 53"⟩] last := by
  obtain ⟨last, ran⟩ : ∃ last,
      Machine.run (stepStatusOk CombinedOperation.decryptVerify.handler) {}
        [⟨.failure, str "decrypt 53"⟩] = some ([()], last) := ⟨_, rfl⟩
  refine ⟨last, ran, ?_⟩
  intro equal
  obtain ⟨_, next, _, stepped, done, _⟩ := Machine.run_cons_iff.mp ran
  cases done
  have quiet : CombinedOperation.decryptVerify.Quiet {} := trivial
  have kept := CombinedOperation.numberKept_of_equalsParts quiet
    (CombinedOperation.Related.refl .decryptVerify {}) stepped equal
  exact absurd (kept rfl) (by decide)

end Gpgme
