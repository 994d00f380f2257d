import Gpgme.Operation.DecryptVerdict
import Gpgme.Operation.Encrypt
import Gpgme.Operation.Genkey
import Gpgme.Operation.Sign
import Gpgme.Operation.VerifyRuns

/-! What becomes of the FAILURE lines of an operation whose lines are handled without an
error. Every handler keeps its own failure code and looks at it under its own conditions.
-/

namespace Gpgme

open CString

-----------------------------------------------------------------------------------------
-- The handlers in front
-----------------------------------------------------------------------------------------

theorem progressStatusHandler_ok (ctx : Ctx) (code : StatusCode) (args : Str)
    : ∃ redrawSuggested progressCalls,
        progressStatusHandler ctx code args
        = some (0, args, { ctx with redrawSuggested, progressCalls }) := by
  unfold progressStatusHandler
  split
  · exact ⟨true, ctx.progressCalls, rfl⟩
  · split
    · exact ⟨ctx.redrawSuggested, ctx.progressCalls, rfl⟩
    · dsimp only
      split
      · exact ⟨ctx.redrawSuggested, ctx.progressCalls ++ [parseProgress args], rfl⟩
      · exact ⟨ctx.redrawSuggested, ctx.progressCalls, rfl⟩

theorem progressStatusHandler_andThen (handler : StatusHandler) (ctx : Ctx) (code : StatusCode)
    (args : Str)
    : ∃ redrawSuggested progressCalls,
        (progressStatusHandler.andThen handler) ctx code args
        = handler { ctx with redrawSuggested, progressCalls } code args := by
  obtain ⟨redrawSuggested, progressCalls, handled⟩ := progressStatusHandler_ok ctx code args
  exact ⟨redrawSuggested, progressCalls, by simp [StatusHandler.andThen, handled]⟩

/-- Whether a bad or missing passphrase is on record. -/
def PassphraseData.pending (opd : PassphraseData) : Bool :=
  opd.noPassphrase || opd.badPassphrase != 0

theorem passphraseStatusHandler_ok {ctx next : Ctx} {code : StatusCode} {args left : Str}
    (handled : passphraseStatusHandler ctx code args = some (0, left, next))
    : left = args
      ∧ ∃ passphrase statusCalls,
          next = { ctx with passphrase, statusCalls }
          ∧ passphrase.pending = notePassphrase ctx.passphrase.pending ⟨code, args⟩ := by
  have nonzero : gpgError ErrCode.badPassphrase ≠ 0 := by decide
  revert handled
  cases code <;> simp only [passphraseStatusHandler, notePassphrase]
  case eof =>
    split
    · simp [nonzero]
    · intro handled
      cases handled
      exact ⟨rfl, _, _, rfl, rfl⟩
  case error | failure =>
    intro handled
    obtain ⟨statusCalls, recorded⟩ := ctx.callStatusCb_changes _ args
    simp only [Option.some.injEq, Prod.mk.injEq] at handled
    obtain ⟨-, rfl, rfl⟩ := handled
    exact ⟨rfl, _, statusCalls, recorded, rfl⟩
  all_goals
    intro handled
    cases handled
    exact ⟨rfl, _, _, rfl, by simp [PassphraseData.pending]⟩

theorem passphraseStatusHandler_andThen_ok {handler : StatusHandler} {ctx next : Ctx}
    {code : StatusCode} {args left : Str}
    (handled : (passphraseStatusHandler.andThen handler) ctx code args = some (0, left, next))
    : ∃ passphrase statusCalls,
        passphrase.pending = notePassphrase ctx.passphrase.pending ⟨code, args⟩
        ∧ handler { ctx with passphrase, statusCalls } code args = some (0, left, next) := by
  unfold StatusHandler.andThen at handled
  split at handled
  · cases handled
  · next err args' middle first =>
      split at handled
      · next failed =>
          cases handled
          exact absurd rfl failed
      · next passed =>
          have zero : err = 0 := not_not.mp passed
          subst zero
          obtain ⟨rfl, passphrase, statusCalls, rfl, pending⟩ := passphraseStatusHandler_ok first
          exact ⟨passphrase, statusCalls, pending, handled⟩

theorem passphraseStatusHandler_eof (ctx : Ctx) (args : Str)
    : passphraseStatusHandler ctx .eof args
      = some (if ctx.passphrase.pending then gpgError ErrCode.badPassphrase else 0, args, ctx) := by
  simp only [passphraseStatusHandler]
  cases pending : ctx.passphrase.pending with
  | true =>
      unfold PassphraseData.pending at pending
      simp only [pending, if_true]
  | false =>
      unfold PassphraseData.pending at pending
      simp only [pending, Bool.false_eq_true, if_false]

theorem passphraseStatusHandler_andThen_eof (handler : StatusHandler) (ctx : Ctx) (args : Str)
    : (passphraseStatusHandler.andThen handler) ctx .eof args
      = if ctx.passphrase.pending then some (gpgError ErrCode.badPassphrase, args, ctx)
        else handler ctx .eof args := by
  have nonzero : gpgError ErrCode.badPassphrase ≠ 0 := by decide
  simp only [StatusHandler.andThen, passphraseStatusHandler_eof]
  cases ctx.passphrase.pending with
  | true => simp only [if_true, if_pos nonzero]
  | false => simp only [Bool.false_eq_true, if_false, ne_eq, not_true_eq_false]

-----------------------------------------------------------------------------------------
-- What each handler keeps
-----------------------------------------------------------------------------------------

/-- A view of the context that the progress handler does not touch. -/
def ProgressFree {α : Type} (view : Ctx → α) : Prop :=
  ∀ ctx redrawSuggested progressCalls,
    view { ctx with redrawSuggested, progressCalls } = view ctx

theorem ProgressFree.installed {α : Type} {view : Ctx → α} (free : ProgressFree view)
    {note : α → StatusLine → α} {handler : StatusHandler}
    (tracked
      : ∀ {ctx next : Ctx} {line : StatusLine} {left : Str},
          handler ctx line.code line.args = some (0, left, next)
          → view next = note (view ctx) line)
    {ctx last : Ctx} {lines : List StatusLine} {answers : List Unit}
    (ran : Machine.run (stepStatusOk (progressStatusHandler.andThen handler)) ctx lines
      = some (answers, last))
    : view last = lines.foldl note (view ctx) := by
  refine Machine.run_view ?_ ran
  intro ctx line _ next stepped
  obtain ⟨left, handled⟩ := stepStatusOk_handled stepped
  obtain ⟨_, _, passed⟩ := progressStatusHandler_andThen handler ctx line.code line.args
  rw [passed] at handled
  rw [tracked handled, free]

theorem ProgressFree.installed_flag {flag : Ctx → Bool} (free : ProgressFree flag)
    {sets : StatusLine → Bool} {handler : StatusHandler}
    (tracked
      : ∀ {ctx next : Ctx} {line : StatusLine} {left : Str},
          handler ctx line.code line.args = some (0, left, next)
          → flag next = (flag ctx || sets line))
    {ctx last : Ctx} {lines : List StatusLine} {answers : List Unit}
    (ran : Machine.run (stepStatusOk (progressStatusHandler.andThen handler)) ctx lines
      = some (answers, last))
    : flag last = (flag ctx || lines.any sets) := by
  rw [← foldl_flag]
  exact free.installed tracked ran

theorem ProgressFree.installed_preserves {holds : Ctx → Prop} (free : ProgressFree holds)
    {handler : StatusHandler}
    (preserved
      : ∀ {ctx next : Ctx} {line : StatusLine} {left : Str},
          handler ctx line.code line.args = some (0, left, next) → holds ctx → holds next)
    {ctx last : Ctx} {lines : List StatusLine} {answers : List Unit} (initial : holds ctx)
    (ran : Machine.run (stepStatusOk (progressStatusHandler.andThen handler)) ctx lines
      = some (answers, last))
    : holds last := by
  refine Machine.run_preserves ?_ initial ran
  intro ctx line _ next held stepped
  obtain ⟨left, handled⟩ := stepStatusOk_handled stepped
  obtain ⟨_, _, passed⟩ := progressStatusHandler_andThen handler ctx line.code line.args
  rw [passed] at handled
  apply preserved handled
  rwa [free]

theorem decryptStatusSwitch_failureCode {ctx next : Ctx} {code : StatusCode} {args left : Str}
    {err : GpgError} (handled : decryptStatusSwitch ctx code args = some (err, left, next))
    : next.decrypt.failureCode = noteFailure ctx.decrypt.failureCode ⟨code, args⟩ := by
  revert handled
  cases code <;> simp only [decryptStatusSwitch, noteFailure]
  case error =>
    intro handled
    cases handled
    have verdict := congrArg DecryptVerdict.failureCode (parseStatusError_verdict args ctx)
    exact verdict.trans (DecryptVerdict.noteError_frame _ _).2.2.2.1
  case decryptionInfo =>
    intro handled
    cases handled
    unfold parseDecryptionInfo
    split <;> rfl
  case inquireMaxlen =>
    intro handled
    cases handled
    obtain ⟨_, recorded⟩ := ctx.callStatusCb_changes (str "INQUIRE_MAXLEN") args
    rw [recorded]
  case encTo | noSeckey =>
    split <;>
      · intro handled
        cases handled
        rfl
  all_goals
    intro handled
    cases handled
    rfl

theorem decryptStatusHandler_keeps {ctx next : Ctx} {line : StatusLine} {left : Str}
    (handled : decryptStatusHandler ctx line.code line.args = some (0, left, next))
    : next.verdict.pending = notePassphrase ctx.verdict.pending line
      ∧ next.verdict.okay = (ctx.verdict.okay || line.code == .decryptionOkay)
      ∧ next.verdict.failed = (ctx.verdict.failed || line.code == .decryptionFailed)
      ∧ next.verdict.failureCode = noteFailure ctx.verdict.failureCode line := by
  obtain ⟨_, _, _, handled', verdict, -⟩ := decryptStatusHandler_verdict ctx line
  rw [handled] at handled'
  cases handled'
  obtain ⟨_, _, -, switched⟩ := passphraseStatusHandler_andThen_ok handled
  have failureCode := decryptStatusSwitch_failureCode switched
  obtain ⟨pending, okay, failed⟩ := ctx.verdict.note_flags ctx.callback line
  rw [← verdict] at pending okay failed
  exact ⟨pending, okay, failed, failureCode⟩

theorem parseInvRecp_error {args : Str} {kcFpr : Option Str} {kcFlags : Nat} {err : GpgError}
    (failed : parseInvRecp args kcFpr kcFlags = .error err)
    : err ≠ 0 := by
  have nonzero : invEngine ≠ 0 := by decide
  unfold parseInvRecp at failed
  dsimp only at failed
  split at failed
  · cases failed
    exact nonzero
  · cases failed

theorem encryptStatusHandler_keeps {ctx next : Ctx} {line : StatusLine} {left : Str}
    (handled : encryptStatusHandler ctx line.code line.args = some (0, left, next))
    : next.encrypt.failureCode = noteFailure ctx.encrypt.failureCode line
      ∧ (!next.encrypt.invalidRecipients.isEmpty)
        = (!ctx.encrypt.invalidRecipients.isEmpty || line.code == .invRecp) := by
  obtain ⟨code, args⟩ := line
  revert handled
  cases code <;> simp only [encryptStatusHandler, noteFailure]
  case invRecp =>
    split
    · next failed =>
        intro handled
        cases handled
        exact absurd rfl (parseInvRecp_error failed)
    · intro handled
      cases handled
      simp
  all_goals
    simp only [Option.some.injEq, Prod.mk.injEq]
    intro handled
    obtain ⟨-, -, rfl⟩ := handled
    simp

theorem noteInvalidSigner_ok {ctx next : Ctx} {args left : Str}
    (handled : noteInvalidSigner ctx args = some (0, left, next))
    : ∃ key,
        next = { ctx with
          sign := { ctx.sign with
            kcFpr := none
            invalidSigners := ctx.sign.invalidSigners ++ [key] } } := by
  unfold noteInvalidSigner at handled
  dsimp only at handled
  split at handled
  · next failed =>
      cases handled
      exact absurd rfl (parseInvRecp_error failed)
  · next key _ =>
      cases handled
      exact ⟨key, rfl⟩

/-- An invalid signer was reported. An INV_RECP line is only skipped behind an INV_SGNR
line, and that one is recorded.
-/
def SignData.signerReported (opd : SignData) : Bool :=
  opd.invSgnrSeen || !opd.invalidSigners.isEmpty

theorem signStatusSwitch_keeps {ctx next : Ctx} {code : StatusCode} {args left : Str}
    (handled : signStatusSwitch ctx code args = some (0, left, next))
    : next.passphrase = ctx.passphrase
      ∧ next.protocol = ctx.protocol
      ∧ next.sign.sigCreatedSeen = (ctx.sign.sigCreatedSeen || code == .sigCreated)
      ∧ next.sign.signerReported
        = (ctx.sign.signerReported || (code == .invRecp || code == .invSgnr))
      ∧ ((ctx.sign.invSgnrSeen = true → ctx.sign.invalidSigners ≠ [])
        → next.sign.invSgnrSeen = true → next.sign.invalidSigners ≠ []) := by
  revert handled
  cases code <;> simp only [signStatusSwitch, SignData.signerReported]
  case sigCreated =>
    split <;>
      · simp only [Option.some.injEq, Prod.mk.injEq]
        intro handled
        obtain ⟨-, -, rfl⟩ := handled
        simp
  case invRecp =>
    split
    · next skipped =>
        intro handled
        cases handled
        simp_all
    · intro handled
      obtain ⟨key, rfl⟩ := noteInvalidSigner_ok handled
      simp
  case invSgnr =>
    intro handled
    obtain ⟨key, rfl⟩ := noteInvalidSigner_ok handled
    simp
  case inquireMaxlen =>
    simp only [Option.some.injEq, Prod.mk.injEq]
    intro handled
    obtain ⟨-, -, rfl⟩ := handled
    obtain ⟨_, recorded⟩ := ctx.callStatusCb_changes (str "INQUIRE_MAXLEN") args
    simp [recorded]
  all_goals
    simp only [Option.some.injEq, Prod.mk.injEq]
    intro handled
    obtain ⟨-, -, rfl⟩ := handled
    simp

/-- The error number that an ERROR line reports to a key generation. -/
def genkeyErrorNumber (args : Str) : GpgError :=
  match parseGenkeyError args with
  | .error _ => 0
  | .ok (err, _) => err

/-- A KEY_CREATED line for a primary key, a subkey or both. -/
def createsKey (args : Str) : Bool :=
  args.head? == some 66 || args.head? == some 80 || args.head? == some 83

theorem noteKeyCreated_keeps (opd : GenkeyData) (args : Str)
    : (noteKeyCreated opd args).failureCode = opd.failureCode
      ∧ (noteKeyCreated opd args).errorCode = opd.errorCode
      ∧ (noteKeyCreated opd args).uidmode = opd.uidmode
      ∧ ((noteKeyCreated opd args).primary || (noteKeyCreated opd args).sub)
        = (opd.primary || opd.sub || createsKey args) := by
  unfold noteKeyCreated createsKey
  split
  · simp
  · next letter rest =>
      dsimp only
      split <;>
        · simp only [List.head?_cons, Option.some_beq_some, true_and]
          grind

theorem genkeyStatusSwitch_keeps {ctx next : Ctx} {line : StatusLine} {left : Str}
    (handled : genkeyStatusSwitch ctx line.code line.args = some (0, left, next))
    : next.genkey.failureCode = noteFailure ctx.genkey.failureCode line
      ∧ next.genkey.uidmode = ctx.genkey.uidmode
      ∧ (next.genkey.errorCode != 0)
        = (ctx.genkey.errorCode != 0
          || (line.code == .error && genkeyErrorNumber line.args != 0))
      ∧ (next.genkey.primary || next.genkey.sub)
        = ((ctx.genkey.primary || ctx.genkey.sub)
          || (line.code == .keyCreated && createsKey line.args)) := by
  have nonzero : invEngine ≠ 0 := by decide
  obtain ⟨code, args⟩ := line
  revert handled
  cases code <;> simp only [genkeyStatusSwitch, noteFailure]
  case keyCreated =>
    obtain ⟨failureCode, errorCode, uidmode, created⟩ := noteKeyCreated_keeps ctx.genkey args
    intro handled
    cases handled
    simp [failureCode, errorCode, uidmode, created]
  case error =>
    split
    · next err failed =>
        intro handled
        cases handled
        unfold parseGenkeyError at failed
        split at failed
        · exact absurd (Except.error.inj failed) nonzero
        · cases failed
    · next err left parsed =>
        intro handled
        cases handled
        by_cases first : ctx.genkey.errorCode = 0 <;> simp [first, genkeyErrorNumber, parsed]
  case eof =>
    unfold genkeyEof
    (repeat' split) <;>
      · simp only [Option.some.injEq, Prod.mk.injEq]
        intro handled
        obtain ⟨-, -, rfl⟩ := handled
        simp
  case inquireMaxlen =>
    simp only [Option.some.injEq, Prod.mk.injEq]
    intro handled
    obtain ⟨-, -, rfl⟩ := handled
    obtain ⟨_, recorded⟩ := ctx.callStatusCb_changes (str "INQUIRE_MAXLEN") args
    simp [recorded]
  all_goals
    simp only [Option.some.injEq, Prod.mk.injEq]
    intro handled
    obtain ⟨-, -, rfl⟩ := handled
    simp

theorem VerifyData.parseAt_failureCode {opd opd' : VerifyData} {addr : Nat} {err : GpgError}
    {left : Str} {parse : Signature → Option SigResult}
    (parsed : opd.parseAt addr parse = some (err, left, opd'))
    : opd'.failureCode = opd.failureCode := by
  unfold parseAt at parsed
  split at parsed
  · cases parsed
  · simp only [Option.map_eq_some_iff, Prod.exists, Prod.mk.injEq] at parsed
    obtain ⟨_, _, _, _, _, _, rfl⟩ := parsed
    rfl

theorem VerifyData.parseCurrent_failureCode {opd opd' : VerifyData} {args left : Str}
    {err : GpgError} {parse : Signature → Option SigResult}
    (parsed : opd.parseCurrent args parse = some (err, left, opd'))
    : opd'.failureCode = opd.failureCode := by
  unfold parseCurrent at parsed
  split at parsed
  · cases parsed
    rfl
  · exact parseAt_failureCode parsed

theorem VerifyData.summarize_failureCode (opd : VerifyData)
    : opd.summarize.failureCode = opd.failureCode := by
  unfold summarize
  split <;> rfl

theorem prepareNewSig_failureCode {opd opd' : VerifyData}
    (prepared : prepareNewSig opd = some opd')
    : opd'.failureCode = opd.failureCode := by
  unfold prepareNewSig at prepared
  split at prepared
  · split at prepared
    · cases prepared
      rfl
    · cases prepared
  · cases prepared
    rfl

theorem parseNewSig_failureCode {opd opd' : VerifyData} {code : StatusCode} {args left : Str}
    {protocol : Protocol} {err : GpgError}
    (parsed : parseNewSig opd code args protocol = some (err, left, opd'))
    : opd'.failureCode = opd.failureCode := by
  unfold parseNewSig at parsed
  split at parsed
  · cases parsed
  · next base prepared =>
      have kept : base.failureCode = opd.failureCode := by
        split at prepared
        · cases prepared
          rfl
        · exact prepareNewSig_failureCode prepared
      unfold parsePreparedSig at parsed
      split at parsed
      · cases parsed
      · exact (VerifyData.parseAt_failureCode parsed).trans kept

theorem removeLastSig_failureCode {opd opd' : VerifyData} {addr : Nat}
    (removed : removeLastSig opd addr = some opd')
    : opd'.failureCode = opd.failureCode := by
  unfold removeLastSig at removed
  split at removed
  · cases removed
  · split at removed
    · cases removed
    · split at removed
      · cases removed
        rfl
      · simp only [Option.map_eq_some_iff] at removed
        obtain ⟨_, _, rfl⟩ := removed
        rfl

theorem verifyEof_failureCode {opd opd' : VerifyData} {err : GpgError}
    (ended : verifyEof opd = some (err, opd'))
    : opd'.failureCode = opd.failureCode := by
  have base : (if opd.didPrepareNewSig then opd else opd.summarize).failureCode
      = opd.failureCode := by
    split
    · rfl
    · exact opd.summarize_failureCode
  simp only [verifyEof, Option.map_eq_some_iff, Prod.mk.injEq] at ended
  obtain ⟨removed, found, -, rfl⟩ := ended
  rw [← base]
  split at found
  · have kept := removeLastSig_failureCode found
    exact kept
  · cases found
    rfl

theorem verifyStatusSwitch_failureCode {ctx : Ctx} {opd' : VerifyData} {code : StatusCode}
    {args left : Str} {err : GpgError}
    (handled : verifyStatusSwitch ctx code args = some (err, left, opd'))
    : opd'.failureCode = noteFailure ctx.verify.failureCode ⟨code, args⟩ := by
  cases code <;> simp only [verifyStatusSwitch, noteFailure] at handled ⊢
  case newsig =>
    simp only [Option.map_eq_some_iff, Prod.mk.injEq] at handled
    obtain ⟨base, prepared, -, -, rfl⟩ := handled
    exact (prepareNewSig_failureCode prepared).trans ctx.verify.summarize_failureCode
  case goodsig | expsig | expkeysig | badsig | errsig | revkeysig =>
    rw [parseNewSig_failureCode handled]
    dsimp only
    split
    · rfl
    · exact ctx.verify.summarize_failureCode
  case nodata | unexpected | error =>
    split at handled
    · cases handled
      rfl
    · have kept := VerifyData.parseAt_failureCode handled
      exact kept
  case tofuUser =>
    split at handled
    · cases handled
      rfl
    · simp only [Option.map_eq_some_iff, Prod.exists] at handled
      obtain ⟨_, _, base, parsed, result⟩ := handled
      have kept := VerifyData.parseAt_failureCode parsed
      split at result <;>
        · cases result
          exact kept
  case tofuStats | tofuStatsLong =>
    split at handled
    · cases handled
      rfl
    · have kept := VerifyData.parseCurrent_failureCode handled
      exact kept
  case eof =>
    simp only [Option.map_eq_some_iff, Prod.exists, Prod.mk.injEq] at handled
    obtain ⟨_, _, ended, _, _, rfl⟩ := handled
    exact verifyEof_failureCode ended
  case plaintext =>
    split at handled <;>
      · cases handled
        rfl
  case verificationComplianceMode =>
    split at handled
    · split at handled
      · cases handled
      · exact VerifyData.parseAt_failureCode handled
    · cases handled
      rfl
  case validsig | notationName | notationFlags | notationData | policyUrl | trustUndefined
      | trustNever | trustMarginal | trustFully | trustUltimate | pkaTrustBad | pkaTrustGood =>
    have kept := VerifyData.parseCurrent_failureCode handled
    exact kept
  all_goals
    cases handled
    rfl

theorem verifyStatusHandler_keeps {ctx next : Ctx} {line : StatusLine} {left : Str}
    (handled : verifyStatusHandler ctx line.code line.args = some (0, left, next))
    : next.verify.failureCode = noteFailure ctx.verify.failureCode line
      ∧ ((∃ seg, ctx.verify.Follows seg) → ∃ seg, next.verify.Follows seg) := by
  simp only [verifyStatusHandler, Option.map_eq_some_iff, Prod.exists, Prod.mk.injEq] at handled
  obtain ⟨_, _, opd', switched, rfl, rfl, rfl⟩ := handled
  refine ⟨verifyStatusSwitch_failureCode switched, ?_⟩
  intro held
  obtain ⟨seg, follows⟩ := held
  exact ⟨_, verifyStatusSwitch_follows follows switched⟩

-----------------------------------------------------------------------------------------
-- The operations
-----------------------------------------------------------------------------------------

/-- The operations whose status handlers store a failure code, and the encryption with a
passphrase.
-/
inductive Operation where
  | decrypt
  | verify
  | encrypt (symmetric : Bool)
  | sign
  | genkey
deriving DecidableEq, Repr

namespace Operation

/-- The status handler that an operation installs. -/
def handler : Operation → StatusHandler
  | decrypt => decryptStatusHandlerInstalled
  | verify => verifyStatusHandlerInstalled
  | encrypt false => encryptStatusHandlerInstalled
  | encrypt true => encryptSymStatusHandlerInstalled
  | sign => signStatusHandlerInstalled
  | genkey => genkeyStatusHandler

/-- The operation has been set up in the context, and no status line has been handled. -/
def Fresh (ctx : Ctx) : Operation → Prop
  | decrypt => ctx.FreshDecrypt
  | verify => ctx.verify = {}
  | encrypt _ => ctx.passphrase = {} ∧ ctx.encrypt = {}
  | sign => ctx.passphrase = {} ∧ ∃ ignoreInvRecp, ctx.sign = { ignoreInvRecp }
  | genkey => ∃ uidmode, ctx.genkey = { uidmode }

/-- The lines make the operation fail at the end of file. Only three of the handlers look
at the failure code there, and for those the last FAILURE line counts.
-/
def Fails (ctx : Ctx) (lines : List StatusLine) : Operation → Prop
  | decrypt =>
      passphrasePending lines = true
      ∨ linesContain lines .decryptionFailed = true
      ∨ linesContain lines .decryptionOkay = false
      ∨ lastFailure lines ≠ 0
  | verify => lastFailure lines ≠ 0
  | encrypt false => linesContain lines .invRecp = true ∨ lastFailure lines ≠ 0
  | encrypt true => passphrasePending lines = true
  | sign =>
      passphrasePending lines = true
      ∨ linesContain lines .invRecp = true
      ∨ linesContain lines .invSgnr = true
      ∨ (linesContain lines .sigCreated = false ∧ ctx.protocol ≠ .uiserver)
  | genkey =>
      (∃ line ∈ lines, line.code = .error ∧ genkeyErrorNumber line.args ≠ 0)
      ∨ (ctx.genkey.uidmode = 0
        ∧ ¬ ∃ line ∈ lines, line.code = .keyCreated ∧ createsKey line.args = true)
      ∨ lastFailure lines ≠ 0

end Operation

variable {ctx last : Ctx} {lines : List StatusLine} {answers : List Unit}

theorem stepStatus_installed_eof (handler : StatusHandler) (ctx : Ctx)
    : ∃ redrawSuggested progressCalls,
        stepStatus (progressStatusHandler.andThen handler) ctx eofLine
        = stepStatus handler { ctx with redrawSuggested, progressCalls } eofLine := by
  obtain ⟨redrawSuggested, progressCalls, passed⟩ :=
    progressStatusHandler_andThen handler ctx .eof []
  exact ⟨redrawSuggested, progressCalls, by simp only [stepStatus, eofLine, passed]⟩

theorem stepStatus_eof {handler : StatusHandler} {ctx next : Ctx} {err : GpgError} {left : Str}
    (ended : handler ctx .eof [] = some (err, left, next))
    : stepStatus handler ctx eofLine = some (err, next) := by
  simp only [stepStatus, eofLine, ended, Option.map_some]

theorem decrypt_eof_fails_iff (fresh : ctx.FreshDecrypt)
    (ran : Machine.run (stepStatusOk decryptStatusHandlerInstalled) ctx lines
      = some (answers, last))
    : ∃ err final,
        stepStatus decryptStatusHandlerInstalled last eofLine = some (err, final)
        ∧ (err ≠ 0 ↔ Operation.Fails ctx lines .decrypt) := by
  have pending := ProgressFree.installed (fun _ _ _ => rfl)
    (fun handled => (decryptStatusHandler_keeps handled).1) ran
  have okayFree : ProgressFree (fun ctx => ctx.verdict.okay) := fun _ _ _ => rfl
  have okay := okayFree.installed_flag
    (fun handled => (decryptStatusHandler_keeps handled).2.1) ran
  have failedFree : ProgressFree (fun ctx => ctx.verdict.failed) := fun _ _ _ => rfl
  have failed := failedFree.installed_flag
    (fun handled => (decryptStatusHandler_keeps handled).2.2.1) ran
  have failure := ProgressFree.installed (fun _ _ _ => rfl)
    (fun handled => (decryptStatusHandler_keeps handled).2.2.2) ran
  rw [fresh.verdict_eq] at pending okay failed failure
  obtain ⟨redrawSuggested, progressCalls, passed⟩ :=
    stepStatus_installed_eof decryptStatusHandler last
  obtain ⟨err, ended, fails⟩ :=
    decryptStatusHandler_eof_fails_iff { last with redrawSuggested, progressCalls } []
  refine ⟨err, _, passed.trans (stepStatus_eof ended), ?_⟩
  have same : Ctx.verdict { last with redrawSuggested, progressCalls } = last.verdict := rfl
  rw [fails, same, pending, okay, failed, failure]
  simp only [Bool.false_or]
  rfl

theorem verify_eof_fails_iff (fresh : ctx.verify = {})
    (ran : Machine.run (stepStatusOk verifyStatusHandlerInstalled) ctx lines
      = some (answers, last))
    : ∃ err final,
        stepStatus verifyStatusHandlerInstalled last eofLine = some (err, final)
        ∧ (err ≠ 0 ↔ Operation.Fails ctx lines .verify) := by
  have failureFree : ProgressFree (fun ctx => ctx.verify.failureCode) := fun _ _ _ => rfl
  have failure := failureFree.installed
    (fun handled => (verifyStatusHandler_keeps handled).1) ran
  have followsFree : ProgressFree (fun ctx => ∃ seg, ctx.verify.Follows seg) := fun _ _ _ => rfl
  obtain ⟨seg, follows⟩ := followsFree.installed_preserves
    (fun handled => (verifyStatusHandler_keeps handled).2)
    ⟨{}, fresh ▸ VerifyData.follows_fresh⟩ ran
  obtain ⟨redrawSuggested, progressCalls, passed⟩ :=
    stepStatus_installed_eof verifyStatusHandler last
  obtain ⟨next, ended, -⟩ := verifyEof_follows follows []
  have answered : verifyStatusHandler { last with redrawSuggested, progressCalls } .eof []
      = some (last.verify.failureCode, [],
          { last with redrawSuggested, progressCalls, verify := next }) := by
    simp only [verifyStatusHandler, verifyStatusSwitch, ended, Option.map_some]
  refine ⟨last.verify.failureCode, _, passed.trans (stepStatus_eof answered), ?_⟩
  rw [failure, fresh]
  rfl

theorem encrypt_eof_fails_iff (fresh : ctx.encrypt = {})
    (ran : Machine.run (stepStatusOk encryptStatusHandlerInstalled) ctx lines
      = some (answers, last))
    : ∃ err final,
        stepStatus encryptStatusHandlerInstalled last eofLine = some (err, final)
        ∧ (err ≠ 0 ↔ Operation.Fails ctx lines (.encrypt false)) := by
  have nonzero : gpgError ErrCode.unusablePubkey ≠ 0 := by decide
  have failureFree : ProgressFree (fun ctx => ctx.encrypt.failureCode) := fun _ _ _ => rfl
  have failure := failureFree.installed
    (fun handled => (encryptStatusHandler_keeps handled).1) ran
  have invalidFree : ProgressFree (fun ctx => !ctx.encrypt.invalidRecipients.isEmpty) :=
    fun _ _ _ => rfl
  have invalid := invalidFree.installed_flag
    (fun handled => (encryptStatusHandler_keeps handled).2) ran
  rw [fresh] at failure invalid
  obtain ⟨redrawSuggested, progressCalls, passed⟩ :=
    stepStatus_installed_eof encryptStatusHandler last
  have answered : encryptStatusHandler { last with redrawSuggested, progressCalls } .eof []
      = some (encryptEof last.encrypt, [], { last with redrawSuggested, progressCalls }) := rfl
  refine ⟨encryptEof last.encrypt, _, passed.trans (stepStatus_eof answered), ?_⟩
  have reported : last.encrypt.invalidRecipients ≠ [] ↔ linesContain lines .invRecp = true := by
    rw [← List.isEmpty_eq_false_iff, ← Bool.not_eq_true', invalid]
    rfl
  simp only [Operation.Fails, ← reported, encryptEof, lastFailure, ← failure]
  by_cases none : last.encrypt.invalidRecipients = []
  · simp [none]
  · simp [none, nonzero]

theorem encryptSym_eof_fails_iff (fresh : ctx.passphrase = {})
    (ran : Machine.run (stepStatusOk encryptSymStatusHandlerInstalled) ctx lines
      = some (answers, last))
    : ∃ err final,
        stepStatus encryptSymStatusHandlerInstalled last eofLine = some (err, final)
        ∧ (err ≠ 0 ↔ Operation.Fails ctx lines (.encrypt true)) := by
  have nonzero : gpgError ErrCode.badPassphrase ≠ 0 := by decide
  have pendingFree : ProgressFree (fun ctx => ctx.passphrase.pending) := fun _ _ _ => rfl
  have pending : last.passphrase.pending = lines.foldl notePassphrase ctx.passphrase.pending := by
    refine pendingFree.installed ?_ ran
    intro ctx next line left handled
    obtain ⟨-, _, _, rfl, pending⟩ := passphraseStatusHandler_ok handled
    exact pending
  rw [fresh] at pending
  obtain ⟨redrawSuggested, progressCalls, passed⟩ :=
    stepStatus_installed_eof passphraseStatusHandler last
  have answered : passphraseStatusHandler { last with redrawSuggested, progressCalls } .eof []
      = some (if last.passphrase.pending then gpgError ErrCode.badPassphrase else 0, [],
          { last with redrawSuggested, progressCalls }) :=
    passphraseStatusHandler_eof _ _
  refine ⟨_, _, passed.trans (stepStatus_eof answered), ?_⟩
  have outcome : last.passphrase.pending = passphrasePending lines := pending
  simp [Operation.Fails, outcome, nonzero]

theorem signEof_ne_zero_iff (opd : SignData) (protocol : Protocol)
    : signEof opd protocol ≠ 0
      ↔ opd.invalidSigners ≠ [] ∨ (opd.sigCreatedSeen = false ∧ protocol ≠ .uiserver) := by
  have unusableSeckey : gpgError ErrCode.unusableSeckey ≠ 0 := by decide
  have general : gpgError ErrCode.general ≠ 0 := by decide
  unfold signEof
  split
  · next invalid => simp [invalid, unusableSeckey]
  · next valid =>
      split
      · next unreported =>
          have reason : (if opd.failureCode ≠ 0 then opd.failureCode
              else gpgError ErrCode.general) ≠ 0 := by
            split <;> assumption
          simp_all
      · next reported => simp_all

theorem signStatusHandler_keeps {ctx next : Ctx} {line : StatusLine} {left : Str}
    (handled : signStatusHandler ctx line.code line.args = some (0, left, next))
    : next.passphrase.pending = notePassphrase ctx.passphrase.pending line
      ∧ next.protocol = ctx.protocol
      ∧ next.sign.sigCreatedSeen = (ctx.sign.sigCreatedSeen || line.code == .sigCreated)
      ∧ next.sign.signerReported
        = (ctx.sign.signerReported || (line.code == .invRecp || line.code == .invSgnr))
      ∧ ((ctx.sign.invSgnrSeen = true → ctx.sign.invalidSigners ≠ [])
        → next.sign.invSgnrSeen = true → next.sign.invalidSigners ≠ []) := by
  obtain ⟨passphrase, statusCalls, pending, switched⟩ :=
    passphraseStatusHandler_andThen_ok handled
  obtain ⟨same, rest⟩ := signStatusSwitch_keeps switched
  exact ⟨by rw [same]; exact pending, rest⟩

theorem sign_eof_fails_iff (freshPassphrase : ctx.passphrase = {})
    (fresh : ∃ ignoreInvRecp, ctx.sign = { ignoreInvRecp })
    (ran : Machine.run (stepStatusOk signStatusHandlerInstalled) ctx lines
      = some (answers, last))
    : ∃ err final,
        stepStatus signStatusHandlerInstalled last eofLine = some (err, final)
        ∧ (err ≠ 0 ↔ Operation.Fails ctx lines .sign) := by
  have badPassphrase : gpgError ErrCode.badPassphrase ≠ 0 := by decide
  have pendingFree : ProgressFree (fun ctx => ctx.passphrase.pending) := fun _ _ _ => rfl
  have pending := pendingFree.installed
    (fun handled => (signStatusHandler_keeps handled).1) ran
  have protocolFree : ProgressFree (fun other => other.protocol = ctx.protocol) := fun _ _ _ => rfl
  have protocol := protocolFree.installed_preserves
    (fun handled same => (signStatusHandler_keeps handled).2.1.trans same) rfl ran
  have createdFree : ProgressFree (fun ctx => ctx.sign.sigCreatedSeen) := fun _ _ _ => rfl
  have created := createdFree.installed_flag
    (fun handled => (signStatusHandler_keeps handled).2.2.1) ran
  have signerFree : ProgressFree (fun ctx => ctx.sign.signerReported) := fun _ _ _ => rfl
  have signer := signerFree.installed_flag
    (fun handled => (signStatusHandler_keeps handled).2.2.2.1) ran
  have recordedFree : ProgressFree (fun ctx =>
      ctx.sign.invSgnrSeen = true → ctx.sign.invalidSigners ≠ []) := fun _ _ _ => rfl
  obtain ⟨ignoreInvRecp, freshSign⟩ := fresh
  have recorded := recordedFree.installed_preserves
    (fun handled => (signStatusHandler_keeps handled).2.2.2.2) (by simp [freshSign]) ran
  rw [freshPassphrase] at pending
  rw [freshSign] at created signer
  obtain ⟨redrawSuggested, progressCalls, passed⟩ :=
    stepStatus_installed_eof signStatusHandler last
  have answered : signStatusHandler { last with redrawSuggested, progressCalls } .eof []
      = some (if last.passphrase.pending then gpgError ErrCode.badPassphrase
          else signEof last.sign last.protocol, [], { last with redrawSuggested, progressCalls }) := by
    rw [signStatusHandler, passphraseStatusHandler_andThen_eof]
    cases last.passphrase.pending with
    | true => simp only [if_true]
    | false => simp only [Bool.false_eq_true, if_false, signStatusSwitch]
  refine ⟨_, _, passed.trans (stepStatus_eof answered), ?_⟩
  have outcome : last.passphrase.pending = passphrasePending lines := pending
  have seen : last.sign.sigCreatedSeen = linesContain lines .sigCreated := by
    rw [created]
    rfl
  have invalid : last.sign.invalidSigners ≠ []
      ↔ linesContain lines .invRecp = true ∨ linesContain lines .invSgnr = true := by
    have reported : last.sign.signerReported = true ↔ last.sign.invalidSigners ≠ [] := by
      cases sgnr : last.sign.invSgnrSeen with
      | true => simp [SignData.signerReported, sgnr, recorded sgnr]
      | false => simp [SignData.signerReported, sgnr]
    rw [← reported, signer]
    simp only [SignData.signerReported, linesContain, List.any_eq_true]
    grind
  rw [outcome]
  simp only [Operation.Fails]
  rw [← protocol]
  cases passphrasePending lines with
  | true => simp [badPassphrase]
  | false =>
      simp only [Bool.false_eq_true, if_false, false_or]
      rw [signEof_ne_zero_iff, ← or_assoc, ← invalid, ← seen]

theorem genkeyEof_ne_zero_iff (opd : GenkeyData)
    : (genkeyEof opd).1 ≠ 0
      ↔ opd.errorCode ≠ 0
        ∨ (opd.uidmode = 0 ∧ (opd.primary || opd.sub) = false)
        ∨ opd.failureCode ≠ 0 := by
  have general : gpgError ErrCode.general ≠ 0 := by decide
  unfold genkeyEof
  split
  · next error => simp [error]
  · next noError =>
      split
      · next noKey =>
          obtain ⟨mode, noPrimary, noSub⟩ := noKey
          simp_all
      · next other =>
          split
          · next failed => simp [failed]
          · next okay =>
              split <;> simp_all

theorem genkey_eof_fails_iff (fresh : ∃ uidmode, ctx.genkey = { uidmode })
    (ran : Machine.run (stepStatusOk genkeyStatusHandler) ctx lines = some (answers, last))
    : ∃ err final,
        stepStatus genkeyStatusHandler last eofLine = some (err, final)
        ∧ (err ≠ 0 ↔ Operation.Fails ctx lines .genkey) := by
  have general : gpgError ErrCode.general ≠ 0 := by decide
  have failureFree : ProgressFree (fun ctx => ctx.genkey.failureCode) := fun _ _ _ => rfl
  have failure := failureFree.installed
    (fun handled => (genkeyStatusSwitch_keeps handled).1) ran
  have uidmodeFree : ProgressFree (fun other => other.genkey.uidmode = ctx.genkey.uidmode) :=
    fun _ _ _ => rfl
  have uidmode := uidmodeFree.installed_preserves
    (fun handled same => (genkeyStatusSwitch_keeps handled).2.1.trans same) rfl ran
  have errorFree : ProgressFree (fun ctx => ctx.genkey.errorCode != 0) := fun _ _ _ => rfl
  have error := errorFree.installed_flag
    (fun handled => (genkeyStatusSwitch_keeps handled).2.2.1) ran
  have createdFree : ProgressFree (fun ctx => ctx.genkey.primary || ctx.genkey.sub) :=
    fun _ _ _ => rfl
  have created := createdFree.installed_flag
    (fun handled => (genkeyStatusSwitch_keeps handled).2.2.2) ran
  obtain ⟨mode, freshGenkey⟩ := fresh
  simp only [freshGenkey] at failure error created
  obtain ⟨redrawSuggested, progressCalls, passed⟩ :=
    stepStatus_installed_eof genkeyStatusSwitch last
  have answered : genkeyStatusSwitch { last with redrawSuggested, progressCalls } .eof []
      = some ((genkeyEof last.genkey).1, [],
          { last with redrawSuggested, progressCalls, genkey := (genkeyEof last.genkey).2 }) := rfl
  refine ⟨_, _, passed.trans (stepStatus_eof answered), ?_⟩
  have reported : last.genkey.errorCode ≠ 0
      ↔ ∃ line ∈ lines, line.code = .error ∧ genkeyErrorNumber line.args ≠ 0 := by
    rw [← bne_iff_ne, error]
    simp
  have created' : (last.genkey.primary || last.genkey.sub) = false
      ↔ ¬ ∃ line ∈ lines, line.code = .keyCreated ∧ createsKey line.args = true := by
    rw [created]
    simp
  rw [genkeyEof_ne_zero_iff, reported, created', uidmode, failure]
  rfl

-----------------------------------------------------------------------------------------
-- Lost failures
-----------------------------------------------------------------------------------------

/-- A FAILURE line whose location is not `gpg-exit` and whose error number is not 0. -/
def StatusLine.ReportsFailure (line : StatusLine) : Prop :=
  line.code = .failure
  ∧ word line.args ≠ gpgExit
  ∧ ∃ located, strchrBlank line.args = some located ∧ atoi (word located.tail) ≠ 0

/-- A reported failure reaches the end of file exactly when the lines make the operation
fail there.
-/
theorem failure_reaches_eof_iff (op : Operation) {ctx last : Ctx} {lines : List StatusLine}
    {answers : List Unit} (fresh : op.Fresh ctx)
    (ran : Machine.run (stepStatusOk op.handler) ctx lines = some (answers, last))
    : ∃ err final,
        stepStatus op.handler last eofLine = some (err, final)
        ∧ (((∃ line ∈ lines, line.ReportsFailure) → err ≠ 0)
          ↔ ((∃ line ∈ lines, line.ReportsFailure) → op.Fails ctx lines)) := by
  have fails : ∃ err final,
      stepStatus op.handler last eofLine = some (err, final)
      ∧ (err ≠ 0 ↔ op.Fails ctx lines) := by
    match op, fresh with
    | .decrypt, fresh => exact decrypt_eof_fails_iff fresh ran
    | .verify, fresh => exact verify_eof_fails_iff fresh ran
    | .encrypt false, fresh => exact encrypt_eof_fails_iff fresh.2 ran
    | .encrypt true, fresh => exact encryptSym_eof_fails_iff fresh.1 ran
    | .sign, fresh => exact sign_eof_fails_iff fresh.1 fresh.2 ran
    | .genkey, fresh => exact genkey_eof_fails_iff fresh ran
  obtain ⟨err, final, ended, iff⟩ := fails
  exact ⟨err, final, ended, imp_congr_right (fun _ => iff)⟩

/-- A failure of an encryption that is the last word. -/
theorem failure_reaches_eof_iff_encrypt
    : Operation.Fresh {} (.encrypt false)
      ∧ ∃ last err final,
          Machine.run (stepStatusOk (Operation.encrypt false).handler) {}
              [⟨.failure, str "encrypt 53"⟩] = some ([()], last)
          ∧ stepStatus (Operation.encrypt false).handler last eofLine = some (err, final)
          ∧ err ≠ 0 := by
  have fresh : Operation.Fresh {} (.encrypt false) := ⟨rfl, rfl⟩
  obtain ⟨last, ran⟩ : ∃ last,
      Machine.run (stepStatusOk (Operation.encrypt false).handler) {}
        [⟨.failure, str "encrypt 53"⟩] = some ([()], last) := ⟨_, rfl⟩
  obtain ⟨err, final, ended, iff⟩ := failure_reaches_eof_iff (.encrypt false) fresh ran
  refine ⟨fresh, last, err, final, ran, ended, iff.mpr ?_ ⟨⟨.failure, str "encrypt 53"⟩, ?_⟩⟩
  · intro _
    exact Or.inr (by decide)
  · exact ⟨List.mem_cons_self, rfl, by decide, str " 53", by decide, by decide⟩

/-- The failure that gpg reports when it exits is meant to be ignored, but it overwrites the
one before it. No call returns an error, the last one included.
-/
theorem failure_lost_at_exit
    : ∃ ctx last final,
        Operation.Fresh ctx (.encrypt false)
        ∧ Machine.run (stepStatusOk (Operation.encrypt false).handler) ctx
            [⟨.failure, str "encrypt 53"⟩, ⟨.failure, str "gpg-exit 33554433"⟩]
          = some ([(), ()], last)
        ∧ StatusLine.ReportsFailure ⟨.failure, str "encrypt 53"⟩
        ∧ stepStatus (Operation.encrypt false).handler last eofLine = some (0, final) := by
  obtain ⟨last, ran⟩ : ∃ last,
      Machine.run (stepStatusOk (Operation.encrypt false).handler) {}
        [⟨.failure, str "encrypt 53"⟩, ⟨.failure, str "gpg-exit 33554433"⟩]
      = some ([(), ()], last) := ⟨_, rfl⟩
  obtain ⟨err, final, ended, fails⟩ := encrypt_eof_fails_iff rfl ran
  have lost : err = 0 := by
    by_contra error
    rcases fails.mp error with invalid | failure
    · exact absurd invalid (by decide)
    · exact failure (by decide)
  rw [lost] at ended
  refine ⟨{}, last, final, ⟨rfl, rfl⟩, ran, ?_, ended⟩
  exact ⟨rfl, by decide, str " 53", by decide, by decide⟩

end Gpgme
