import Gpgme.Operation.Decrypt
import Gpgme.Operation.StatusLines

/-! What the status lines of a decryption amount to at the end of file. -/

namespace Gpgme

open CString

-----------------------------------------------------------------------------------------
-- The verdict
-----------------------------------------------------------------------------------------

/-- The status callback of an application that does not get the full status. -/
def Ctx.callback (ctx : Ctx) : Option (List (Str × Str) → GpgError) :=
  if ctx.fullStatus then none else ctx.statusCb

/-- What counts at the end: whether a passphrase is pending, how the decryption went and
which errors were reported. The calls of the status callback are part of it, because the
callback can refuse a line.
-/
structure DecryptVerdict where
  statusCalls : List (Str × Str) := []
  pending : Bool := false
  okay : Bool := false
  failed : Bool := false
  unprotected : Bool := false
  failureCode : GpgError := 0
  pkdecryptFailed : GpgError := 0
  firstError : GpgError := 0

/-- Forward a line to the callback: its answer, and the verdict with the call recorded. -/
def DecryptVerdict.forward (verdict : DecryptVerdict)
    (callback : Option (List (Str × Str) → GpgError)) (keyword args : Str)
    : GpgError × DecryptVerdict :=
  match callback with
  | none => (0, verdict)
  | some answer =>
      let calls := verdict.statusCalls ++ [(keyword, args)]
      (answer calls, { verdict with statusCalls := calls })

/-- The error of a failed public key decryption that an ERROR line reports, if any. -/
def pkdecryptError (location : Str) (err : GpgError) : Option GpgError :=
  if location = str "pkdecrypt_failed" then
    if gpgErrCode err = ErrCode.canceled ∨ gpgErrCode err = ErrCode.fullyCanceled then
      some (gpgErrMake (gpgErrSource err) ErrCode.canceled)
    else if gpgErrCode err = ErrCode.badPassphrase then some err
    else none
  else
    none

/-- The location and the error number of an ERROR line. -/
def decryptErrorFields (args : Str) : Option (Str × GpgError) :=
  match splitFields args 3 with
  | [] => none
  | location :: rest => some (location, statusErrorNumber (location :: rest))

/-- A DECRYPTION_INFO line with neither a modification detection code nor an authenticated
mode.
-/
def infoUnprotected (args : Str) : Bool :=
  match splitFields args 3 with
  | [mdc, _] => atoi mdc == 0
  | mdc :: _ :: aead :: _ => atoi mdc == 0 && atoi aead == 0
  | _ => false

/-- The effect of an ERROR line that is not refused. -/
def DecryptVerdict.noteError (verdict : DecryptVerdict) (args : Str) : DecryptVerdict :=
  match decryptErrorFields args with
  | none => verdict
  | some (location, err) =>
      { verdict with
        pkdecryptFailed := (pkdecryptError location err).getD verdict.pkdecryptFailed
        unprotected := verdict.unprotected || location == str "nomdc_with_legacy_cipher"
        firstError := if verdict.firstError = 0 then err else verdict.firstError }

/-- The effect of one status line. -/
def DecryptVerdict.note (callback : Option (List (Str × Str) → GpgError))
    (verdict : DecryptVerdict) (line : StatusLine)
    : DecryptVerdict :=
  match line.code with
  | .badPassphrase | .missingPassphrase => { verdict with pending := true }
  | .goodPassphrase => { verdict with pending := false }
  | .decryptionOkay => { verdict with okay := true }
  | .decryptionFailed => { verdict with failed := true }
  | .decryptionInfo =>
      { verdict with unprotected := verdict.unprotected || infoUnprotected line.args }
  | .failure =>
      let (refusal, verdict) := verdict.forward callback (str "FAILURE") line.args
      if refusal ≠ 0 then verdict
      else { verdict with failureCode := (parseFailure line.args).1 }
  | .error =>
      let (refusal, verdict) := verdict.forward callback (str "ERROR") line.args
      if refusal ≠ 0 then verdict else verdict.noteError line.args
  | .inquireMaxlen => (verdict.forward callback (str "INQUIRE_MAXLEN") line.args).2
  | _ => verdict

/-- The verdict that a context has reached. -/
def Ctx.verdict (ctx : Ctx) : DecryptVerdict := {
  statusCalls := ctx.statusCalls
  pending := ctx.passphrase.noPassphrase || ctx.passphrase.badPassphrase != 0
  okay := ctx.decrypt.okay
  failed := ctx.decrypt.failed
  unprotected := ctx.decrypt.notIntegrityProtected
  failureCode := ctx.decrypt.failureCode
  pkdecryptFailed := ctx.decrypt.pkdecryptFailed
  firstError := ctx.decrypt.firstStatusError
}

-----------------------------------------------------------------------------------------
-- The handler follows the verdict
-----------------------------------------------------------------------------------------

/-- The two parts of a context that no decryption status line changes. -/
def Ctx.settings (ctx : Ctx) : Option (List (Str × Str) → GpgError) × Bool :=
  (ctx.callback, ctx.ignoreMdcError)

/-- A DECRYPTION_INFO line notes a missing integrity protection. -/
theorem parseDecryptionInfo_verdict (args : Str) (opd : DecryptData) (protocol : Protocol)
    : (parseDecryptionInfo args opd protocol).2.notIntegrityProtected
      = (opd.notIntegrityProtected || infoUnprotected args) := by
  unfold parseDecryptionInfo infoUnprotected
  split
  · next mdc algo rest fields =>
      cases rest <;> simp [fields]
  · next other =>
      split
      · next mdc algo fields => exact absurd fields (other mdc algo [])
      · next mdc algo aead rest fields => exact absurd fields (other mdc algo (aead :: rest))
      · simp

/-- The fields of the operation data that no location of an ERROR line changes. -/
def DecryptData.outcome (opd : DecryptData) : Bool × Bool × GpgError × GpgError :=
  (opd.okay, opd.failed, opd.failureCode, opd.firstStatusError)

/-- The place of an error does not change the outcome. -/
theorem noteErrorLocation_outcome (opd : DecryptData) (location : Str) (err : GpgError)
    (detail : Option Str)
    : (noteErrorLocation opd location err detail).outcome = opd.outcome := by
  unfold noteErrorLocation
  (repeat' split) <;> simp only [DecryptData.outcome]

/-- The place of an error tells whether a public key failed. -/
theorem noteErrorLocation_pkdecryptFailed (opd : DecryptData) (location : Str)
    (err : GpgError) (detail : Option Str)
    : (noteErrorLocation opd location err detail).pkdecryptFailed
      = (pkdecryptError location err).getD opd.pkdecryptFailed := by
  have algorithm : str "decrypt.algorithm" ≠ str "pkdecrypt_failed" := by decide
  have keyusage : str "decrypt.keyusage" ≠ str "pkdecrypt_failed" := by decide
  unfold noteErrorLocation pkdecryptError
  (repeat' split) <;> simp_all

/-- The place of an error tells whether integrity protection is missing. -/
theorem noteErrorLocation_unprotected (opd : DecryptData) (location : Str) (err : GpgError)
    (detail : Option Str)
    : (noteErrorLocation opd location err detail).notIntegrityProtected
      = (opd.notIntegrityProtected || location == str "nomdc_with_legacy_cipher") := by
  have algorithm : (str "decrypt.algorithm" == str "nomdc_with_legacy_cipher") = false := by decide
  have keyusage : (str "decrypt.keyusage" == str "nomdc_with_legacy_cipher") = false := by decide
  have failed : (str "pkdecrypt_failed" == str "nomdc_with_legacy_cipher") = false := by decide
  unfold noteErrorLocation
  (repeat' split) <;> simp_all

/-- An ERROR line notes what the verdict notes. -/
theorem parseStatusError_verdict (args : Str) (ctx : Ctx)
    : Ctx.verdict { ctx with decrypt := (parseStatusError args ctx.decrypt).2 }
      = ctx.verdict.noteError args := by
  unfold parseStatusError DecryptVerdict.noteError decryptErrorFields
  cases splitFields args 3 with
  | nil => rfl
  | cons location rest =>
      simp only
      generalize statusErrorNumber (location :: rest) = err
      have outcome := noteErrorLocation_outcome ctx.decrypt location err rest[1]?
      simp only [DecryptData.outcome, Prod.mk.injEq] at outcome
      by_cases first : ctx.decrypt.firstStatusError = 0 <;>
        rcases eq_or_ne err 0 with rfl | error <;>
          simp_all [Ctx.verdict, noteErrorLocation_pkdecryptFailed, noteErrorLocation_unprotected]

/-- A call of the status callback, seen from the verdict. -/
theorem Ctx.callStatusCb_verdict (ctx : Ctx) (keyword args : Str)
    : (ctx.callStatusCb keyword args).1 = (ctx.verdict.forward ctx.callback keyword args).1
      ∧ (ctx.callStatusCb keyword args).2.verdict
        = (ctx.verdict.forward ctx.callback keyword args).2
      ∧ (ctx.callStatusCb keyword args).2.settings = ctx.settings := by
  rcases ctx with ⟨_, statusCb, fullStatus, _, _, _, _, _, _, _, _, _, _, _, _, _⟩
  cases statusCb <;> cases fullStatus <;> exact ⟨rfl, rfl, rfl⟩

/-- At the end of file a pending passphrase comes first. -/
theorem decryptStatusHandler_eof (ctx : Ctx) (args : Str)
    : decryptStatusHandler ctx .eof args
      = some (if ctx.verdict.pending then gpgError ErrCode.badPassphrase else decryptEof ctx,
          args, ctx) := by
  have nonzero : gpgError ErrCode.badPassphrase ≠ 0 := by decide
  unfold decryptStatusHandler StatusHandler.andThen
  simp only [passphraseStatusHandler, Ctx.verdict]
  by_cases pending : (ctx.passphrase.noPassphrase || ctx.passphrase.badPassphrase != 0) = true
  · simp only [pending, if_true, if_pos nonzero]
  · simp only [pending, Bool.false_eq_true, if_false, ne_eq, not_true_eq_false,
      decryptStatusSwitch]

/-- Handling a line never faults, and the verdict follows it. -/
theorem decryptStatusHandler_verdict (ctx : Ctx) (line : StatusLine)
    : ∃ err args next,
        decryptStatusHandler ctx line.code line.args = some (err, args, next)
        ∧ next.verdict = ctx.verdict.note ctx.callback line
        ∧ next.settings = ctx.settings := by
  obtain ⟨code, text⟩ := line
  cases code
  case eof => exact ⟨_, _, _, decryptStatusHandler_eof ctx text, rfl, rfl⟩
  all_goals unfold decryptStatusHandler StatusHandler.andThen
  case error =>
    obtain ⟨answer, verdict, settings⟩ := ctx.callStatusCb_verdict (str "ERROR") text
    simp only [passphraseStatusHandler, decryptStatusSwitch, DecryptVerdict.note, ← answer]
    split
    · exact ⟨_, _, _, rfl, verdict, settings⟩
    · refine ⟨_, _, _, rfl, ?_, settings⟩
      rw [parseStatusError_verdict, verdict]
  case failure =>
    obtain ⟨answer, verdict, settings⟩ := ctx.callStatusCb_verdict (str "FAILURE") text
    simp only [passphraseStatusHandler, decryptStatusSwitch, DecryptVerdict.note, ← answer]
    split
    · exact ⟨_, _, _, rfl, verdict, settings⟩
    · refine ⟨_, _, _, rfl, ?_, settings⟩
      rw [← verdict]
      simp only [Ctx.verdict]
  all_goals
    simp only [passphraseStatusHandler, decryptStatusSwitch, ne_eq, not_true_eq_false, if_false,
      DecryptVerdict.note]
  case inquireMaxlen =>
    obtain ⟨_, verdict, settings⟩ := Ctx.callStatusCb_verdict
      { ctx with passphrase := { ctx.passphrase with maxlen := some text } }
      (str "INQUIRE_MAXLEN") text
    exact ⟨_, _, _, rfl, verdict, settings⟩
  case decryptionInfo =>
    have info := parseDecryptionInfo_verdict text ctx.decrypt ctx.protocol
    have outcome : (parseDecryptionInfo text ctx.decrypt ctx.protocol).2.outcome
          = ctx.decrypt.outcome
        ∧ (parseDecryptionInfo text ctx.decrypt ctx.protocol).2.pkdecryptFailed
          = ctx.decrypt.pkdecryptFailed := by
      unfold parseDecryptionInfo
      split <;> exact ⟨rfl, rfl⟩
    simp only [DecryptData.outcome, Prod.mk.injEq] at outcome
    exact ⟨_, _, _, rfl, by simp [Ctx.verdict, info, outcome], rfl⟩
  case encTo | noSeckey => split <;> exact ⟨_, _, _, rfl, rfl, rfl⟩
  case badPassphrase | goodPassphrase | missingPassphrase =>
    exact ⟨_, _, _, rfl, by simp [Ctx.verdict], rfl⟩
  all_goals exact ⟨_, _, _, rfl, rfl, rfl⟩

-----------------------------------------------------------------------------------------
-- Sequences of lines
-----------------------------------------------------------------------------------------

/-- The verdict on a sequence of lines. -/
def verdictOf (callback : Option (List (Str × Str) → GpgError)) (calls : List (Str × Str))
    (lines : List StatusLine)
    : DecryptVerdict :=
  lines.foldl (DecryptVerdict.note callback) { statusCalls := calls }

/-- A decryption for which no status line has been handled. -/
structure Ctx.FreshDecrypt (ctx : Ctx) : Prop where
  passphrase : ctx.passphrase = {}
  decrypt : ∃ plaintextDserial, ctx.decrypt = { plaintextDserial }

/-- The verdict at the start. -/
theorem Ctx.FreshDecrypt.verdict_eq {ctx : Ctx} (fresh : ctx.FreshDecrypt)
    : ctx.verdict = { statusCalls := ctx.statusCalls } := by
  obtain ⟨passphrase, _, decrypt⟩ := fresh
  simp [Ctx.verdict, passphrase, decrypt]

/-- A status line is handled as the verdict notes it. -/
theorem stepStatus_decrypt_verdict (ctx : Ctx) (line : StatusLine)
    : ∃ err next,
        stepStatus decryptStatusHandler ctx line = some (err, next)
        ∧ next.verdict = ctx.verdict.note ctx.callback line
        ∧ next.settings = ctx.settings := by
  obtain ⟨err, _, next, handled, verdict, settings⟩ := decryptStatusHandler_verdict ctx line
  exact ⟨err, next, by simp [stepStatus, handled], verdict, settings⟩

/-- Every sequence of lines can be handled, and the verdict follows it; by induction on the
lines.
-/
theorem run_decrypt_verdict (ctx : Ctx) (lines : List StatusLine)
    : ∃ errs last,
        Machine.run (stepStatus decryptStatusHandler) ctx lines = some (errs, last)
        ∧ last.verdict = lines.foldl (DecryptVerdict.note ctx.callback) ctx.verdict
        ∧ last.settings = ctx.settings := by
  induction lines generalizing ctx with
  | nil => exact ⟨[], ctx, rfl, rfl, rfl⟩
  | cons line rest ih =>
      obtain ⟨err, next, stepped, verdict, settings⟩ := stepStatus_decrypt_verdict ctx line
      obtain ⟨errs, last, ran, final, kept⟩ := ih next
      refine ⟨err :: errs, last, by simp [Machine.run, stepped, ran], ?_, kept.trans settings⟩
      have callback : next.callback = ctx.callback := congrArg Prod.fst settings
      rw [final, callback, verdict]
      rfl

-----------------------------------------------------------------------------------------
-- The verdict in terms of the lines
-----------------------------------------------------------------------------------------

variable (callback : Option (List (Str × Str) → GpgError))

/-- Forwarding a line records a call and leaves the rest of the verdict. -/
theorem DecryptVerdict.forward_snd (verdict : DecryptVerdict) (keyword args : Str)
    : ∃ statusCalls, (verdict.forward callback keyword args).2 = { verdict with statusCalls } := by
  cases callback with
  | none => exact ⟨verdict.statusCalls, rfl⟩
  | some answer => exact ⟨_, rfl⟩

/-- An error changes nothing else in the verdict. -/
theorem DecryptVerdict.noteError_frame (verdict : DecryptVerdict) (args : Str)
    : (verdict.noteError args).pending = verdict.pending
      ∧ (verdict.noteError args).okay = verdict.okay
      ∧ (verdict.noteError args).failed = verdict.failed
      ∧ (verdict.noteError args).failureCode = verdict.failureCode
      ∧ (verdict.noteError args).statusCalls = verdict.statusCalls := by
  unfold noteError
  split <;> exact ⟨rfl, rfl, rfl, rfl, rfl⟩

/-- The three flags depend on the codes of the lines only. -/
theorem DecryptVerdict.note_flags (verdict : DecryptVerdict) (line : StatusLine)
    : (verdict.note callback line).pending = notePassphrase verdict.pending line
      ∧ (verdict.note callback line).okay = (verdict.okay || line.code == .decryptionOkay)
      ∧ (verdict.note callback line).failed
        = (verdict.failed || line.code == .decryptionFailed) := by
  obtain ⟨code, text⟩ := line
  cases code
  case failure =>
    obtain ⟨calls, forwarded⟩ := verdict.forward_snd callback (str "FAILURE") text
    simp only [note, notePassphrase, forwarded]
    split <;> simp
  case error =>
    obtain ⟨calls, forwarded⟩ := verdict.forward_snd callback (str "ERROR") text
    simp only [note, notePassphrase, forwarded]
    split <;> simp [noteError_frame]
  case inquireMaxlen =>
    obtain ⟨calls, forwarded⟩ := verdict.forward_snd callback (str "INQUIRE_MAXLEN") text
    simp [note, notePassphrase, forwarded]
  all_goals simp [note, notePassphrase]

/-- The flags after a sequence of lines, by induction on the lines. -/
theorem DecryptVerdict.foldl_note_flags (verdict : DecryptVerdict) (lines : List StatusLine)
    : (lines.foldl (note callback) verdict).pending = lines.foldl notePassphrase verdict.pending
      ∧ (lines.foldl (note callback) verdict).okay
        = (verdict.okay || linesContain lines .decryptionOkay)
      ∧ (lines.foldl (note callback) verdict).failed
        = (verdict.failed || linesContain lines .decryptionFailed) := by
  induction lines generalizing verdict with
  | nil => simp [linesContain]
  | cons line rest ih =>
      obtain ⟨pending, okay, failed⟩ := verdict.note_flags callback line
      obtain ⟨pendingRest, okayRest, failedRest⟩ := ih (verdict.note callback line)
      simp only [List.foldl_cons]
      rw [pendingRest, okayRest, failedRest, pending, okay, failed]
      simp [linesContain, Bool.or_assoc]

/-- The accepted calls are only added to. -/
theorem DecryptVerdict.note_accepted (verdict : DecryptVerdict) (calls : List (Str × Str))
    (line : StatusLine)
    : note none { verdict with statusCalls := calls } line
      = { note none verdict line with statusCalls := calls } := by
  obtain ⟨code, text⟩ := line
  cases code
  case error =>
    simp only [note, forward, ne_eq, not_true_eq_false, if_false, noteError]
    split <;> rfl
  all_goals rfl

/-- Earlier calls stay in front of those for the lines. -/
theorem DecryptVerdict.foldl_note_calls (verdict : DecryptVerdict) (calls : List (Str × Str))
    (lines : List StatusLine)
    : lines.foldl (note none) { verdict with statusCalls := calls }
      = { lines.foldl (note none) verdict with statusCalls := calls } := by
  induction lines generalizing verdict with
  | nil => rfl
  | cons line rest ih => rw [List.foldl_cons, note_accepted, ih, List.foldl_cons]

/-- A line is accepted and counts, or it is refused and does not. -/
theorem DecryptVerdict.note_cases (verdict : DecryptVerdict) (line : StatusLine)
    : ∃ calls,
        (verdict.note callback line = { verdict.note none line with statusCalls := calls }
          ∧ ∀ rest,
              acceptedLines callback verdict.statusCalls (line :: rest)
              = line :: acceptedLines callback calls rest)
        ∨ (verdict.note callback line = { verdict with statusCalls := calls }
          ∧ ∀ rest,
              acceptedLines callback verdict.statusCalls (line :: rest)
              = acceptedLines callback calls rest) := by
  obtain ⟨code, text⟩ := line
  cases callback with
  | none =>
      refine ⟨verdict.statusCalls, Or.inl ⟨?_, fun rest => rfl⟩⟩
      rw [← note_accepted]
  | some answer =>
      cases code
      case error =>
        refine ⟨verdict.statusCalls ++ [(str "ERROR", text)], ?_⟩
        by_cases refused : answer (verdict.statusCalls ++ [(str "ERROR", text)]) = 0
        · refine Or.inl ⟨?_, fun rest => by simp [acceptedLines, forwardedAs, refused]⟩
          simp only [note, forward, refused, ne_eq, not_true_eq_false, if_false, noteError]
          split <;> rfl
        · exact Or.inr ⟨by simp [note, forward, refused], fun rest => by
            simp [acceptedLines, forwardedAs, refused]⟩
      case failure =>
        refine ⟨verdict.statusCalls ++ [(str "FAILURE", text)], ?_⟩
        by_cases refused : answer (verdict.statusCalls ++ [(str "FAILURE", text)]) = 0
        · exact Or.inl ⟨by simp [note, forward, refused], fun rest => by
            simp [acceptedLines, forwardedAs, refused]⟩
        · exact Or.inr ⟨by simp [note, forward, refused], fun rest => by
            simp [acceptedLines, forwardedAs, refused]⟩
      case inquireMaxlen =>
        refine ⟨verdict.statusCalls ++ [(str "INQUIRE_MAXLEN", text)], ?_⟩
        by_cases refused : answer (verdict.statusCalls ++ [(str "INQUIRE_MAXLEN", text)]) = 0
        · exact Or.inl ⟨rfl, fun rest => by simp [acceptedLines, forwardedAs, refused]⟩
        · exact Or.inr ⟨rfl, fun rest => by simp [acceptedLines, forwardedAs, refused]⟩
      all_goals exact ⟨verdict.statusCalls, Or.inl ⟨rfl, fun rest => rfl⟩⟩

/-- Apart from the calls of the callback, the verdict on the lines is the verdict on the
accepted ones without a callback; by induction on the lines.
-/
theorem DecryptVerdict.foldl_note_accepted (verdict : DecryptVerdict) (lines : List StatusLine)
    : ∃ calls,
        lines.foldl (note callback) verdict
        = { (acceptedLines callback verdict.statusCalls lines).foldl (note none) verdict with
            statusCalls := calls } := by
  induction lines generalizing verdict with
  | nil => exact ⟨verdict.statusCalls, rfl⟩
  | cons line rest ih =>
      rw [List.foldl_cons]
      obtain ⟨calls, ⟨noted, accepted⟩ | ⟨noted, refused⟩⟩ := verdict.note_cases callback line
      · obtain ⟨final, ih⟩ := ih { verdict.note none line with statusCalls := calls }
        rw [noted, ih, accepted, foldl_note_calls]
        exact ⟨final, rfl⟩
      · obtain ⟨final, ih⟩ := ih { verdict with statusCalls := calls }
        rw [noted, ih, refused, foldl_note_calls]
        exact ⟨final, rfl⟩

/-- The failure code is that of the last accepted FAILURE line. -/
theorem DecryptVerdict.foldl_note_failureCode (verdict : DecryptVerdict)
    (lines : List StatusLine)
    : (lines.foldl (note callback) verdict).failureCode
      = (acceptedLines callback verdict.statusCalls lines).foldl noteFailure
          verdict.failureCode := by
  obtain ⟨calls, accepted⟩ := verdict.foldl_note_accepted callback lines
  rw [accepted]
  refine (List.foldl_hom DecryptVerdict.failureCode ?_).symm
  intro verdict line
  obtain ⟨code, text⟩ := line
  cases code
  case error => exact (verdict.noteError_frame text).2.2.2.1.symm
  all_goals rfl

/-- The end of file is an error exactly when a passphrase is pending, the decryption failed,
no success was reported or a failure is on record.
-/
theorem decryptStatusHandler_eof_fails_iff (ctx : Ctx) (args : Str)
    : ∃ err,
        decryptStatusHandler ctx .eof args = some (err, args, ctx)
        ∧ (err ≠ 0
          ↔ ctx.verdict.pending = true
            ∨ ctx.verdict.failed = true
            ∨ ctx.verdict.okay = false
            ∨ ctx.verdict.failureCode ≠ 0) := by
  refine ⟨_, decryptStatusHandler_eof ctx args, ?_⟩
  have badPassphrase : gpgError ErrCode.badPassphrase ≠ 0 := by decide
  have decryptFailed : gpgError ErrCode.decryptFailed ≠ 0 := by decide
  have noSeckey : gpgError ErrCode.noSeckey ≠ 0 := by decide
  have noData : gpgError ErrCode.noData ≠ 0 := by decide
  unfold decryptEof
  cases pending : ctx.verdict.pending with
  | true => simp [badPassphrase]
  | false =>
      simp only [Bool.false_eq_true, if_false, false_or]
      simp only [Ctx.verdict]
      cases failed : ctx.decrypt.failed with
      | true => simp only [if_true, true_or, iff_true]; (repeat' split) <;> assumption
      | false =>
          cases okay : ctx.decrypt.okay with
          | true => simp
          | false => simp [noData]

/-- A decryption from a fresh state: every sequence of lines can be handled, and the end of
file is an error exactly under a condition on the lines.
-/
theorem run_decrypt_eof {ctx : Ctx} (fresh : ctx.FreshDecrypt) (lines : List StatusLine)
    : ∃ errs last err,
        Machine.run (stepStatus decryptStatusHandler) ctx lines = some (errs, last)
        ∧ stepStatus decryptStatusHandler last eofLine = some (err, last)
        ∧ (err ≠ 0
          ↔ passphrasePending lines = true
            ∨ linesContain lines .decryptionFailed = true
            ∨ linesContain lines .decryptionOkay = false
            ∨ lastFailure (acceptedLines ctx.callback ctx.statusCalls lines) ≠ 0) := by
  obtain ⟨errs, last, ran, final, -⟩ := run_decrypt_verdict ctx lines
  obtain ⟨err, ended, fails⟩ := decryptStatusHandler_eof_fails_iff last []
  refine ⟨errs, last, err, ran, by simp [stepStatus, eofLine, ended], ?_⟩
  rw [fresh.verdict_eq] at final
  obtain ⟨pending, okay, failed⟩ :=
    DecryptVerdict.foldl_note_flags ctx.callback { statusCalls := ctx.statusCalls } lines
  have failure :=
    DecryptVerdict.foldl_note_failureCode ctx.callback { statusCalls := ctx.statusCalls } lines
  rw [← final] at pending okay failed failure
  rw [fails, pending, okay, failed, failure]
  simp only [Bool.false_or]
  rfl

-----------------------------------------------------------------------------------------
-- Missing integrity protection
-----------------------------------------------------------------------------------------

/-- The line says that the message is not integrity protected: a DECRYPTION_INFO line with
neither a modification detection code nor an authenticated mode, or an ERROR line for a
legacy cipher without such a code.
-/
def StatusLine.MissesIntegrity (line : StatusLine) : Prop :=
  (line.code = .decryptionInfo ∧ infoUnprotected line.args = true)
  ∨ (line.code = .error
    ∧ (splitFields line.args 3).head? = some (str "nomdc_with_legacy_cipher"))

/-- Missing integrity protection makes the end of file an error exactly when the lines give
another reason for an error: the flag is only looked at in a branch that fails anyway. This
does not depend on `ignore_mdc_error`.
-/
theorem decrypt_unprotected_fatal_iff {ctx : Ctx} (fresh : ctx.FreshDecrypt)
    (lines : List StatusLine)
    : ∃ errs last err final,
        Machine.run (stepStatus decryptStatusHandler) ctx lines = some (errs, last)
        ∧ stepStatus decryptStatusHandler last eofLine = some (err, final)
        ∧ (((∃ line ∈ lines, line.MissesIntegrity) → err ≠ 0)
          ↔ ((∃ line ∈ lines, line.MissesIntegrity)
            → passphrasePending lines = true
              ∨ linesContain lines .decryptionFailed = true
              ∨ linesContain lines .decryptionOkay = false
              ∨ lastFailure (acceptedLines ctx.callback ctx.statusCalls lines) ≠ 0)) := by
  obtain ⟨errs, last, err, ran, ended, fatal⟩ := run_decrypt_eof fresh lines
  exact ⟨errs, last, err, last, ran, ended, imp_congr_right (fun _ => fatal)⟩

/-- A decryption that has not started. -/
theorem Ctx.freshDecrypt_default : Ctx.FreshDecrypt {} :=
  ⟨rfl, 0, rfl⟩

/-- With a DECRYPTION_FAILED line the missing protection is fatal. -/
theorem decrypt_unprotected_fatal_iff_failed
    : Ctx.FreshDecrypt {}
      ∧ ∃ errs last err final,
          Machine.run (stepStatus decryptStatusHandler) {}
              [⟨.decryptionInfo, str "0 9"⟩, ⟨.decryptionFailed, []⟩] = some (errs, last)
          ∧ stepStatus decryptStatusHandler last eofLine = some (err, final)
          ∧ err ≠ 0 := by
  refine ⟨Ctx.freshDecrypt_default, ?_⟩
  obtain ⟨errs, last, err, final, ran, ended, fatal⟩ :=
    decrypt_unprotected_fatal_iff Ctx.freshDecrypt_default
      [⟨.decryptionInfo, str "0 9"⟩, ⟨.decryptionFailed, []⟩]
  refine ⟨errs, last, err, final, ran, ended, fatal.mpr ?_ ⟨⟨.decryptionInfo, str "0 9"⟩, ?_⟩⟩
  · intro _
    exact Or.inr (Or.inl (by decide))
  · exact ⟨List.mem_cons_self, Or.inl ⟨rfl, by decide⟩⟩

/-- What an old version of gpg sends for a message without integrity protection: a warning
and a success. No call returns an error, the last one included.
-/
theorem decrypt_unprotected_accepted
    : ∃ ctx : Ctx, ctx.FreshDecrypt ∧ ctx.ignoreMdcError = false
      ∧ ∃ errs last final,
          Machine.run (stepStatus decryptStatusHandler) ctx
              [⟨.decryptionInfo, str "0 9"⟩, ⟨.decryptionOkay, []⟩] = some (errs, last)
          ∧ StatusLine.MissesIntegrity ⟨.decryptionInfo, str "0 9"⟩
          ∧ stepStatus decryptStatusHandler last eofLine = some (0, final) := by
  refine ⟨{}, Ctx.freshDecrypt_default, rfl, ?_⟩
  obtain ⟨errs, last, err, ran, ended, fatal⟩ :=
    run_decrypt_eof Ctx.freshDecrypt_default
      [⟨.decryptionInfo, str "0 9"⟩, ⟨.decryptionOkay, []⟩]
  have accepted : err = 0 := by
    by_contra error
    rcases fatal.mp error with pending | failed | okay | failure
    · exact absurd pending (by decide)
    · exact absurd failed (by decide)
    · exact absurd okay (by decide)
    · exact failure (by decide)
  exact ⟨errs, last, last, ran, Or.inl ⟨rfl, by decide⟩, accepted ▸ ended⟩

end Gpgme
