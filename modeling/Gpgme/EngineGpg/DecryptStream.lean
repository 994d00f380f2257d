import Gpgme.EngineGpg.ReadStatus
import Gpgme.Operation.DecryptVerdict
import Gpgme.Operation.Failures

/-! The status stream of a decryption: what `read_status` reports at the end of file when
the status handler of a decryption is installed.
-/

namespace Gpgme

open CString

-----------------------------------------------------------------------------------------
-- The errors that a decryption reports
-----------------------------------------------------------------------------------------

/-- The location and the number of a line that is an ERROR line. -/
def StatusLine.errorFields (line : StatusLine) : Option (Str × GpgError) :=
  match line.code with
  | .error => decryptErrorFields line.args
  | _ => none

/-- The first error on record after a line. -/
def noteFirstError (firstError : GpgError) (line : StatusLine) : GpgError :=
  match line.errorFields with
  | none => firstError
  | some (_, err) => if firstError = 0 then err else firstError

/-- The number of the first ERROR line with a number other than 0. -/
def firstErrorNumber (lines : List StatusLine) : GpgError := lines.foldl noteFirstError 0

/-- An ERROR line about a public key decryption that was canceled or got a bad passphrase. -/
def StatusLine.BlamesPkdecrypt (line : StatusLine) : Prop :=
  ∃ location err, line.errorFields = some (location, err) ∧ (pkdecryptError location err).isSome

/-- The error of a failed public key decryption is an error, and not the special one. -/
theorem pkdecryptError_code {location : Str} {err reported : GpgError}
    (found : pkdecryptError location err = some reported)
    : reported ≠ 0 ∧ gpgErrCode reported ≠ ErrCode.false := by
  have canceled : gpgErrCode (gpgErrMake (gpgErrSource err) ErrCode.canceled) = ErrCode.canceled :=
    gpgErrCode_gpgErrMake (gpgErrSource err) (by decide)
  unfold pkdecryptError at found
  split at found
  · split at found
    · cases found
      refine ⟨gpgErrMake_ne_zero _ (by decide) (by decide), ?_⟩
      rw [canceled]
      decide
    · split at found
      · next bad =>
          cases found
          refine ⟨?_, by rw [bad]; decide⟩
          rintro rfl
          exact absurd bad (by decide)
      · cases found
  · cases found

namespace DecryptVerdict

/-- What a line changes in the errors of the verdict. -/
theorem note_errors (verdict : DecryptVerdict) (line : StatusLine)
    : (verdict.note none line).firstError = noteFirstError verdict.firstError line
      ∧ (verdict.note none line).pkdecryptFailed
        = ((line.errorFields.bind (fun (location, err) => pkdecryptError location err)).getD
            verdict.pkdecryptFailed)
      ∧ ((verdict.note none line).unprotected = true
        ↔ verdict.unprotected = true ∨ line.MissesIntegrity) := by
  obtain ⟨code, text⟩ := line
  cases code
  case error =>
    simp only [note, forward, ne_eq, not_true_eq_false, if_false, noteError, noteFirstError,
      StatusLine.errorFields, StatusLine.MissesIntegrity, decryptErrorFields]
    cases splitFields text 3 with
    | nil => simp
    | cons location rest =>
        simp
        rfl
  all_goals
    simp [note, forward, noteFirstError, StatusLine.errorFields, StatusLine.MissesIntegrity]

/-- The first error of many lines. -/
theorem foldl_note_firstError (verdict : DecryptVerdict) (lines : List StatusLine)
    : (lines.foldl (note none) verdict).firstError
      = lines.foldl noteFirstError verdict.firstError := by
  refine (List.foldl_hom DecryptVerdict.firstError ?_).symm
  intro verdict line
  exact (verdict.note_errors line).1.symm

/-- By induction on the lines. -/
theorem foldl_note_unprotected (verdict : DecryptVerdict) (lines : List StatusLine)
    : (lines.foldl (note none) verdict).unprotected = true
      ↔ verdict.unprotected = true ∨ ∃ line ∈ lines, line.MissesIntegrity := by
  induction lines generalizing verdict with
  | nil => simp
  | cons line rest ih =>
      rw [List.foldl_cons, ih, (verdict.note_errors line).2.2]
      simp [or_assoc]

/-- The error of a failed public key decryption is absent, or it is not the special one. -/
def PkdecryptSound (verdict : DecryptVerdict) : Prop :=
  verdict.pkdecryptFailed = 0 ∨ gpgErrCode verdict.pkdecryptFailed ≠ ErrCode.false

/-- A line keeps what is known of a failed decryption with a public key. -/
theorem note_pkdecrypt {verdict : DecryptVerdict} (sound : verdict.PkdecryptSound)
    (line : StatusLine)
    : (verdict.note none line).PkdecryptSound
      ∧ ((verdict.note none line).pkdecryptFailed = 0
        ↔ verdict.pkdecryptFailed = 0 ∧ ¬ line.BlamesPkdecrypt) := by
  unfold PkdecryptSound StatusLine.BlamesPkdecrypt
  rw [(verdict.note_errors line).2.1]
  cases line.errorFields with
  | none => simp; exact sound
  | some fields =>
      obtain ⟨location, err⟩ := fields
      simp only [Option.bind_some]
      cases found : pkdecryptError location err with
      | none => simp [found]; exact sound
      | some reported =>
          obtain ⟨error, code⟩ := pkdecryptError_code found
          simp [found, error, code]

/-- By induction on the lines. -/
theorem foldl_note_pkdecrypt {verdict : DecryptVerdict} (sound : verdict.PkdecryptSound)
    (lines : List StatusLine)
    : (lines.foldl (note none) verdict).PkdecryptSound
      ∧ ((lines.foldl (note none) verdict).pkdecryptFailed = 0
        ↔ verdict.pkdecryptFailed = 0 ∧ ¬ ∃ line ∈ lines, line.BlamesPkdecrypt) := by
  induction lines generalizing verdict with
  | nil => simp [sound]
  | cons line rest ih =>
      obtain ⟨kept, absent⟩ := note_pkdecrypt sound line
      obtain ⟨final, none⟩ := ih kept
      refine ⟨final, ?_⟩
      rw [List.foldl_cons, none, absent]
      simp [and_assoc]

end DecryptVerdict

-----------------------------------------------------------------------------------------
-- The end of file
-----------------------------------------------------------------------------------------

/-- Dropping the special code leaves every other error. -/
theorem dropFalse_ne_zero {err : GpgError} (error : err ≠ 0)
    (other : gpgErrCode err ≠ ErrCode.false)
    : dropFalse err ≠ 0 := by
  rwa [dropFalse, if_neg other]

/-- A failed decryption is reported as a success exactly when none of the other reasons for
an error comes first and the first error on record has the special code.
-/
theorem dropFalse_decryptEof_failed {ctx : Ctx} (failed : ctx.verdict.failed = true)
    (sound : ctx.verdict.PkdecryptSound)
    : dropFalse (decryptEof ctx) = 0
      ↔ ctx.verdict.pkdecryptFailed = 0
        ∧ ¬ (ctx.verdict.unprotected = true ∧ ctx.ignoreMdcError = false)
        ∧ gpgErrCode ctx.verdict.firstError = ErrCode.false := by
  have decryptFailed : dropFalse (gpgError ErrCode.decryptFailed) ≠ 0 := by decide
  have noSeckey : dropFalse (gpgError ErrCode.noSeckey) ≠ 0 := by decide
  have noError : gpgErrCode 0 ≠ ErrCode.false := by decide
  unfold DecryptVerdict.PkdecryptSound at sound
  simp only [Ctx.verdict] at failed sound ⊢
  unfold decryptEof
  rw [if_pos failed]
  by_cases blamed : ctx.decrypt.pkdecryptFailed = 0
  · simp only [blamed, ne_eq, not_true_eq_false, if_false, true_and]
    by_cases unprotected : (ctx.decrypt.notIntegrityProtected && !ctx.ignoreMdcError) = true
    · rw [if_pos unprotected]
      simp_all
    · rw [if_neg unprotected]
      by_cases first : ctx.decrypt.firstStatusError = 0
      · simp only [first, not_true_eq_false, if_false, noError, and_false, iff_false]
        split <;> assumption
      · simp only [first, not_false_eq_true, if_true, dropFalse]
        simp_all
  · have known : gpgErrCode ctx.decrypt.pkdecryptFailed ≠ ErrCode.false :=
      sound.resolve_left blamed
    simp [blamed, dropFalse_ne_zero blamed known]

/-- A success that is reported at the end of file is one, unless the decryption failed with
the special code as its first error.
-/
theorem dropFalse_decryptEof {ctx : Ctx} (sound : ctx.verdict.PkdecryptSound)
    : (dropFalse (if ctx.verdict.pending then gpgError ErrCode.badPassphrase
          else decryptEof ctx) = 0
        → ctx.verdict.okay = true ∧ ctx.verdict.failed = false)
      ↔ ¬ (ctx.verdict.failed = true
        ∧ ctx.verdict.pending = false
        ∧ ctx.verdict.pkdecryptFailed = 0
        ∧ ¬ (ctx.verdict.unprotected = true ∧ ctx.ignoreMdcError = false)
        ∧ gpgErrCode ctx.verdict.firstError = ErrCode.false) := by
  have badPassphrase : dropFalse (gpgError ErrCode.badPassphrase) ≠ 0 := by decide
  have noData : dropFalse (gpgError ErrCode.noData) ≠ 0 := by decide
  cases pending : ctx.verdict.pending with
  | true => simp [badPassphrase]
  | false =>
      simp only [Bool.false_eq_true, if_false, true_and]
      cases failed : ctx.verdict.failed with
      | true =>
          rw [dropFalse_decryptEof_failed failed sound]
          simp
      | false =>
          cases okay : ctx.verdict.okay with
          | true => simp
          | false =>
              have ended : decryptEof ctx = gpgError ErrCode.noData := by
                simp only [Ctx.verdict] at failed okay
                simp [decryptEof, failed, okay]
              simp [ended, noData]

-----------------------------------------------------------------------------------------
-- Reading the stream
-----------------------------------------------------------------------------------------

/-- The handler that is installed follows the verdict. -/
theorem decryptStatusHandlerInstalled_verdict (ctx : Ctx) (line : StatusLine)
    : ∃ err args next,
        decryptStatusHandlerInstalled ctx line.code line.args = some (err, args, next)
        ∧ next.verdict = ctx.verdict.note ctx.callback line
        ∧ next.settings = ctx.settings := by
  obtain ⟨redrawSuggested, progressCalls, passed⟩ :=
    progressStatusHandler_andThen decryptStatusHandler ctx line.code line.args
  obtain ⟨err, args, next, handled, verdict, settings⟩ :=
    decryptStatusHandler_verdict { ctx with redrawSuggested, progressCalls } line
  exact ⟨err, args, next, passed.trans handled, verdict, settings⟩

/-- The state after some status lines: the verdict follows them, and the settings and the
buffer are as before.
-/
structure GpgStatus.Follows (gpg next : GpgStatus) (lines : List StatusLine) : Prop where
  verdict : next.ctx.verdict = lines.foldl (DecryptVerdict.note gpg.ctx.callback) gpg.ctx.verdict
  settings : next.ctx.settings = gpg.ctx.settings

namespace GpgStatus

variable {gpg middle next : GpgStatus} {first second : List StatusLine}

/-- Nothing was handled, and the context is the same. -/
theorem Follows.refl (same : next.ctx = gpg.ctx) : gpg.Follows next [] :=
  ⟨by simp [same], by rw [same]⟩

/-- Two streams follow each other. -/
theorem Follows.trans (early : gpg.Follows middle first) (late : middle.Follows next second)
    : gpg.Follows next (first ++ second) := by
  have callback : middle.ctx.callback = gpg.ctx.callback := congrArg Prod.fst early.settings
  refine ⟨?_, late.settings.trans early.settings⟩
  rw [late.verdict, early.verdict, callback, List.foldl_append]

/-- A call of the monitor changes neither the context nor the buffer. -/
theorem callMonitor_frame (gpg : GpgStatus) (keyword args : Str)
    : (gpg.callMonitor keyword args).2.ctx = gpg.ctx
      ∧ (gpg.callMonitor keyword args).2.buffer = gpg.buffer := by
  unfold callMonitor
  split <;> exact ⟨rfl, rfl⟩

/-- A line that is passed to the status handler. -/
theorem callHandler_follows {err : GpgError} {code : StatusCode} {args : Str}
    (handled : gpg.callHandler decryptStatusHandlerInstalled code args = some (err, next))
    : gpg.Follows next [⟨code, args⟩] ∧ next.buffer = gpg.buffer := by
  obtain ⟨_, _, ctx, called, verdict, settings⟩ :=
    decryptStatusHandlerInstalled_verdict gpg.ctx ⟨code, args⟩
  simp only [callHandler, called, Option.map_some, Option.some.injEq, Prod.mk.injEq] at handled
  obtain ⟨-, rfl⟩ := handled
  exact ⟨⟨verdict, settings⟩, rfl⟩

/-- A line for the command handler does not count for the verdict. -/
theorem dispatchLine_follows {err : GpgError} {keyword args : Str}
    (handled : gpg.dispatchLine decryptStatusHandlerInstalled keyword args = some (err, next))
    : gpg.Follows next ((parseStatus keyword).map (fun code => { code, args })).toList
      ∧ next.buffer = gpg.buffer := by
  unfold dispatchLine at handled
  split at handled
  · next unknown =>
      cases handled
      rw [unknown]
      exact ⟨Follows.refl rfl, rfl⟩
  · next code known =>
      rw [known]
      split at handled
      · next command =>
          cases handled
          refine ⟨⟨?_, rfl⟩, rfl⟩
          have isCommand : code.isCommand = true := (Bool.and_eq_true _ _ ▸ command).2
          cases code <;> first | rfl | simp [StatusCode.isCommand] at isCommand
      · exact callHandler_follows handled

/-- Handling a line that has been read: the context follows the status line in it, if there
is one.
-/
theorem handleLine_follows {line : Str}
    (handled : gpg.handleLine decryptStatusHandlerInstalled line = some (0, next))
    : gpg.Follows next (parseStatusLine line).toList ∧ next.buffer = gpg.buffer := by
  unfold handleLine at handled
  unfold parseStatusLine
  split at handled
  · cases handled
    exact ⟨Follows.refl rfl, rfl⟩
  · next keyword args _ =>
      split at handled
      · exact dispatchLine_follows handled
      · obtain ⟨ctx, buffer⟩ := gpg.callMonitor_frame keyword args
        dsimp only at handled
        split at handled
        · next refused =>
            simp only [Option.some.injEq, Prod.mk.injEq] at handled
            exact absurd handled.1 refused
        · obtain ⟨follows, kept⟩ := dispatchLine_follows handled
          exact ⟨(Follows.refl ctx).trans follows, kept.trans buffer⟩

/-- The loop over the bytes, by induction on them. -/
theorem readBytes_follows {bytes : Str}
    (ran : readBytes decryptStatusHandlerInstalled gpg bytes = some (0, next))
    : gpg.Follows next (statusLinesOf gpg.buffer bytes)
      ∧ next.buffer = Lines.unfinished gpg.buffer bytes := by
  induction bytes generalizing gpg with
  | nil =>
      cases ran
      exact ⟨Follows.refl rfl, rfl⟩
  | cons c rest ih =>
      simp only [readBytes] at ran
      simp only [statusLinesOf, Lines.complete, Lines.unfinished]
      split at ran
      · next isFeed =>
          split at ran
          · cases ran
          · next err middle handled =>
              split at ran
              · next refused =>
                  cases ran
                  exact absurd rfl refused
              · next accepted =>
                  have zero : err = 0 := not_not.mp accepted
                  subst zero
                  obtain ⟨early, -⟩ := handleLine_follows handled
                  obtain ⟨late, buffer⟩ := ih ran
                  have whole := early.trans ⟨late.verdict, late.settings⟩
                  rw [if_pos isFeed, if_pos isFeed]
                  refine ⟨?_, buffer⟩
                  cases parsed : parseStatusLine gpg.buffer with
                  | none =>
                      rw [parsed] at whole
                      rwa [List.filterMap_cons_none parsed]
                  | some line =>
                      rw [parsed] at whole
                      rwa [List.filterMap_cons_some parsed]
      · next other =>
          rw [if_neg other, if_neg other]
          obtain ⟨late, buffer⟩ := ih ran
          exact ⟨⟨late.verdict, late.settings⟩, buffer⟩

/-- The end of file does not change the verdict. -/
theorem readEof_follows {err : GpgError}
    (ended : readEof decryptStatusHandlerInstalled gpg = some (err, next))
    : gpg.Follows next [] ∧ next.buffer = gpg.buffer := by
  obtain ⟨ctx, buffer⟩ := callMonitor_frame { gpg with eof := true } [] []
  unfold readEof at ended
  dsimp only at ended
  generalize (callMonitor { gpg with eof := true } [] []).2 = asked at ended ctx buffer
  obtain ⟨follows, kept⟩ := callHandler_follows ended
  refine ⟨⟨?_, ?_⟩, kept.trans buffer⟩
  · rw [follows.verdict, ctx]
    rfl
  · rw [follows.settings, ctx]

/-- The answer at the end of file. -/
theorem readEof_eq (gpg : GpgStatus)
    : ∃ final,
        readEof decryptStatusHandlerInstalled gpg
        = some (dropFalse (if gpg.ctx.verdict.pending then gpgError ErrCode.badPassphrase
            else decryptEof gpg.ctx), final) := by
  obtain ⟨ctx, -⟩ := callMonitor_frame { gpg with eof := true } [] []
  unfold readEof
  dsimp only
  generalize (callMonitor { gpg with eof := true } [] []).2 = asked at ctx
  obtain ⟨redrawSuggested, progressCalls, passed⟩ :=
    progressStatusHandler_andThen decryptStatusHandler asked.ctx .eof []
  have called : decryptStatusHandlerInstalled asked.ctx .eof []
      = some (if asked.ctx.verdict.pending then gpgError ErrCode.badPassphrase
          else decryptEof asked.ctx, [], { asked.ctx with redrawSuggested, progressCalls }) :=
    passed.trans (decryptStatusHandler_eof _ _)
  have same : gpg.ctx = asked.ctx := ctx.symm
  simp only [same, callHandler, called, Option.map_some]
  exact ⟨_, rfl⟩

/-- One call of `read_status` that returns no error. -/
theorem readStatus_follows {read : Except Nat Str}
    (ran : readStatus decryptStatusHandlerInstalled gpg read = some (0, next))
    : gpg.Follows next (statusLinesOf gpg.buffer (bytesOf [read]))
      ∧ next.buffer = Lines.unfinished gpg.buffer (bytesOf [read]) := by
  unfold readStatus at ran
  split at ran
  · next index =>
      simp only [Option.some.injEq, Prod.mk.injEq] at ran
      exact absurd ran.1 (gpgErrorFromSyserror_ne_zero index)
  · exact readEof_follows ran
  · next bytes _ =>
      have same : bytesOf [.ok bytes] = bytes := by simp [bytesOf]
      rw [same]
      exact readBytes_follows ran

/-- Every sequence of calls that return no error, by induction on the reads. -/
theorem run_readStatus_follows {reads : List (Except Nat Str)} {answers : List Unit}
    (ran : Machine.run (readStatusOk decryptStatusHandlerInstalled) gpg reads
      = some (answers, next))
    : gpg.Follows next (statusLinesOf gpg.buffer (bytesOf reads)) := by
  induction reads generalizing gpg answers with
  | nil =>
      cases ran
      exact Follows.refl rfl
  | cons read rest ih =>
      obtain ⟨_, middle, _, stepped, tail, _⟩ := Machine.run_cons_iff.mp ran
      obtain ⟨early, buffer⟩ := readStatus_follows (readStatusOk_eq_some.mp stepped)
      have late := ih tail
      have whole : bytesOf (read :: rest) = bytesOf [read] ++ bytesOf rest := by
        simp [bytesOf]
      rw [buffer] at late
      rw [whole, statusLinesOf, Lines.complete_append, List.filterMap_append]
      exact early.trans late

end GpgStatus

-----------------------------------------------------------------------------------------
-- Reported successes
-----------------------------------------------------------------------------------------

/-- The status lines say that the decryption failed, and none of the errors that take
precedence over the first ERROR line is on record.
-/
structure FailsWithFirstError (ctx : Ctx) (lines : List StatusLine) : Prop where
  failed : linesContain lines .decryptionFailed = true
  noPassphrase : passphrasePending lines = false
  noPkdecrypt
    : ¬ ∃ line ∈ acceptedLines ctx.callback ctx.statusCalls lines, line.BlamesPkdecrypt
  integrity
    : ¬ ((∃ line ∈ acceptedLines ctx.callback ctx.statusCalls lines, line.MissesIntegrity)
      ∧ ctx.ignoreMdcError = false)

/-- A decryption that `read_status` reports as successful was successful, except when the
first error of a failed one has the code that `read_status` drops.
-/
theorem readStatus_decrypt_success_iff {gpg last : GpgStatus} {reads : List (Except Nat Str)}
    {answers : List Unit} (fresh : gpg.ctx.FreshDecrypt) (empty : gpg.buffer = [])
    (ran : Machine.run (readStatusOk decryptStatusHandlerInstalled) gpg reads
      = some (answers, last))
    : ∃ err final,
        readStatus decryptStatusHandlerInstalled last (.ok []) = some (err, final)
        ∧ ((err = 0
            → linesContain (statusLinesOf [] (bytesOf reads)) .decryptionOkay = true
              ∧ linesContain (statusLinesOf [] (bytesOf reads)) .decryptionFailed = false)
          ↔ ¬ (FailsWithFirstError gpg.ctx (statusLinesOf [] (bytesOf reads))
            ∧ gpgErrCode (firstErrorNumber (acceptedLines gpg.ctx.callback gpg.ctx.statusCalls
                (statusLinesOf [] (bytesOf reads)))) = ErrCode.false)) := by
  have follows := GpgStatus.run_readStatus_follows ran
  rw [empty] at follows
  generalize statusLinesOf [] (bytesOf reads) = lines at follows ⊢
  obtain ⟨verdict, settings⟩ := follows
  rw [fresh.verdict_eq] at verdict
  have ignore : last.ctx.ignoreMdcError = gpg.ctx.ignoreMdcError := congrArg Prod.snd settings
  obtain ⟨pending, okay, failed⟩ := DecryptVerdict.foldl_note_flags gpg.ctx.callback
    { statusCalls := gpg.ctx.statusCalls } lines
  obtain ⟨calls, accepted⟩ := DecryptVerdict.foldl_note_accepted gpg.ctx.callback
    { statusCalls := gpg.ctx.statusCalls } lines
  rw [← verdict] at pending okay failed accepted
  simp only [Bool.false_or] at okay failed
  have initial : DecryptVerdict.PkdecryptSound { statusCalls := gpg.ctx.statusCalls } :=
    Or.inl rfl
  obtain ⟨sound, noPkdecrypt⟩ := DecryptVerdict.foldl_note_pkdecrypt initial
    (acceptedLines gpg.ctx.callback gpg.ctx.statusCalls lines)
  have unprotected := DecryptVerdict.foldl_note_unprotected
    { statusCalls := gpg.ctx.statusCalls }
    (acceptedLines gpg.ctx.callback gpg.ctx.statusCalls lines)
  have firstError := DecryptVerdict.foldl_note_firstError
    { statusCalls := gpg.ctx.statusCalls }
    (acceptedLines gpg.ctx.callback gpg.ctx.statusCalls lines)
  simp only [Bool.false_eq_true, false_or, true_and] at unprotected noPkdecrypt
  have kept : last.ctx.verdict.PkdecryptSound := by
    rw [accepted]
    exact sound
  have outcome := dropFalse_decryptEof kept
  obtain ⟨final, ended⟩ := GpgStatus.readEof_eq last
  refine ⟨_, final, ended, ?_⟩
  rw [← okay, ← failed]
  refine outcome.trans (not_congr ?_)
  rw [pending, failed, ignore, accepted]
  simp only [noPkdecrypt, unprotected, firstError]
  constructor
  · intro conditions
    obtain ⟨failed, noPassphrase, noPkdecrypt, integrity, special⟩ := conditions
    exact ⟨⟨failed, noPassphrase, noPkdecrypt, integrity⟩, special⟩
  · intro conditions
    obtain ⟨⟨failed, noPassphrase, noPkdecrypt, integrity⟩, special⟩ := conditions
    exact ⟨failed, noPassphrase, noPkdecrypt, integrity, special⟩

/-- A stream that reports a success, cut in the middle of a line. -/
theorem readStatus_decrypt_success_iff_okay
    : Ctx.FreshDecrypt {}
      ∧ ∃ last err final,
          Machine.run (readStatusOk decryptStatusHandlerInstalled) { ctx := {} }
              [.ok (str "[GNUPG:] DECRYP"), .ok (str "TION_OKAY\r\n")] = some ([(), ()], last)
          ∧ readStatus decryptStatusHandlerInstalled last (.ok []) = some (err, final)
          ∧ (err = 0
            → linesContain (statusLinesOf [] (bytesOf
                  [.ok (str "[GNUPG:] DECRYP"), .ok (str "TION_OKAY\r\n")])) .decryptionOkay
                = true) := by
  obtain ⟨last, ran⟩ : ∃ last,
      Machine.run (readStatusOk decryptStatusHandlerInstalled) { ctx := {} }
        [.ok (str "[GNUPG:] DECRYP"), .ok (str "TION_OKAY\r\n")] = some ([(), ()], last) :=
    ⟨_, rfl⟩
  obtain ⟨err, final, ended, iff⟩ :=
    readStatus_decrypt_success_iff Ctx.freshDecrypt_default rfl ran
  refine ⟨Ctx.freshDecrypt_default, last, err, final, ran, ended, ?_⟩
  intro success
  refine (iff.mpr ?_ success).1
  intro conditions
  exact absurd conditions.1.failed (by decide)

/-- A failed decryption whose first error is the special code: no call returns an error, the
one at the end of file included.
-/
theorem readStatus_decrypt_failure_dropped
    : ∃ gpg last : GpgStatus,
        gpg.ctx.FreshDecrypt
        ∧ gpg.buffer = []
        ∧ Machine.run (readStatusOk decryptStatusHandlerInstalled) gpg
            [.ok (str "[GNUPG:] ERROR pkdecrypt_failed 33554688\n"),
              .ok (str "[GNUPG:] DECRYPTION_FAILED\n"), .ok []]
          = some ([(), (), ()], last)
        ∧ linesContain (statusLinesOf [] (bytesOf
            [.ok (str "[GNUPG:] ERROR pkdecrypt_failed 33554688\n"),
              .ok (str "[GNUPG:] DECRYPTION_FAILED\n")])) .decryptionFailed = true := by
  refine ⟨{ ctx := {} }, _, Ctx.freshDecrypt_default, rfl, rfl, ?_⟩
  decide

end Gpgme
