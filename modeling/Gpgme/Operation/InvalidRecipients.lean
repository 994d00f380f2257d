import Gpgme.Operation.Composition

/-! The recipients that cannot be used. Which handler an encryption installs decides whether
an INV_RECP line gets to the encryption data.
-/

namespace Gpgme

open CString

/-- The key of a well-formed INV_RECP line, which may be left out. -/
def StatusLine.invRecpKey (line : StatusLine) : Option (Option Str) :=
  if line.code = .invRecp then (parseInvRecp line.args none 0).toOption.map InvalidKey.fpr
  else none

/-- The keys of the well-formed INV_RECP lines in their order. -/
def invRecpKeys (lines : List StatusLine) : List (Option Str) :=
  lines.filterMap StatusLine.invRecpKey

/-- The keys that `gpgme_op_encrypt_result` lists. -/
def Ctx.listedRecipients (ctx : Ctx) : List (Option Str) :=
  ctx.encrypt.invalidRecipients.map InvalidKey.fpr

/-- The handler lists the key of an INV_RECP line, and no other line changes the list. -/
def StatusHandler.ListsRecipients (handler : StatusHandler) : Prop :=
  ∀ ⦃ctx line err left next⦄,
    handler ctx line.code line.args = some (err, left, next)
    → next.listedRecipients = ctx.listedRecipients ++ (StatusLine.invRecpKey line).toList

/-- With a listed recipient the handler returns an error at the end of file. -/
def StatusHandler.RefusesAtEof (handler : StatusHandler) : Prop :=
  ∀ ctx, ctx.listedRecipients ≠ [] →
    ∃ err left next, handler ctx .eof [] = some (err, left, next) ∧ err ≠ 0

theorem parseInvRecp_fpr (args : Str) (kcFpr : Option Str) (kcFlags : Nat)
    : (parseInvRecp args kcFpr kcFlags).toOption.map InvalidKey.fpr
      = (parseInvRecp args none 0).toOption.map InvalidKey.fpr := by
  unfold parseInvRecp
  dsimp only
  split <;> rfl

-----------------------------------------------------------------------------------------
-- The handlers
-----------------------------------------------------------------------------------------

theorem encryptStatusHandler_listsRecipients : encryptStatusHandler.ListsRecipients := by
  intro ctx line err left next
  obtain ⟨code, args⟩ := line
  cases code <;> simp only [encryptStatusHandler]
  case invRecp =>
    have key := parseInvRecp_fpr args ctx.encrypt.kcFpr ctx.encrypt.kcFlags
    split
    · next failed =>
        intro handled
        cases handled
        rw [failed] at key
        simp only [StatusLine.invRecpKey, if_true, ← key]
        simp [Except.toOption]
    · next parsed =>
        intro handled
        cases handled
        rw [parsed] at key
        simp only [StatusLine.invRecpKey, if_true, ← key]
        simp [Except.toOption, Ctx.listedRecipients]
  all_goals
    intro handled
    cases handled
    simp [StatusLine.invRecpKey, Ctx.listedRecipients]

theorem encryptStatusHandler_refusesAtEof : encryptStatusHandler.RefusesAtEof := by
  intro ctx listed
  have nonzero : gpgError ErrCode.unusablePubkey ≠ 0 := by decide
  have invalid : ctx.encrypt.invalidRecipients ≠ [] := by
    intro empty
    exact listed (by simp [Ctx.listedRecipients, empty])
  exact ⟨_, [], ctx, rfl, by rwa [encryptEof, if_pos invalid]⟩

theorem StatusHandler.ListsRecipients.afterProgress {handler : StatusHandler}
    (lists : handler.ListsRecipients)
    : (progressStatusHandler.andThen handler).ListsRecipients := by
  intro ctx line err left next handled
  obtain ⟨redrawSuggested, progressCalls, passed⟩ :=
    progressStatusHandler_andThen handler ctx line.code line.args
  rw [passed] at handled
  rw [lists handled]
  rfl

theorem StatusHandler.RefusesAtEof.afterProgress {handler : StatusHandler}
    (refuses : handler.RefusesAtEof)
    : (progressStatusHandler.andThen handler).RefusesAtEof := by
  intro ctx listed
  obtain ⟨redrawSuggested, progressCalls, passed⟩ :=
    progressStatusHandler_andThen handler ctx .eof []
  rw [passed]
  exact refuses { ctx with redrawSuggested, progressCalls } listed

theorem StatusHandler.ListsRecipients.andThen {first second : StatusHandler}
    (lists : first.ListsRecipients) (frames : second.Frames Ctx.listedRecipients)
    : (first.andThen second).ListsRecipients := by
  intro ctx line err left next handled
  rcases andThen_cases handled with ⟨_, answered⟩ | ⟨passed, middle, answered, continued⟩
  · exact lists answered
  · rw [frames continued]
    exact lists answered

theorem StatusHandler.RefusesAtEof.andThen {first second : StatusHandler}
    (refuses : first.RefusesAtEof)
    : (first.andThen second).RefusesAtEof := by
  intro ctx listed
  obtain ⟨err, left, next, answered, failed⟩ := refuses ctx listed
  exact ⟨err, left, next, andThen_of_error answered failed, failed⟩

theorem progressStatusHandler_total : progressStatusHandler.Total := by
  intro ctx code args
  obtain ⟨_, _, answered⟩ := progressStatusHandler_ok ctx code args
  exact ⟨0, args, _, answered⟩

theorem encryptStatusHandler_total : encryptStatusHandler.Total := by
  intro ctx code args
  obtain ⟨err, left, _, answered⟩ := encryptStatusHandler_changes ctx code args
  exact ⟨err, left, _, answered⟩

theorem signStatusHandler_framesListed : signStatusHandler.Frames Ctx.listedRecipients := by
  intro ctx code args err left next handled
  have same : next.encrypt = ctx.encrypt :=
    congrArg Prod.snd (signStatusHandler_frames handled)
  simp [Ctx.listedRecipients, same]

theorem passphraseStatusHandler_framesListed
    : passphraseStatusHandler.Frames Ctx.listedRecipients :=
  passphraseStatusHandler_frames fun _ _ _ => rfl

theorem progressStatusHandler_framesListed
    : progressStatusHandler.Frames Ctx.listedRecipients :=
  progressStatusHandler_frames fun _ _ _ => rfl

-----------------------------------------------------------------------------------------
-- Whole operations
-----------------------------------------------------------------------------------------

/-- The two operations that encrypt. -/
inductive EncryptOperation where
  | encrypt | encryptSign
deriving DecidableEq

def EncryptOperation.start : EncryptOperation → EncryptEnvironment → EncryptRequest → Ctx
    → Except GpgError (StatusHandler × Ctx)
  | .encrypt => encryptStart
  | .encryptSign => encryptSignStart

/-- At least one recipient is given, in the array or in the string. -/
def EncryptRequest.HasRecipients (request : EncryptRequest) : Prop :=
  (∃ key rest, request.recp = some (key :: rest)) ∨ request.recpstring.isSome

/-- The handler that an operation installs for a request. -/
def EncryptOperation.handler : EncryptOperation → Bool → StatusHandler
  | .encrypt, false => encryptStatusHandlerInstalled
  | .encrypt, true => encryptSymStatusHandlerInstalled
  | .encryptSign, false => encryptSignStatusHandler
  | .encryptSign, true => encryptSignSymStatusHandler

theorem EncryptRequest.HasRecipients.symmetric {request : EncryptRequest}
    (recipients : request.HasRecipients)
    : request.symmetric = request.flagSymmetric := by
  unfold EncryptRequest.symmetric
  rcases recipients with ⟨key, rest, given⟩ | given
  · simp [given]
  · cases recpstring : request.recpstring with
    | none => simp [recpstring] at given
    | some string => simp

theorem startEncryption_ok {env : EncryptEnvironment} {request : EncryptRequest}
    {ctx started : Ctx} {needsPassphrase : Bool} {handler installed : StatusHandler}
    (ok : startEncryption env request ctx needsPassphrase handler = .ok (installed, started))
    : installed = handler ∧ started = ctx.opReset := by
  unfold startEncryption at ok
  (repeat' split at ok) <;> cases ok
  exact ⟨rfl, rfl⟩

theorem EncryptOperation.start_ok {op : EncryptOperation} {env : EncryptEnvironment}
    {request : EncryptRequest} {ctx started : Ctx} {handler : StatusHandler}
    (ok : op.start env request ctx = .ok (handler, started))
    : handler = op.handler request.symmetric ∧ started = ctx.opReset := by
  cases op with
  | encrypt =>
      obtain ⟨rfl, rfl⟩ := startEncryption_ok ok
      cases request.symmetric <;> exact ⟨rfl, rfl⟩
  | encryptSign =>
      obtain ⟨rfl, rfl⟩ := startEncryption_ok ok
      cases request.symmetric <;> exact ⟨rfl, rfl⟩

theorem EncryptOperation.handler_total (op : EncryptOperation) (symmetric : Bool)
    : (op.handler symmetric).Total := by
  have progress := progressStatusHandler_total
  have encrypt := encryptStatusHandler_total
  have sign := signStatusHandler_total
  have passphrase := passphraseStatusHandler_total
  match op, symmetric with
  | .encrypt, false => exact progress.andThen encrypt
  | .encrypt, true => exact progress.andThen passphrase
  | .encryptSign, false => exact (progress.andThen encrypt).andThen sign
  | .encryptSign, true => exact (progress.andThen sign).andThen passphrase

theorem EncryptOperation.handler_lists (op : EncryptOperation)
    : (op.handler false).ListsRecipients ∧ (op.handler false).RefusesAtEof := by
  have lists := encryptStatusHandler_listsRecipients.afterProgress
  have refuses := encryptStatusHandler_refusesAtEof.afterProgress
  cases op with
  | encrypt => exact ⟨lists, refuses⟩
  | encryptSign => exact ⟨lists.andThen signStatusHandler_framesListed, refuses.andThen⟩

theorem EncryptOperation.handler_framesListed (op : EncryptOperation)
    : (op.handler true).Frames Ctx.listedRecipients := by
  have progress := progressStatusHandler_framesListed
  have passphrase := passphraseStatusHandler_framesListed
  cases op with
  | encrypt => exact progress.andThen passphrase
  | encryptSign => exact (progress.andThen signStatusHandler_framesListed).andThen passphrase

theorem StatusHandler.Total.run {handler : StatusHandler} (total : handler.Total) (ctx : Ctx)
    (lines : List StatusLine)
    : ∃ errs last, Machine.run (stepStatus handler) ctx lines = some (errs, last) := by
  have progress : ∀ {ctx : Ctx} {line : StatusLine}, True → True
      → ∃ err next, stepStatus handler ctx line = some (err, next) ∧ True ∧ True := by
    intro ctx line _ _
    obtain ⟨err, left, next, answered⟩ := total ctx line.code line.args
    exact ⟨err, next, by simp [stepStatus, answered], trivial, trivial⟩
  obtain ⟨errs, last, ran, -⟩ :=
    Machine.run_progress progress trivial (Machine.along_true (stepStatus handler) lines ctx)
  exact ⟨errs, last, ran⟩

theorem StatusHandler.ListsRecipients.run {handler : StatusHandler}
    (lists : handler.ListsRecipients) {ctx last : Ctx} {lines : List StatusLine}
    {errs : List GpgError}
    (ran : Machine.run (stepStatus handler) ctx lines = some (errs, last))
    : last.listedRecipients = ctx.listedRecipients ++ invRecpKeys lines := by
  induction lines generalizing ctx errs with
  | nil =>
      cases ran
      simp [invRecpKeys]
  | cons line rest ih =>
      obtain ⟨err, next, later, stepped, tail, _⟩ := Machine.run_cons_iff.mp ran
      obtain ⟨left, handled⟩ := stepStatus_handled stepped
      rw [ih tail, lists handled]
      unfold invRecpKeys
      cases key : line.invRecpKey <;> simp [key]

theorem StatusHandler.Frames.run {α : Type} {view : Ctx → α} {handler : StatusHandler}
    (frames : handler.Frames view) {ctx last : Ctx} {lines : List StatusLine}
    {errs : List GpgError}
    (ran : Machine.run (stepStatus handler) ctx lines = some (errs, last))
    : view last = view ctx := by
  have constant : lines.foldl (fun seen (_ : StatusLine) => seen) (view ctx) = view ctx := by
    induction lines <;> simp_all
  rw [← constant]
  refine Machine.run_view ?_ ran
  intro state line err next stepped
  obtain ⟨left, handled⟩ := stepStatus_handled stepped
  exact frames handled

theorem StatusHandler.ListsRecipients.run_eof {handler : StatusHandler}
    (lists : handler.ListsRecipients) (refuses : handler.RefusesAtEof) {ctx last : Ctx}
    {lines : List StatusLine} {errs : List GpgError} (fresh : ctx.listedRecipients = [])
    (nonempty : invRecpKeys lines ≠ [])
    (ran : Machine.run (stepStatus handler) ctx (lines ++ [eofLine]) = some (errs, last))
    : (∃ err ∈ errs, err ≠ 0) ∧ last.listedRecipients = invRecpKeys lines := by
  obtain ⟨early, middle, late, head, ended, rfl⟩ := Machine.run_append_iff.mp ran
  obtain ⟨err, next, later, stepped, tail, rfl⟩ := Machine.run_cons_iff.mp ended
  have before : middle.listedRecipients = invRecpKeys lines := by
    rw [lists.run head, fresh, List.nil_append]
  have silent : invRecpKeys [eofLine] = [] := by
    simp [invRecpKeys, eofLine, StatusLine.invRecpKey]
  have after : last.listedRecipients = invRecpKeys lines := by
    rw [lists.run ended, before, silent, List.append_nil]
  obtain ⟨left, handled⟩ := stepStatus_handled stepped
  obtain ⟨_, _, _, answered, failed⟩ := refuses middle (before ▸ nonempty)
  simp only [eofLine, answered, Option.some.injEq, Prod.mk.injEq] at handled
  obtain ⟨rfl, _, _⟩ := handled
  exact ⟨⟨_, by simp, failed⟩, after⟩

/-- An encryption with an INV_RECP line among its lines fails and lists the keys of these
lines exactly when it was not asked to encrypt with a passphrase as well.
-/
theorem invRecp_reported_iff (op : EncryptOperation) {env : EncryptEnvironment}
    {request : EncryptRequest} {ctx started : Ctx} {handler : StatusHandler}
    {lines : List StatusLine} (recipients : request.HasRecipients)
    (ok : op.start env request ctx = .ok (handler, started))
    (found : ∃ line ∈ lines, line.invRecpKey.isSome)
    : ∃ errs last,
        Machine.run (stepStatus handler) started (lines ++ [eofLine]) = some (errs, last)
        ∧ ((∃ err ∈ errs, err ≠ 0) ∧ last.listedRecipients = invRecpKeys lines
          ↔ request.flagSymmetric = false) := by
  obtain ⟨rfl, rfl⟩ := EncryptOperation.start_ok ok
  have nonempty : invRecpKeys lines ≠ [] := by
    obtain ⟨line, member, wellFormed⟩ := found
    obtain ⟨key, named⟩ := Option.isSome_iff_exists.mp wellFormed
    exact List.ne_nil_of_mem (List.mem_filterMap.mpr ⟨line, member, named⟩)
  rw [recipients.symmetric]
  obtain ⟨errs, last, ran⟩ :=
    (op.handler_total request.flagSymmetric).run ctx.opReset (lines ++ [eofLine])
  refine ⟨errs, last, ran, ?_⟩
  cases flag : request.flagSymmetric with
  | true =>
      rw [flag] at ran
      have untouched : last.listedRecipients = [] := op.handler_framesListed.run ran
      simp [untouched, nonempty.symm]
  | false =>
      rw [flag] at ran
      obtain ⟨lists, refuses⟩ := op.handler_lists
      exact iff_of_true (lists.run_eof refuses rfl nonempty ran) rfl

/-- A recipient without a usable key. -/
def unusableRecipient : StatusLine := ⟨.invRecp, str "1 Alpha"⟩

theorem invRecp_reported_iff_alpha
    : ∃ handler started errs last,
        encryptStart {} { recp := some [str "Alpha"] } {} = .ok (handler, started)
        ∧ Machine.run (stepStatus handler) started ([unusableRecipient] ++ [eofLine])
          = some (errs, last)
        ∧ (∃ err ∈ errs, err ≠ 0)
        ∧ last.listedRecipients = invRecpKeys [unusableRecipient] := by
  obtain ⟨handler, started, ok⟩ : ∃ handler started,
      EncryptOperation.encrypt.start {} { recp := some [str "Alpha"] } {}
      = .ok (handler, started) :=
    ⟨_, _, rfl⟩
  obtain ⟨errs, last, ran, reported⟩ :=
    invRecp_reported_iff .encrypt (Or.inl ⟨str "Alpha", [], rfl⟩) ok
      ⟨unusableRecipient, List.mem_cons_self, by decide⟩
  obtain ⟨failed, listed⟩ := reported.mpr (by decide)
  exact ⟨handler, started, errs, last, ok, ran, failed, listed⟩

/-- With a passphrase as well, no call returns an error and no key is listed. -/
theorem invRecp_lost_when_symmetric
    : ∃ handler started last,
        encryptStart {} { recp := some [str "Alpha"], flags := 32 } {} = .ok (handler, started)
        ∧ Machine.run (stepStatus handler) started ([unusableRecipient] ++ [eofLine])
          = some ([0, 0], last)
        ∧ last.listedRecipients = []
        ∧ invRecpKeys [unusableRecipient] = [some (str "Alpha")] := by
  refine ⟨_, _, _, rfl, rfl, rfl, by decide⟩

end Gpgme
