import Gpgme.Operation.Failures
import Gpgme.Operation.EncryptSign

/-! What a status handler reads and what it leaves alone.
Handlers that run one after the other on the same line share the context, so their effects
are told apart by views of it.
-/

namespace Gpgme

open CString

-----------------------------------------------------------------------------------------
-- Handlers and views of the context
-----------------------------------------------------------------------------------------

namespace StatusHandler

variable {α β γ : Type} {view : Ctx → α} {first second : StatusHandler}

/-- The handler returns, whatever line it gets. -/
def Total (handler : StatusHandler) : Prop :=
  ∀ ctx code args, ∃ err left next, handler ctx code args = some (err, left, next)

/-- The handler does not touch the view. -/
def Frames (handler : StatusHandler) (view : Ctx → α) : Prop :=
  ∀ ⦃ctx code args err left next⦄,
    handler ctx code args = some (err, left, next) → view next = view ctx

/-- What the handler returns, and what it makes of the view, depends on the line and on the
view only.
-/
def DependsOn (handler : StatusHandler) (view : Ctx → α) : Prop :=
  ∀ ⦃ctx ctx' code args err left next⦄,
    view ctx = view ctx'
    → handler ctx code args = some (err, left, next)
    → ∃ next', handler ctx' code args = some (err, left, next') ∧ view next = view next'

theorem andThen_cases {ctx next : Ctx} {code : StatusCode} {args left : Str} {err : GpgError}
    (handled : first.andThen second ctx code args = some (err, left, next))
    : (err ≠ 0 ∧ first ctx code args = some (err, left, next))
      ∨ ∃ passed middle,
          first ctx code args = some (0, passed, middle)
          ∧ second middle code passed = some (err, left, next) := by
  unfold andThen at handled
  split at handled
  · cases handled
  · next err' passed middle answered =>
      split at handled
      · next failed =>
          cases handled
          exact Or.inl ⟨failed, answered⟩
      · next fine =>
          have zero : err' = 0 := not_not.mp fine
          subst zero
          exact Or.inr ⟨passed, middle, answered, handled⟩

theorem andThen_of_ok {ctx middle : Ctx} {code : StatusCode} {args passed : Str}
    (answered : first ctx code args = some (0, passed, middle))
    : first.andThen second ctx code args = second middle code passed := by
  simp [andThen, answered]

theorem andThen_of_error {ctx middle : Ctx} {code : StatusCode} {args passed : Str}
    {err : GpgError} (answered : first ctx code args = some (err, passed, middle))
    (failed : err ≠ 0)
    : first.andThen second ctx code args = some (err, passed, middle) := by
  simp [andThen, answered, failed]

theorem Total.andThen (total : first.Total) (total' : second.Total)
    : (first.andThen second).Total := by
  intro ctx code args
  obtain ⟨err, passed, middle, answered⟩ := total ctx code args
  by_cases failed : err = 0
  · subst failed
    rw [andThen_of_ok answered]
    exact total' middle code passed
  · exact ⟨err, passed, middle, andThen_of_error answered failed⟩

theorem Frames.andThen (frames : first.Frames view) (frames' : second.Frames view)
    : (first.andThen second).Frames view := by
  intro ctx code args err left next handled
  rcases andThen_cases handled with ⟨_, answered⟩ | ⟨passed, middle, answered, continued⟩
  · exact frames answered
  · exact (frames' continued).trans (frames answered)

theorem DependsOn.andThen (depends : first.DependsOn view) (depends' : second.DependsOn view)
    : (first.andThen second).DependsOn view := by
  intro ctx ctx' code args err left next same handled
  rcases andThen_cases handled with ⟨failed, answered⟩ | ⟨passed, middle, answered, continued⟩
  · obtain ⟨next', answered', same'⟩ := depends same answered
    exact ⟨next', andThen_of_error answered' failed, same'⟩
  · obtain ⟨middle', answered', same'⟩ := depends same answered
    obtain ⟨next', continued', final⟩ := depends' same' continued
    exact ⟨next', (andThen_of_ok answered').trans continued', final⟩

theorem DependsOn.extend {rest : Ctx → β} {whole : Ctx → γ} (depends : first.DependsOn view)
    (frames : first.Frames rest)
    (parts : ∀ a b, whole a = whole b ↔ view a = view b ∧ rest a = rest b)
    : first.DependsOn whole := by
  intro ctx ctx' code args err left next same handled
  obtain ⟨seen, untouched⟩ := (parts ctx ctx').mp same
  obtain ⟨next', handled', seen'⟩ := depends seen handled
  have untouched' : rest next = rest next' :=
    (frames handled).trans (untouched.trans (frames handled').symm)
  exact ⟨next', handled', (parts next next').mpr ⟨seen', untouched'⟩⟩

end StatusHandler

-----------------------------------------------------------------------------------------
-- What each handler may change
-----------------------------------------------------------------------------------------

theorem passphraseStatusHandler_changes (ctx : Ctx) (code : StatusCode) (args : Str)
    : ∃ err passphrase statusCalls,
        passphraseStatusHandler ctx code args
        = some (err, args, { ctx with passphrase, statusCalls }) := by
  cases code <;> simp only [passphraseStatusHandler]
  case error | failure =>
    obtain ⟨statusCalls, recorded⟩ := ctx.callStatusCb_changes _ args
    exact ⟨_, ctx.passphrase, statusCalls, by rw [recorded]⟩
  case eof =>
    split <;> exact ⟨_, ctx.passphrase, ctx.statusCalls, rfl⟩
  all_goals exact ⟨_, _, ctx.statusCalls, rfl⟩

theorem decryptStatusSwitch_changes (ctx : Ctx) (code : StatusCode) (args : Str)
    : ∃ err left decrypt statusCalls blankoutCalls,
        decryptStatusSwitch ctx code args
        = some (err, left, { ctx with decrypt, statusCalls, blankoutCalls }) := by
  cases code <;> simp only [decryptStatusSwitch]
  case inquireMaxlen =>
    obtain ⟨statusCalls, recorded⟩ := ctx.callStatusCb_changes _ args
    exact ⟨_, args, ctx.decrypt, statusCalls, ctx.blankoutCalls, by rw [recorded]⟩
  case encTo | noSeckey =>
    split <;> exact ⟨_, args, _, ctx.statusCalls, ctx.blankoutCalls, rfl⟩
  all_goals exact ⟨_, _, _, ctx.statusCalls, _, rfl⟩

theorem encryptStatusHandler_changes (ctx : Ctx) (code : StatusCode) (args : Str)
    : ∃ err left encrypt,
        encryptStatusHandler ctx code args = some (err, left, { ctx with encrypt }) := by
  cases code <;> simp only [encryptStatusHandler]
  case invRecp =>
    split <;> exact ⟨_, args, _, rfl⟩
  all_goals exact ⟨_, _, _, rfl⟩

theorem signStatusSwitch_changes (ctx : Ctx) (code : StatusCode) (args : Str)
    : ∃ err left sign statusCalls,
        signStatusSwitch ctx code args = some (err, left, { ctx with sign, statusCalls }) := by
  cases code <;> simp only [signStatusSwitch, noteInvalidSigner]
  case inquireMaxlen =>
    obtain ⟨statusCalls, recorded⟩ := ctx.callStatusCb_changes _ args
    exact ⟨_, args, ctx.sign, statusCalls, by rw [recorded]⟩
  case sigCreated | invSgnr =>
    split <;> exact ⟨_, args, _, ctx.statusCalls, rfl⟩
  case invRecp =>
    (repeat' split) <;> exact ⟨_, args, _, ctx.statusCalls, rfl⟩
  all_goals exact ⟨_, _, _, ctx.statusCalls, rfl⟩

theorem passphraseStatusHandler_total : passphraseStatusHandler.Total := by
  intro ctx code args
  obtain ⟨err, _, _, answered⟩ := passphraseStatusHandler_changes ctx code args
  exact ⟨err, args, _, answered⟩

theorem signStatusHandler_total : signStatusHandler.Total := by
  refine passphraseStatusHandler_total.andThen ?_
  intro ctx code args
  obtain ⟨err, left, _, _, answered⟩ := signStatusSwitch_changes ctx code args
  exact ⟨err, left, _, answered⟩

/-- The settings of the context, which no handler changes. -/
structure Ctx.Environment where
  protocol : Protocol
  statusCb : Option (List (Str × Str) → GpgError)
  fullStatus : Bool
  ignoreMdcError : Bool
  rawDescription : Bool

def Ctx.environment (ctx : Ctx) : Ctx.Environment :=
  ⟨ctx.protocol, ctx.statusCb, ctx.fullStatus, ctx.ignoreMdcError, ctx.rawDescription⟩

/-- The part of the context that a decryption works on. -/
def Ctx.decryptPart (ctx : Ctx)
    : Ctx.Environment × PassphraseData × List (Str × Str) × List Nat × DecryptData :=
  (ctx.environment, ctx.passphrase, ctx.statusCalls, ctx.blankoutCalls, ctx.decrypt)

/-- The part of the context that a verification works on. -/
def Ctx.verifyPart (ctx : Ctx) : Ctx.Environment × VerifyData := (ctx.environment, ctx.verify)

/-- The part of the context that an encryption works on. -/
def Ctx.encryptPart (ctx : Ctx) : Ctx.Environment × EncryptData :=
  (ctx.environment, ctx.encrypt)

/-- The part of the context that signing works on. -/
def Ctx.signPart (ctx : Ctx)
    : Ctx.Environment × PassphraseData × List (Str × Str) × SignData :=
  (ctx.environment, ctx.passphrase, ctx.statusCalls, ctx.sign)

theorem progressStatusHandler_frames {α : Type} {view : Ctx → α} (free : ProgressFree view)
    : progressStatusHandler.Frames view := by
  intro ctx code args err left next handled
  obtain ⟨redrawSuggested, progressCalls, answered⟩ := progressStatusHandler_ok ctx code args
  rw [answered] at handled
  cases handled
  exact free ctx redrawSuggested progressCalls

theorem passphraseStatusHandler_frames {α : Type} {view : Ctx → α}
    (free
      : ∀ ctx passphrase statusCalls, view { ctx with passphrase, statusCalls } = view ctx)
    : passphraseStatusHandler.Frames view := by
  intro ctx code args err left next handled
  obtain ⟨_, passphrase, statusCalls, answered⟩ := passphraseStatusHandler_changes ctx code args
  rw [answered] at handled
  cases handled
  exact free ctx passphrase statusCalls

theorem decryptStatusHandler_frames : decryptStatusHandler.Frames Ctx.verifyPart := by
  refine (passphraseStatusHandler_frames fun _ _ _ => rfl).andThen ?_
  intro ctx code args err left next handled
  obtain ⟨_, _, _, _, _, answered⟩ := decryptStatusSwitch_changes ctx code args
  rw [answered] at handled
  cases handled
  rfl

theorem verifyStatusHandler_frames : verifyStatusHandler.Frames Ctx.decryptPart := by
  intro ctx code args err left next handled
  simp only [verifyStatusHandler, Option.map_eq_some_iff, Prod.exists, Prod.mk.injEq] at handled
  obtain ⟨_, _, _, _, _, _, rfl⟩ := handled
  rfl

theorem encryptStatusHandler_frames : encryptStatusHandler.Frames Ctx.signPart := by
  intro ctx code args err left next handled
  obtain ⟨_, _, _, answered⟩ := encryptStatusHandler_changes ctx code args
  rw [answered] at handled
  cases handled
  rfl

theorem signStatusHandler_frames : signStatusHandler.Frames Ctx.encryptPart := by
  refine (passphraseStatusHandler_frames fun _ _ _ => rfl).andThen ?_
  intro ctx code args err left next handled
  obtain ⟨_, _, _, _, answered⟩ := signStatusSwitch_changes ctx code args
  rw [answered] at handled
  cases handled
  rfl

end Gpgme
