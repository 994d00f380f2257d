import Gpgme.Operation.Encrypt
import Gpgme.Operation.Sign

/-! What KEY_CONSIDERED lines tell about the keys that the following lines call invalid. -/

namespace Gpgme

open CString

-----------------------------------------------------------------------------------------
-- Lines and what the handlers make of them
-----------------------------------------------------------------------------------------

/-- A KEY_CONSIDERED line, or a line about an invalid key. -/
inductive KeyLine where
  | considered (args : Str)
  | invalid (args : Str)
deriving DecidableEq

/-- The call of a status handler for a line; the code of an invalid key depends on its use. -/
def KeyLine.feed (handler : StatusHandler) (invalidCode : StatusCode) (ctx : Ctx)
    : KeyLine → HandlerResult
  | .considered args => handler ctx .keyConsidered args
  | .invalid args => handler ctx invalidCode args

/-- Feed lines to a status handler; the operation ends with the first error. -/
def feedKeyLines (handler : StatusHandler) (invalidCode : StatusCode) : Ctx → List KeyLine → Ctx
  | ctx, [] => ctx
  | ctx, line :: rest =>
      match line.feed handler invalidCode ctx with
      | none => ctx
      | some (err, _, next) =>
          if err = 0 then feedKeyLines handler invalidCode next rest else next

/-- The invalid keys after INV_SGNR lines. -/
def recordedSigners (ctx : Ctx) (lines : List KeyLine) : List InvalidKey :=
  (feedKeyLines signStatusHandler .invSgnr ctx lines).sign.invalidSigners

/-- The invalid keys after the same lines as INV_RECP lines. -/
def recordedRecipients (ctx : Ctx) (lines : List KeyLine) : List InvalidKey :=
  (feedKeyLines encryptStatusHandler .invRecp ctx lines).encrypt.invalidRecipients

-----------------------------------------------------------------------------------------
-- What the lines mean
-----------------------------------------------------------------------------------------

/-- A line that is parsed without an error. -/
def KeyLine.WellFormed : KeyLine → Prop
  | .considered args => (parseKeyConsidered args 0).1 = 0
  | .invalid args => (parseInvRecp args none 0).isOk = true

instance (line : KeyLine) : Decidable line.WellFormed := by
  cases line <;> unfold KeyLine.WellFormed <;> infer_instance

def KeyLine.isInvalid : KeyLine → Bool
  | .considered _ => false
  | .invalid _ => true

/-- A KEY_CONSIDERED line with the flag for expired or revoked subkeys. -/
def subkeysUnusable (args : Str) : Prop :=
  (parseKeyConsidered args 0).1 = 0 ∧ (parseKeyConsidered args 0).2.2.testBit 1 = true

/-- An invalid key without a specific reason. -/
def noReason (args : Str) : Prop :=
  (parseInvRecp args none 0).isOk = true ∧ (strtol 0 args).value = 0

/-- An invalid key without a reason stands directly behind a KEY_CONSIDERED line that has
one.
-/
structure KeyLine.Explained (lines before after : List KeyLine) (considered invalid : Str)
    : Prop where
  split : lines = before ++ .considered considered :: .invalid invalid :: after
  reached : ∀ line ∈ before, line.WellFormed
  unusable : subkeysUnusable considered
  unspecified : noReason invalid

/-- The entries of the explained keys tell about the subkeys. -/
def ExplainsSubkeys (keys : List InvalidKey) (lines : List KeyLine) : Prop :=
  ∀ before after considered invalid,
    KeyLine.Explained lines before after considered invalid
    → (keys[before.countP KeyLine.isInvalid]?).map InvalidKey.reason
      = some (gpgError ErrCode.subkeysExpOrRev)

/-- The invalid keys with the reasons of a handler that carries the last KEY_CONSIDERED
line to the next invalid key, or of one that forgets it.
-/
def listedKeys (carries : Bool) : Bool → List KeyLine → List InvalidKey
  | _, [] => []
  | _, .considered args :: rest =>
      if (parseKeyConsidered args 0).1 = 0 then
        listedKeys carries ((parseKeyConsidered args 0).2.2.testBit 1) rest
      else
        []
  | pending, .invalid args :: rest =>
      match parseInvRecp args (if carries && pending then some [] else none) 2 with
      | .error _ => []
      | .ok key => key :: listedKeys carries false rest

-----------------------------------------------------------------------------------------
-- The parsers
-----------------------------------------------------------------------------------------

/-- Only one flag of the considered key is looked at. -/
theorem parseInvRecp_pending (args : Str) (kcFpr : Option Str) (kcFlags : Nat)
    : parseInvRecp args kcFpr kcFlags
      = parseInvRecp args (if kcFpr.isSome && kcFlags.testBit 1 then some [] else none) 2 := by
  have same (reason : Int)
      : invRecpReason reason kcFpr kcFlags
        = invRecpReason reason
            (if kcFpr.isSome && kcFlags.testBit 1 then some [] else none) 2 := by
    cases pending : kcFpr.isSome && kcFlags.testBit 1 <;>
      unfold invRecpReason <;> simp only [pending] <;> rfl
  unfold parseInvRecp
  simp only [same]

/-- A reason is replaced where the line has none, and nothing else is changed. -/
theorem parseInvRecp_explained (args : Str)
    : (∀ kcFpr, parseInvRecp args kcFpr 2 = .error invEngine)
      ∨ ∃ fpr, ∀ kcFpr,
          parseInvRecp args kcFpr 2
          = .ok { fpr, reason := invRecpReason (strtol 0 args).value kcFpr 2 } := by
  unfold parseInvRecp
  dsimp only
  split
  · exact .inl fun _ => rfl
  · exact .inr ⟨_, fun _ => rfl⟩

/-- The key of an earlier line matters exactly for the reason 0. -/
theorem invRecpReason_eq_iff (reason : Int)
    : invRecpReason reason (some []) 2 = invRecpReason reason none 2 ↔ reason ≠ 0 := by
  constructor
  · rintro same rfl
    revert same
    decide
  · intro specific
    unfold invRecpReason
    split <;> first | rfl | exact absurd rfl specific

/-- The flags of an earlier line are not kept by a line without an error. -/
theorem parseKeyConsidered_flags (args : Str) (kcFlags : Nat)
    : (parseKeyConsidered args kcFlags).1 = (parseKeyConsidered args 0).1
      ∧ ((parseKeyConsidered args 0).1 = 0
        → (parseKeyConsidered args kcFlags).2.1.isSome = true
          ∧ (parseKeyConsidered args kcFlags).2.2 = (parseKeyConsidered args 0).2.2) := by
  have failed : ¬invEngine = 0 := by decide
  unfold parseKeyConsidered
  split
  · simp [failed]
  · split
    · simp [failed]
    · dsimp only
      split <;> simp [failed]

-----------------------------------------------------------------------------------------
-- The handlers
-----------------------------------------------------------------------------------------

/-- How a handler treats the two kinds of lines: which list it extends, and what it keeps of
the last KEY_CONSIDERED line.
-/
structure ListsKeys (handler : StatusHandler) (invalidCode : StatusCode) (carries : Bool)
    (keys : Ctx → List InvalidKey) (pending : Ctx → Bool) : Prop where
  considered
    : ∀ ctx args, ∃ next,
        handler ctx .keyConsidered args = some ((parseKeyConsidered args 0).1, args, next)
        ∧ keys next = keys ctx
        ∧ ((parseKeyConsidered args 0).1 = 0
          → pending next = (parseKeyConsidered args 0).2.2.testBit 1)
  refused
    : ∀ ctx args err,
        parseInvRecp args (if carries && pending ctx then some [] else none) 2 = .error err
        → ∃ next, handler ctx invalidCode args = some (err, args, next) ∧ keys next = keys ctx
  listed
    : ∀ ctx args key,
        parseInvRecp args (if carries && pending ctx then some [] else none) 2 = .ok key
        → ∃ next,
            handler ctx invalidCode args = some (0, args, next)
            ∧ keys next = keys ctx ++ [key]
            ∧ pending next = false

/-- The list after a sequence of lines, by induction on the lines. -/
theorem ListsKeys.feed {handler : StatusHandler} {invalidCode : StatusCode} {carries : Bool}
    {keys : Ctx → List InvalidKey} {pending : Ctx → Bool}
    (lists : ListsKeys handler invalidCode carries keys pending) (ctx : Ctx)
    (lines : List KeyLine)
    : keys (feedKeyLines handler invalidCode ctx lines)
      = keys ctx ++ listedKeys carries (pending ctx) lines := by
  induction lines generalizing ctx with
  | nil => simp [feedKeyLines, listedKeys]
  | cons line rest ih =>
      cases line with
      | considered args =>
          obtain ⟨next, handled, same, kept⟩ := lists.considered ctx args
          simp only [feedKeyLines, KeyLine.feed, handled, listedKeys]
          split
          · next ok => rw [ih, same, kept ok]
          · rw [same, List.append_nil]
      | invalid args =>
          simp only [feedKeyLines, KeyLine.feed, listedKeys]
          cases parsed : parseInvRecp args (if carries && pending ctx then some [] else none) 2 with
          | error err =>
              have failed : err ≠ 0 := by
                rcases parseInvRecp_explained args with refused | ⟨fpr, accepted⟩
                · rw [refused] at parsed
                  cases parsed
                  decide
                · rw [accepted] at parsed
                  cases parsed
              obtain ⟨next, handled, same⟩ := lists.refused ctx args err parsed
              simp only [handled, if_neg failed, same, List.append_nil]
          | ok key =>
              obtain ⟨next, handled, added, used⟩ := lists.listed ctx args key parsed
              simp only [handled, if_pos, ih, added, used, List.append_assoc, List.singleton_append]

/-- The encryption handler carries the last KEY_CONSIDERED line to the next invalid key. -/
theorem encryptStatusHandler_listsKeys
    : ListsKeys encryptStatusHandler .invRecp true
        (fun ctx => ctx.encrypt.invalidRecipients)
        (fun ctx => ctx.encrypt.kcFpr.isSome && ctx.encrypt.kcFlags.testBit 1) where
  considered ctx args := by
    obtain ⟨sameErr, kept⟩ := parseKeyConsidered_flags args ctx.encrypt.kcFlags
    rw [← sameErr]
    refine ⟨{ ctx with
      encrypt := { ctx.encrypt with
        kcFpr := (parseKeyConsidered args ctx.encrypt.kcFlags).2.1
        kcFlags := (parseKeyConsidered args ctx.encrypt.kcFlags).2.2 } }, rfl, rfl, ?_⟩
    intro ok
    obtain ⟨some, flags⟩ := kept (sameErr ▸ ok)
    simp only [some, flags, Bool.true_and]
  refused ctx args err parsed := by
    rw [Bool.true_and, ← parseInvRecp_pending] at parsed
    exact ⟨ctx, by simp only [encryptStatusHandler, parsed], rfl⟩
  listed ctx args key parsed := by
    rw [Bool.true_and, ← parseInvRecp_pending] at parsed
    refine ⟨{ ctx with
      encrypt := { ctx.encrypt with
        invalidRecipients := ctx.encrypt.invalidRecipients ++ [key]
        kcFpr := none } }, ?_, rfl, rfl⟩
    simp only [encryptStatusHandler, parsed]

/-- The signing handler drops that line before it looks at the key. -/
theorem signStatusHandler_listsKeys
    : ListsKeys signStatusHandler .invSgnr false
        (fun ctx => ctx.sign.invalidSigners)
        (fun ctx => ctx.sign.kcFpr.isSome && ctx.sign.kcFlags.testBit 1) where
  considered ctx args := by
    obtain ⟨sameErr, kept⟩ := parseKeyConsidered_flags args ctx.sign.kcFlags
    rw [← sameErr]
    refine ⟨{ ctx with
      sign := { ctx.sign with
        kcFpr := (parseKeyConsidered args ctx.sign.kcFlags).2.1
        kcFlags := (parseKeyConsidered args ctx.sign.kcFlags).2.2 } }, rfl, rfl, ?_⟩
    intro ok
    obtain ⟨some, flags⟩ := kept (sameErr ▸ ok)
    simp only [some, flags, Bool.true_and]
  refused ctx args err parsed := by
    have parsed : parseInvRecp args none ctx.sign.kcFlags = .error err := by
      rw [parseInvRecp_pending]
      exact parsed
    refine ⟨{ ctx with sign := { ctx.sign with invSgnrSeen := true, kcFpr := none } }, ?_, rfl⟩
    change noteInvalidSigner _ args = _
    simp only [noteInvalidSigner, parsed]
  listed ctx args key parsed := by
    have parsed : parseInvRecp args none ctx.sign.kcFlags = .ok key := by
      rw [parseInvRecp_pending]
      exact parsed
    refine ⟨{ ctx with
      sign := { ctx.sign with
        invSgnrSeen := true
        kcFpr := none
        invalidSigners := ctx.sign.invalidSigners ++ [key] } }, ?_, rfl, rfl⟩
    change noteInvalidSigner _ args = _
    simp only [noteInvalidSigner, parsed]

-----------------------------------------------------------------------------------------
-- Where the handlers differ
-----------------------------------------------------------------------------------------

/-- An invalid key without a reason comes next, and a KEY_CONSIDERED line has one. -/
def pendingUnspecified (pending : Bool) : List KeyLine → Prop
  | .invalid args :: _ => pending = true ∧ noReason args
  | _ => False

/-- An explained key in the rest of a sequence is one of the whole sequence. -/
theorem explained_cons_iff (line : KeyLine) (rest : List KeyLine)
    : (∃ before after considered invalid,
        KeyLine.Explained (line :: rest) before after considered invalid)
      ↔ (∃ considered,
          line = .considered considered
          ∧ pendingUnspecified ((parseKeyConsidered considered 0).2.2.testBit 1) rest
          ∧ line.WellFormed)
        ∨ line.WellFormed
          ∧ ∃ before after considered invalid,
              KeyLine.Explained rest before after considered invalid := by
  constructor
  · rintro ⟨before, after, considered, invalid, split, reached, unusable, unspecified⟩
    cases before with
    | nil =>
        cases split
        exact .inl ⟨considered, rfl, ⟨unusable.2, unspecified⟩, unusable.1⟩
    | cons first before =>
        cases split
        refine .inr ⟨reached line List.mem_cons_self, before, after, considered, invalid, rfl,
          ?_, unusable, unspecified⟩
        exact fun line member => reached line (List.mem_cons_of_mem _ member)
  · rintro (⟨considered, rfl, next, wellFormed⟩
      | ⟨wellFormed, before, after, considered, invalid, rfl, reached, unusable, unspecified⟩)
    · cases rest with
      | nil => exact next.elim
      | cons second after =>
          cases second with
          | considered args => exact next.elim
          | invalid args =>
              exact ⟨[], after, considered, args, rfl, by simp, ⟨wellFormed, next.1⟩, next.2⟩
    · refine ⟨line :: before, after, considered, invalid, rfl, ?_, unusable, unspecified⟩
      intro found member
      rcases List.mem_cons.mp member with rfl | member
      · exact wellFormed
      · exact reached found member

/-- Without an earlier key no reason is awaited. -/
theorem not_pendingUnspecified (lines : List KeyLine) : ¬pendingUnspecified false lines := by
  intro next
  unfold pendingUnspecified at next
  split at next
  · exact Bool.false_ne_true next.1
  · exact next

/-- The lists differ exactly if a reason is lost, by induction on the lines. -/
theorem listedKeys_eq_iff (pending : Bool) (lines : List KeyLine)
    : listedKeys false pending lines = listedKeys true pending lines
      ↔ ¬pendingUnspecified pending lines
        ∧ ¬∃ before after considered invalid,
            KeyLine.Explained lines before after considered invalid := by
  induction lines generalizing pending with
  | nil =>
      simp only [listedKeys, pendingUnspecified, not_false_eq_true, true_and, true_iff]
      rintro ⟨before, after, considered, invalid, split, -⟩
      cases before <;> cases split
  | cons line rest ih =>
      rw [explained_cons_iff]
      cases line with
      | considered args =>
          have notInvalid : ¬pendingUnspecified pending (.considered args :: rest) := id
          simp only [listedKeys, notInvalid, not_false_eq_true, true_and, KeyLine.WellFormed,
            KeyLine.considered.injEq, exists_eq_left']
          split
          · next ok => simp [ih, ok]
          · next failed => simp [failed]
      | invalid args =>
          have dropped : ¬∃ considered,
              KeyLine.invalid args = .considered considered
              ∧ pendingUnspecified ((parseKeyConsidered considered 0).2.2.testBit 1) rest
              ∧ (KeyLine.invalid args).WellFormed := by
            rintro ⟨_, same, -⟩
            cases same
          simp only [dropped, false_or]
          rcases parseInvRecp_explained args with failed | ⟨fpr, parsed⟩
          · have malformed (kcFlags : Nat) : parseInvRecp args none kcFlags = .error invEngine := by
              rw [parseInvRecp_pending]
              exact failed none
            simp [listedKeys, failed, KeyLine.WellFormed, malformed, pendingUnspecified, noReason,
              Except.isOk, Except.toBool]
          · have wellFormed : (KeyLine.invalid args).WellFormed := by
              rw [KeyLine.WellFormed, parseInvRecp_pending]
              exact congrArg Except.isOk (parsed none)
            have next
                : pendingUnspecified pending (.invalid args :: rest)
                  ↔ pending = true ∧ (strtol 0 args).value = 0 := by
              simp only [pendingUnspecified, noReason]
              exact and_congr_right fun _ => and_iff_right wellFormed
            have sameReason
                : invRecpReason (strtol 0 args).value none 2
                    = invRecpReason (strtol 0 args).value (if pending then some [] else none) 2
                  ↔ ¬(pending = true ∧ (strtol 0 args).value = 0) := by
              cases pending with
              | false => simp
              | true =>
                  rw [eq_comm, if_pos rfl, invRecpReason_eq_iff]
                  simp
            simp only [listedKeys, Bool.false_and, Bool.true_and, Bool.false_eq_true, if_false,
              parsed, List.cons.injEq, InvalidKey.mk.injEq, true_and, sameReason, next,
              wellFormed]
            rw [ih]
            simp [not_pendingUnspecified]

-----------------------------------------------------------------------------------------
-- Both handlers on the same lines
-----------------------------------------------------------------------------------------

/-- Both operations start without invalid keys, and the encryption without a considered
key.
-/
structure NoKeysYet (ctx : Ctx) : Prop where
  signers : ctx.sign.invalidSigners = []
  recipients : ctx.encrypt.invalidRecipients = []
  forgotten : ctx.encrypt.kcFpr = none

/-- The two handlers explain the same lines alike exactly if no line without a reason stands
directly behind a KEY_CONSIDERED line that has one.
-/
theorem keys_explained_alike_iff {ctx : Ctx} (fresh : NoKeysYet ctx) (lines : List KeyLine)
    : (recordedSigners ctx lines = recordedRecipients ctx lines
        ∧ ExplainsSubkeys (recordedSigners ctx lines) lines
        ∧ ExplainsSubkeys (recordedRecipients ctx lines) lines)
      ↔ ¬∃ before after considered invalid,
          KeyLine.Explained lines before after considered invalid := by
  have signers := signStatusHandler_listsKeys.feed ctx lines
  have recipients := encryptStatusHandler_listsKeys.feed ctx lines
  rw [fresh.signers, List.nil_append] at signers
  rw [fresh.recipients, fresh.forgotten, List.nil_append] at recipients
  have forgetful (pending : Bool)
      : listedKeys false pending lines = listedKeys false false lines := by
    cases lines with
    | nil => rfl
    | cons line rest => cases line <;> rfl
  have same
      : recordedSigners ctx lines = recordedRecipients ctx lines
        ↔ ¬∃ before after considered invalid,
            KeyLine.Explained lines before after considered invalid := by
    rw [recordedSigners, recordedRecipients, signers, recipients, forgetful]
    exact (listedKeys_eq_iff false lines).trans (and_iff_right (not_pendingUnspecified lines))
  refine ⟨fun alike => same.mp alike.1, ?_⟩
  intro unexplained
  have vacuous (keys : List InvalidKey) : ExplainsSubkeys keys lines :=
    fun before after considered invalid explained =>
      absurd ⟨before, after, considered, invalid, explained⟩ unexplained
  exact ⟨same.mpr unexplained, vacuous _, vacuous _⟩

/-- The reasons that two operations give for a key whose subkeys are expired. -/
def expiredSubkeys : List KeyLine :=
  [.considered (str "0123456789ABCDEF 2"), .invalid (str "0 0123456789ABCDEF")]

/-- A signer with expired subkeys is reported without a reason, a recipient with one. -/
theorem signer_reason_lost
    : NoKeysYet {}
      ∧ (recordedSigners {} expiredSubkeys).map InvalidKey.reason = [gpgError ErrCode.general]
      ∧ (recordedRecipients {} expiredSubkeys).map InvalidKey.reason
        = [gpgError ErrCode.subkeysExpOrRev]
      ∧ ¬(recordedSigners {} expiredSubkeys = recordedRecipients {} expiredSubkeys
        ∧ ExplainsSubkeys (recordedSigners {} expiredSubkeys) expiredSubkeys
        ∧ ExplainsSubkeys (recordedRecipients {} expiredSubkeys) expiredSubkeys) := by
  have signers
      : (recordedSigners {} expiredSubkeys).map InvalidKey.reason = [gpgError ErrCode.general] := by
    decide
  have recipients
      : (recordedRecipients {} expiredSubkeys).map InvalidKey.reason
        = [gpgError ErrCode.subkeysExpOrRev] := by
    decide
  refine ⟨⟨rfl, rfl, rfl⟩, signers, recipients, ?_⟩
  rintro ⟨same, -⟩
  rw [same, recipients] at signers
  revert signers
  decide

/-- The same for a key that must not be used for this. -/
def wrongUsage : List KeyLine := [.considered (str "F 2"), .invalid (str "3 F")]

/-- A line with a reason of its own is explained alike. -/
theorem wrong_usage_explained_alike
    : recordedSigners {} wrongUsage = recordedRecipients {} wrongUsage
      ∧ ExplainsSubkeys (recordedSigners {} wrongUsage) wrongUsage
      ∧ ExplainsSubkeys (recordedRecipients {} wrongUsage) wrongUsage := by
  refine (keys_explained_alike_iff ⟨rfl, rfl, rfl⟩ _).mpr ?_
  rintro ⟨before, after, considered, invalid, split, reached, unusable, unspecified⟩
  have specific : (strtol 0 (str "3 F")).value ≠ 0 := by decide
  unfold wrongUsage at split
  rcases before with _ | ⟨first, _ | ⟨second, _ | ⟨third, before⟩⟩⟩ <;>
    simp only [List.nil_append, List.cons_append, List.cons.injEq, KeyLine.invalid.injEq,
      reduceCtorEq, and_false] at split
  exact specific (split.2.1 ▸ unspecified.2)

end Gpgme
