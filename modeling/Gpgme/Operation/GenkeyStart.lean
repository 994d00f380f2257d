import Gpgme.Lib.Substring
import Gpgme.Lib.CString
import Gpgme.Error

/-! The two ways to start a key generation from a parameter string, `gpgme_op_genkey_start` and
`gpgme_op_genkey` of `genkey.c`.
-/

namespace Gpgme

open CString (str)

-----------------------------------------------------------------------------------------
-- The parameters
-----------------------------------------------------------------------------------------

def keyParmsTag : Str := str "<GnupgKeyParms "
def formatInternal : Str := str "format=\"internal\""
def keyParmsEndTag : Str := str "</GnupgKeyParms>"

/-- The loop of `get_key_parameter` over the line ends in front of the content. -/
def skipLineEnds (endtag : Str) : Str → Str
  | [] => []
  | c :: content =>
      if endtag.length < content.length + 1 ∧ (c = 10 ∨ (c = 13 ∧ content.head? = some 10)) then
        skipLineEnds endtag content
      else c :: content

/-- The static `get_key_parameter`: the content of the data object that it creates. -/
def getKeyParameter (memory : Bool) (parms : Str) : Except GpgError Str :=
  match Substring.find keyParmsTag parms with
  | none => .error (gpgError ErrCode.invValue)
  | some parms =>
      match parms.dropWhile (· != 62) with
      | [] => .error (gpgError ErrCode.invValue)
      | _ :: content =>
          match Substring.find formatInternal parms with
          | none => .error (gpgError ErrCode.invValue)
          | some attrib =>
              if attrib.length ≤ content.length then .error (gpgError ErrCode.invValue)
              else
                let endtag := (Substring.find keyParmsEndTag content).getD []
                let content := skipLineEnds endtag content
                if memory then .ok (content.take (content.length - endtag.length))
                else .error (gpgError ErrCode.enomem)

/-- A text without the LF and CR LF characters at its start. -/
def withoutLineEnds : Str → Str
  | 10 :: body => withoutLineEnds body
  | 13 :: 10 :: body => withoutLineEnds body
  | body => body

/-- The loop takes the line ends off the body, whatever does not start with an LF follows it. -/
theorem skipLineEnds_append {endtag : Str} (noLf : endtag.head? ≠ some 10) (body : Str)
    : skipLineEnds endtag (body ++ endtag) = withoutLineEnds body ++ endtag := by
  have outside : skipLineEnds endtag endtag = endtag := by
    cases endtag with
    | nil => rfl
    | cons c rest =>
        rw [skipLineEnds, if_neg]
        rintro ⟨inside, -⟩
        simp at inside
  fun_induction withoutLineEnds body with
  | case1 body ih =>
      rw [List.cons_append, skipLineEnds, if_pos ⟨by simp, .inl rfl⟩, ih]
  | case2 body ih =>
      rw [List.cons_append, List.cons_append, skipLineEnds,
        if_pos ⟨by simp; omega, .inr ⟨rfl, rfl⟩⟩, skipLineEnds,
        if_pos ⟨by simp, .inl rfl⟩, ih]
  | case3 body noLineEnd noPair =>
      cases body with
      | nil => exact outside
      | cons c body =>
          rw [List.cons_append, skipLineEnds, if_neg]
          rintro ⟨-, rfl | ⟨rfl, next⟩⟩
          · exact noLineEnd body rfl
          · cases body with
            | nil => exact noLf next
            | cons c body =>
                cases Option.some.inj next
                exact noPair body rfl

/-- The parameters are what is between the tags, without the line ends at its start. -/
theorem getKeyParameter_between (memory : Bool) {before attributes body rest : Str}
    (first : ¬keyParmsTag <:+: before) (internal : formatInternal <:+: attributes)
    (inTag : 62 ∉ attributes) (noEnd : ¬keyParmsEndTag <:+: body)
    : getKeyParameter memory
        (before ++ keyParmsTag ++ attributes ++ [62] ++ body ++ keyParmsEndTag ++ rest)
      = if memory then .ok (withoutLineEnds body) else .error (gpgError ErrCode.enomem) := by
  have tagFound
      : Substring.find keyParmsTag
          (before ++ keyParmsTag ++ attributes ++ [62] ++ body ++ keyParmsEndTag ++ rest)
        = some (keyParmsTag ++ (attributes ++ [62] ++ body ++ keyParmsEndTag ++ rest)) := by
    have found :=
      Substring.find_append (attributes ++ [62] ++ body ++ keyParmsEndTag ++ rest)
        (by decide : ∀ c ∈ keyParmsTag.head?, c ∉ keyParmsTag.tail) first
    simpa only [List.append_assoc] using found
  have contentFound
      : (keyParmsTag ++ (attributes ++ [62] ++ body ++ keyParmsEndTag ++ rest)).dropWhile
          (· != 62)
        = 62 :: (body ++ keyParmsEndTag ++ rest) := by
    have inFront : ∀ c ∈ keyParmsTag ++ attributes, (c != 62) = true := by
      intro c member
      rcases List.mem_append.mp member with inName | inAttributes
      · exact (by decide : ∀ c ∈ keyParmsTag, (c != 62) = true) c inName
      · exact bne_iff_ne.mpr (fun same => inTag (same ▸ inAttributes))
    have split
        : (keyParmsTag ++ attributes ++ 62 :: (body ++ keyParmsEndTag ++ rest)).dropWhile (· != 62)
          = (62 :: (body ++ keyParmsEndTag ++ rest)).dropWhile (· != 62) :=
      List.dropWhile_append_of_pos inFront
    simpa using split
  have attribFound
      : ∃ attrib,
          Substring.find formatInternal
            (keyParmsTag ++ (attributes ++ [62] ++ body ++ keyParmsEndTag ++ rest))
          = some attrib
          ∧ (body ++ keyParmsEndTag ++ rest).length < attrib.length := by
    obtain ⟨left, right, rfl⟩ := internal
    obtain ⟨attrib, found, far⟩ :=
      Substring.find_first (keyParmsTag ++ left)
        (List.prefix_append formatInternal (right ++ [62] ++ body ++ keyParmsEndTag ++ rest))
    refine ⟨attrib, by simpa using found, ?_⟩
    simp only [List.length_append, List.length_singleton] at far ⊢
    omega
  have endFound
      : Substring.find keyParmsEndTag (body ++ keyParmsEndTag ++ rest)
        = some (keyParmsEndTag ++ rest) := by
    rw [List.append_assoc]
    exact Substring.find_append rest (by decide) noEnd
  obtain ⟨attrib, attribFound, inTagText⟩ := attribFound
  rw [getKeyParameter, tagFound]
  dsimp only
  rw [contentFound]
  dsimp only
  rw [attribFound]
  dsimp only
  rw [if_neg (by omega), endFound]
  dsimp only [Option.getD_some]
  have noLf : (keyParmsEndTag ++ rest).head? ≠ some 10 := by
    rw [List.head?_append, (by decide : keyParmsEndTag.head? = some 60), Option.some_or]
    decide
  rw [List.append_assoc body, skipLineEnds_append noLf]
  simp

-----------------------------------------------------------------------------------------
-- Starting
-----------------------------------------------------------------------------------------

/-- The event loop that `_gpgme_op_reset` sets up. -/
inductive OperationLoop where
  | ofContext | ofProcess | ofUser
deriving DecidableEq, Repr

/-- What the engine and the settings of the context contribute: the answers to a reset, to a
command handler and to the key generation itself, given the parameters, `use_armor` and whether
there are the two data objects; whether there is memory, a passphrase callback and an event loop
of the user.
-/
structure GenkeyEnvironment where
  reset : GpgError := 0
  userLoop : Bool := false
  lookupMemory : Bool := true
  dataMemory : Bool := true
  passphraseCb : Bool := false
  setCommandHandler : GpgError := 0
  useArmor : Bool := false
  engineGenkey : Str → Bool → Bool → Bool → GpgError := fun _ _ _ _ => 0

/-- The result of the start: an error in front of the engine, or the call of the engine with the
parameters and its answer. A NULL for the parameters is not checked.
-/
inductive GenkeyStart where
  | refused (err : GpgError)
  | called (keyParameter : Str) (loop : OperationLoop) (answer : GpgError)
  | nullString

/-- The error that is returned. -/
def GenkeyStart.err : GenkeyStart → Option GpgError
  | refused err => some err
  | called _ _ answer => some answer
  | nullString => none

/-- The parameters with which the engine is started. -/
def GenkeyStart.keyParameter : GenkeyStart → Option Str
  | called keyParameter _ _ => some keyParameter
  | _ => none

/-- The end of `_gpgme_op_reset`, which is the only use of `synchronous`. -/
def GenkeyEnvironment.loop (env : GenkeyEnvironment) (synchronous : Bool) : OperationLoop :=
  if synchronous then .ofContext else if env.userLoop then .ofUser else .ofProcess

/-- The answer to the command handler, which is installed only for a passphrase callback. -/
def GenkeyEnvironment.commandHandler (env : GenkeyEnvironment) : GpgError :=
  if env.passphraseCb then env.setCommandHandler else 0

/-- The static `genkey_start`. -/
def genkeyStart (env : GenkeyEnvironment) (synchronous : Bool) (parms : Option Str)
    (pubkey seckey : Bool)
    : GenkeyStart :=
  if env.reset ≠ 0 then .refused env.reset
  else if !env.lookupMemory then .refused (gpgError ErrCode.enomem)
  else
    match parms with
    | none => .nullString
    | some parms =>
        match getKeyParameter env.dataMemory parms with
        | .error err => .refused err
        | .ok keyParameter =>
            if env.commandHandler ≠ 0 then .refused env.commandHandler
            else
              .called keyParameter (env.loop synchronous)
                (env.engineGenkey keyParameter env.useArmor pubkey seckey)

/-- `gpgme_op_genkey_start`; a context is NULL or its environment. -/
def gpgmeOpGenkeyStart (ctx : Option GenkeyEnvironment) (parms : Option Str)
    (pubkey seckey : Bool)
    : GenkeyStart :=
  match ctx with
  | none => .refused (gpgError ErrCode.invArg)
  | some env =>
      -- The source tests the parameters without the negation.
      if parms.isSome then .refused (gpgError ErrCode.invArg)
      else genkeyStart env false parms pubkey seckey

/-- The start phase of `gpgme_op_genkey`. -/
def gpgmeOpGenkey (ctx : Option GenkeyEnvironment) (parms : Option Str) (pubkey seckey : Bool)
    : GenkeyStart :=
  match ctx with
  | none => .refused (gpgError ErrCode.invArg)
  | some env => genkeyStart env true parms pubkey seckey

-----------------------------------------------------------------------------------------
-- Agreement
-----------------------------------------------------------------------------------------

/-- Two starts return the same error, or start the engine with the same parameters. -/
def GenkeyStart.Agrees (left right : GenkeyStart) : Prop :=
  (∃ err, err ≠ 0 ∧ left.err = some err ∧ right.err = some err)
  ∨ ∃ keyParameter,
      left.keyParameter = some keyParameter ∧ right.keyParameter = some keyParameter

/-- The engine itself answers that an argument is invalid, to the reset, to the command handler or
to the key generation.
-/
def GenkeyEnvironment.AnswersInvArg (env : GenkeyEnvironment) (parms : Str)
    (pubkey seckey : Bool)
    : Prop :=
  env.reset = gpgError ErrCode.invArg
  ∨ (env.reset = 0
      ∧ env.lookupMemory = true
      ∧ ∃ keyParameter,
          getKeyParameter env.dataMemory parms = .ok keyParameter
          ∧ (env.commandHandler = gpgError ErrCode.invArg
            ∨ (env.commandHandler = 0
                ∧ env.engineGenkey keyParameter env.useArmor pubkey seckey
                  = gpgError ErrCode.invArg)))

/-- The parameters are refused with one error, unless there is no memory. -/
theorem getKeyParameter_error {memory : Bool} {parms : Str} {err : GpgError}
    (refused : getKeyParameter memory parms = .error err)
    : err = gpgError ErrCode.invValue ∨ err = gpgError ErrCode.enomem := by
  unfold getKeyParameter at refused
  split at refused
  · cases refused
    exact .inl rfl
  · split at refused
    · cases refused
      exact .inl rfl
    · split at refused
      · cases refused
        exact .inl rfl
      · split_ifs at refused
        · cases refused
          exact .inl rfl
        · cases refused
          exact .inr rfl

/-- The start fails with the error for an invalid argument only where the engine does. -/
theorem genkeyStart_invArg_iff (env : GenkeyEnvironment) (synchronous : Bool) (parms : Str)
    (pubkey seckey : Bool)
    : (genkeyStart env synchronous (some parms) pubkey seckey).err = some (gpgError ErrCode.invArg)
      ↔ env.AnswersInvArg parms pubkey seckey := by
  have invArg : gpgError ErrCode.invArg ≠ 0 := gpgErrMake_ne_zero 7 (by decide) (by decide)
  unfold GenkeyEnvironment.AnswersInvArg genkeyStart
  by_cases reset : env.reset = 0
  · rw [if_neg (not_not.mpr reset)]
    have other : env.reset ≠ gpgError ErrCode.invArg := fun same => invArg (same ▸ reset)
    cases memory : env.lookupMemory with
    | false =>
        have different : gpgError ErrCode.enomem ≠ gpgError ErrCode.invArg := by decide
        simp [GenkeyStart.err, other, different]
    | true =>
        cases extracted : getKeyParameter env.dataMemory parms with
        | error err =>
            have different : err ≠ gpgError ErrCode.invArg := by
              rcases getKeyParameter_error extracted with rfl | rfl
              · decide
              · decide
            simp [GenkeyStart.err, other, different, extracted]
        | ok keyParameter =>
            by_cases handler : env.commandHandler = 0
            · simp [GenkeyStart.err, reset, handler, invArg.symm, extracted]
            · simp [GenkeyStart.err, reset, handler, invArg.symm, extracted]
  · rw [if_pos reset]
    simp [GenkeyStart.err, reset]

/-- The engine is reached, if the parameters are accepted. -/
def GenkeyEnvironment.Ready (env : GenkeyEnvironment) : Prop :=
  env.reset = 0 ∧ env.lookupMemory = true ∧ env.dataMemory = true ∧ env.commandHandler = 0

instance (env : GenkeyEnvironment) : Decidable env.Ready :=
  inferInstanceAs (Decidable (_ ∧ _))

/-- The engine is started with the parameters that are accepted. -/
theorem genkeyStart_keyParameter (env : GenkeyEnvironment) (synchronous : Bool)
    {parms keyParameter : Str} {pubkey seckey : Bool}
    (accepted
      : ∀ memory,
          getKeyParameter memory parms
          = if memory then .ok keyParameter else .error (gpgError ErrCode.enomem))
    : (genkeyStart env synchronous (some parms) pubkey seckey).keyParameter
      = if env.Ready then some keyParameter else none := by
  by_cases ready : env.Ready
  · obtain ⟨reset, lookup, created, handler⟩ := ready
    rw [if_pos ⟨reset, lookup, created, handler⟩]
    simp [genkeyStart, GenkeyStart.keyParameter, accepted, reset, lookup, created, handler]
  · rw [if_neg ready]
    unfold genkeyStart
    by_cases reset : env.reset = 0
    · by_cases lookup : env.lookupMemory = true
      · rw [if_neg (not_not.mpr reset), if_neg (by simp [lookup])]
        dsimp only
        rw [accepted]
        by_cases created : env.dataMemory = true
        · rw [if_pos created]
          dsimp only
          rw [if_pos (fun handler => ready ⟨reset, lookup, created, handler⟩)]
          rfl
        · rw [if_neg created]
          rfl
      · rw [if_neg (not_not.mpr reset), if_pos (by simpa using lookup)]
        rfl
    · rw [if_pos reset]
      rfl

/-- The asynchronous function refuses every string, so that it agrees with the synchronous one
exactly where there is no context or the engine refuses an argument; the parameters of the engine
are the text between the tags.
-/
theorem genkey_starts_agree_iff (ctx : Option GenkeyEnvironment) (pubkey seckey : Bool)
    : (∀ parms : Str,
        (gpgmeOpGenkeyStart ctx (some parms) pubkey seckey).Agrees
            (gpgmeOpGenkey ctx (some parms) pubkey seckey)
          ↔ ctx = none ∨ ∃ env, ctx = some env ∧ env.AnswersInvArg parms pubkey seckey)
      ∧ ∀ env before attributes body rest,
          ctx = some env →
          ¬keyParmsTag <:+: before →
          formatInternal <:+: attributes →
          62 ∉ attributes →
          ¬keyParmsEndTag <:+: body →
          (gpgmeOpGenkey ctx
              (some
                (before ++ keyParmsTag ++ attributes ++ [62] ++ body ++ keyParmsEndTag ++ rest))
              pubkey seckey).keyParameter
          = if env.Ready then some (withoutLineEnds body) else none := by
  constructor
  · intro parms
    cases ctx with
    | none =>
        refine iff_of_true (.inl ⟨gpgError ErrCode.invArg, ?_, rfl, rfl⟩) (.inl rfl)
        exact gpgErrMake_ne_zero 7 (by decide) (by decide)
    | some env =>
        have answers := genkeyStart_invArg_iff env true parms pubkey seckey
        constructor
        · rintro (⟨err, -, refused, same⟩ | ⟨keyParameter, started, -⟩)
          · cases refused
            exact .inr ⟨env, rfl, answers.mp same⟩
          · cases started
        · rintro (absent | ⟨other, same, invalid⟩)
          · cases absent
          · cases same
            refine .inl ⟨gpgError ErrCode.invArg, ?_, rfl, answers.mpr invalid⟩
            exact gpgErrMake_ne_zero 7 (by decide) (by decide)
  · intro env before attributes body rest same first internal inTag noEnd
    cases same
    exact genkeyStart_keyParameter env true
      (fun memory => getKeyParameter_between memory first internal inTag noEnd)

/-- A context without faults, its engine ready. -/
def quietGenkey : GenkeyEnvironment := {}

def nameParameters : Str :=
  str "<GnupgKeyParms format=\"internal\">\nKey-Type: DSA</GnupgKeyParms>"

/-- The two functions do not agree on well-formed parameters. -/
theorem well_formed_parameters_disagree
    : ¬∀ (ctx : Option GenkeyEnvironment) (parms : Str) (pubkey seckey : Bool),
        (gpgmeOpGenkeyStart ctx (some parms) pubkey seckey).Agrees
          (gpgmeOpGenkey ctx (some parms) pubkey seckey) := by
  intro all
  have started
      : (gpgmeOpGenkey (some quietGenkey) (some nameParameters) false false).err = some 0 := by
    decide
  rcases all (some quietGenkey) nameParameters false false with
    ⟨err, failed, -, same⟩ | ⟨keyParameter, refused, -⟩
  · rw [started] at same
    cases same
    exact failed rfl
  · cases refused

/-- The first line end behind the tag is not part of the parameters. -/
theorem well_formed_parameters_extracted
    : (gpgmeOpGenkey (some quietGenkey) (some nameParameters) false false).keyParameter
      = some (str "Key-Type: DSA") := by
  have between := (genkey_starts_agree_iff (some quietGenkey) false false).2 quietGenkey []
    (str "format=\"internal\"") (str "\nKey-Type: DSA") [] rfl (by decide) (by decide)
    (by decide) (by decide)
  have text
      : [] ++ keyParmsTag ++ str "format=\"internal\"" ++ [62] ++ str "\nKey-Type: DSA"
            ++ keyParmsEndTag ++ []
        = nameParameters := by
    decide
  rw [text, if_pos (by decide)] at between
  rw [between]
  decide

end Gpgme
