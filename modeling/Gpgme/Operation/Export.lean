import Gpgme.EngineGpg.PatternArgs
import Gpgme.Keylist.Key

/-! How an export is started with a pattern, an array of patterns or an array of keys, in
`export.c`.
-/

namespace Gpgme

open CString (str blank)

-----------------------------------------------------------------------------------------
-- Starting
-----------------------------------------------------------------------------------------

/-- The protocol of the context and what else contributes: the answer to a reset, whether there
is memory for the operation data, for the list of patterns and for each of them, and the answers
of the engine, given the mode, the data object and `use_armor`.
-/
structure ExportEnvironment where
  protocol : Protocol := .openpgp
  useArmor : Bool := false
  reset : GpgError := 0
  lookupMemory : Bool := true
  listMemory : Bool := true
  patternMemory : Nat → Bool := fun _ => true
  engineExport : Option Str → Nat → Option Nat → Bool → GpgError := fun _ _ _ _ => 0
  engineExportExt : Option (List Str) → Nat → Option Nat → Bool → GpgError := fun _ _ _ _ => 0

/-- The result of a start: an error in front of the engine, or the call of the engine with its
answer.
-/
inductive ExportStart (pattern : Type) where
  | refused (err : GpgError)
  | called (pattern : pattern) (answer : GpgError)

/-- The error that is returned. -/
def ExportStart.err {pattern : Type} : ExportStart pattern → GpgError
  | refused err => err
  | called _ answer => answer

/-- The checks of the mode and of the data object at the start of an export. -/
def checkExport (allowed : Nat) (protocol : Protocol) (mode : Nat) (keydata : Option Nat)
    : GpgError :=
  if hasOtherBit mode allowed then gpgError ErrCode.invValue
  else if hasBit mode ExportMode.secret && hasBit mode ExportMode.isExtern then
    gpgError ErrCode.invFlag
  else if hasBit mode ExportMode.secret && hasBit mode ExportMode.raw
      && hasBit mode ExportMode.pkcs12 then
    gpgError ErrCode.invFlag
  else if hasBit mode ExportMode.secret && protocol != .cms
      && hasBit mode (ExportMode.raw + ExportMode.pkcs12) then
    gpgError ErrCode.invFlag
  else if hasBit mode ExportMode.isExtern then
    if keydata.isSome then gpgError ErrCode.invValue else 0
  else if keydata.isNone then gpgError ErrCode.invValue
  else 0

/-- The modes that `export_ext_start` takes. -/
def exportExtModes : Nat :=
  ExportMode.isExtern + ExportMode.minimal + ExportMode.secret + ExportMode.raw
    + ExportMode.pkcs12

/-- The modes that `export_start` takes. -/
def exportModes : Nat := exportExtModes + ExportMode.nouid

/-- What both static functions do: the checks, the reset, and the lookup of the operation data. -/
def ExportEnvironment.prepare (env : ExportEnvironment) (allowed mode : Nat)
    (keydata : Option Nat)
    : GpgError :=
  if checkExport allowed env.protocol mode keydata ≠ 0 then
    checkExport allowed env.protocol mode keydata
  else if env.reset ≠ 0 then env.reset
  else if env.lookupMemory then 0
  else gpgError ErrCode.enomem

/-- The static `export_start`. -/
def exportStart (env : ExportEnvironment) (pattern : Option Str) (mode : Nat)
    (keydata : Option Nat)
    : ExportStart (Option Str) :=
  if env.prepare exportModes mode keydata ≠ 0 then
    .refused (env.prepare exportModes mode keydata)
  else .called pattern (env.engineExport pattern mode keydata env.useArmor)

/-- The static `export_ext_start`. -/
def exportExtStart (env : ExportEnvironment) (pattern : Option (List Str)) (mode : Nat)
    (keydata : Option Nat)
    : ExportStart (Option (List Str)) :=
  if env.prepare exportExtModes mode keydata ≠ 0 then
    .refused (env.prepare exportExtModes mode keydata)
  else .called pattern (env.engineExportExt pattern mode keydata env.useArmor)

-----------------------------------------------------------------------------------------
-- Keys
-----------------------------------------------------------------------------------------

/-- The fingerprint of the first subkey, if it is there and not empty. -/
def Key.primaryFpr (key : Key) : Option Str :=
  (key.subkeys.head?.bind Subkey.fpr).filter (· != [])

/-- The loop that copies the fingerprints; `nkeys` is the number of those that are copied. -/
def copyFingerprints (env : ExportEnvironment) (nkeys : Nat) : List Key → Except GpgError (List Str)
  | [] => .ok []
  | key :: keys =>
      match (if key.protocol = env.protocol then key.primaryFpr else none) with
      | none => copyFingerprints env nkeys keys
      | some fpr =>
          if env.patternMemory nkeys then
            (copyFingerprints env (nkeys + 1) keys).map (fpr :: ·)
          else .error (gpgError ErrCode.enomem)

/-- The static `export_keys_start`; an array of keys is the list of the keys in front of its NULL.
-/
def exportKeysStart (env : ExportEnvironment) (keys : Option (List Key)) (mode : Nat)
    (keydata : Option Nat)
    : ExportStart (Option (List Str)) :=
  match keys with
  | none => .refused (gpgError ErrCode.invValue)
  | some keys =>
      if keys.countP (·.protocol = env.protocol) = 0 then .refused (gpgError ErrCode.noData)
      else if !env.listMemory then .refused (gpgError ErrCode.enomem)
      else
        match copyFingerprints env 0 keys with
        | .error err => .refused err
        | .ok pattern => exportExtStart env (some pattern) mode keydata

/-- The fingerprints of the keys of a protocol that have one. -/
def namedFingerprints (protocol : Protocol) (keys : List Key) : List Str :=
  (keys.filter (·.protocol = protocol)).filterMap Key.primaryFpr

/-- The fingerprints are copied in order, or there is no memory for one of them, by induction on
the keys.
-/
theorem copyFingerprints_spec (env : ExportEnvironment) (nkeys : Nat) (keys : List Key)
    : copyFingerprints env nkeys keys = .ok (namedFingerprints env.protocol keys)
      ∨ (copyFingerprints env nkeys keys = .error (gpgError ErrCode.enomem)
          ∧ namedFingerprints env.protocol keys ≠ []) := by
  induction keys generalizing nkeys with
  | nil => exact .inl rfl
  | cons key keys ih =>
      rw [copyFingerprints, namedFingerprints]
      by_cases own : key.protocol = env.protocol
      · rw [if_pos own, List.filter_cons_of_pos (by simpa using own)]
        cases named : key.primaryFpr with
        | none =>
            rw [List.filterMap_cons_none named]
            exact ih nkeys
        | some fpr =>
            rw [List.filterMap_cons_some named]
            dsimp only
            split_ifs
            · rcases ih (nkeys + 1) with copied | ⟨failed, -⟩
              · rw [copied]
                exact .inl rfl
              · rw [failed]
                exact .inr ⟨rfl, List.cons_ne_nil _ _⟩
            · exact .inr ⟨rfl, List.cons_ne_nil _ _⟩
      · rw [if_neg own, List.filter_cons_of_neg (by simpa using own)]
        exact ih nkeys

/-- No fingerprint is empty. -/
theorem namedFingerprints_notEmpty {protocol : Protocol} {keys : List Key} {fpr : Str}
    (member : fpr ∈ namedFingerprints protocol keys)
    : fpr ≠ [] := by
  obtain ⟨key, -, named⟩ := List.mem_filterMap.mp member
  have kept := (Option.filter_eq_some_iff.mp named).2
  simpa using kept

-----------------------------------------------------------------------------------------
-- Named keys
-----------------------------------------------------------------------------------------

/-- A start fails, or the engine gets a list of patterns that names keys, of which the commands of
both engines carry at least one.
-/
def ExportsNamed (named : List Str) (start : ExportStart (Option (List Str))) : Prop :=
  start.err ≠ 0
  ∨ ∃ pattern answer,
      start = .called (some pattern) answer
      ∧ pattern ≠ []
      ∧ pattern = named
      ∧ (∀ (mode keydata : Nat) (useArmor : Bool) (gpg result : EngineGpg),
          gpg.exportExt (some pattern) mode keydata useArmor = .ok result →
          gpg.behindDashes result ≠ [])
      ∧ ∀ (malloc : Malloc) (mode : Nat) (line : PatternLine),
          (PatternCommand.exportExt mode).build malloc pattern = .ok line →
          (line.words (.exportExt mode)).filter (· != []) ≠ []

/-- Something else than the keys makes the start fail: the memory for the list, the checks, the
reset, the memory for the operation data, or the engine for an empty list.
-/
def ExportEnvironment.Refuses (env : ExportEnvironment) (mode : Nat) (keydata : Option Nat)
    : Prop :=
  env.listMemory = false
  ∨ env.prepare exportExtModes mode keydata ≠ 0
  ∨ env.engineExportExt (some []) mode keydata env.useArmor ≠ 0

/-- A list of fingerprints is a list of patterns for both engines. -/
theorem exportsNamed_called {named : List Str} {answer : GpgError} (some : named ≠ [])
    (notEmpty : ∀ fpr ∈ named, fpr ≠ [])
    : ExportsNamed named (.called (Option.some named) answer) := by
  refine .inr ⟨named, answer, rfl, some, rfl, ?_, ?_⟩
  · intro mode keydata useArmor gpg result ran
    have behind : gpg.behindDashes result = ((Option.some named).getD []).takeWhile (· != []) :=
      @GpgPatternCommand.run_spec (.exportExt mode keydata useArmor) _ _ _ ran
    rw [behind, Option.getD_some,
      List.takeWhile_eq_self_iff.mpr (fun fpr member => by simpa using notEmpty fpr member)]
    exact some
  · intro malloc mode line built
    rw [PatternCommand.words_filter built,
      List.filter_eq_self.mpr (fun fpr member => by simpa using notEmpty fpr member)]
    exact some

/-- There are fingerprints exactly where a key of the protocol has one. -/
theorem namedFingerprints_ne_nil_iff (protocol : Protocol) (keys : List Key)
    : namedFingerprints protocol keys ≠ []
      ↔ ∃ key ∈ keys, key.protocol = protocol ∧ key.primaryFpr ≠ none := by
  rw [ne_eq, namedFingerprints, List.filterMap_eq_nil_iff]
  push Not
  simp [and_assoc]

/-- With a key of the protocol the start ends with the list, or fails for want of memory. -/
theorem exportKeysStart_spec (env : ExportEnvironment) {keys : List Key} (mode : Nat)
    (keydata : Option Nat) {key : Key} (member : key ∈ keys) (own : key.protocol = env.protocol)
    : (exportKeysStart env (some keys) mode keydata = .refused (gpgError ErrCode.enomem)
        ∧ (env.listMemory = false ∨ namedFingerprints env.protocol keys ≠ []))
      ∨ (env.listMemory = true
        ∧ exportKeysStart env (some keys) mode keydata
          = exportExtStart env (some (namedFingerprints env.protocol keys)) mode keydata) := by
  have counted : keys.countP (·.protocol = env.protocol) ≠ 0 := by
    intro none
    exact List.countP_eq_zero.mp none key member (by simpa using own)
  unfold exportKeysStart
  dsimp only
  rw [if_neg counted]
  cases memory : env.listMemory with
  | false => exact .inl ⟨rfl, .inl rfl⟩
  | true =>
      rcases copyFingerprints_spec env 0 keys with copied | ⟨failed, some⟩
      · rw [copied]
        exact .inr ⟨rfl, rfl⟩
      · rw [failed]
        exact .inl ⟨rfl, .inr some⟩

/-- The keys that are exported are named exactly where there is no array, no key of the protocol,
a key of the protocol with a fingerprint, or something else makes the start fail.
-/
theorem export_keys_named_iff (env : ExportEnvironment) (keys : Option (List Key)) (mode : Nat)
    (keydata : Option Nat)
    : ExportsNamed (namedFingerprints env.protocol (keys.getD []))
        (exportKeysStart env keys mode keydata)
      ↔ keys = none
        ∨ (∀ key ∈ keys.getD [], key.protocol ≠ env.protocol)
        ∨ (∃ key ∈ keys.getD [], key.protocol = env.protocol ∧ key.primaryFpr ≠ none)
        ∨ env.Refuses mode keydata := by
  have enomem : gpgError ErrCode.enomem ≠ 0 := gpgErrMake_ne_zero 7 (by decide) (by decide)
  have invValue : gpgError ErrCode.invValue ≠ 0 := gpgErrMake_ne_zero 7 (by decide) (by decide)
  have noData : gpgError ErrCode.noData ≠ 0 := gpgErrMake_ne_zero 7 (by decide) (by decide)
  rcases keys with _ | keys
  · exact iff_of_true (.inl invValue) (.inl rfl)
  rw [Option.getD_some, ← namedFingerprints_ne_nil_iff]
  by_cases foreign : ∀ key ∈ keys, key.protocol ≠ env.protocol
  · refine iff_of_true (.inl ?_) (.inr (.inl foreign))
    unfold exportKeysStart
    dsimp only
    rw [if_pos (List.countP_eq_zero.mpr (fun key member => by simpa using foreign key member))]
    exact noData
  push Not at foreign
  obtain ⟨key, member, own⟩ := foreign
  rcases exportKeysStart_spec env mode keydata member own with
    ⟨failed, cause⟩ | ⟨memory, passed⟩
  · refine iff_of_true (.inl (by rw [failed]; exact enomem)) ?_
    rcases cause with noList | named
    · exact .inr (.inr (.inr (.inl noList)))
    · exact .inr (.inr (.inl named))
  rw [passed]
  unfold exportExtStart
  by_cases prepared : env.prepare exportExtModes mode keydata = 0
  · rw [if_neg (not_not.mpr prepared)]
    by_cases named : namedFingerprints env.protocol keys = []
    · rw [named]
      constructor
      · rintro (failed | ⟨pattern, answer, same, notEmpty, empty, -⟩)
        · exact .inr (.inr (.inr (.inr (.inr failed))))
        · exact absurd empty notEmpty
      · rintro (absent | foreign | some | noList | refused | failed)
        · cases absent
        · exact absurd own (foreign key member)
        · exact absurd rfl some
        · rw [memory] at noList
          cases noList
        · exact absurd prepared refused
        · exact .inl failed
    · refine iff_of_true ?_ (.inr (.inr (.inl named)))
      exact exportsNamed_called named (fun fpr inList => namedFingerprints_notEmpty inList)
  · rw [if_pos prepared]
    exact iff_of_true (.inl prepared) (.inr (.inr (.inr (.inr (.inl prepared)))))

/-- A key of an external search has no fingerprint, so that all keys are exported. -/
theorem keys_without_fingerprint_export_all
    : ¬∀ (env : ExportEnvironment) (keys : Option (List Key)) (mode : Nat)
          (keydata : Option Nat),
        ExportsNamed (namedFingerprints env.protocol (keys.getD []))
          (exportKeysStart env keys mode keydata) := by
  intro all
  have started
      : exportKeysStart {} (some [{ subkeys := [{}] }]) ExportMode.secret (some 0)
        = .called (some []) 0 := by
    rfl
  rcases all {} (some [{ subkeys := [{}] }]) ExportMode.secret (some 0) with
    failed | ⟨pattern, answer, called, notEmpty, -⟩
  · rw [started] at failed
    exact failed rfl
  · rw [started] at called
    cases called
    exact notEmpty rfl

end Gpgme
