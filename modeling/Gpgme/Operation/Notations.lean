import Gpgme.Keylist.Key
import Gpgme.Operation.StatusLines
import Gpgme.Operation.Verify

/-! The notations of one signature over a sequence of status lines. -/

namespace Gpgme

open CString

-----------------------------------------------------------------------------------------
-- What a line can change
-----------------------------------------------------------------------------------------

/-- The entry that a NOTATION_NAME or POLICY_URL line adds. -/
def newNotation (line : StatusLine) : SigNotation :=
  if line.code = .notationName then
    { name := some (decodePercentString (word line.args))
      flagHumanReadable := true
      humanReadable := true }
  else
    { value := some (decodePercentString (word line.args))
      valueLen := (decodePercentString (word line.args)).length }

/-- The entry after a NOTATION_FLAGS line: the bit copies are set, and never cleared. -/
def SigNotation.setFlags (entry : SigNotation) (critical humanReadable : Str) : SigNotation :=
  { entry with
    flagCritical := atoi critical != 0
    flagHumanReadable := atoi humanReadable != 0
    critical := entry.critical || atoi critical != 0
    humanReadable := entry.humanReadable || atoi humanReadable != 0 }

/-- The entry after a NOTATION_DATA line. -/
def SigNotation.addData (entry : SigNotation) (args : Str) : SigNotation :=
  { entry with
    value := some (entry.value.getD [] ++ decodePercentString args)
    valueLen := entry.valueLen + (decodePercentString args).length }

/-- Everything that a line can do to the list when it is handled without an error. -/
inductive NotationChange (line : StatusLine) : List SigNotation → List SigNotation → Prop where
  | added (entries : List SigNotation)
      (code : line.code = .notationName ∨ line.code = .policyUrl)
      (filled : ∀ entry ∈ entries, entry.value.isSome = true)
      : NotationChange line entries (entries ++ [newNotation line])
  | flags (others : List SigNotation) (last : SigNotation) (critical humanReadable : Str)
      (code : line.code = .notationFlags) (named : last.name.isSome = true)
      (fields : splitFields line.args 2 = [critical, humanReadable])
      : NotationChange line (others ++ [last]) (others ++ [last.setFlags critical humanReadable])
  | data (others : List SigNotation) (last : SigNotation)
      (code : line.code = .notationData) (named : last.name.isSome = true)
      : NotationChange line (others ++ [last]) (others ++ [last.addData line.args])

/-- The signature after a line; an error leaves it as it was. -/
def notationStep (sig : Signature) (line : StatusLine) : Signature :=
  (parseNotation sig line.code line.args).2.2

theorem invEngine_ne_zero : invEngine ≠ 0 := by decide

theorem parseNotation_cases (sig : Signature) (line : StatusLine)
    : ((parseNotation sig line.code line.args).1 ≠ 0 ∧ notationStep sig line = sig)
      ∨ ((parseNotation sig line.code line.args).1 = 0
        ∧ ∃ entries,
            NotationChange line sig.notations entries
            ∧ notationStep sig line = { sig with notations := entries }) := by
  obtain ⟨code, args⟩ := line
  have refused : invEngine ≠ 0 := invEngine_ne_zero
  have added (adds : code = .notationName ∨ code = .policyUrl)
      : ((parseNotation sig code args).1 ≠ 0 ∧ notationStep sig ⟨code, args⟩ = sig)
        ∨ ((parseNotation sig code args).1 = 0
          ∧ ∃ entries,
              NotationChange ⟨code, args⟩ sig.notations entries
              ∧ notationStep sig ⟨code, args⟩ = { sig with notations := entries }) := by
    by_cases waiting : sig.notations.any (fun entry => entry.value.isNone) = true
    · left
      rcases adds with rfl | rfl <;> simp [notationStep, parseNotation, waiting, refused]
    · right
      have filled : ∀ entry ∈ sig.notations, entry.value.isSome = true := by
        simpa [Option.isSome_iff_ne_none] using waiting
      refine ⟨?_, _, .added sig.notations adds filled, ?_⟩ <;>
        rcases adds with rfl | rfl <;>
        simp [notationStep, parseNotation, waiting, newNotation]
  cases code
  case notationName => exact added (.inl rfl)
  case policyUrl => exact added (.inr rfl)
  case notationFlags =>
    simp only [notationStep, parseNotation]
    split
    · exact .inl ⟨refused, rfl⟩
    · next last found =>
        have split := (List.dropLast_append_getLast? last found).symm
        split_ifs with unnamed
        · exact .inl ⟨refused, rfl⟩
        · split
          · next critical humanReadable fields =>
              refine .inr ⟨rfl, _, ?_, rfl⟩
              have change : NotationChange ⟨.notationFlags, args⟩ _ _ :=
                .flags sig.notations.dropLast last critical humanReadable rfl
                  (by simpa [Option.isSome_iff_ne_none] using unnamed) fields
              rwa [← split] at change
          · exact .inl ⟨refused, rfl⟩
  case notationData =>
    simp only [notationStep, parseNotation]
    split
    · exact .inl ⟨refused, rfl⟩
    · next last found =>
        have split := (List.dropLast_append_getLast? last found).symm
        split_ifs with unnamed
        · exact .inl ⟨refused, rfl⟩
        · refine .inr ⟨rfl, _, ?_, rfl⟩
          have change : NotationChange ⟨.notationData, args⟩ _ _ :=
            .data sig.notations.dropLast last rfl
              (by simpa [Option.isSome_iff_ne_none] using unnamed)
          rwa [← split] at change
  all_goals exact .inl ⟨refused, rfl⟩

-----------------------------------------------------------------------------------------
-- Flags and their bit copies
-----------------------------------------------------------------------------------------

/-- The bit copies say what the flags say. -/
structure SigNotation.FlagsAgree (entry : SigNotation) : Prop where
  humanReadable : entry.humanReadable = entry.flagHumanReadable
  critical : entry.critical = entry.flagCritical

/-- Every entry of the list has right bit copies. -/
def Signature.FlagsAgree (sig : Signature) : Prop := ∀ entry ∈ sig.notations, entry.FlagsAgree

/-- A NOTATION_FLAGS line that clears no flag: the notation counts as human-readable from the
start, and as critical since a line that said so.
-/
def KeepsFlags (sig : Signature) (line : StatusLine) : Prop :=
  line.code = .notationFlags →
    ∀ others last critical humanReadable,
      sig.notations = others ++ [last]
      → last.name.isSome = true
      → splitFields line.args 2 = [critical, humanReadable]
      → atoi humanReadable ≠ 0 ∧ (last.critical = true → atoi critical ≠ 0)

/-- What the lines keep whatever they say: a notation with a name counts as human-readable. -/
def NamedReadable (entries : List SigNotation) : Prop :=
  ∀ entry ∈ entries, entry.name.isSome = true → entry.humanReadable = true

theorem newNotation_flagsAgree (line : StatusLine) : (newNotation line).FlagsAgree := by
  unfold newNotation
  split <;> exact ⟨rfl, rfl⟩

theorem SigNotation.setFlags_flagsAgree_iff {entry : SigNotation} {critical humanReadable : Str}
    (readable : entry.humanReadable = true)
    : (entry.setFlags critical humanReadable).FlagsAgree
      ↔ atoi humanReadable ≠ 0 ∧ (entry.critical = true → atoi critical ≠ 0) := by
  have copies
      : (entry.setFlags critical humanReadable).FlagsAgree
        ↔ (true = (atoi humanReadable != 0))
          ∧ (entry.critical || atoi critical != 0) = (atoi critical != 0) := by
    constructor
    · rintro ⟨human, crit⟩
      simp only [SigNotation.setFlags, readable, Bool.true_or] at human crit
      exact ⟨human, crit⟩
    · rintro ⟨human, crit⟩
      exact ⟨by simpa only [SigNotation.setFlags, readable, Bool.true_or] using human, crit⟩
  rw [copies]
  by_cases human : atoi humanReadable = 0 <;> by_cases crit : atoi critical = 0 <;>
    cases entry.critical <;> simp [human, crit]

theorem NotationChange.namedReadable {line : StatusLine} {entries entries' : List SigNotation}
    (change : NotationChange line entries entries') (readable : NamedReadable entries)
    : NamedReadable entries' := by
  intro entry member named
  cases change with
  | added entries code filled =>
      rcases List.mem_append.mp member with old | new
      · exact readable entry old named
      · rw [List.mem_singleton.mp new] at named ⊢
        unfold newNotation at named ⊢
        split at named
        · next name => rw [if_pos name]
        · cases named
  | flags others last critical humanReadable code lastNamed fields =>
      rcases List.mem_append.mp member with old | new
      · exact readable entry (List.mem_append_left _ old) named
      · rw [List.mem_singleton.mp new]
        simp only [SigNotation.setFlags, Bool.or_eq_true]
        exact .inl (readable last (by simp) lastNamed)
  | data others last code lastNamed =>
      rcases List.mem_append.mp member with old | new
      · exact readable entry (List.mem_append_left _ old) named
      · rw [List.mem_singleton.mp new]
        exact readable last (by simp) lastNamed

theorem parseNotation_flags {sig : Signature} {args critical humanReadable : Str}
    {others : List SigNotation} {last : SigNotation} (split : sig.notations = others ++ [last])
    (named : last.name.isSome = true) (fields : splitFields args 2 = [critical, humanReadable])
    : (parseNotation sig .notationFlags args).1 = 0 := by
  have unnamed : last.name.isNone = false := by
    rw [Option.isNone_eq_false_iff]
    exact named
  simp [parseNotation, split, unnamed, fields]

theorem flagsAgree_step_iff {sig : Signature} (line : StatusLine)
    (readable : NamedReadable sig.notations) (agree : sig.FlagsAgree)
    : (notationStep sig line).FlagsAgree ↔ KeepsFlags sig line := by
  rcases parseNotation_cases sig line with ⟨failed, same⟩ | ⟨-, entries, change, stepped⟩
  · rw [same]
    refine iff_of_true agree ?_
    intro code others last critical humanReadable split named fields
    rw [code] at failed
    exact absurd (parseNotation_flags split named fields) failed
  · rw [stepped]
    obtain ⟨code, args⟩ := line
    unfold Signature.FlagsAgree
    generalize before : sig.notations = old at change
    have agreeOld : ∀ entry ∈ old, entry.FlagsAgree := before ▸ agree
    cases change with
    | added old code filled =>
        refine iff_of_true ?_ ?_
        · intro entry member
          rcases List.mem_append.mp member with member | member
          · exact agreeOld entry member
          · rw [List.mem_singleton.mp member]
            exact newNotation_flagsAgree _
        · intro flags
          rcases code with code | code <;> exact absurd (code.symm.trans flags) (by decide)
    | data others last code named =>
        refine iff_of_true ?_ ?_
        · intro entry member
          rcases List.mem_append.mp member with member | member
          · exact agreeOld entry (List.mem_append_left _ member)
          · rw [List.mem_singleton.mp member]
            obtain ⟨human, crit⟩ := agreeOld last (by simp)
            exact ⟨human, crit⟩
        · intro flags
          exact absurd (code.symm.trans flags) (by decide)
    | flags others last critical humanReadable code named fields =>
        have lastReadable := readable last (by simp [before]) named
        have others_agree : ∀ entry ∈ others, entry.FlagsAgree :=
          fun entry member => agreeOld entry (List.mem_append_left _ member)
        have all_iff
            : (∀ entry ∈ others ++ [last.setFlags critical humanReadable], entry.FlagsAgree)
              ↔ (last.setFlags critical humanReadable).FlagsAgree := by
          simp only [List.mem_append, List.mem_singleton, or_imp, forall_and, forall_eq]
          exact and_iff_right others_agree
        refine all_iff.trans ((SigNotation.setFlags_flagsAgree_iff lastReadable).trans ?_)
        constructor
        · intro kept _ others' last' critical' humanReadable' split' named' fields'
          rw [before] at split'
          obtain ⟨-, same⟩ := List.append_inj' split' rfl
          cases same
          rw [fields] at fields'
          cases fields'
          exact kept
        · intro kept
          exact kept code others last critical humanReadable before named fields

/-- The signature after a sequence of lines. -/
def notationRun (sig : Signature) (lines : List StatusLine) : Signature :=
  lines.foldl notationStep sig

theorem namedReadable_run {sig : Signature} (readable : NamedReadable sig.notations)
    (lines : List StatusLine)
    : NamedReadable (notationRun sig lines).notations := by
  induction lines generalizing sig with
  | nil => exact readable
  | cons line rest ih =>
      refine ih ?_
      rcases parseNotation_cases sig line with ⟨-, same⟩ | ⟨-, entries, change, stepped⟩
      · rw [same]
        exact readable
      · rw [stepped]
        exact change.namedReadable readable

theorem flagsAgree_run_iff {sig : Signature} (readable : NamedReadable sig.notations)
    (agree : sig.FlagsAgree) (lines : List StatusLine)
    : (∀ before after, lines = before ++ after → (notationRun sig before).FlagsAgree)
      ↔ ∀ before line after,
          lines = before ++ line :: after → KeepsFlags (notationRun sig before) line := by
  constructor
  · intro reached before line after split
    have here := reached before (line :: after) split
    have next := reached (before ++ [line]) after (by simp [split])
    unfold notationRun at next
    rw [List.foldl_append] at next
    exact (flagsAgree_step_iff line (namedReadable_run readable before) here).mp next
  · intro kept before
    induction before using List.reverseRecOn with
    | nil => exact fun _ _ => agree
    | append_singleton before line ih =>
        intro after split
        rw [List.append_assoc] at split
        have here := ih (line :: after) split
        unfold notationRun
        rw [List.foldl_append]
        exact (flagsAgree_step_iff line (namedReadable_run readable before) here).mpr
          (kept before line after split)

theorem sigNotationCreate_flagsAgree {name value : Option Str} {critical humanReadable : Bool}
    {entry : SigNotation} (made : sigNotationCreate name value critical humanReadable = .ok entry)
    : entry.FlagsAgree := by
  unfold sigNotationCreate at made
  split at made
  · cases made
  · cases made
    exact ⟨rfl, rfl⟩

theorem parseSigNotation_created {memory : Nat → UInt8} {type pkflags len : Int} {data : Str}
    {entry : SigNotation} (parsed : parseSigNotation memory type pkflags len data = .ok (some entry))
    : ∃ name value critical humanReadable,
        sigNotationCreate name value critical humanReadable = .ok entry := by
  have created {made : Except GpgError SigNotation} (mapped : made.map some = .ok (some entry))
      : made = .ok entry := by
    cases made <;> cases mapped
    rfl
  unfold parseSigNotation at parsed
  split at parsed
  · cases parsed
  · split at parsed
    · cases parsed
    · split at parsed
      · cases parsed
      · dsimp only at parsed
        split at parsed
        · split at parsed
          · cases parsed
          · exact ⟨_, _, _, _, created parsed⟩
        · exact ⟨_, _, _, _, created parsed⟩

/-- The bit copies are right after every line exactly if no NOTATION_FLAGS line clears a flag
that was set for the same notation; those of a subpacket are always right.
-/
theorem notation_flags_agree_iff {sig : Signature} (fresh : sig.notations = [])
    (lines : List StatusLine)
    : ((∀ before after, lines = before ++ after → (notationRun sig before).FlagsAgree)
        ∧ ∀ memory type pkflags len data entry,
          parseSigNotation memory type pkflags len data = .ok (some entry) → entry.FlagsAgree)
      ↔ ∀ before line after,
          lines = before ++ line :: after → KeepsFlags (notationRun sig before) line := by
  have readable : NamedReadable sig.notations := by simp [NamedReadable, fresh]
  have agree : sig.FlagsAgree := by simp [Signature.FlagsAgree, fresh]
  have subpackets
      : ∀ memory type pkflags len data entry,
          parseSigNotation memory type pkflags len data = .ok (some entry)
          → entry.FlagsAgree := by
    intro memory type pkflags len data entry parsed
    obtain ⟨name, value, critical, humanReadable, made⟩ := parseSigNotation_created parsed
    exact sigNotationCreate_flagsAgree made
  rw [← flagsAgree_run_iff readable agree lines]
  exact and_iff_left subpackets

/-- A notation whose flags say that it is binary data. -/
def binaryNotation : List StatusLine :=
  [{ code := .notationName, args := str "a" }, { code := .notationFlags, args := str "0 0" }]

/-- The flags are cleared and the bit copy stays. -/
theorem flags_disagree
    : ({} : Signature).notations = []
      ∧ (notationRun {} binaryNotation).notations.map SigNotation.flagHumanReadable = [false]
      ∧ (notationRun {} binaryNotation).notations.map SigNotation.humanReadable = [true]
      ∧ ¬((∀ before after,
            binaryNotation = before ++ after → (notationRun {} before).FlagsAgree)
          ∧ ∀ memory type pkflags len data entry,
            parseSigNotation memory type pkflags len data = .ok (some entry)
            → entry.FlagsAgree) := by
  have cleared
      : (notationRun {} binaryNotation).notations.map SigNotation.flagHumanReadable = [false] := by
    decide
  have kept : (notationRun {} binaryNotation).notations.map SigNotation.humanReadable = [true] := by
    decide
  refine ⟨rfl, cleared, kept, ?_⟩
  rintro ⟨reached, -⟩
  have agree := reached binaryNotation [] (by simp)
  have same
      : (notationRun {} binaryNotation).notations.map SigNotation.humanReadable
        = (notationRun {} binaryNotation).notations.map SigNotation.flagHumanReadable :=
    List.map_congr_left fun entry member => (agree entry member).humanReadable
  rw [kept, cleared] at same
  revert same
  decide

/-- A critical notation as GnuPG reports it. -/
def criticalNotation : List StatusLine :=
  [{ code := .notationName, args := str "a" }, { code := .notationFlags, args := str "1 1" }]

theorem critical_flags_agree
    : (∀ before after, criticalNotation = before ++ after → (notationRun {} before).FlagsAgree)
      ∧ ∀ memory type pkflags len data entry,
        parseSigNotation memory type pkflags len data = .ok (some entry) → entry.FlagsAgree := by
  refine (notation_flags_agree_iff rfl criticalNotation).mpr ?_
  intro before line after split flags others last critical humanReadable _ _ fields
  have set : splitFields (str "1 1") 2 = [str "1", str "1"] := by decide
  have nonzero : atoi (str "1") ≠ 0 := by decide
  unfold criticalNotation at split
  rcases before with _ | ⟨first, _ | ⟨second, before⟩⟩
  · cases split
    cases flags
  · cases split
    rw [set] at fields
    cases fields
    exact ⟨nonzero, fun _ => nonzero⟩
  · simp at split

end Gpgme
