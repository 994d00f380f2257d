import Gpgme.EngineGpg.Arguments
import Gpgme.Assuan.PatternLines

/-! Lists of patterns as arguments of the program, in `gpg_keylist_ext` and `gpg_export_ext` of
`engine-gpg.c`, compared with the lines that are sent to the server.
-/

namespace Gpgme

open CString (str blank)

-----------------------------------------------------------------------------------------
-- The two commands
-----------------------------------------------------------------------------------------

/-- `mode & ~allowed`, where the type of the modes has 32 bits. -/
def hasOtherBit (mode allowed : Nat) : Bool := hasBit mode (4294967295 - allowed)

namespace KeylistMode

def sigs : Nat := 4
def sigNotations : Nat := 8
def withTofu : Nat := 32

end KeylistMode

/-- The argument behind which there are no options. -/
def dashes : ArgAndData := .arg (str "--") none

namespace EngineGpg

/-- Arguments that are added under a condition. -/
def addArgsIf (gpg : EngineGpg) (on : Bool) (texts : List Str) : EngineGpg :=
  if on then texts.foldl addArg gpg else gpg

/-- The static `export_common`. -/
def exportCommon (gpg : EngineGpg) (mode keydata : Nat) (useArmor : Bool)
    : Except GpgError EngineGpg :=
  let nouid := hasBit mode ExportMode.nouid
  if hasOtherBit mode (ExportMode.isExtern + ExportMode.minimal + ExportMode.secret) then
    .error (gpgError ErrCode.notSupported)
  else
    let gpg :=
      if hasBit mode ExportMode.minimal then
        if nouid then gpg.addArg (str "--export-options=export-minimal,export-drop-uids")
        else gpg.addArg (str "--export-options=export-minimal")
      else gpg.addArgsIf nouid [str "--export-options=export-drop-uids"]
    let gpg :=
      if hasBit mode ExportMode.isExtern then
        (gpg.addArg (str "--send-keys")).addArgsIf nouid
          [str "--keyserver-options=export-drop-uids"]
      else
        ((gpg.addArg
            (if hasBit mode ExportMode.secret then str "--export-secret-keys"
              else str "--export")).addArgsIf
          useArmor [str "--armor"]).addData
          keydata 1 true
    .ok (gpg.addArg (str "--"))

/-- The options in front of the command of a listing. -/
def keylistOptions (gpg : EngineGpg) (mode : Nat) : EngineGpg :=
  let gpg := gpg.addArg (str "--with-colons")
  let gpg :=
    gpg.addArgsIf (!gpg.haveGpgVersion "2.1.15")
      [str "--fixed-list-mode", str "--with-fingerprint", str "--with-fingerprint"]
  let gpg :=
    gpg.addArgsIf (hasBit mode KeylistMode.withTofu && gpg.haveGpgVersion "2.1.16")
      [str "--with-tofu-info"]
  let gpg := gpg.addArgsIf (hasBit mode KeylistMode.withSecret) [str "--with-secret"]
  gpg.addArgsIf (hasBit mode KeylistMode.sigs && hasBit mode KeylistMode.sigNotations)
    [str "--list-options", str "show-sig-subpackets=\"20,26\""]

/-- The static `gpg_keylist_build_options`. The colon lines of a search are also preprocessed. -/
def keylistBuildOptions (gpg : EngineGpg) (secretOnly : Bool) (mode : Nat)
    : Except GpgError EngineGpg :=
  let gpg := gpg.keylistOptions mode
  if hasBit mode KeylistMode.isExtern then
    if secretOnly then .error (gpgError ErrCode.notSupported)
    else if hasBit mode KeylistMode.isLocal then
      let gpg :=
        (gpg.addArg (str "--locate-keys")).addArgsIf (hasBit mode KeylistMode.sigs)
          [str "--with-sig-check"]
      .ok (gpg.addArg (str "--"))
    else .ok ((gpg.addArg (str "--search-keys")).addArg (str "--"))
  else
    let gpg :=
      gpg.addArg
        (if secretOnly then str "--list-secret-keys"
          else if hasBit mode KeylistMode.sigs then str "--check-sigs"
          else str "--list-keys")
    .ok (gpg.addArg (str "--"))

/-- The loop over the patterns, which ends at the first one that is empty. -/
def addPatterns (gpg : EngineGpg) : List Str → EngineGpg
  | [] => gpg
  | pattern :: patterns =>
      if pattern = [] then gpg else (gpg.addArg pattern).addPatterns patterns

/-- `gpg_export_ext` up to the start of the program. -/
def exportExt (gpg : EngineGpg) (pattern : Option (List Str)) (mode keydata : Nat)
    (useArmor : Bool)
    : Except GpgError EngineGpg := do
  let gpg ← gpg.exportCommon mode keydata useArmor
  pure (gpg.addPatterns (pattern.getD []))

/-- `gpg_keylist_ext` up to the start of the program. -/
def keylistExt (gpg : EngineGpg) (pattern : Option (List Str)) (secretOnly : Bool)
    (reserved : Int) (mode : Nat)
    : Except GpgError EngineGpg :=
  if reserved ≠ 0 then .error (gpgError ErrCode.invValue)
  else do
    let gpg ← gpg.keylistBuildOptions secretOnly mode
    pure (gpg.addPatterns (pattern.getD []))

end EngineGpg

-----------------------------------------------------------------------------------------
-- Options
-----------------------------------------------------------------------------------------

/-- The arguments of the second engine are those of the first one and some more, none of which
ends the options.
-/
def AddsOptions (before after : EngineGpg) : Prop :=
  ∃ options, after.arglist = before.arglist ++ options ∧ dashes ∉ options

/-- Nothing is added. -/
theorem AddsOptions.refl (gpg : EngineGpg) : AddsOptions gpg gpg := ⟨[], by simp⟩

/-- An argument is put at the end of the list. -/
theorem EngineGpg.arglist_addArg (gpg : EngineGpg) (text : Str)
    : (gpg.addArg text).arglist = gpg.arglist ++ [.arg text none] := by
  simp [addArg, addArgExt]

/-- One more entry other than the dashes. -/
theorem AddsOptions.append {gpg before after : EngineGpg} {entry : ArgAndData}
    (added : AddsOptions gpg before) (arglist : after.arglist = before.arglist ++ [entry])
    (other : dashes ≠ entry)
    : AddsOptions gpg after := by
  obtain ⟨options, earlier, noDashes⟩ := added
  refine ⟨options ++ [entry], by rw [arglist, earlier, List.append_assoc], ?_⟩
  simp [noDashes, other]

/-- One more argument other than the dashes. -/
theorem AddsOptions.addArg {gpg last : EngineGpg} (added : AddsOptions gpg last) {text : Str}
    (other : text ≠ str "--")
    : AddsOptions gpg (last.addArg text) :=
  added.append (last.arglist_addArg text) (by simp [dashes, other.symm])

/-- One more data object. -/
theorem AddsOptions.addData {gpg last : EngineGpg} (added : AddsOptions gpg last)
    (data : Nat) (dupTo : Int) (inbound : Bool)
    : AddsOptions gpg (last.addData data dupTo inbound) := by
  refine added.append rfl ?_
  split_ifs
  · simp [dashes]
  · simp [dashes]

/-- Options that are added in either case are added. -/
theorem AddsOptions.ite {gpg : EngineGpg} (condition : Prop) [Decidable condition]
    {yes no : EngineGpg} (left : AddsOptions gpg yes) (right : AddsOptions gpg no)
    : AddsOptions gpg (if condition then yes else no) := by
  split_ifs
  · exact left
  · exact right

/-- Arguments under a condition are added one after the other, by induction on them. -/
theorem AddsOptions.addArgsIf {gpg last : EngineGpg} (added : AddsOptions gpg last) (on : Bool)
    {texts : List Str} (others : ∀ text ∈ texts, text ≠ str "--")
    : AddsOptions gpg (last.addArgsIf on texts) := by
  refine .ite (on = true) ?_ added
  induction texts generalizing last with
  | nil => exact added
  | cons text texts ih =>
      exact ih (added.addArg (others text (List.mem_cons_self)))
        (fun other member => others other (List.mem_cons_of_mem text member))

/-- The second engine has options, the dashes behind them and nothing else in addition. -/
def EndsOptions (before after : EngineGpg) : Prop :=
  ∃ options, after.arglist = before.arglist ++ (options ++ [dashes]) ∧ dashes ∉ options

/-- The dashes end the options. -/
theorem AddsOptions.close {gpg last : EngineGpg} (added : AddsOptions gpg last)
    : EndsOptions gpg (last.addArg (str "--")) := by
  obtain ⟨options, arglist, noDashes⟩ := added
  exact ⟨options, by rw [last.arglist_addArg, arglist, List.append_assoc]; rfl, noDashes⟩

/-- An export gives options only in front of the dashes. -/
theorem EngineGpg.exportCommon_spec {gpg base : EngineGpg} {mode keydata : Nat} {useArmor : Bool}
    (set : gpg.exportCommon mode keydata useArmor = .ok base)
    : EndsOptions gpg base := by
  unfold exportCommon at set
  by_cases other : hasOtherBit mode (ExportMode.isExtern + ExportMode.minimal + ExportMode.secret)
  · rw [if_pos other] at set
    cases set
  · rw [if_neg other] at set
    have same := Except.ok.inj set
    subst same
    have start := AddsOptions.refl gpg
    have filtered :=
      AddsOptions.ite (hasBit mode ExportMode.minimal = true)
        (.ite (hasBit mode ExportMode.nouid = true)
          (start.addArg
            (by decide : str "--export-options=export-minimal,export-drop-uids" ≠ str "--"))
          (start.addArg (by decide : str "--export-options=export-minimal" ≠ str "--")))
        (start.addArgsIf (hasBit mode ExportMode.nouid)
          (by decide : ∀ text ∈ [str "--export-options=export-drop-uids"], text ≠ str "--"))
    refine (AddsOptions.ite _ ?_ ?_).close
    · exact (filtered.addArg (by decide)).addArgsIf _ (by decide)
    · refine ((filtered.addArg ?_).addArgsIf _ (by decide)).addData _ _ _
      split_ifs
      · decide
      · decide

/-- A listing gives options only in front of the dashes. -/
theorem EngineGpg.keylistBuildOptions_spec {gpg base : EngineGpg} {secretOnly : Bool} {mode : Nat}
    (set : gpg.keylistBuildOptions secretOnly mode = .ok base)
    : EndsOptions gpg base := by
  have options : AddsOptions gpg (gpg.keylistOptions mode) := by
    have start := (AddsOptions.refl gpg).addArg (by decide : str "--with-colons" ≠ str "--")
    exact
      (((start.addArgsIf _ (by decide)).addArgsIf _ (by decide)).addArgsIf _ (by decide)).addArgsIf
        _ (by decide)
  unfold keylistBuildOptions at set
  dsimp only at set
  split_ifs at set
  · have same := Except.ok.inj set
    subst same
    exact ((options.addArg (by decide)).addArgsIf _ (by decide)).close
  · have same := Except.ok.inj set
    subst same
    exact (options.addArg (by decide)).close
  all_goals
    have same := Except.ok.inj set
    subst same
    exact (options.addArg (by decide)).close

-----------------------------------------------------------------------------------------
-- Patterns
-----------------------------------------------------------------------------------------

/-- The patterns in front of the first empty one are added, by induction on them. -/
theorem EngineGpg.arglist_addPatterns (gpg : EngineGpg) (patterns : List Str)
    : (gpg.addPatterns patterns).arglist
      = gpg.arglist ++ (patterns.takeWhile (· != [])).map (ArgAndData.arg · none) := by
  induction patterns generalizing gpg with
  | nil => simp [addPatterns]
  | cons pattern patterns ih =>
      rw [addPatterns]
      by_cases empty : pattern = []
      · simp [empty]
      · rw [if_neg empty, ih, arglist_addArg, List.takeWhile_cons_of_pos (by simpa using empty)]
        simp

/-- The text of an argument. -/
def ArgAndData.text : ArgAndData → Option Str
  | arg text _ => some text
  | data _ _ _ _ => none

/-- The arguments behind the first dashes among those that an operation adds. -/
def EngineGpg.behindDashes (gpg result : EngineGpg) : List Str :=
  (((result.arglist.drop gpg.arglist.length).dropWhile (· != dashes)).tail).filterMap
    ArgAndData.text

/-- Behind the dashes are the patterns in front of the first empty one. -/
theorem EndsOptions.behindDashes {gpg base : EngineGpg} (ends : EndsOptions gpg base)
    (patterns : List Str)
    : gpg.behindDashes (base.addPatterns patterns) = patterns.takeWhile (· != []) := by
  obtain ⟨options, arglist, noDashes⟩ := ends
  have inFront : ∀ entry ∈ options, (entry != dashes) = true := by
    intro entry member
    exact bne_iff_ne.mpr (fun same => noDashes (same ▸ member))
  rw [EngineGpg.behindDashes, base.arglist_addPatterns, arglist, List.append_assoc, List.drop_left,
    List.append_assoc, List.dropWhile_append_of_pos inFront]
  simp [ArgAndData.text, Function.comp_def]

/-- The two commands of the program with a list of patterns. -/
inductive GpgPatternCommand where
  | keylistExt (secretOnly : Bool) (reserved : Int) (mode : Nat)
  | exportExt (mode keydata : Nat) (useArmor : Bool)

def GpgPatternCommand.run (command : GpgPatternCommand) (gpg : EngineGpg)
    (pattern : Option (List Str))
    : Except GpgError EngineGpg :=
  match command with
  | keylistExt secretOnly reserved mode => gpg.keylistExt pattern secretOnly reserved mode
  | exportExt mode keydata useArmor => gpg.exportExt pattern mode keydata useArmor

/-- A command adds options, the dashes and the patterns in front of the first empty one. -/
theorem GpgPatternCommand.run_spec {command : GpgPatternCommand} {gpg result : EngineGpg}
    {pattern : Option (List Str)} (ran : command.run gpg pattern = .ok result)
    : gpg.behindDashes result = (pattern.getD []).takeWhile (· != []) := by
  cases command with
  | keylistExt secretOnly reserved mode =>
      rw [run, EngineGpg.keylistExt] at ran
      split_ifs at ran
      cases options : gpg.keylistBuildOptions secretOnly mode with
      | error err =>
          rw [options] at ran
          cases ran
      | ok base =>
          rw [options] at ran
          cases ran
          exact (EngineGpg.keylistBuildOptions_spec options).behindDashes _
  | exportExt mode keydata useArmor =>
      rw [run, EngineGpg.exportExt] at ran
      cases options : gpg.exportCommon mode keydata useArmor with
      | error err =>
          rw [options] at ran
          cases ran
      | ok base =>
          rw [options] at ran
          cases ran
          exact (EngineGpg.exportCommon_spec options).behindDashes _

/-- A non-empty pattern is behind an empty one. -/
def HidesPattern (patterns : List Str) : Prop :=
  ∃ before after, patterns = before ++ [] :: after ∧ ∃ pattern ∈ after, pattern ≠ []

/-- A list hides a pattern at its head or behind it. -/
theorem hidesPattern_cons_iff (pattern : Str) (patterns : List Str)
    : HidesPattern (pattern :: patterns)
      ↔ (pattern = [] ∧ ∃ other ∈ patterns, other ≠ []) ∨ HidesPattern patterns := by
  constructor
  · rintro ⟨before, after, split, some⟩
    cases before with
    | nil =>
        obtain ⟨rfl, rfl⟩ := List.cons.inj split
        exact .inl ⟨rfl, some⟩
    | cons first before =>
        obtain ⟨rfl, rfl⟩ := List.cons.inj split
        exact .inr ⟨before, after, rfl, some⟩
  · rintro (⟨rfl, some⟩ | ⟨before, after, rfl, some⟩)
    · exact ⟨[], patterns, rfl, some⟩
    · exact ⟨pattern :: before, after, rfl, some⟩

/-- The patterns in front of the first empty one are all that are not empty exactly where none is
behind it, by induction on them.
-/
theorem takeWhile_eq_filter_iff (patterns : List Str)
    : patterns.takeWhile (· != []) = patterns.filter (· != []) ↔ ¬HidesPattern patterns := by
  induction patterns with
  | nil => simp [HidesPattern]
  | cons pattern patterns ih =>
      rw [hidesPattern_cons_iff, not_or, ← ih]
      by_cases empty : pattern = []
      · subst empty
        rw [List.takeWhile_cons_of_neg (by simp), List.filter_cons_of_neg (by simp)]
        constructor
        · intro none
          have allEmpty := List.filter_eq_nil_iff.mp none.symm
          refine ⟨fun some => ?_, ?_⟩
          · obtain ⟨-, other, member, notEmpty⟩ := some
            exact allEmpty other member (by simpa using notEmpty)
          · rw [← none]
            cases patterns with
            | nil => rfl
            | cons first patterns =>
                exact List.takeWhile_cons_of_neg (allEmpty first List.mem_cons_self)
        · rintro ⟨noOther, -⟩
          symm
          rw [List.filter_eq_nil_iff]
          intro other member notEmpty
          exact noOther ⟨rfl, other, member, by simpa using notEmpty⟩
      · rw [List.takeWhile_cons_of_pos (by simpa using empty),
          List.filter_cons_of_pos (by simpa using empty), List.cons.injEq]
        simp [empty]

-----------------------------------------------------------------------------------------
-- Both engines
-----------------------------------------------------------------------------------------

/-- The words behind the options of a line, decoded. -/
def PatternLine.words (line : PatternLine) (command : PatternCommand) : List Str :=
  ((line.text.drop command.start.length).splitOn blank).map PercentWords.decode

/-- The words of a line that are not empty are the patterns that are not. -/
theorem PatternCommand.words_filter {malloc : Malloc} {command : PatternCommand}
    {patterns : List Str} {line : PatternLine} (built : command.build malloc patterns = .ok line)
    : (line.words command).filter (· != []) = patterns.filter (· != []) := by
  have text : line.text = command.text patterns := by
    rw [build] at built
    split_ifs at built
    rw [← Except.ok.inj built]
  rw [PatternLine.words, text, command.text_eq, List.drop_left]
  by_cases some : patterns = []
  · rw [some]
    decide
  · rw [blank, patternEncoding.words_line some]

/-- The program and the server have the same patterns, all that are not empty, exactly where none
of these is behind an empty one.
-/
theorem engines_list_same_patterns_iff (gpgCommand : GpgPatternCommand) (gpg : EngineGpg)
    (gpgsmCommand : PatternCommand) (malloc : Malloc) (patterns : List Str) (result : EngineGpg)
    (line : PatternLine) (ran : gpgCommand.run gpg (some patterns) = .ok result)
    (built : gpgsmCommand.build malloc patterns = .ok line)
    : ((gpg.behindDashes result).filter (· != []) = (line.words gpgsmCommand).filter (· != [])
        ∧ (line.words gpgsmCommand).filter (· != []) = patterns.filter (· != []))
      ↔ ¬HidesPattern patterns := by
  have noneEmpty : ∀ pattern ∈ patterns.takeWhile (· != []), (pattern != []) = true :=
    fun pattern member => List.mem_takeWhile_imp (p := (· != [])) member
  rw [PatternCommand.words_filter built, GpgPatternCommand.run_spec ran, Option.getD_some,
    List.filter_eq_self.mpr noneEmpty, takeWhile_eq_filter_iff, and_iff_left rfl]

/-- An engine that exports what some patterns name. -/
def exporting (patterns : List Str) : EngineGpg where
  arglist :=
    [.arg (str "--export") none, .data 0 true 1 false, dashes] ++ patterns.map (.arg · none)

/-- The line for two patterns with five characters. -/
def exportLine (text : Str) : PatternLine where
  length := 33
  text := text

/-- A pattern in front of an empty one is a pattern of both engines. -/
theorem engines_list_alice
    : (EngineGpg.behindDashes {} (exporting [str "alice"])).filter (· != [])
        = ((exportLine (str "EXPORT alice ")).words (.exportExt 0)).filter (· != [])
      ∧ ((exportLine (str "EXPORT alice ")).words (.exportExt 0)).filter (· != [])
        = [str "alice", []].filter (· != []) :=
  (engines_list_same_patterns_iff (.exportExt 0 0 false) {} (.exportExt 0) Malloc.large
    [str "alice", []] (exporting [str "alice"]) (exportLine (str "EXPORT alice ")) rfl
    (by decide)).mpr ((takeWhile_eq_filter_iff _).mp (by decide))

/-- A pattern behind an empty one is not an argument of the program. -/
theorem empty_pattern_hides_alice
    : ¬∀ (gpgCommand : GpgPatternCommand) (gpg : EngineGpg) (gpgsmCommand : PatternCommand)
          (malloc : Malloc) (patterns : List Str) (result : EngineGpg) (line : PatternLine),
        (∀ pattern ∈ patterns, 10 ∉ pattern) →
        gpgCommand.run gpg (some patterns) = .ok result →
        gpgsmCommand.build malloc patterns = .ok line →
        (gpg.behindDashes result).filter (· != []) = (line.words gpgsmCommand).filter (· != [])
        ∧ (line.words gpgsmCommand).filter (· != []) = patterns.filter (· != []) := by
  intro all
  have same := all (.exportExt 0 0 false) {} (.exportExt 0) Malloc.large [[], str "alice"]
    (exporting []) (exportLine (str "EXPORT  alice")) (by decide) rfl (by decide)
  exact absurd same.1 (by decide)

end Gpgme
