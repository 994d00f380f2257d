import Gpgme.Assuan.ListingOptions
import Gpgme.Lib.CountedBytes
import Gpgme.Lib.PercentWords

/-! The lines with lists of patterns that `gpgsm_keylist_ext` and `gpgsm_export_ext` of
`engine-gpgsm.c` send. Both count the bytes of the line first and then write it.
-/

namespace Gpgme

open CString (str blank)

-----------------------------------------------------------------------------------------
-- The two commands
-----------------------------------------------------------------------------------------

namespace ExportMode

def isExtern : Nat := 2
def minimal : Nat := 4
def secret : Nat := 16
def raw : Nat := 32
def pkcs12 : Nat := 64
def nouid : Nat := 128

end ExportMode

/-- The commands with a list of patterns. -/
inductive PatternCommand where
  | keylistExt (secretOnly : Bool)
  | exportExt (mode : Nat)
deriving DecidableEq

/-- The bytes that are allocated besides those for the patterns. -/
def PatternCommand.fixedLength : PatternCommand → Nat
  | keylistExt _ => 15 + 1
  | exportExt _ => 7 + 9 + 9 + 1

/-- The command and its options, with a blank behind each of them. -/
def PatternCommand.start : PatternCommand → Str
  | keylistExt secretOnly => if secretOnly then str "LISTSECRETKEYS " else str "LISTKEYS "
  | exportExt mode =>
      if hasBit mode ExportMode.secret then
        str "EXPORT " ++ str "--secret "
          ++ (if hasBit mode ExportMode.raw then str "--raw "
            else if hasBit mode ExportMode.pkcs12 then str "--pkcs12 "
            else [])
      else str "EXPORT "

/-- The bytes that the counting loop adds for a pattern. -/
def countPattern (pattern : Str) : Nat :=
  (pattern.map (fun c => if isReserved c then 3 else 1)).sum + 1

def countPatterns (patterns : List Str) : Nat := (patterns.map countPattern).sum

/-- The variable `length`, an `int`. -/
def PatternCommand.length (command : PatternCommand) (patterns : List Str) : Int :=
  CInt.toInt (command.fixedLength + countPatterns patterns : Nat)

/-- The writing loop of `gpgsm_keylist_ext`, which takes the last blank back. -/
def writeListed (patterns : List Str) : Str :=
  (patterns.flatMap (fun pattern => pattern.flatMap escapeChar ++ [blank])).dropLast

/-- The writing loop of `gpgsm_export_ext`. -/
def writeExported : List Str → Str
  | [] => []
  | pattern :: patterns =>
      pattern.flatMap escapeChar ++ (if patterns = [] then [] else [blank])
        ++ writeExported patterns

/-- The line without its NUL. -/
def PatternCommand.text (command : PatternCommand) (patterns : List Str) : Str :=
  command.start
    ++ match command with
      | keylistExt _ => writeListed patterns
      | exportExt _ => writeExported patterns

/-- A line in the memory for it. -/
structure PatternLine where
  length : Int
  text : Str
deriving DecidableEq

/-- The part of the two functions that builds the line. -/
def PatternCommand.build (malloc : Malloc) (command : PatternCommand) (patterns : List Str)
    : Except GpgError PatternLine :=
  if malloc.succeeds (CInt.toSize (command.length patterns)) then
    .ok { length := command.length patterns, text := command.text patterns }
  else .error (gpgError ErrCode.enomem)

-----------------------------------------------------------------------------------------
-- The text
-----------------------------------------------------------------------------------------

/-- What is written for one character is decoded to it. -/
theorem decode_escapeChar (c : UInt8) (rest : Str)
    : PercentWords.decode (escapeChar c ++ rest) = c :: PercentWords.decode rest := by
  unfold escapeChar
  split_ifs with percent space plus
  · rw [percent]
    rfl
  · rw [space]
    rfl
  · rw [plus]
    rfl
  · exact PercentWords.decode_literal plus percent rest

/-- A byte in what is written is a character of an escape or the byte itself. -/
theorem mem_escapeChar {c d : UInt8} (member : d ∈ escapeChar c)
    : (d = c ∧ isReserved c = false) ∨ d ∈ [37, 50, 53, 48, 66] := by
  unfold escapeChar at member
  split_ifs at member with percent space plus
  · exact .inr (by revert d; decide)
  · exact .inr (by revert d; decide)
  · exact .inr (by revert d; decide)
  · refine .inl ⟨List.mem_singleton.mp member, ?_⟩
    simp [isReserved, percent, space, plus]

/-- No blank is written for a character. -/
theorem blank_notMem_escapeChar (c : UInt8) : 32 ∉ escapeChar c := by
  intro member
  rcases mem_escapeChar member with ⟨rfl, ordinary⟩ | other
  · cases ordinary
  · revert other
    decide

/-- The encoding of both functions. -/
def patternEncoding : PercentWords.Encoding where
  encode := escapeChar
  decodes := decode_escapeChar
  noBlank := blank_notMem_escapeChar

/-- The bytes written for a pattern are those that were counted. -/
theorem length_word (pattern : Str)
    : (patternEncoding.word pattern).length + 1 = countPattern pattern := by
  have single (c : UInt8) : (escapeChar c).length = if isReserved c then 3 else 1 := by
    by_cases percent : c = 37
    · rw [percent]
      rfl
    by_cases space : c = 32
    · rw [space]
      rfl
    by_cases plus : c = 43
    · rw [plus]
      rfl
    simp [escapeChar, isReserved, percent, space, plus]
  rw [PercentWords.Encoding.word, List.length_flatMap, countPattern]
  congr 3
  exact funext single

/-- Both loops write the patterns with a blank between two of them. -/
theorem writeExported_eq (patterns : List Str)
    : writeExported patterns = patternEncoding.line patterns := by
  induction patterns with
  | nil => rfl
  | cons pattern patterns ih =>
      rw [writeExported, ih]
      cases patterns with
      | nil => simp [PercentWords.Encoding.line, PercentWords.Encoding.word, patternEncoding]
      | cons next patterns =>
          simp [PercentWords.Encoding.line, PercentWords.Encoding.word, patternEncoding, blank]

/-- A listing writes the line of the encoding. -/
theorem writeListed_eq (patterns : List Str)
    : writeListed patterns = patternEncoding.line patterns := by
  induction patterns with
  | nil => rfl
  | cons pattern patterns ih =>
      cases patterns with
      | nil =>
          simp [writeListed, PercentWords.Encoding.line, PercentWords.Encoding.word,
            patternEncoding]
      | cons next patterns =>
          rw [writeListed, List.flatMap_cons, List.dropLast_append_of_ne_nil (by simp)]
          rw [writeListed] at ih
          rw [ih]
          simp [PercentWords.Encoding.line, PercentWords.Encoding.word, patternEncoding, blank]

/-- The line is the command, its options and the words for the patterns. -/
theorem PatternCommand.text_eq (command : PatternCommand) (patterns : List Str)
    : command.text patterns = command.start ++ patternEncoding.line patterns := by
  cases command with
  | keylistExt secretOnly => rw [text, writeListed_eq]
  | exportExt mode => rw [text, writeExported_eq]

/-- The bytes of a line and its NUL behind the options are those that were counted. -/
theorem length_line {patterns : List Str} (some : patterns ≠ [])
    : (patternEncoding.line patterns).length + 1 = countPatterns patterns := by
  rw [← writeListed_eq, writeListed, List.length_dropLast]
  have total
      : (patterns.flatMap (fun pattern => pattern.flatMap escapeChar ++ [blank])).length
        = countPatterns patterns := by
    rw [List.length_flatMap, countPatterns]
    congr 2
    funext pattern
    rw [List.length_append, ← length_word]
    rfl
  have positive : 0 < countPatterns patterns := by
    cases patterns with
    | nil => exact absurd rfl some
    | cons pattern patterns =>
        rw [countPatterns, List.map_cons, List.sum_cons, countPattern]
        omega
  omega

/-- A line feed is in a line exactly where a pattern has one. -/
theorem lf_mem_line_iff (patterns : List Str)
    : 10 ∈ patternEncoding.line patterns ↔ ∃ pattern ∈ patterns, 10 ∈ pattern := by
  have inWord (pattern : Str) : 10 ∈ pattern.flatMap escapeChar ↔ 10 ∈ pattern := by
    constructor
    · intro member
      obtain ⟨c, inPattern, written⟩ := List.mem_flatMap.mp member
      rcases mem_escapeChar written with ⟨rfl, -⟩ | other
      · exact inPattern
      · exact absurd other (by decide)
    · intro member
      exact List.mem_flatMap.mpr ⟨10, member, by decide⟩
  rw [← writeExported_eq]
  induction patterns with
  | nil => simp [writeExported]
  | cons pattern patterns ih =>
      have separator : 10 ∉ if patterns = [] then [] else [blank] := by
        split_ifs
        · simp
        · decide
      rw [writeExported, List.mem_append, List.mem_append, inWord]
      simp [separator, ih]

-----------------------------------------------------------------------------------------
-- The commands
-----------------------------------------------------------------------------------------

/-- The commands and their options fit the bytes that are allocated besides the patterns, the
blanks behind them with the NUL, and are in one line.
-/
theorem PatternCommand.start_spec (command : PatternCommand)
    : command.start.length < command.fixedLength
      ∧ command.fixedLength ≤ command.start.length + 19
      ∧ 10 ∉ command.start := by
  cases command with
  | keylistExt secretOnly =>
      cases secretOnly with
      | false => decide
      | true => decide
  | exportExt mode =>
      rw [start, fixedLength]
      split_ifs
      · decide
      · decide
      · decide
      · decide

/-- The line fits its memory, is one line, and gives the patterns back. -/
structure PatternLine.Carries (line : PatternLine) (command : PatternCommand)
    (patterns : List Str)
    : Prop where
  fits : (line.text.length + 1 : Nat) ≤ line.length
  oneLine : 10 ∉ line.text
  words
    : ((line.text.drop command.start.length).splitOn blank).map PercentWords.decode = patterns

/-- A line that is built carries the patterns exactly where none of them has a line feed and the
bytes can be counted in an `int`.
-/
theorem gpgsm_patterns_survive_iff (malloc : Malloc) (command : PatternCommand)
    (patterns : List Str) (line : PatternLine) (some : patterns ≠ [])
    (built : command.build malloc patterns = .ok line)
    : line.Carries command patterns
      ↔ (∀ pattern ∈ patterns, 10 ∉ pattern)
        ∧ command.fixedLength + countPatterns patterns < 2 ^ 31 := by
  obtain ⟨startFits, startLong, startLine⟩ := command.start_spec
  rw [PatternCommand.build] at built
  split_ifs at built with succeeded
  have same := Except.ok.inj built
  subst same
  have notNegative : 0 ≤ command.length patterns := Malloc.notNegative succeeded
  have textLength
      : (command.text patterns).length + 1 = command.start.length + countPatterns patterns := by
    rw [command.text_eq, List.length_append, ← length_line some]
    omega
  have fits
      : ((command.text patterns).length + 1 : Nat) ≤ command.length patterns
        ↔ command.fixedLength + countPatterns patterns < 2 ^ 31 := by
    rw [textLength]
    exact CInt.le_toInt_iff (by omega) (by omega) notNegative
  have oneLine : 10 ∉ command.text patterns ↔ ∀ pattern ∈ patterns, 10 ∉ pattern := by
    rw [command.text_eq, List.mem_append, lf_mem_line_iff]
    simp [startLine]
  have words
      : (((command.text patterns).drop command.start.length).splitOn blank).map
          PercentWords.decode
        = patterns := by
    rw [command.text_eq, List.drop_left]
    exact patternEncoding.words_line some
  constructor
  · rintro ⟨fitting, single, -⟩
    exact ⟨oneLine.mp single, fits.mp fitting⟩
  · rintro ⟨single, small⟩
    exact ⟨fits.mpr small, oneLine.mpr single, words⟩

/-- A pattern with a blank and a percent sign is carried by a listing. -/
theorem listed_patterns_survive
    : PatternLine.Carries { length := 28, text := str "LISTKEYS a%20b 50%25" }
        (.keylistExt false) [str "a b", str "50%"] :=
  (gpgsm_patterns_survive_iff Malloc.large (.keylistExt false) [str "a b", str "50%"]
    { length := 28, text := str "LISTKEYS a%20b 50%25" } (by decide) (by decide)).mpr
    ⟨by decide, by decide⟩

/-- Neither command carries a pattern with a line feed. -/
theorem line_feed_breaks_line
    : (¬∀ (malloc : Malloc) (secretOnly : Bool) (patterns : List Str) (line : PatternLine),
        patterns ≠ [] →
        (∀ pattern ∈ patterns, pattern ≠ [] ∧ 0 ∉ pattern) →
        (PatternCommand.keylistExt secretOnly).build malloc patterns = .ok line →
        line.Carries (.keylistExt secretOnly) patterns)
      ∧ ¬∀ (malloc : Malloc) (mode : Nat) (patterns : List Str) (line : PatternLine),
        patterns ≠ [] →
        (∀ pattern ∈ patterns, pattern ≠ [] ∧ 0 ∉ pattern) →
        (PatternCommand.exportExt mode).build malloc patterns = .ok line →
        line.Carries (.exportExt mode) patterns := by
  constructor
  · intro all
    have carried := all Malloc.large false [str "a\nb"]
      { length := 20, text := str "LISTKEYS a\nb" } (by decide) (by decide) (by decide)
    exact carried.oneLine (by decide)
  · intro all
    have carried := all Malloc.large 0 [str "a\nb"]
      { length := 30, text := str "EXPORT a\nb" } (by decide) (by decide) (by decide)
    exact carried.oneLine (by decide)

end Gpgme
