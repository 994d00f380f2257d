import Gpgme.Lib.CString
import Gpgme.Lib.CountedBytes
import Gpgme.Lib.QuotedArguments

/-! The command line that `build_commandline` of `w32-io.c` makes of the arguments of a program. -/

namespace Gpgme

open CString (str)

-----------------------------------------------------------------------------------------
-- The command line
-----------------------------------------------------------------------------------------

/-- A literal that must be escaped. -/
def isEscapedLiteral (c : UInt8) : Bool := c == 92 || c == 34

/-- The bytes that the counting loop adds for an argument. -/
def countArgument (arg : Str) : Nat :=
  1 + (arg.map (fun c => if isEscapedLiteral c then 2 else 1)).sum + 2

/-- The bytes of the whole line with its NUL, before they are an `int`. -/
def countCommandline (argv : List Str) : Nat := (argv.map countArgument).sum + 1

/-- What the inner loop writes for a byte of an argument. -/
def writeLiteral (c : UInt8) : Str := (if isEscapedLiteral c then [92] else []) ++ [c]

/-- The loop that writes the arguments. -/
def writeCommandline (argv : List Str) : Str :=
  argv.flatMap (fun arg => [34] ++ arg.flatMap writeLiteral ++ [34] ++ [32])

/-- A line in the `n` bytes that are allocated for it. -/
structure CommandLine where
  n : Int
  buf : Str
deriving DecidableEq

/-- `build_commandline`; an argument vector is the list of the strings in front of its NULL. -/
def buildCommandline (malloc : Malloc) (argv : List Str) : Option CommandLine :=
  let n := CInt.toInt (countCommandline argv)
  if malloc.succeeds (CInt.toSize n) then some { n, buf := writeCommandline argv } else none

-----------------------------------------------------------------------------------------
-- Round trips
-----------------------------------------------------------------------------------------

/-- The bytes of a line with its NUL are those that were counted. -/
theorem length_writeCommandline (argv : List Str)
    : (writeCommandline argv).length + 1 = countCommandline argv := by
  have single (c : UInt8) : (writeLiteral c).length = if isEscapedLiteral c then 2 else 1 := by
    rw [writeLiteral]
    split_ifs
    · rfl
    · rfl
  rw [writeCommandline, List.length_flatMap, countCommandline]
  congr 3
  funext arg
  rw [countArgument, List.length_append, List.length_append, List.length_append,
    List.length_flatMap, funext single]
  simp

/-- An argument is written in quotes, all its backslashes and quotes escaped. -/
theorem flatMap_writeLiteral (arg : Str)
    : arg.flatMap writeLiteral = QuotedArguments.escapeAll arg := by
  unfold QuotedArguments.escapeAll
  congr 1
  funext c
  have same
      : isEscapedLiteral c = true ↔ c = QuotedArguments.backslash ∨ c = QuotedArguments.quote := by
    simp [isEscapedLiteral, QuotedArguments.backslash, QuotedArguments.quote]
  by_cases escaped : c = QuotedArguments.backslash ∨ c = QuotedArguments.quote
  · rw [writeLiteral, if_pos (same.mpr escaped), if_pos escaped]
    rfl
  · rw [writeLiteral, if_neg (mt same.mp escaped), if_neg escaped]
    rfl

/-- The arguments of a line are what is read back of each of them, by induction on them. -/
theorem arguments_writeCommandline (argv : List Str)
    : QuotedArguments.arguments (writeCommandline argv)
      = argv.map (QuotedArguments.readBack 0) := by
  induction argv with
  | nil => rfl
  | cons arg argv ih =>
      have quoted := QuotedArguments.split_escapeAll arg (writeCommandline argv) [] 0
      have opened (line : Str)
          : QuotedArguments.arguments (34 :: line)
            = QuotedArguments.split true 0 (some []) line := by
        rfl
      rw [writeCommandline, List.flatMap_cons, ← writeCommandline, flatMap_writeLiteral]
      simp only [List.append_assoc, List.cons_append, List.nil_append]
      rw [opened]
      exact quoted.trans (congrArg (_ :: ·) ih)

/-- The line takes the bytes that were counted, and the arguments are those of the vector. -/
structure CommandLine.Carries (line : CommandLine) (argv : List Str) : Prop where
  exact : (line.buf.length + 1 : Nat) = line.n
  arguments : QuotedArguments.arguments line.buf = argv

/-- A line carries its arguments exactly where all their backslashes are in front of a backslash, of
a quote or of the end, and the bytes can be counted in an `int`.
-/
theorem commandline_round_trip_iff (malloc : Malloc) (argv : List Str) (line : CommandLine)
    (built : buildCommandline malloc argv = some line)
    : line.Carries argv
      ↔ (∀ arg ∈ argv, QuotedArguments.SlashesProtect arg) ∧ countCommandline argv < 2 ^ 31 := by
  rw [buildCommandline] at built
  split_ifs at built
  have same := Option.some.inj built
  subst same
  have exact
      : ((writeCommandline argv).length + 1 : Nat) = CInt.toInt (countCommandline argv)
        ↔ countCommandline argv < 2 ^ 31 := by
    rw [length_writeCommandline]
    exact CInt.eq_toInt_iff _
  have arguments
      : QuotedArguments.arguments (writeCommandline argv) = argv
        ↔ ∀ arg ∈ argv, QuotedArguments.SlashesProtect arg := by
    have readBack (arg : Str) := QuotedArguments.readBack_eq_iff 0 arg
    simp only [List.replicate_zero, List.nil_append] at readBack
    rw [arguments_writeCommandline]
    simp only [← readBack]
    nth_rewrite 2 [← List.map_id argv]
    exact List.map_inj_left
  constructor
  · rintro ⟨counted, split⟩
    exact ⟨arguments.mp split, exact.mp counted⟩
  · rintro ⟨protect, small⟩
    exact ⟨exact.mpr small, arguments.mpr protect⟩

/-- An argument with a quote and a backslash in front of its end is carried. -/
theorem quoted_name_carried
    : CommandLine.Carries { n := 9, buf := str "\"a\\\"\\\\\" " } [str "a\"\\"] :=
  (commandline_round_trip_iff Malloc.large [str "a\"\\"] { n := 9, buf := str "\"a\\\"\\\\\" " }
    (by decide)).mpr ⟨by decide, by decide⟩

/-- The backslash of a path is doubled. -/
theorem path_backslash_doubled
    : ¬∀ (malloc : Malloc) (argv : List Str) (line : CommandLine),
        (∀ arg ∈ argv, 0 ∉ arg) → buildCommandline malloc argv = some line →
        line.Carries argv := by
  intro all
  have carried :=
    all Malloc.large [str "C:\\a"] { n := 9, buf := str "\"C:\\\\a\" " } (by decide) (by decide)
  exact absurd carried.arguments (by decide)

end Gpgme
