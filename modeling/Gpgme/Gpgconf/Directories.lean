import Gpgme.Gpgconf.Reading

/-! `gpgconf_conf_dir` of `engine-gpgconf.c`, which looks for one directory in the output of
`gpgconf --list-dirs`.
-/

namespace Gpgme.Gpgconf

open CString

/-- `struct gpgconf_config_dir_s`. -/
structure ConfigDir where
  what : Str
  result : Option Str

/-- `gpgconf_config_dir_cb`. The copy of the rest of the line needs memory. -/
def gpgconfConfigDirCb (memory : Bool) (data : ConfigDir) (line : Str) : GpgError × ConfigDir :=
  let len := data.what.length
  -- `!strncmp (line, what, len) && line[len] == ':'`
  if data.what <+: line ∧ line.getD len 0 = 58 then
    if memory then (gpgError ErrCode.user1, { data with result := some (line.drop (len + 1)) })
    else (gpgError ErrCode.enomem, data)
  else
    (0, data)

/-- `gpgconf_conf_dir`: its value and what it stores as the result, if it stores something. -/
def gpgconfConfDir (memory : Bool) (what : Str) (run : GpgconfRun)
    : Option (GpgError × Option Str) :=
  (gpgconfRead (gpgconfConfigDirCb memory) { what := what, result := none } run).map
    fun (err, data) =>
      if gpgErrCode err = ErrCode.user1 then (0, data.result)
      else
        -- The error is set for a directory that is not found, but it is not returned.
        let _err := if err = 0 then gpgError ErrCode.notFound else err
        (0, none)

/-- The lines that are passed to a callback that takes all of them, up to an error of the pipe, of
the memory or of the length of a line.
-/
def confLines (run : GpgconfRun) : Option (List Str) :=
  (gpgconfRead (fun heard line => (0, heard ++ [line])) [] run).map Prod.snd

/-- The rest of the first line that starts with the name of the directory and a colon. -/
def dirEntry (what : Str) (lines : List Str) : Option Str :=
  (lines.find? ((what ++ [58]).isPrefixOf ·)).map (·.drop (what.length + 1))

/-- The two comparisons of the callback are one. -/
theorem config_line_iff (what line : Str)
    : (what <+: line ∧ line.getD what.length 0 = 58) ↔ what ++ [58] <+: line := by
  constructor
  · rintro ⟨⟨rest, rfl⟩, colon⟩
    cases rest with
    | nil => simp at colon
    | cons c rest =>
        have first : c = 58 := by simpa using colon
        exact ⟨rest, by simp [first]⟩
  · rintro ⟨rest, rfl⟩
    exact ⟨⟨58 :: rest, by simp⟩, by simp⟩

/-- The callback stops at the first line for the directory, by induction on the lines. -/
theorem feed_configDir (memory : Bool) (what : Str) (lines : List Str)
    : feed (gpgconfConfigDirCb memory) { what := what, result := none } lines
      = match dirEntry what lines with
        | none => (0, { what := what, result := none })
        | some rest =>
            if memory then (gpgError ErrCode.user1, { what := what, result := some rest })
            else (gpgError ErrCode.enomem, { what := what, result := none }) := by
  unfold dirEntry
  induction lines with
  | nil => rfl
  | cons line lines ih =>
      rw [feed, List.find?_cons]
      by_cases entry : what ++ [58] <+: line
      · have called := (config_line_iff what line).mpr entry
        rw [List.isPrefixOf_iff_prefix.mpr entry]
        simp only [gpgconfConfigDirCb, if_pos called]
        cases memory <;> rfl
      · have other := mt (config_line_iff what line).mp entry
        rw [Bool.eq_false_iff.mpr (mt List.isPrefixOf_iff_prefix.mp entry)]
        simp only [gpgconfConfigDirCb, if_neg other]
        rw [if_neg (by decide)]
        exact ih

/-- The recording callback hears every line. -/
theorem feed_recorded (heard lines : List Str)
    : feed (fun heard line => (0, heard ++ [line])) heard lines = (0, heard ++ lines) := by
  induction lines generalizing heard with
  | nil => simp [feed]
  | cons line lines ih => simp [feed, ih]

/-- What a call of the function gives: always the value zero. -/
theorem gpgconfConfDir_eq (memory : Bool) (what : Str) (run : GpgconfRun)
    : ∃ lines,
        confLines run = some lines
        ∧ gpgconfConfDir memory what run
          = some (0, if memory then dirEntry what lines else none) := by
  obtain ⟨read, feeds⟩ := gpgconfRead_feeds run
  refine ⟨read.2, ?_, ?_⟩
  · rw [confLines, feeds, feedAll, feed_recorded]
    simp
  · rw [gpgconfConfDir, feeds, feedAll, feed_configDir]
    have found : gpgError ErrCode.user1 ≠ 0 := by decide
    have failed : gpgError ErrCode.enomem ≠ 0 := by decide
    have special : gpgErrCode (gpgError ErrCode.user1) = ErrCode.user1 := by decide
    have usual : gpgErrCode (gpgError ErrCode.enomem) ≠ ErrCode.user1 := by decide
    cases dirEntry what read.2 with
    | none => simp
    | some rest =>
        cases memory with
        | true => simp [found, special]
        | false => simp [failed, usual]

/-- The lines are those of the text, if the system neither fails to read it nor runs out of
memory.
-/
theorem confLines_text (memory : Memory) (available : ∀ size, memory.malloc size ≠ none)
    {output : Str} (zeroFree : 0 ∉ output) (sizes : Nat → Nat)
    : confLines
        { memory := memory, output := output, answers := fun index => .upTo (sizes index) }
      = some (readText [] output).2 := by
  unfold confLines
  obtain ⟨block, allocated⟩ := Option.ne_none_iff_exists'.mp (available 1024)
  rcases gpgconfRead_text (fun heard line => (0, heard ++ [line])) [] allocated zeroFree sizes
    with whole | ⟨exhausted | ⟨exhausted, -⟩ | ⟨exhausted, -⟩, -⟩
  · rw [whole, feedAll, feed_recorded]
    simp
  · exact absurd exhausted (available 1024)
  · exact absurd exhausted (available 8192)
  · exact absurd exhausted (available 65536)

-----------------------------------------------------------------------------------------
-- Failure
-----------------------------------------------------------------------------------------

/-- The value zero reports a directory that is found before an error, and its rest is the result
then.
-/
def DirReported (memory : Bool) (what : Str) (run : GpgconfRun) : Prop :=
  ∃ lines err result,
    confLines run = some lines
    ∧ gpgconfConfDir memory what run = some (err, result)
    ∧ (err = 0 ↔ memory ∧ (dirEntry what lines).isSome)
    ∧ (err = 0 → result = dirEntry what lines)

/-- The last statement of the function returns zero instead of the error, so that only a directory
that is found is reported.
-/
theorem conf_dir_reported_iff (memory : Bool) (what : Str) (run : GpgconfRun)
    : DirReported memory what run
      ↔ memory ∧ ∃ line ∈ (confLines run).getD [], what ++ [58] <+: line := by
  obtain ⟨lines, passed, value⟩ := gpgconfConfDir_eq memory what run
  have entry : (dirEntry what lines).isSome ↔ ∃ line ∈ lines, what ++ [58] <+: line := by
    simp [dirEntry]
  rw [passed, Option.getD_some, ← entry]
  constructor
  · rintro ⟨lines', err, result, passed', value', reported, -⟩
    obtain rfl := Option.some.inj (passed.symm.trans passed')
    obtain ⟨rfl, -⟩ := Prod.mk.inj (Option.some.inj (value.symm.trans value'))
    exact reported.mp rfl
  · rintro ⟨memory, found⟩
    refine ⟨lines, 0, _, passed, value, ⟨fun _ => ⟨memory, found⟩, fun _ => rfl⟩, fun _ => ?_⟩
    rw [if_pos memory]

/-- A directory that is not in the output is not reported as an error. -/
theorem missing_dir_accepted
    : gpgconfConfDir true (str "homedir")
          { memory := zeroMemory, output := [], answers := fun _ => .upTo 1 }
        = some (0, none)
      ∧ ¬DirReported true (str "homedir")
          { memory := zeroMemory, output := [], answers := fun _ => .upTo 1 } := by
  have lines := confLines_text zeroMemory (fun _ => Option.some_ne_none _)
    List.not_mem_nil (fun _ => 1)
  obtain ⟨lines', passed, value⟩ := gpgconfConfDir_eq true (str "homedir")
    { memory := zeroMemory, output := [], answers := fun _ => .upTo 1 }
  obtain rfl : (readText [] []).2 = lines' := Option.some.inj (lines.symm.trans passed)
  refine ⟨value, ?_⟩
  rintro ⟨_, err, result, lines'', value', reported, -⟩
  obtain rfl := Option.some.inj (lines.symm.trans lines'')
  obtain ⟨rfl, -⟩ := Prod.mk.inj (Option.some.inj (value.symm.trans value'))
  exact Bool.noConfusion (reported.mp rfl).2

end Gpgme.Gpgconf
