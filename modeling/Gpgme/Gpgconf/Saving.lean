import Gpgme.Error
import Gpgme.Gpgconf.Options
import Gpgme.Lib.CheckedWrites

/-! `gpgconf_conf_save` of `engine-gpgconf.c` with all of its writes to the data object, each of which
may fail.
-/

namespace Gpgme.Gpgconf

open CString CheckedWrites

-----------------------------------------------------------------------------------------
-- The functions
-----------------------------------------------------------------------------------------

/-- The part of `struct gpgme_conf_opt` that is saved, with any name and any arguments. -/
structure ConfOption where
  name : Str
  altType : ConfType
  changeValue : Bool
  newValue : List ConfArg

/-- What happens to one call: the error of `gpgme_data_new`, which writes fail by their number, the
number of the system error that is seen then, the error of `gpgme_data_seek`, and what
`gpgconf_write` returns for a text.
-/
structure SaveRun where
  dataNew : GpgError := 0
  answers : Nat → Bool
  errno : Nat := 0
  seek : GpgError := 0
  write : Str → GpgError := fun _ => 0

section Writing

variable (answers : Nat → Bool)

/-- `gpgme_data_write`. -/
def gpgmeDataWrite (conf : Sink UInt8) (chunk : Str) : Int × Sink UInt8 :=
  (if answers conf.calls then chunk.length else -1, conf.write answers chunk)

/-- The loop over the characters of a string, whose last result is `amt`. -/
def stringToData : Str → Int → Sink UInt8 → Int × Sink UInt8
  | [], amt, conf => (amt, conf)
  | c :: rest, _, conf =>
      let (amt, conf) := gpgmeDataWrite answers conf (escapeValue c)
      stringToData rest amt conf

/-- One argument of `arg_to_data`. -/
def valueToData (altType : ConfType) (arg : ConfArg) (amt : Int) (conf : Sink UInt8)
    : Int × Sink UInt8 :=
  match altType with
  | .none | .uint32 => gpgmeDataWrite answers conf (decimal arg.uint32.toNat)
  | .int32 => gpgmeDataWrite answers conf (decimalInt (CInt.toInt arg.uint32.toNat))
  | _ =>
      match arg.string with
      | none => (amt, conf)
      | some text =>
          let (amt, conf) := gpgmeDataWrite answers conf [34]
          if amt < 0 then (amt, conf) else stringToData answers text amt conf

/-- The loop of `arg_to_data`. -/
def argLoop (altType : ConfType) : List ConfArg → Int → Sink UInt8 → Int × Sink UInt8
  | [], amt, conf => (amt, conf)
  | arg :: rest, amt, conf =>
      if amt < 0 then (amt, conf)
      else
        let (amt, conf) := valueToData answers altType arg amt conf
        if amt < 0 then (amt, conf)
        else
          let (amt, conf) := if rest ≠ [] then gpgmeDataWrite answers conf [44] else (amt, conf)
          argLoop altType rest amt conf

/-- `arg_to_data`. -/
def argToData (errno : Nat) (altType : ConfType) (args : List ConfArg) (conf : Sink UInt8)
    : GpgError × Sink UInt8 :=
  let (amt, conf) := argLoop answers altType args 0 conf
  (if amt < 0 then gpgErrorFromSyserror errno else 0, conf)

/-- Two writes of which the second one is only made if the first one succeeds. -/
def writeBoth (conf : Sink UInt8) (first second : Str) : Int × Sink UInt8 :=
  let (amt, conf) := gpgmeDataWrite answers conf first
  if 0 ≤ amt then gpgmeDataWrite answers conf second else (amt, conf)

/-- The loop of `gpgconf_conf_save`: the error, the last result, whether something has changed, and
the data object.
-/
def saveLoop (errno : Nat)
    : List ConfOption → GpgError → Int → Bool → Sink UInt8 → GpgError × Int × Bool × Sink UInt8
  | [], err, amt, changed, conf => (err, amt, changed, conf)
  | option :: rest, err, amt, changed, conf =>
      if ¬(err = 0 ∧ 0 ≤ amt) then (err, amt, changed, conf)
      else if option.changeValue then
        let (amt, conf) := writeBoth answers conf option.name [58]
        if amt < 0 then (err, amt, true, conf)
        else
          let flags := if option.newValue = [] then 16 else 0
          let (amt, conf) := writeBoth answers conf (decimal flags) [58]
          if amt < 0 then (err, amt, true, conf)
          else
            let (err, conf) :=
              if option.newValue ≠ [] then
                argToData answers errno option.altType option.newValue conf
              else
                (err, conf)
            if err ≠ 0 then (err, amt, true, conf)
            else
              let (amt, conf) := gpgmeDataWrite answers conf [10]
              saveLoop errno rest err amt true conf
      else
        saveLoop errno rest err amt changed conf

end Writing

/-- `gpgconf_conf_save`: its value, the text that `gpgconf_write` is called with, if it is called,
and the data object.
-/
def gpgconfConfSave (run : SaveRun) (options : List ConfOption)
    : GpgError × Option Str × Sink UInt8 :=
  let conf : Sink UInt8 := { calls := 0, stored := [] }
  if run.dataNew ≠ 0 then (run.dataNew, none, conf)
  else
    let (err, amt, changed, conf) := saveLoop run.answers run.errno options 0 0 false conf
    let err := if err = 0 ∧ amt < 0 then gpgErrorFromSyserror run.errno else err
    if err ≠ 0 ∨ ¬changed then (err, none, conf)
    else if run.seek ≠ 0 then (run.seek, none, conf)
    else (run.write conf.stored, some conf.stored, conf)

-----------------------------------------------------------------------------------------
-- The text and its writes
-----------------------------------------------------------------------------------------

/-- The line for an option. -/
def ConfOption.line (option : ConfOption) : Str :=
  option.name
    ++ 58 :: (decimal (if option.newValue = [] then 16 else 0)
      ++ 58 :: Gpgme.argToData option.altType option.newValue)

/-- The complete text for all changed options. -/
def completeText (options : List ConfOption) : Str :=
  (options.filter ConfOption.changeValue).flatMap (·.line ++ [10])

/-- The characters of a string: only the write of the last one is checked. -/
def stringWrites : Str → List (Write UInt8)
  | [] => []
  | [c] => [⟨escapeValue c, true⟩]
  | c :: rest => ⟨escapeValue c, false⟩ :: stringWrites rest

def valueWrites (altType : ConfType) (arg : ConfArg) : List (Write UInt8) :=
  if altType.isString then
    match arg.string with
    | none => []
    | some text => ⟨[34], true⟩ :: stringWrites text
  else
    [⟨arg.text altType, true⟩]

def argWrites (altType : ConfType) : List ConfArg → List (Write UInt8)
  | [] => []
  | [arg] => valueWrites altType arg
  | arg :: rest => valueWrites altType arg ++ ⟨[44], true⟩ :: argWrites altType rest

def ConfOption.writes (option : ConfOption) : List (Write UInt8) :=
  if option.changeValue then
    ⟨option.name, true⟩ :: ⟨[58], true⟩
      :: ⟨decimal (if option.newValue = [] then 16 else 0), true⟩ :: ⟨[58], true⟩
      :: (argWrites option.altType option.newValue ++ [⟨[10], true⟩])
  else
    []

/-- The writes for some options, one call after the other, if none of them fails. -/
def saveWrites (options : List ConfOption) : List (Write UInt8) := options.flatMap ConfOption.writes

/-- The writes of a string are its escaped text. -/
theorem stringWrites_text (text : Str)
    : (stringWrites text).flatMap Write.chunk = text.flatMap escapeValue := by
  induction text with
  | nil => rfl
  | cons c rest ih =>
      cases rest with
      | nil => rfl
      | cons d more =>
          rw [stringWrites, List.flatMap_cons, ih]
          · rfl
          · exact List.cons_ne_nil _ _

/-- The writes of a value are its text. -/
theorem valueWrites_text (altType : ConfType) (arg : ConfArg)
    : (valueWrites altType arg).flatMap Write.chunk = arg.text altType := by
  unfold valueWrites
  by_cases strings : altType.isString = true
  · rw [if_pos strings, ConfArg.text_string strings]
    cases arg.string with
    | none => rfl
    | some text => rw [List.flatMap_cons, stringWrites_text]; rfl
  · rw [if_neg strings, List.flatMap_singleton]

/-- The writes of the arguments are their text. -/
theorem argWrites_text (altType : ConfType) (args : List ConfArg)
    : (argWrites altType args).flatMap Write.chunk = Gpgme.argToData altType args := by
  induction args with
  | nil => rfl
  | cons arg rest ih =>
      cases rest with
      | nil => exact valueWrites_text altType arg
      | cons next more =>
          rw [argWrites, List.flatMap_append, List.flatMap_cons, valueWrites_text, ih]
          · rfl
          · exact List.cons_ne_nil _ _

/-- All of the writes make up the complete text. -/
theorem saveWrites_text (options : List ConfOption)
    : (saveWrites options).flatMap Write.chunk = completeText options := by
  induction options with
  | nil => rfl
  | cons option rest ih =>
      unfold saveWrites completeText at ih ⊢
      rw [List.flatMap_cons, List.flatMap_append, ih, List.filter_cons, ConfOption.writes]
      by_cases changed : option.changeValue = true
      · rw [if_pos changed, if_pos changed, List.flatMap_cons]
        simp [argWrites_text, ConfOption.line]
      · rw [if_neg changed, if_neg changed]
        rfl

-----------------------------------------------------------------------------------------
-- The functions make these writes
-----------------------------------------------------------------------------------------

/-- A function made some writes: it left the data object as they do, and its result is negative if
a checked one failed.
-/
structure Made (result : Int × Sink UInt8) (writes : Bool × Sink UInt8) : Prop where
  conf : result.2 = writes.2
  amt : 0 ≤ result.1 ↔ writes.1 = true

section Made

variable (answers : Nat → Bool)

/-- One chunk is written. -/
theorem gpgmeDataWrite_made (conf : Sink UInt8) (chunk : Str)
    : Made (gpgmeDataWrite answers conf chunk) (run answers [⟨chunk, true⟩] conf) := by
  unfold gpgmeDataWrite run
  cases answer : answers conf.calls with
  | false => exact ⟨by simp, by simp⟩
  | true => exact ⟨by simp [run], by simp [run]⟩

/-- Behind a checked write that failed nothing is written. -/
theorem Made.stops {answers : Nat → Bool} {amt : Int} {conf conf' : Sink UInt8}
    {first : List (Write UInt8)} (made : Made (amt, conf') (run answers first conf))
    (failed : amt < 0) (second : List (Write UInt8))
    : Made (amt, conf') (run answers (first ++ second) conf) := by
  have stopped : ¬(run answers first conf).1 = true := fun ends =>
    absurd (made.amt.mpr ends) (Int.not_le.mpr failed)
  rw [run_append, if_neg stopped]
  exact made

/-- Else the next writes follow. -/
theorem Made.goes {answers : Nat → Bool} {amt : Int} {conf conf' : Sink UInt8}
    {first : List (Write UInt8)} (made : Made (amt, conf') (run answers first conf))
    (succeeded : 0 ≤ amt) {result : Int × Sink UInt8} {second : List (Write UInt8)}
    (next : Made result (run answers second conf'))
    : Made result (run answers (first ++ second) conf) := by
  rw [run_append, if_pos (made.amt.mp succeeded), ← made.conf]
  exact next

/-- Two chunks are written unless the first one fails. -/
theorem writeBoth_made (conf : Sink UInt8) (first second : Str)
    : Made (writeBoth answers conf first second)
        (run answers [⟨first, true⟩, ⟨second, true⟩] conf) := by
  have made := gpgmeDataWrite_made answers conf first
  unfold writeBoth
  generalize gpgmeDataWrite answers conf first = result at made ⊢
  obtain ⟨amt, conf'⟩ := result
  dsimp only
  by_cases succeeded : 0 ≤ amt
  · rw [if_pos succeeded]
    exact made.goes succeeded (gpgmeDataWrite_made answers conf' second)
  · rw [if_neg succeeded]
    exact made.stops (by omega) [⟨second, true⟩]

/-- The result for a string is that of its last character, by induction on the characters. -/
theorem stringToData_made (text : Str) {amt : Int} (succeeded : 0 ≤ amt) (conf : Sink UInt8)
    : Made (stringToData answers text amt conf) (run answers (stringWrites text) conf) := by
  induction text generalizing amt conf with
  | nil => exact ⟨rfl, by simpa [stringToData, stringWrites, run] using succeeded⟩
  | cons c rest ih =>
      cases rest with
      | nil =>
          have made := gpgmeDataWrite_made answers conf (escapeValue c)
          simpa [stringToData, stringWrites] using made
      | cons d more =>
          -- The result of this character is not looked at.
          have hidden
              : stringToData answers (c :: d :: more) amt conf
                = stringToData answers (d :: more) 0 (conf.write answers (escapeValue c)) := rfl
          rw [hidden, stringWrites, run, if_neg (by simp)]
          · exact ih (le_refl 0) _
          · exact List.cons_ne_nil _ _

/-- A value is written unless something failed before. -/
theorem valueToData_made (altType : ConfType) (arg : ConfArg) {amt : Int} (succeeded : 0 ≤ amt)
    (conf : Sink UInt8)
    : Made (valueToData answers altType arg amt conf)
        (run answers (valueWrites altType arg) conf) := by
  by_cases strings : altType.isString = true
  · have value
        : valueToData answers altType arg amt conf
          = match arg.string with
            | none => (amt, conf)
            | some text =>
                let (amt, conf) := gpgmeDataWrite answers conf [34]
                if amt < 0 then (amt, conf) else stringToData answers text amt conf := by
      cases altType <;> first | rfl | cases strings
    rw [value, valueWrites, if_pos strings]
    cases arg.string with
    | none => exact ⟨rfl, by simpa [run] using succeeded⟩
    | some text =>
        have made := gpgmeDataWrite_made answers conf [34]
        generalize gpgmeDataWrite answers conf [34] = result at made ⊢
        obtain ⟨amt, conf'⟩ := result
        dsimp only
        by_cases failed : amt < 0
        · rw [if_pos failed]
          exact made.stops failed (stringWrites text)
        · rw [if_neg failed]
          exact made.goes (by omega) (stringToData_made answers text (by omega) conf')
  · rw [valueWrites, if_neg strings]
    cases altType with
    | none => exact gpgmeDataWrite_made answers conf _
    | int32 => exact gpgmeDataWrite_made answers conf _
    | uint32 => exact gpgmeDataWrite_made answers conf _
    | _ => exact absurd rfl strings

/-- The loop over the arguments makes their writes, by induction on the arguments. -/
theorem argLoop_made (altType : ConfType) (args : List ConfArg) {amt : Int} (succeeded : 0 ≤ amt)
    (conf : Sink UInt8)
    : Made (argLoop answers altType args amt conf) (run answers (argWrites altType args) conf) := by
  induction args generalizing amt conf with
  | nil => exact ⟨rfl, by simpa [argLoop, argWrites, run] using succeeded⟩
  | cons arg rest ih =>
      rw [argLoop, if_neg (by omega)]
      have made := valueToData_made answers altType arg succeeded conf
      generalize valueToData answers altType arg amt conf = result at made ⊢
      obtain ⟨amt, conf'⟩ := result
      dsimp only
      cases rest with
      | nil =>
          rw [argWrites]
          by_cases failed : amt < 0
          · rw [if_pos failed]
            exact made
          · rw [if_neg failed]
            exact made
      | cons next more =>
          have writes
              : argWrites altType (arg :: next :: more)
                = valueWrites altType arg ++ ([⟨[44], true⟩] ++ argWrites altType (next :: more)) :=
            rfl
          rw [writes]
          by_cases failed : amt < 0
          · rw [if_pos failed]
            exact made.stops failed _
          · rw [if_neg failed, if_pos (List.cons_ne_nil next more)]
            refine made.goes (by omega) ?_
            have comma := gpgmeDataWrite_made answers conf' [44]
            generalize gpgmeDataWrite answers conf' [44] = result at comma ⊢
            obtain ⟨amt, conf''⟩ := result
            dsimp only
            by_cases failed : amt < 0
            · rw [argLoop, if_pos failed]
              exact comma.stops failed _
            · exact comma.goes (by omega) (ih (by omega) conf'')

/-- The loop over the options made some writes: it ends with an error or a negative result if a
checked one failed.
-/
structure Saved (result : GpgError × Int × Bool × Sink UInt8) (changed : Bool)
    (writes : Bool × Sink UInt8) : Prop where
  ends : (result.1 = 0 ∧ 0 ≤ result.2.1) ↔ writes.1 = true
  changed : result.2.2.1 = changed
  conf : result.2.2.2 = writes.2

/-- Writes that are made save the option. -/
theorem Made.saved {amt : Int} {conf : Sink UInt8} {writes : Bool × Sink UInt8}
    (made : Made (amt, conf) writes) (changed : Bool)
    : Saved (0, amt, changed, conf) changed writes :=
  ⟨(and_iff_right rfl).trans made.amt, rfl, made.conf⟩

/-- Writes that succeed save as the later ones do. -/
theorem Made.saves {answers : Nat → Bool} {amt : Int} {conf conf' : Sink UInt8}
    {first : List (Write UInt8)} (made : Made (amt, conf') (run answers first conf))
    (succeeded : 0 ≤ amt) {result : GpgError × Int × Bool × Sink UInt8} {changed : Bool}
    {second : List (Write UInt8)} (next : Saved result changed (run answers second conf'))
    : Saved result changed (run answers (first ++ second) conf) := by
  rw [run_append, if_pos (made.amt.mp succeeded), ← made.conf]
  exact next

/-- An empty list of arguments would not be different. -/
theorem argToData_all (errno : Nat) (altType : ConfType) (args : List ConfArg)
    (conf : Sink UInt8)
    : argToData answers errno altType args conf
      = if args ≠ [] then argToData answers errno altType args conf else (0, conf) := by
  by_cases empty : args = []
  · subst empty
    rfl
  · rw [if_pos empty]

/-- The arguments are written, or the first failure is reported. -/
theorem argToData_made (errno : Nat) (altType : ConfType) (args : List ConfArg)
    (conf : Sink UInt8)
    : ∃ amt conf',
        Made (amt, conf') (run answers (argWrites altType args) conf)
        ∧ (amt < 0
              ∧ argToData answers errno altType args conf = (gpgErrorFromSyserror errno, conf')
            ∨ 0 ≤ amt ∧ argToData answers errno altType args conf = (0, conf')) := by
  have made := argLoop_made answers altType args (le_refl 0) conf
  refine ⟨_, _, made, ?_⟩
  unfold argToData
  dsimp only
  split_ifs with failed
  · exact .inl ⟨failed, rfl⟩
  · exact .inr ⟨Int.not_lt.mp failed, rfl⟩

/-- After a failure the loop ends. -/
theorem saveLoop_failed {answers : Nat → Bool} (errno : Nat) (options : List ConfOption) {amt : Int}
    (failed : amt < 0) {changed : Bool} {conf : Sink UInt8}
    : saveLoop answers errno options 0 amt changed conf = (0, amt, changed, conf) := by
  cases options with
  | nil => rfl
  | cons option rest => exact if_pos fun goes => absurd goes.2 (Int.not_le.mpr failed)

/-- The loop over the options makes their writes, by induction on the options. -/
theorem saveLoop_saved (errno : Nat) (options : List ConfOption) {amt : Int} (succeeded : 0 ≤ amt)
    (changed : Bool) (conf : Sink UInt8)
    : Saved (saveLoop answers errno options 0 amt changed conf)
        (changed || options.any ConfOption.changeValue)
        (run answers (saveWrites options) conf) := by
  induction options generalizing amt changed conf with
  | nil =>
      have made : Made (amt, conf) (run answers (saveWrites []) conf) :=
        ⟨rfl, by simpa [saveWrites, run] using succeeded⟩
      rw [List.any_nil, Bool.or_false]
      exact made.saved changed
  | cons option rest ih =>
      rw [saveLoop, if_neg (not_not.mpr ⟨rfl, succeeded⟩), saveWrites, List.flatMap_cons,
        ConfOption.writes, List.any_cons]
      by_cases option_changed : option.changeValue = true
      · rw [if_pos option_changed, if_pos option_changed, option_changed, Bool.true_or,
          Bool.or_true]
        rw [List.cons_append, List.cons_append, List.cons_append, List.cons_append,
          List.append_assoc]
        generalize (if option.newValue = [] then 16 else 0) = flags
        have named := writeBoth_made answers conf option.name [58]
        generalize writeBoth answers conf option.name [58] = result at named ⊢
        obtain ⟨amt, conf'⟩ := result
        dsimp only
        by_cases failed : amt < 0
        · rw [if_pos failed]
          exact (named.stops failed _).saved true
        rw [if_neg failed]
        refine named.saves (by omega) ?_
        have flagged := writeBoth_made answers conf' (decimal flags) [58]
        generalize writeBoth answers conf' (decimal flags) [58] = result at flagged ⊢
        obtain ⟨amt, conf''⟩ := result
        dsimp only
        by_cases failed : amt < 0
        · rw [if_pos failed]
          exact (flagged.stops failed _).saved true
        rw [if_neg failed]
        refine flagged.saves (by omega) ?_
        obtain ⟨last, conf₃, listed, outcome⟩ :=
          argToData_made answers errno option.altType option.newValue conf''
        rw [← argToData_all]
        rcases outcome with ⟨failed, value⟩ | ⟨succeeded, value⟩
        · have stopped := listed.stops failed ([⟨[10], true⟩] ++ saveWrites rest)
          rw [value]
          dsimp only
          rw [if_pos (gpgErrorFromSyserror_ne_zero errno)]
          exact ⟨iff_of_false (fun ends => gpgErrorFromSyserror_ne_zero errno ends.1)
            fun ends => absurd (stopped.amt.mpr ends) (Int.not_le.mpr failed), rfl, stopped.conf⟩
        rw [value]
        dsimp only
        rw [if_neg (not_not.mpr rfl)]
        refine listed.saves succeeded ?_
        have ended := gpgmeDataWrite_made answers conf₃ [10]
        generalize gpgmeDataWrite answers conf₃ [10] = result at ended ⊢
        obtain ⟨amt, conf₄⟩ := result
        dsimp only
        by_cases failed : amt < 0
        · rw [saveLoop_failed errno rest failed]
          exact (ended.stops failed (saveWrites rest)).saved true
        · exact ended.saves (by omega) (ih (by omega) true conf₄)
      · rw [if_neg option_changed, if_neg option_changed, List.nil_append,
          Bool.eq_false_iff.mpr option_changed, Bool.false_or]
        exact ih succeeded changed conf

end Made

-----------------------------------------------------------------------------------------
-- Failed writes
-----------------------------------------------------------------------------------------

/-- A call in which a write fails returns an error and does not start gpgconf, and what is sent to
gpgconf is the complete text.
-/
def SavedWhole (run : SaveRun) (options : List ConfOption) : Prop :=
  ((∃ index < (gpgconfConfSave run options).2.2.calls, run.answers index = false) →
      (gpgconfConfSave run options).1 ≠ 0 ∧ (gpgconfConfSave run options).2.1 = none)
    ∧ ∀ text, (gpgconfConfSave run options).2.1 = some text → text = completeText options

/-- Without a change nothing is written. -/
theorem saveWrites_unchanged {options : List ConfOption}
    (unchanged : options.any ConfOption.changeValue = false)
    : saveWrites options = [] := by
  refine List.flatMap_eq_nil_iff.mpr fun option member => ?_
  have same := List.any_eq_false.mp unchanged option member
  exact if_neg same

/-- Behind a checked write that fails a call ends with an error. -/
theorem gpgconfConfSave_stops {run : SaveRun} (created : run.dataNew = 0)
    {options : List ConfOption}
    (stops : ¬(CheckedWrites.run run.answers (saveWrites options) ⟨0, []⟩).1 = true)
    : ∃ err,
        err ≠ 0
        ∧ gpgconfConfSave run options
          = (err, none, (CheckedWrites.run run.answers (saveWrites options) ⟨0, []⟩).2) := by
  have saved := saveLoop_saved run.answers run.errno options (le_refl 0) false ⟨0, []⟩
  unfold gpgconfConfSave
  rw [if_neg (not_not.mpr created)]
  generalize saveLoop run.answers run.errno options 0 0 false ⟨0, []⟩ = result at saved ⊢
  obtain ⟨err, amt, changed, conf⟩ := result
  obtain ⟨ends, -, rfl⟩ := saved
  have failed := mt ends.mp stops
  have nonzero : (if err = 0 ∧ amt < 0 then gpgErrorFromSyserror run.errno else err) ≠ 0 := by
    split_ifs with negative
    · exact gpgErrorFromSyserror_ne_zero run.errno
    · intro zero
      exact failed ⟨zero, Int.not_lt.mp fun below => negative ⟨zero, below⟩⟩
  exact ⟨_, nonzero, if_pos (.inl nonzero)⟩

/-- Else the text that is stored is sent, if something has changed. -/
theorem gpgconfConfSave_ends {run : SaveRun} (created : run.dataNew = 0)
    {options : List ConfOption}
    (all : (CheckedWrites.run run.answers (saveWrites options) ⟨0, []⟩).1 = true)
    : gpgconfConfSave run options
      = let conf := (CheckedWrites.run run.answers (saveWrites options) ⟨0, []⟩).2
        if options.any ConfOption.changeValue = true then
          if run.seek ≠ 0 then (run.seek, none, conf)
          else (run.write conf.stored, some conf.stored, conf)
        else
          (0, none, conf) := by
  have saved := saveLoop_saved run.answers run.errno options (le_refl 0) false ⟨0, []⟩
  unfold gpgconfConfSave
  rw [if_neg (not_not.mpr created)]
  generalize saveLoop run.answers run.errno options 0 0 false ⟨0, []⟩ = result at saved ⊢
  obtain ⟨err, amt, changed, conf⟩ := result
  obtain ⟨ends, rfl, rfl⟩ := saved
  obtain ⟨rfl, positive⟩ := ends.mpr all
  have nonnegative : ¬((0 : GpgError) = 0 ∧ amt < 0) := fun failed =>
    absurd failed.2 (Int.not_lt.mpr positive)
  dsimp only
  rw [Bool.false_or, if_neg nonnegative]
  by_cases changed : options.any ConfOption.changeValue = true
  · rw [if_pos changed, if_neg (by simp [changed])]
  · rw [if_neg changed, if_pos (.inr changed)]

/-- The write of a character of a string is not checked unless the character is the last one, so that
a failure of it is hidden.
-/
theorem saved_whole_iff (run : SaveRun) (options : List ConfOption)
    : SavedWhole run options
      ↔ run.dataNew ≠ 0
        ∨ run.seek ≠ 0
        ∨ (∃ index write,
          (saveWrites options)[index]? = some write
          ∧ write.checked
          ∧ run.answers index = false)
        ∨ ∀ index < (saveWrites options).length, run.answers index = true := by
  by_cases created : run.dataNew = 0
  swap
  · refine iff_of_true ?_ (.inl created)
    unfold SavedWhole gpgconfConfSave
    rw [if_pos created]
    exact ⟨fun ⟨_, made, _⟩ => absurd made (Nat.not_lt_zero _), fun _ sent => by cases sent⟩
  have goes := run_ends_iff run.answers (saveWrites options) ⟨0, []⟩
  simp only [Nat.zero_add] at goes
  by_cases all : (CheckedWrites.run run.answers (saveWrites options) ⟨0, []⟩).1 = true
  · have calls := run_calls all
    have value := gpgconfConfSave_ends created all
    dsimp only at value
    rw [Nat.zero_add] at calls
    by_cases changed : options.any ConfOption.changeValue = true
    swap
    · have unwritten := saveWrites_unchanged (Bool.eq_false_iff.mpr changed)
      rw [if_neg changed] at value
      unfold SavedWhole
      rw [value, calls, unwritten]
      refine iff_of_true ?_ (.inr (.inr (.inr fun _ made => absurd made (Nat.not_lt_zero _))))
      exact ⟨fun ⟨_, made, _⟩ => absurd made (Nat.not_lt_zero _), fun _ sent => by cases sent⟩
    rw [if_pos changed] at value
    by_cases found : run.seek = 0
    swap
    · rw [if_pos found] at value
      unfold SavedWhole
      rw [value]
      exact iff_of_true ⟨fun _ => ⟨found, rfl⟩, fun _ sent => by cases sent⟩ (.inr (.inl found))
    rw [if_neg (not_not.mpr found)] at value
    unfold SavedWhole
    rw [value, calls]
    constructor
    · rintro ⟨stops, -⟩
      refine .inr (.inr (.inr fun index made => ?_))
      by_contra failed
      exact Option.some_ne_none _ (stops ⟨index, made, Bool.eq_false_iff.mpr failed⟩).2
    · rintro (failed | failed | ⟨index, write, here, checked, failed⟩ | succeed)
      · exact absurd created failed
      · exact absurd found failed
      · exact absurd ((goes.mp all index write here checked).symm.trans failed) Bool.noConfusion
      · refine ⟨fun ⟨index, made, failed⟩ => ?_, ?_⟩
        · exact absurd ((succeed index made).symm.trans failed) Bool.noConfusion
        · rintro text sent
          rw [← Option.some.inj sent, run_stored (by simpa using succeed), List.nil_append,
            saveWrites_text]
  · obtain ⟨err, nonzero, value⟩ := gpgconfConfSave_stops created all
    have stopped := mt goes.mpr all
    push Not at stopped
    obtain ⟨index, write, found, checked, failed⟩ := stopped
    refine iff_of_true ?_ (.inr (.inr (.inl ⟨index, write, found, checked, by simpa using failed⟩)))
    unfold SavedWhole
    rw [value]
    exact ⟨fun _ => ⟨nonzero, rfl⟩, fun _ sent => by cases sent⟩

/-- The string `ab` of an option, whose first character cannot be written. -/
def brokenRun : SaveRun where
  answers index := index ≠ 5

def stringOption : ConfOption where
  name := str "o"
  altType := .string
  changeValue := true
  newValue := [{ string := some (str "ab") }]

/-- The configuration is sent without that character. -/
theorem broken_text_sent
    : (gpgconfConfSave brokenRun [stringOption]).1 = 0
      ∧ (gpgconfConfSave brokenRun [stringOption]).2.1 = some (str "o:0:\"b\n")
      ∧ completeText [stringOption] = str "o:0:\"ab\n"
      ∧ ¬SavedWhole brokenRun [stringOption] := by
  refine ⟨by decide, by decide, by decide, fun whole => ?_⟩
  have sent := whole.2 (str "o:0:\"b\n") (by decide)
  exact absurd sent (by decide)

end Gpgme.Gpgconf
