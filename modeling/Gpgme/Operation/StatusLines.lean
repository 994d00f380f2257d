import Gpgme.OpSupport
import Gpgme.Lib.Machine

/-! Sequences of status lines that are fed to a status handler. -/

namespace Gpgme

open CString

/-- A status line: its code and its arguments. -/
structure StatusLine where
  code : StatusCode
  args : Str := []
deriving DecidableEq

/-- The end of file as it is passed to a status handler. -/
def eofLine : StatusLine := { code := .eof }

/-- One call of a status handler. -/
def stepStatus (handler : StatusHandler) (ctx : Ctx) (line : StatusLine)
    : Option (GpgError × Ctx) :=
  (handler ctx line.code line.args).map (fun (err, _, next) => (err, next))

/-- One call of a status handler that returns no error. -/
def stepStatusOk (handler : StatusHandler) (ctx : Ctx) (line : StatusLine)
    : Option (Unit × Ctx) :=
  match stepStatus handler ctx line with
  | some (0, next) => some ((), next)
  | _ => none

theorem stepStatusOk_eq_some {handler : StatusHandler} {ctx next : Ctx} {line : StatusLine}
    {answer : Unit}
    : stepStatusOk handler ctx line = some (answer, next)
      ↔ stepStatus handler ctx line = some (0, next) := by
  unfold stepStatusOk
  split
  · next stepped => simp [stepped]
  · next other =>
      simp only [reduceCtorEq, false_iff]
      exact other next

theorem stepStatus_handled {handler : StatusHandler} {ctx next : Ctx} {line : StatusLine}
    {err : GpgError} (stepped : stepStatus handler ctx line = some (err, next))
    : ∃ left, handler ctx line.code line.args = some (err, left, next) := by
  simp only [stepStatus, Option.map_eq_some_iff, Prod.exists, Prod.mk.injEq] at stepped
  obtain ⟨_, left, _, handled, rfl, rfl⟩ := stepped
  exact ⟨left, handled⟩

theorem stepStatusOk_handled {handler : StatusHandler} {ctx next : Ctx} {line : StatusLine}
    {answer : Unit} (stepped : stepStatusOk handler ctx line = some (answer, next))
    : ∃ left, handler ctx line.code line.args = some (0, left, next) := by
  exact stepStatus_handled (stepStatusOk_eq_some.mp stepped)

-----------------------------------------------------------------------------------------
-- What a sequence of lines says
-----------------------------------------------------------------------------------------

/-- A line with the given code is among the lines. -/
def linesContain (lines : List StatusLine) (code : StatusCode) : Bool :=
  lines.any (·.code == code)

theorem foldl_flag (sets : StatusLine → Bool) (flag : Bool) (lines : List StatusLine)
    : lines.foldl (fun flag line => flag || sets line) flag = (flag || lines.any sets) := by
  induction lines generalizing flag with
  | nil => simp
  | cons line rest ih => rw [List.foldl_cons, ih, List.any_cons, Bool.or_assoc]

/-- Whether a bad or missing passphrase is pending after a line. -/
def notePassphrase (pending : Bool) (line : StatusLine) : Bool :=
  match line.code with
  | .badPassphrase | .missingPassphrase => true
  | .goodPassphrase => false
  | _ => pending

/-- A bad or missing passphrase was reported, and no good one after it. -/
def passphrasePending (lines : List StatusLine) : Bool := lines.foldl notePassphrase false

/-- The failure that is on record after a line. -/
def noteFailure (failureCode : GpgError) (line : StatusLine) : GpgError :=
  match line.code with
  | .failure => (parseFailure line.args).1
  | _ => failureCode

/-- The failure that the last FAILURE line reports; an earlier one is overwritten. -/
def lastFailure (lines : List StatusLine) : GpgError := lines.foldl noteFailure 0

/-- The keyword under which a line is forwarded to the status callback. -/
def forwardedAs : StatusCode → Option Str
  | .error => some (str "ERROR")
  | .failure => some (str "FAILURE")
  | .inquireMaxlen => some (str "INQUIRE_MAXLEN")
  | _ => none

/-- The lines that the status callback does not refuse, after the given earlier calls. -/
def acceptedLines (callback : Option (List (Str × Str) → GpgError))
    : List (Str × Str) → List StatusLine → List StatusLine
  | _, [] => []
  | calls, line :: rest =>
      match callback, forwardedAs line.code with
      | some answer, some keyword =>
          let calls := calls ++ [(keyword, line.args)]
          if answer calls ≠ 0 then acceptedLines callback calls rest
          else line :: acceptedLines callback calls rest
      | _, _ => line :: acceptedLines callback calls rest

end Gpgme
