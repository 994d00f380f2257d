import Gpgme.Operation.Export
import Gpgme.Operation.Verify

/-! The errors of status lines during an export, and what the functions of `export.c` that wait for
the end of an export return.
-/

namespace Gpgme

open CString (str blank word strchrBlank atoi)

-----------------------------------------------------------------------------------------
-- The status handler
-----------------------------------------------------------------------------------------

/-- The operation data of `export.c`. -/
structure ExportData where
  err : GpgError := 0
deriving DecidableEq

/-- The location of errors that are reported. -/
def keyserverSend : Str := str "keyserver_send"

/-- `export_status_handler`. -/
def exportStatusHandler (opd : ExportData) (code : StatusCode) (args : Str)
    : GpgError × ExportData :=
  match code with
  | .error =>
      match errorFields args with
      | none => (invEngine, opd)
      | some (loc, err) =>
          if opd.err ≠ 0 then (0, opd)
          else if loc = keyserverSend then (0, { opd with err })
          else (0, opd)
  | _ => (0, opd)

/-- What happens until `_gpgme_wait_one` returns: the status lines, and the error with which the
event loop ends otherwise.
-/
structure ExportRun where
  lines : List (StatusCode × Str)
  loopError : GpgError := 0

/-- `_gpgme_wait_one`: an error of the handler ends the operation. -/
def exportWait (loopError : GpgError) (opd : ExportData)
    : List (StatusCode × Str) → GpgError × ExportData
  | [] => (loopError, opd)
  | (code, args) :: lines =>
      let (err, opd) := exportStatusHandler opd code args
      if err ≠ 0 then (err, opd) else exportWait loopError opd lines

-----------------------------------------------------------------------------------------
-- The synchronous functions
-----------------------------------------------------------------------------------------

/-- `gpgme_op_export`. -/
def gpgmeOpExport (ctx : Option ExportEnvironment) (pattern : Option Str) (mode : Nat)
    (keydata : Option Nat) (run : ExportRun)
    : GpgError :=
  match ctx with
  | none => gpgError ErrCode.invValue
  | some env =>
      let err := (exportStart env pattern mode keydata).err
      if err ≠ 0 then err else (exportWait run.loopError {} run.lines).1

/-- The end of the other two functions, which look the operation data up. -/
def waitAndLookup (run : ExportRun) : GpgError :=
  let (err, opd) := exportWait run.loopError {} run.lines
  if err ≠ 0 then err else opd.err

/-- `gpgme_op_export_ext`. -/
def gpgmeOpExportExt (ctx : Option ExportEnvironment) (pattern : Option (List Str)) (mode : Nat)
    (keydata : Option Nat) (run : ExportRun)
    : GpgError :=
  match ctx with
  | none => gpgError ErrCode.invValue
  | some env =>
      let err := (exportExtStart env pattern mode keydata).err
      if err ≠ 0 then err else waitAndLookup run

/-- `gpgme_op_export_keys`. -/
def gpgmeOpExportKeys (ctx : Option ExportEnvironment) (keys : Option (List Key)) (mode : Nat)
    (keydata : Option Nat) (run : ExportRun)
    : GpgError :=
  match ctx with
  | none => gpgError ErrCode.invValue
  | some env =>
      let err := (exportKeysStart env keys mode keydata).err
      if err ≠ 0 then err else waitAndLookup run

-----------------------------------------------------------------------------------------
-- The first error
-----------------------------------------------------------------------------------------

/-- The error number of an ERROR line about sending keys. -/
def sendError : StatusCode × Str → Option GpgError
  | (.error, args) =>
      (errorFields args).bind
        (fun (location, err) => if location = keyserverSend then some err else none)
  | _ => none

/-- The first error number that is not zero, if there is one. -/
def firstSendError (lines : List (StatusCode × Str)) : GpgError :=
  ((lines.filterMap sendError).find? (· != 0)).getD 0

/-- All ERROR lines have a second word. -/
def ErrorsHaveNumbers (lines : List (StatusCode × Str)) : Prop :=
  ∀ line ∈ lines, line.1 = .error → blank ∈ line.2

/-- A blank is found where there is one. -/
theorem strchrBlank_of_mem {s : Str} (member : blank ∈ s)
    : ∃ located, strchrBlank s = some located := by
  unfold strchrBlank
  cases found : CString.skipWord s with
  | nil =>
      have noBlank := List.dropWhile_eq_nil_iff.mp found blank member
      exact absurd rfl (bne_iff_ne.mp noBlank)
  | cons c rest => exact ⟨c :: rest, rfl⟩

/-- The first error is that of the first line, if it has one that is not zero. -/
theorem firstSendError_cons (line : StatusCode × Str) (lines : List (StatusCode × Str))
    : firstSendError (line :: lines)
      = if (sendError line).getD 0 ≠ 0 then (sendError line).getD 0
        else firstSendError lines := by
  unfold firstSendError
  cases sent : sendError line with
  | none => rw [List.filterMap_cons_none sent, if_neg (by simp)]
  | some err =>
      rw [List.filterMap_cons_some sent, List.find?_cons, Option.getD_some]
      by_cases zero : err = 0
      · rw [zero]
        rfl
      · rw [if_pos zero, show (err != 0) = true from bne_iff_ne.mpr zero]
        rfl

/-- One line: no error is returned, and the first error that is not zero is kept. -/
theorem exportStatusHandler_spec (opd : ExportData) {code : StatusCode} {args : Str}
    (number : code = .error → blank ∈ args)
    : exportStatusHandler opd code args
      = (0, { err := if opd.err ≠ 0 then opd.err else (sendError (code, args)).getD 0 }) := by
  have other (none : sendError (code, args) = none)
      : opd = { err := if opd.err ≠ 0 then opd.err else (sendError (code, args)).getD 0 } := by
    rw [none]
    by_cases seen : opd.err = 0
    · rw [if_neg (not_not.mpr seen), Option.getD_none, ← seen]
    · rw [if_pos seen]
  by_cases error : code = .error
  · subst error
    obtain ⟨located, found⟩ := strchrBlank_of_mem (number rfl)
    have fields : errorFields args = some (word args, errOfInt (atoi (word located.tail))) := by
      rw [errorFields, found]
      rfl
    rw [exportStatusHandler, fields]
    dsimp only
    by_cases seen : opd.err = 0
    · rw [if_neg (not_not.mpr seen)]
      by_cases sends : word args = keyserverSend
      · rw [if_pos sends, if_neg (not_not.mpr seen), sendError, fields]
        simp [sends]
      · rw [if_neg sends]
        congr 1
        apply other
        rw [sendError, fields]
        simp [sends]
    · rw [if_pos seen, if_pos seen]
  · have none : sendError (code, args) = none := by
      rw [sendError]
      exact fun _ same => error (congrArg Prod.fst same)
    rw [exportStatusHandler]
    · congr 1
      exact other none
    · exact error

/-- All lines: the event loop alone can fail, and the first error that is not zero is kept, by
induction on the lines.
-/
theorem exportWait_spec (loopError : GpgError) (opd : ExportData)
    {lines : List (StatusCode × Str)} (numbers : ErrorsHaveNumbers lines)
    : exportWait loopError opd lines
      = (loopError, { err := if opd.err ≠ 0 then opd.err else firstSendError lines }) := by
  induction lines generalizing opd with
  | nil =>
      rw [exportWait]
      congr 1
      by_cases seen : opd.err = 0
      · rw [if_neg (not_not.mpr seen), firstSendError]
        exact congrArg ExportData.mk seen
      · rw [if_pos seen]
  | cons line lines ih =>
      obtain ⟨code, args⟩ := line
      have number : code = .error → blank ∈ args := numbers (code, args) List.mem_cons_self
      have later : ErrorsHaveNumbers lines :=
        fun line member => numbers line (List.mem_cons_of_mem _ member)
      rw [exportWait, exportStatusHandler_spec opd number]
      dsimp only
      rw [if_neg (by simp), ih _ later, firstSendError_cons]
      congr 2
      by_cases seen : opd.err = 0
      · rw [if_neg (not_not.mpr seen), if_neg (not_not.mpr seen)]
      · rw [if_pos seen, if_pos seen, if_pos seen]

/-- The three functions return the first error that was reported exactly where none was, after
starts that did not fail and an event loop that ended without an error.
-/
theorem synchronous_exports_agree_iff (env : ExportEnvironment) (pattern : Option Str)
    (patterns : Option (List Str)) (keys : Option (List Key)) (mode extMode keysMode : Nat)
    (keydata extKeydata keysKeydata : Option Nat) (run : ExportRun)
    (started : (exportStart env pattern mode keydata).err = 0)
    (extStarted : (exportExtStart env patterns extMode extKeydata).err = 0)
    (keysStarted : (exportKeysStart env keys keysMode keysKeydata).err = 0)
    (numbers : ErrorsHaveNumbers run.lines) (finished : run.loopError = 0)
    : (gpgmeOpExport (some env) pattern mode keydata run = firstSendError run.lines
        ∧ gpgmeOpExportExt (some env) patterns extMode extKeydata run = firstSendError run.lines
        ∧ gpgmeOpExportKeys (some env) keys keysMode keysKeydata run = firstSendError run.lines)
      ↔ firstSendError run.lines = 0 := by
  have waited
      : exportWait run.loopError {} run.lines = (0, { err := firstSendError run.lines }) := by
    rw [exportWait_spec _ _ numbers, finished]
    rfl
  have looked : waitAndLookup run = firstSendError run.lines := by
    rw [waitAndLookup, waited]
    rfl
  have plain : gpgmeOpExport (some env) pattern mode keydata run = 0 := by
    rw [gpgmeOpExport]
    rw [if_neg (not_not.mpr started), waited]
  have ext
      : gpgmeOpExportExt (some env) patterns extMode extKeydata run = firstSendError run.lines := by
    rw [gpgmeOpExportExt]
    rw [if_neg (not_not.mpr extStarted), looked]
  have byKeys
      : gpgmeOpExportKeys (some env) keys keysMode keysKeydata run
        = firstSendError run.lines := by
    rw [gpgmeOpExportKeys]
    rw [if_neg (not_not.mpr keysStarted), looked]
  constructor
  · rintro ⟨same, -, -⟩
    rw [← same, plain]
  · intro none
    exact ⟨by rw [plain, none], ext, byKeys⟩

/-- A line that reports an error with its number. -/
def sendErrorLine (number : String) : StatusCode × Str :=
  (.error, keyserverSend ++ [32] ++ str number)

/-- A key with a fingerprint. -/
def namedKey : Key := { subkeys := [{ fpr := some (str "A1") }] }

/-- Errors with the number zero are not errors of the three functions. -/
theorem exports_agree_on_zero
    : gpgmeOpExport (some {}) none ExportMode.isExtern none { lines := [sendErrorLine "0"] }
        = firstSendError [sendErrorLine "0"]
      ∧ gpgmeOpExportExt (some {}) none ExportMode.isExtern none { lines := [sendErrorLine "0"] }
        = firstSendError [sendErrorLine "0"]
      ∧ gpgmeOpExportKeys (some {}) (some [namedKey]) ExportMode.isExtern none
          { lines := [sendErrorLine "0"] }
        = firstSendError [sendErrorLine "0"] :=
  (synchronous_exports_agree_iff {} none none (some [namedKey]) ExportMode.isExtern
    ExportMode.isExtern ExportMode.isExtern none none none { lines := [sendErrorLine "0"] }
    (by decide) (by decide) (by decide)
    (by intro line member _; cases List.mem_singleton.mp member; decide) rfl).mpr (by decide)

/-- The first of two errors is lost with a single pattern. -/
theorem send_error_lost
    : ¬∀ (env : ExportEnvironment) (pattern : Option Str) (patterns : Option (List Str))
          (keys : Option (List Key)) (mode : Nat) (keydata : Option Nat) (run : ExportRun),
        (exportStart env pattern mode keydata).err = 0 →
        (exportExtStart env patterns mode keydata).err = 0 →
        (exportKeysStart env keys mode keydata).err = 0 →
        ErrorsHaveNumbers run.lines →
        run.loopError = 0 →
        gpgmeOpExport (some env) pattern mode keydata run = firstSendError run.lines
        ∧ gpgmeOpExportExt (some env) patterns mode keydata run = firstSendError run.lines
        ∧ gpgmeOpExportKeys (some env) keys mode keydata run = firstSendError run.lines := by
  intro all
  have same := all {} none none (some [namedKey]) ExportMode.isExtern none
    { lines := [sendErrorLine "167772218"] } (by decide) (by decide) (by decide)
    (by intro line member _; cases List.mem_singleton.mp member; decide) rfl
  exact absurd same.1 (by decide)

end Gpgme
