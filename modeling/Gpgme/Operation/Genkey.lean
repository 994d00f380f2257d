import Gpgme.OpSupport

/-! The key generation status handler of `genkey.c`. -/

namespace Gpgme

open CString

/-- The static `parse_error`: the error code and the cut buffer; without a second field the
line is malformed.
-/
def parseGenkeyError (args : Str) : Except GpgError (GpgError × Str) :=
  match strchrBlank args with
  | none => .error invEngine
  | some located => .ok (errOfInt (atoi (word located.tail)), word args)

/-- The effect of a KEY_CREATED line. -/
def noteKeyCreated (opd : GenkeyData) (args : Str) : GenkeyData :=
  match args with
  | [] => opd
  | letter :: rest =>
      let primary := letter == 66 || letter == 80
      let opd := { opd with
        primary := opd.primary || primary
        uid := opd.uid || primary
        sub := opd.sub || letter == 66 || letter == 83 }
      match rest with
      | 32 :: fpr => { opd with fpr := some fpr }
      | _ => opd

/-- The result of a key generation at the end of the status lines. -/
def genkeyEof (opd : GenkeyData) : GpgError × GenkeyData :=
  if opd.errorCode ≠ 0 then (opd.errorCode, opd)
  else if opd.uidmode = 0 ∧ !opd.primary ∧ !opd.sub then (gpgError ErrCode.general, opd)
  else if opd.failureCode ≠ 0 then (opd.failureCode, opd)
  else if opd.uidmode = 1 then (0, { opd with uid := true })
  else (0, opd)

/-- The `switch` of `genkey_status_handler`. -/
def genkeyStatusSwitch : StatusHandler := fun ctx code args =>
  let opd := ctx.genkey
  match code with
  | .keyCreated => some (0, args, { ctx with genkey := noteKeyCreated opd args })
  | .error =>
      match parseGenkeyError args with
      | .error err => some (err, args, ctx)
      | .ok (err, args) =>
          some (0, args, { ctx with
            genkey := { opd with errorCode := if opd.errorCode = 0 then err else opd.errorCode } })
  | .failure =>
      let (failureCode, args) := parseFailure args
      some (0, args, { ctx with genkey := { opd with failureCode } })
  | .eof =>
      let (err, opd) := genkeyEof opd
      some (err, args, { ctx with genkey := opd })
  | .inquireMaxlen =>
      let (err, ctx) := ctx.callStatusCb (str "INQUIRE_MAXLEN") args
      some (err, args, ctx)
  | _ => some (0, args, ctx)

/-- `genkey_status_handler`. -/
def genkeyStatusHandler : StatusHandler :=
  progressStatusHandler.andThen genkeyStatusSwitch

end Gpgme
