import Gpgme.OpSupport

/-! The signing status handler of `sign.c`. -/

namespace Gpgme

open CString

/-- The letter that a SIG_CREATED line starts with. -/
def sigModeOfLetter : UInt8 → Option SigMode
  | 83 => some .normal
  | 68 => some .detach
  | 67 => some .clear
  | _ => none

/-- A number of a SIG_CREATED line, which a blank has to follow. -/
def sigCreatedNumber (args : Str) : Option (Int × Str) :=
  let number := strtol 0 args
  if number.errno || number.tail == args || number.tail.head? != some blank then none
  else some (number.value, number.tail)

/-- The fields of a SIG_CREATED line behind its letter. -/
def sigCreatedFields (type : SigMode) (args : Str) (protocol : Protocol)
    : Option NewSignature := do
  let (pubkeyAlgo, args) ← sigCreatedNumber args
  let (hashAlgo, args) ← sigCreatedNumber args
  let (sigClass, args) ← sigCreatedNumber args
  let (timestamp, tail) := parseTimestamp args
  let tail ← tail
  if timestamp = -1 ∨ tail = args ∨ tail.head? ≠ some blank then none
  else
    match skipBlanks tail with
    | [] => none
    | fpr =>
        some {
          type
          pubkeyAlgo := mapPkAlgo pubkeyAlgo protocol
          hashAlgo := CInt.toInt hashAlgo
          sigClass := CInt.toUnsigned sigClass
          timestamp
          fpr := word fpr
        }

/-- `parse_sig_created`; the cut behind the fingerprint is not seen by anyone. -/
def parseSigCreated (args : Str) (protocol : Protocol) : Except GpgError NewSignature :=
  match args with
  | [] => .error invEngine
  | letter :: args =>
      match sigModeOfLetter letter with
      | none => .error invEngine
      | some type =>
          if args.head? ≠ some blank then .error invEngine
          else
            match sigCreatedFields type args protocol with
            | none => .error invEngine
            | some sig => .ok sig

/-- The result of a signing operation at the end of the status lines. The UI server does not
report the signatures that it created.
-/
def signEof (opd : SignData) (protocol : Protocol) : GpgError :=
  if opd.invalidSigners ≠ [] then gpgError ErrCode.unusableSeckey
  else if !opd.sigCreatedSeen ∧ protocol ≠ .uiserver then
    if opd.failureCode ≠ 0 then opd.failureCode else gpgError ErrCode.general
  else
    0

/-- Record an invalid signer. The fingerprint of the last KEY_CONSIDERED line is dropped
before the line is parsed, so the reason never depends on it.
-/
def noteInvalidSigner (ctx : Ctx) (args : Str) : HandlerResult :=
  let opd := { ctx.sign with kcFpr := none }
  match parseInvRecp args opd.kcFpr opd.kcFlags with
  | .error err => some (err, args, { ctx with sign := opd })
  | .ok key =>
      some (0, args, { ctx with
        sign := { opd with invalidSigners := opd.invalidSigners ++ [key] } })

/-- The `switch` of `_gpgme_sign_status_handler`. -/
def signStatusSwitch : StatusHandler := fun ctx code args =>
  let opd := ctx.sign
  match code with
  | .sigCreated =>
      let opd := { opd with sigCreatedSeen := true }
      match parseSigCreated args ctx.protocol with
      | .error err => some (err, args, { ctx with sign := opd })
      | .ok sig =>
          some (0, args, { ctx with sign := { opd with signatures := opd.signatures ++ [sig] } })
  | .keyConsidered =>
      let (err, kcFpr, kcFlags) := parseKeyConsidered args opd.kcFlags
      some (err, args, { ctx with sign := { opd with kcFpr, kcFlags } })
  | .invRecp =>
      if opd.invSgnrSeen && opd.ignoreInvRecp then some (0, args, ctx)
      else noteInvalidSigner ctx args
  | .invSgnr => noteInvalidSigner { ctx with sign := { opd with invSgnrSeen := true } } args
  | .failure =>
      let (failureCode, args) := parseFailure args
      some (0, args, { ctx with sign := { opd with failureCode } })
  | .eof => some (signEof opd ctx.protocol, args, ctx)
  | .inquireMaxlen =>
      let (err, ctx) := ctx.callStatusCb (str "INQUIRE_MAXLEN") args
      some (err, args, ctx)
  | _ => some (0, args, ctx)

/-- `_gpgme_sign_status_handler`. -/
def signStatusHandler : StatusHandler :=
  passphraseStatusHandler.andThen signStatusSwitch

/-- The static `sign_status_handler`, which is the one installed for a signing operation. -/
def signStatusHandlerInstalled : StatusHandler :=
  progressStatusHandler.andThen signStatusHandler

end Gpgme
