import Gpgme.Conversion

/-! The status line parsers of `op-support.c` and the two status handlers that run in front
of the handlers of the operations.
-/

namespace Gpgme

open CString

-----------------------------------------------------------------------------------------
-- Status line parsers
-----------------------------------------------------------------------------------------

/-- The error with which a malformed status line is answered. -/
def invEngine : GpgError := gpgError ErrCode.invEngine

/-- The location of a failure that `_gpgme_parse_failure` ignores. -/
def gpgExit : Str := str "gpg-exit"

/-- `_gpgme_parse_failure`: the error code, and the buffer cut behind the location. -/
def parseFailure (args : Str) : GpgError × Str :=
  if startsWith args gpgExit then (0, args)
  else
    match strchrBlank args with
    | none => (invEngine, args)
    | some located => (errOfInt (atoi (word located.tail)), word args)

/-- The reason for which a key is invalid. -/
def invRecpReason (reason : Int) (kcFpr : Option Str) (kcFlags : Nat) : GpgError :=
  match reason with
  | 0 =>
      if kcFpr.isSome && kcFlags.testBit 1 then gpgError ErrCode.subkeysExpOrRev
      else gpgError ErrCode.general
  | 1 => gpgError ErrCode.noPubkey
  | 2 => gpgError ErrCode.ambiguousName
  | 3 => gpgError ErrCode.wrongKeyUsage
  | 4 => gpgError ErrCode.certRevoked
  | 5 => gpgError ErrCode.certExpired
  | 6 => gpgError ErrCode.noCrlKnown
  | 7 => gpgError ErrCode.crlTooOld
  | 8 => gpgError ErrCode.noPolicyMatch
  | 9 => gpgError ErrCode.noSeckey
  | 10 => gpgError ErrCode.pubkeyNotTrusted
  | 11 => gpgError ErrCode.missingCert
  | 12 => gpgError ErrCode.missingIssuerCert
  | 13 => gpgError ErrCode.keyDisabled
  | 14 => gpgError ErrCode.invUserId
  | _ => gpgError ErrCode.general

/-- `_gpgme_parse_inv_recp`. -/
def parseInvRecp (args : Str) (kcFpr : Option Str) (kcFlags : Nat)
    : Except GpgError InvalidKey :=
  let number := strtol 0 args
  if number.errno || number.tail == args || (number.tail != [] && number.tail.head? != some blank)
  then .error invEngine
  else
    let tail := skipBlanks number.tail
    .ok {
      fpr := if tail = [] then none else some tail
      reason := invRecpReason number.value kcFpr kcFlags
    }

/-- `_gpgme_parse_key_considered`: the error code, the fingerprint and the flags, which are
assigned as soon as there is a fingerprint.
-/
def parseKeyConsidered (args : Str) (kcFlags : Nat) : GpgError × Option Str × Nat :=
  match strchrBlank args with
  | none => (invEngine, none, kcFlags)
  | some pend =>
      if pend = args then (invEngine, none, kcFlags)
      else
        let flags := strtoul 0 pend.tail
        if flags.errno || flags.tail == pend.tail
            || (flags.tail != [] && flags.tail.head? != some blank) then
          (invEngine, none, CInt.toUnsigned flags.value)
        else
          (0, some (word args), CInt.toUnsigned flags.value)

/-- `_gpgme_parse_plaintext`: the file name and whether the type says MIME, and the buffer
cut behind the file name. The name stays where the line does not have one.
-/
def parsePlaintext (args : Str) (fileName : Option Str) : Option Str × Bool × Str :=
  match skipBlanks args with
  | [] => (fileName, false, args)
  | fileType =>
      let mime := fileType.take 2 == [54, 68]
      match skipBlanks (skipWord fileType) with
      | [] => (fileName, mime, args)
      | timestamp =>
          match skipBlanks (skipWord timestamp) with
          | [] => (fileName, mime, args)
          | name => (some (word name), mime, args.take (args.length - (skipWord name).length))

-----------------------------------------------------------------------------------------
-- The passphrase status handler
-----------------------------------------------------------------------------------------

/-- `_gpgme_passphrase_status_handler`. -/
def passphraseStatusHandler : StatusHandler := fun ctx code args =>
  let opd := ctx.passphrase
  match code with
  | .inquireMaxlen => some (0, args, { ctx with passphrase := { opd with maxlen := some args } })
  | .useridHint => some (0, args, { ctx with passphrase := { opd with uidHint := some args } })
  | .badPassphrase =>
      some (0, args, { ctx with
        passphrase := { opd with
          badPassphrase := opd.badPassphrase + 1
          noPassphrase := false } })
  | .goodPassphrase =>
      some (0, args, { ctx with
        passphrase := { opd with badPassphrase := 0, noPassphrase := false } })
  | .needPassphrase | .needPassphraseSym | .needPassphrasePin =>
      some (0, args, { ctx with passphrase := { opd with passphraseInfo := some args } })
  | .missingPassphrase =>
      some (0, args, { ctx with passphrase := { opd with noPassphrase := true } })
  | .eof =>
      if opd.noPassphrase || opd.badPassphrase != 0 then
        some (gpgError ErrCode.badPassphrase, args, ctx)
      else
        some (0, args, ctx)
  | .error =>
      let (err, ctx) := ctx.callStatusCb (str "ERROR") args
      some (err, args, ctx)
  | .failure =>
      let (err, ctx) := ctx.callStatusCb (str "FAILURE") args
      some (err, args, ctx)
  | _ => some (0, args, ctx)

-----------------------------------------------------------------------------------------
-- The progress status handler
-----------------------------------------------------------------------------------------

/-- The arguments of a progress line: what, type, current and total. A field that is missing
is 0; the buffer is a copy.
-/
def parseProgress (args : Str) : ProgressCall :=
  let call : ProgressCall := { what := word args, type := 0, current := 0, total := 0 }
  match (strchrBlank args).map List.tail with
  | none | some [] => call
  | some (c :: p) =>
      let call := { call with type := c.toNat }
      match (strchrBlank p).map List.tail with
      | none | some [] => call
      | some (d :: p) =>
          -- The end of the number is searched behind its first character.
          let call := { call with current := atoi (d :: p) }
          match (strchrBlank p).map List.tail with
          | none => call
          | some p => { call with total := atoi p }

/-- `_gpgme_progress_status_handler`. -/
def progressStatusHandler : StatusHandler := fun ctx code args =>
  if code = .pinentryLaunched then some (0, args, { ctx with redrawSuggested := true })
  else if code ≠ .progress ∨ args = [] ∨ ctx.progressCb = false then some (0, args, ctx)
  else
    let call := parseProgress args
    if call.type ≠ 88 then
      some (0, args, { ctx with progressCalls := ctx.progressCalls ++ [call] })
    else
      some (0, args, ctx)

end Gpgme
