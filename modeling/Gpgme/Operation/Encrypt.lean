import Gpgme.OpSupport

/-! The encryption status handlers of `encrypt.c`. -/

namespace Gpgme

open CString

/-- The result of an encryption at the end of the status lines. -/
def encryptEof (opd : EncryptData) : GpgError :=
  if opd.invalidRecipients ≠ [] then gpgError ErrCode.unusablePubkey
  else opd.failureCode

/-- `_gpgme_encrypt_status_handler`. -/
def encryptStatusHandler : StatusHandler := fun ctx code args =>
  let opd := ctx.encrypt
  match code with
  | .failure =>
      let (failureCode, args) := parseFailure args
      some (0, args, { ctx with encrypt := { opd with failureCode } })
  | .eof => some (encryptEof opd, args, ctx)
  | .keyConsidered =>
      -- The last line is kept for an INV_RECP line that follows it.
      let (err, kcFpr, kcFlags) := parseKeyConsidered args opd.kcFlags
      some (err, args, { ctx with encrypt := { opd with kcFpr, kcFlags } })
  | .invRecp =>
      match parseInvRecp args opd.kcFpr opd.kcFlags with
      | .error err => some (err, args, ctx)
      | .ok key =>
          some (0, args, { ctx with
            encrypt := { opd with
              invalidRecipients := opd.invalidRecipients ++ [key]
              kcFpr := none } })
  | .noRecp => some (gpgError ErrCode.general, args, ctx)
  | _ => some (0, args, ctx)

/-- The static `encrypt_sym_status_handler`, which is the one installed for an encryption
with a passphrase.
-/
def encryptSymStatusHandlerInstalled : StatusHandler :=
  progressStatusHandler.andThen passphraseStatusHandler

/-- The static `encrypt_status_handler`, which is the one installed for an encryption to
recipients only.
-/
def encryptStatusHandlerInstalled : StatusHandler :=
  progressStatusHandler.andThen encryptStatusHandler

end Gpgme
