import Gpgme.Operation.Encrypt
import Gpgme.Operation.Sign

/-! How an encryption is started, with and without signatures: `encrypt_start` of
`encrypt.c` and `encrypt-sign.c`.
-/

namespace Gpgme

open CString

-----------------------------------------------------------------------------------------
-- The combined status handlers
-----------------------------------------------------------------------------------------

/-- The static `encrypt_sign_status_handler`. -/
def encryptSignStatusHandler : StatusHandler :=
  (progressStatusHandler.andThen encryptStatusHandler).andThen signStatusHandler

/-- The static `encrypt_sym_status_handler` of `encrypt-sign.c`. -/
def encryptSignSymStatusHandler : StatusHandler :=
  (progressStatusHandler.andThen signStatusHandler).andThen passphraseStatusHandler

-----------------------------------------------------------------------------------------
-- Starting an operation
-----------------------------------------------------------------------------------------

/-- The arguments of an encryption. An array of keys is the list of the keys in front of its
NULL; the data objects are there or not.
-/
structure EncryptRequest where
  recp : Option (List Str) := none
  recpstring : Option Str := none
  flags : Nat := 0
  plain : Bool := true
  cipher : Bool := true

/-- What the engine and the settings of the context contribute: the answers to a reset, to a
command handler and to the operation itself, and whether there is a passphrase callback.
-/
structure EncryptEnvironment where
  reset : GpgError := 0
  passphraseCb : Bool := false
  setCommandHandler : GpgError := 0
  engineOp : GpgError := 0

/-- `GPGME_ENCRYPT_SYMMETRIC` is among the flags. -/
def EncryptRequest.flagSymmetric (request : EncryptRequest) : Bool := request.flags.testBit 5

/-- The variable `symmetric`. -/
def EncryptRequest.symmetric (request : EncryptRequest) : Bool :=
  (request.recp.isNone && request.recpstring.isNone) || request.flagSymmetric

/-- `_gpgme_op_reset`: the data of all operations is released. -/
def Ctx.opReset (ctx : Ctx) : Ctx :=
  { ctx with
    redrawSuggested := false
    passphrase := {}
    decrypt := {}
    verify := {}
    encrypt := {}
    sign := {}
    genkey := {} }

/-- The checks of the arguments. -/
def EncryptRequest.check (request : EncryptRequest) : GpgError :=
  if !request.plain then gpgError ErrCode.noData
  else if !request.cipher then gpgError ErrCode.invValue
  else if request.recp = some [] then gpgError ErrCode.invValue
  else 0

/-- The common part of the two functions: the status handler that is installed, or the error
of what comes before. The data of the operations is fresh in either order of its creation and
the checks.
-/
def startEncryption (env : EncryptEnvironment) (request : EncryptRequest) (ctx : Ctx)
    (needsPassphrase : Bool) (handler : StatusHandler)
    : Except GpgError (StatusHandler × Ctx) :=
  if env.reset ≠ 0 then .error env.reset
  else if request.check ≠ 0 then .error request.check
  else if needsPassphrase ∧ env.passphraseCb ∧ env.setCommandHandler ≠ 0 then
    .error env.setCommandHandler
  else if env.engineOp ≠ 0 then .error env.engineOp
  else .ok (handler, ctx.opReset)

/-- `encrypt_start`. -/
def encryptStart (env : EncryptEnvironment) (request : EncryptRequest) (ctx : Ctx)
    : Except GpgError (StatusHandler × Ctx) :=
  startEncryption env request ctx request.symmetric
    (if request.symmetric then encryptSymStatusHandlerInstalled
      else encryptStatusHandlerInstalled)

/-- `encrypt_sign_start`, which asks for a passphrase in any case. -/
def encryptSignStart (env : EncryptEnvironment) (request : EncryptRequest) (ctx : Ctx)
    : Except GpgError (StatusHandler × Ctx) :=
  startEncryption env request ctx true
    (if request.symmetric then encryptSignSymStatusHandler else encryptSignStatusHandler)

end Gpgme
