import Gpgme.Status
import Gpgme.Error

/-! The context and the operation data that the status handlers work on.
Linked lists that the source only appends to are lists; the list of verified signatures
keeps its pointers, because its handler cuts and reuses entries.
-/

namespace Gpgme

open CString

/-- `gpgme_protocol_t`. -/
inductive Protocol where
  | openpgp | cms | gpgconf | assuan | g13 | uiserver | spawn | default | unknown
deriving DecidableEq, Repr

-----------------------------------------------------------------------------------------
-- Passphrase and decryption
-----------------------------------------------------------------------------------------

/-- The operation data of `passphrase.c`. -/
structure PassphraseData where
  noPassphrase : Bool := false
  uidHint : Option Str := none
  passphraseInfo : Option Str := none
  badPassphrase : Nat := 0
  maxlen : Option Str := none

/-- `struct _gpgme_recipient`; the algorithm is not set when the line does not give it. -/
structure Recipient where
  keyid : Str
  pubkeyAlgo : Option Int
  status : GpgError := 0

/-- The operation data of `decrypt.c`; the result is part of it. -/
structure DecryptData where
  unsupportedAlgorithm : Option Str := none
  wrongKeyUsage : Bool := false
  legacyCipherNomdc : Bool := false
  isMime : Bool := false
  isDeVs : Bool := false
  recipients : List Recipient := []
  fileName : Option Str := none
  sessionKey : Option Str := none
  symkeyAlgo : Option Str := none
  failureCode : GpgError := 0
  okay : Bool := false
  failed : Bool := false
  pkdecryptFailed : GpgError := 0
  anyNoSeckey : Bool := false
  notIntegrityProtected : Bool := false
  firstStatusError : GpgError := 0
  plaintextDserial : Nat := 0

-----------------------------------------------------------------------------------------
-- Verification
-----------------------------------------------------------------------------------------

/-- `gpgme_validity_t`. -/
inductive Validity where
  | unknown | undefined | never | marginal | full | ultimate
deriving DecidableEq, Repr

/-- `gpgme_tofu_policy_t`; the value 0 is `none`. -/
inductive TofuPolicy where
  | none | auto | good | unknown | bad | ask
deriving DecidableEq, Repr

/-- `struct _gpgme_tofu_info`. -/
structure TofuInfo where
  validity : Nat := 0
  policy : TofuPolicy := .none
  signcount : Nat := 0
  encrcount : Nat := 0
  signfirst : Nat := 0
  signlast : Nat := 0
  encrfirst : Nat := 0
  encrlast : Nat := 0
  description : Option Str := Option.none

/-- The key that TOFU lines build up: its fingerprint and its user ids in order. -/
structure TofuKey where
  fpr : Str
  protocol : Protocol
  uids : List (Str × Option TofuInfo) := []

/-- `struct _gpgme_sig_notation`; a policy URL has no name. -/
structure SigNotation where
  name : Option Str := none
  value : Option Str := none
  valueLen : Nat := 0
  critical : Bool := false
  humanReadable : Bool := false
  flagCritical : Bool := false
  flagHumanReadable : Bool := false

/-- The flags of `gpgme_sigsum_t` that `verify.c` sets. -/
structure Sigsum where
  valid : Bool := false
  green : Bool := false
  red : Bool := false
  keyRevoked : Bool := false
  keyExpired : Bool := false
  sigExpired : Bool := false
  keyMissing : Bool := false
  crlTooOld : Bool := false
  badPolicy : Bool := false
  sysError : Bool := false
deriving DecidableEq, Repr

/-- `struct _gpgme_signature`; `next` is the address of the following entry. -/
structure Signature where
  next : Option Nat := none
  summary : Sigsum := {}
  fpr : Option Str := none
  status : GpgError := 0
  notations : List SigNotation := []
  timestamp : Nat := 0
  expTimestamp : Nat := 0
  wrongKeyUsage : Bool := false
  pkaTrust : Nat := 0
  chainModel : Bool := false
  isDeVs : Bool := false
  validity : Validity := .unknown
  validityReason : GpgError := 0
  pubkeyAlgo : Int := 0
  hashAlgo : Int := 0
  pkaAddress : Option Str := none
  key : Option TofuKey := none

/-- The operation data of `verify.c`. Entries are allocated one after the other in `heap`,
and an address is a position there.
-/
structure VerifyData where
  heap : List Signature := []
  signatures : Option Nat := none
  fileName : Option Str := none
  isMime : Bool := false
  failureCode : GpgError := 0
  currentSig : Option Nat := none
  didPrepareNewSig : Bool := false
  onlyNewsigSeen : Bool := false
  plaintextSeen : Nat := 0
  conflictUserSeen : Bool := false

-----------------------------------------------------------------------------------------
-- Encryption, signing and key generation
-----------------------------------------------------------------------------------------

/-- `struct _gpgme_invalid_key`. -/
structure InvalidKey where
  fpr : Option Str
  reason : GpgError

/-- The operation data of `encrypt.c`. -/
structure EncryptData where
  invalidRecipients : List InvalidKey := []
  failureCode : GpgError := 0
  kcFpr : Option Str := none
  kcFlags : Nat := 0

/-- `gpgme_sig_mode_t`. -/
inductive SigMode where
  | normal | detach | clear
deriving DecidableEq, Repr

/-- `struct _gpgme_new_signature`. -/
structure NewSignature where
  type : SigMode
  pubkeyAlgo : Int
  hashAlgo : Int
  sigClass : Nat
  timestamp : Int
  fpr : Str

/-- The operation data of `sign.c`. -/
structure SignData where
  invalidSigners : List InvalidKey := []
  signatures : List NewSignature := []
  failureCode : GpgError := 0
  kcFpr : Option Str := none
  kcFlags : Nat := 0
  ignoreInvRecp : Bool := false
  invSgnrSeen : Bool := false
  sigCreatedSeen : Bool := false

/-- The operation data of `genkey.c`; `uidmode` is 0 unless a user id is added or
revoked.
-/
structure GenkeyData where
  primary : Bool := false
  sub : Bool := false
  uid : Bool := false
  fpr : Option Str := none
  failureCode : GpgError := 0
  errorCode : GpgError := 0
  uidmode : Nat := 0

-----------------------------------------------------------------------------------------
-- The context
-----------------------------------------------------------------------------------------

/-- A call of the progress callback. -/
structure ProgressCall where
  what : Str
  type : Nat
  current : Int
  total : Int

/-- The part of `struct gpgme_context` that status handlers read and write. A status
callback answers with an error code that may depend on all its earlier calls; the calls
that leave the handlers are recorded in order.
-/
structure Ctx where
  protocol : Protocol := .openpgp
  statusCb : Option (List (Str × Str) → GpgError) := none
  fullStatus : Bool := false
  progressCb : Bool := false
  ignoreMdcError : Bool := false
  rawDescription : Bool := false
  redrawSuggested : Bool := false
  statusCalls : List (Str × Str) := []
  progressCalls : List ProgressCall := []
  /-- The serial numbers that were passed to `_gpgme_data_set_prop` for blanking. -/
  blankoutCalls : List Nat := []
  passphrase : PassphraseData := {}
  decrypt : DecryptData := {}
  verify : VerifyData := {}
  encrypt : EncryptData := {}
  sign : SignData := {}
  genkey : GenkeyData := {}

/-- Forward a status line to the status callback of the application, unless that gets the
full status already.
-/
def Ctx.callStatusCb (ctx : Ctx) (keyword args : Str) : GpgError × Ctx :=
  match ctx.statusCb with
  | none => (0, ctx)
  | some answer =>
      if ctx.fullStatus then (0, ctx)
      else
        let calls := ctx.statusCalls ++ [(keyword, args)]
        (answer calls, { ctx with statusCalls := calls })

/-- Only the record of the calls changes. -/
theorem Ctx.callStatusCb_changes (ctx : Ctx) (keyword args : Str)
    : ∃ statusCalls, (ctx.callStatusCb keyword args).2 = { ctx with statusCalls } := by
  unfold Ctx.callStatusCb
  split
  · exact ⟨ctx.statusCalls, rfl⟩
  · split
    · exact ⟨ctx.statusCalls, rfl⟩
    · exact ⟨_, rfl⟩

/-- What a status handler returns: the error, the argument buffer as it left it and the
context; `none` is a failed assertion or an access through a bad pointer.
-/
abbrev HandlerResult := Option (GpgError × Str × Ctx)

/-- `gpgme_status_handler_t` -/
abbrev StatusHandler := Ctx → StatusCode → Str → HandlerResult

/-- `err = first (...); if (!err) err = second (...); return err;` -/
def StatusHandler.andThen (first second : StatusHandler) : StatusHandler :=
  fun ctx code args =>
    match first ctx code args with
    | none => none
    | some (err, args, ctx) =>
        if err ≠ 0 then some (err, args, ctx) else second ctx code args

end Gpgme
