import Gpgme.OpSupport

/-! The decryption status handler of `decrypt.c`. -/

namespace Gpgme

open CString

/-- The error number of an ERROR line that is split into its fields. -/
def statusErrorNumber (fields : List Str) : GpgError :=
  match fields[1]? with
  | none => 0
  | some number => errOfInt (atoi number)

/-- The part of `parse_status_error` that depends on the location. -/
def noteErrorLocation (opd : DecryptData) (location : Str) (err : GpgError)
    (detail : Option Str)
    : DecryptData :=
  if location = str "decrypt.algorithm" then
    match detail with
    | none => opd
    | some algorithm =>
        if gpgErrCode err = ErrCode.unsupportedAlgorithm ∧ algorithm ≠ str "?" then
          { opd with unsupportedAlgorithm := some algorithm }
        else
          opd
  else if location = str "decrypt.keyusage" then
    if gpgErrCode err = ErrCode.wrongKeyUsage then { opd with wrongKeyUsage := true } else opd
  else if location = str "pkdecrypt_failed" then
    if gpgErrCode err = ErrCode.canceled ∨ gpgErrCode err = ErrCode.fullyCanceled then
      { opd with pkdecryptFailed := gpgErrMake (gpgErrSource err) ErrCode.canceled }
    else if gpgErrCode err = ErrCode.badPassphrase then
      { opd with pkdecryptFailed := err }
    else
      opd
  else if location = str "nomdc_with_legacy_cipher" then
    { opd with legacyCipherNomdc := true, notIntegrityProtected := true }
  else
    opd

/-- `parse_status_error`; the fields are split in a copy of the arguments. -/
def parseStatusError (args : Str) (opd : DecryptData) : GpgError × DecryptData :=
  match splitFields args 3 with
  | [] => (invEngine, opd)
  | location :: rest =>
      let err := statusErrorNumber (location :: rest)
      let opd := noteErrorLocation opd location err rest[1]?
      if err ≠ 0 ∧ opd.firstStatusError = 0 then (0, { opd with firstStatusError := err })
      else (0, opd)

/-- `sizeof (rec->_keyid) - 1`. -/
def keyidLength : Nat := 16

/-- `parse_enc_to`. -/
def parseEncTo (args : Str) (protocol : Protocol) : Except GpgError Recipient :=
  let keyid := (args.take keyidLength).takeWhile (· != blank)
  let rest := args.drop keyid.length
  if rest ≠ [] ∧ rest.head? ≠ some blank then .error invEngine
  else
    match skipBlanks rest with
    | [] => .ok { keyid, pubkeyAlgo := none }
    | algo =>
        let number := strtol 0 algo
        if number.errno || number.tail == algo || number.tail.head? != some blank then
          .error invEngine
        else
          .ok { keyid, pubkeyAlgo := some (mapPkAlgo number.value protocol) }

/-- `parse_decryption_info`. -/
def parseDecryptionInfo (args : Str) (opd : DecryptData) (protocol : Protocol)
    : GpgError × DecryptData :=
  match splitFields args 3 with
  | mdcField :: algoField :: rest =>
      let mdc := atoi mdcField
      let algostr := cipherAlgoName (atoi algoField) protocol
      let aeadAlgo := match rest with
        | [] => 0
        | aeadField :: _ => atoi aeadField
      let modestr := cipherModeName aeadAlgo protocol
      let symkeyAlgo :=
        if aeadAlgo = 0 ∧ mdc ≠ 2 then algostr ++ str ".PGPCFB"
        else algostr ++ str "." ++ modestr
      (0, { opd with
        symkeyAlgo := some symkeyAlgo
        notIntegrityProtected :=
          opd.notIntegrityProtected || (mdc == 0 && aeadAlgo == 0) })
  | _ => (invEngine, opd)

/-- The result of a decryption at the end of the status lines. -/
def decryptEof (ctx : Ctx) : GpgError :=
  let opd := ctx.decrypt
  if opd.failed then
    if opd.pkdecryptFailed ≠ 0 then opd.pkdecryptFailed
    else if opd.notIntegrityProtected && !ctx.ignoreMdcError then
      gpgError ErrCode.decryptFailed
    else if opd.firstStatusError ≠ 0 then opd.firstStatusError
    else if opd.anyNoSeckey then gpgError ErrCode.noSeckey
    else gpgError ErrCode.decryptFailed
  else if !opd.okay then gpgError ErrCode.noData
  else opd.failureCode

/-- Mark the first recipient with the key id `args` as one without a secret key. -/
def markNoSeckey (args : Str) : List Recipient → Option (List Recipient)
  | [] => none
  | recipient :: rest =>
      if recipient.keyid = args then
        some ({ recipient with status := gpgError ErrCode.noSeckey } :: rest)
      else
        (markNoSeckey args rest).map (recipient :: ·)

/-- The `switch` of `_gpgme_decrypt_status_handler`. -/
def decryptStatusSwitch : StatusHandler := fun ctx code args =>
  let opd := ctx.decrypt
  match code with
  | .failure =>
      let (failureCode, args) := parseFailure args
      some (0, args, { ctx with decrypt := { opd with failureCode } })
  | .eof => some (decryptEof ctx, args, ctx)
  | .decryptionInfo =>
      let (err, opd) := parseDecryptionInfo args opd ctx.protocol
      some (err, args, { ctx with decrypt := opd })
  | .decryptionOkay => some (0, args, { ctx with decrypt := { opd with okay := true } })
  | .decryptionFailed =>
      -- The answer of the property table is not looked at.
      some (0, args, { ctx with
        decrypt := { opd with failed := true }
        blankoutCalls :=
          if ctx.ignoreMdcError then ctx.blankoutCalls
          else ctx.blankoutCalls ++ [opd.plaintextDserial] })
  | .error =>
      let (err, opd) := parseStatusError args opd
      some (err, args, { ctx with decrypt := opd })
  | .encTo =>
      match parseEncTo args ctx.protocol with
      | .error err => some (err, args, ctx)
      | .ok recipient =>
          some (0, args, { ctx with
            decrypt := { opd with recipients := opd.recipients ++ [recipient] } })
  | .sessionKey =>
      some (0, args, { ctx with decrypt := { opd with sessionKey := some args } })
  | .noSeckey =>
      match markNoSeckey args opd.recipients with
      | none => some (invEngine, args, ctx)
      | some recipients =>
          some (0, args, { ctx with decrypt := { opd with recipients, anyNoSeckey := true } })
  | .plaintext =>
      let (fileName, isMime, args) := parsePlaintext args opd.fileName
      some (0, args, { ctx with decrypt := { opd with fileName, isMime } })
  | .inquireMaxlen =>
      let (err, ctx) := ctx.callStatusCb (str "INQUIRE_MAXLEN") args
      some (err, args, ctx)
  | .decryptionComplianceMode =>
      some (0, args, { ctx with
        decrypt := { opd with isDeVs := opd.isDeVs || complianceFlags args } })
  | _ => some (0, args, ctx)

/-- `_gpgme_decrypt_status_handler`. -/
def decryptStatusHandler : StatusHandler :=
  passphraseStatusHandler.andThen decryptStatusSwitch

/-- The static `decrypt_status_handler`, which is the one installed for a decryption. -/
def decryptStatusHandlerInstalled : StatusHandler :=
  progressStatusHandler.andThen decryptStatusHandler

end Gpgme
