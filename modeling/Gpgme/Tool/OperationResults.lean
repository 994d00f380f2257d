import Gpgme.Tool.ResultXml

/-! The results of operations, and the functions of `gpgme-tool.c` that write them and lists of
keys as XML. The structures hold what these functions read.
-/

namespace Gpgme.ResultXml

open CString

-----------------------------------------------------------------------------------------
-- Results
-----------------------------------------------------------------------------------------

/-- `struct _gpgme_op_encrypt_result`. -/
structure EncryptResult where
  invalidRecipients : List InvalidKey := []

/-- `struct _gpgme_recipient`. -/
structure Recipient where
  keyid : Str
  pubkeyAlgo : UInt32 := 0
  status : GpgError := 0

/-- `struct _gpgme_op_decrypt_result`. -/
structure DecryptResult where
  unsupportedAlgorithm : Option Str := none
  wrongKeyUsage : Bool := false
  recipients : List Recipient := []
  fileName : Option Str := none

/-- `struct _gpgme_new_signature`. -/
structure NewSignature where
  type : SigMode
  pubkeyAlgo : UInt32 := 0
  hashAlgo : UInt32 := 0
  timestamp : Int64 := 0
  fpr : Option Str := none
  sigClass : UInt32 := 0

/-- `struct _gpgme_op_sign_result`. -/
structure SignResult where
  invalidSigners : List InvalidKey := []
  signatures : List NewSignature := []

/-- `struct _gpgme_signature`. -/
structure Signature where
  summary : UInt32 := 0
  fpr : Option Str := none
  status : GpgError := 0
  timestamp : UInt64 := 0
  expTimestamp : UInt64 := 0
  wrongKeyUsage : Bool := false
  pkaTrust : Fin 4 := 0
  chainModel : Bool := false
  validity : Validity := .unknown
  validityReason : GpgError := 0
  pubkeyAlgo : UInt32 := 0
  hashAlgo : UInt32 := 0
  pkaAddress : Option Str := none

/-- `struct _gpgme_op_verify_result`. -/
structure VerifyResult where
  signatures : List Signature := []
  fileName : Option Str := none

/-- `struct _gpgme_import_status`. -/
structure ImportStatus where
  fpr : Option Str := none
  result : GpgError := 0
  status : UInt32 := 0

/-- `struct _gpgme_op_import_result`. -/
structure ImportResult where
  considered : Int32 := 0
  noUserId : Int32 := 0
  imported : Int32 := 0
  importedRsa : Int32 := 0
  unchanged : Int32 := 0
  newUserIds : Int32 := 0
  newSubKeys : Int32 := 0
  newSignatures : Int32 := 0
  newRevocations : Int32 := 0
  secretRead : Int32 := 0
  secretImported : Int32 := 0
  secretUnchanged : Int32 := 0
  skippedNewKeys : Int32 := 0
  notImported : Int32 := 0
  imports : List ImportStatus := []

/-- `struct _gpgme_op_genkey_result`. -/
structure GenkeyResult where
  primary : Bool := false
  sub : Bool := false
  fpr : Option Str := none

/-- `struct _gpgme_op_keylist_result`. -/
structure KeylistResult where
  truncated : Bool := false

/-- `struct _gpgme_op_vfs_mount_result`. -/
structure VfsMountResult where
  mountDir : Option Str := none

-----------------------------------------------------------------------------------------
-- Parts of results
-----------------------------------------------------------------------------------------

/-- An element with one element for each entry of a list. -/
def addList {α : Type} (name : Str) (add : ResultXmlState → α → Option ResultXmlState)
    (entries : List α) (state : ResultXmlState)
    : Option ResultXmlState := do
  let state ← resultXmlTagStart state name []
  let state ← entries.foldlM add state
  resultXmlTagEnd state

/-- The element is left out when the list is empty. -/
def addEntries {α : Type} (name : Str) (add : ResultXmlState → α → Option ResultXmlState)
    (entries : List α) (state : ResultXmlState)
    : Option ResultXmlState :=
  if entries.isEmpty then some state else addList name add entries state

/-- An invalid key, in the loops of `result_encrypt_to_xml` and `result_sign_to_xml`. -/
def addInvalidKey (texts : ErrorTexts) (state : ResultXmlState) (key : InvalidKey)
    : Option ResultXmlState := do
  let state ← resultXmlTagStart state (str "invalid-key") []
  let state ← whenSome key.fpr (resultAddFpr · (str "fpr")) state
  let state ← resultAddError texts state (str "reason") key.reason
  resultXmlTagEnd state

/-- A recipient, in the loop of `result_decrypt_to_xml`. -/
def addRecipient (texts : ErrorTexts) (state : ResultXmlState) (recp : Recipient)
    : Option ResultXmlState := do
  let state ← resultXmlTagStart state (str "recipient") []
  let state ← resultAddKeyid state (str "keyid") (some recp.keyid)
  let state ← resultAddPubkeyAlgo state (str "pubkey-algo") recp.pubkeyAlgo
  let state ← resultAddError texts state (str "status") recp.status
  resultXmlTagEnd state

/-- A new signature, in the loop of `result_sign_to_xml`. -/
def addNewSignature (state : ResultXmlState) (newSig : NewSignature)
    : Option ResultXmlState := do
  let state ← resultXmlTagStart state (str "new-signature") []
  let state ← resultAddSigMode state (str "type") newSig.type
  let state ← resultAddPubkeyAlgo state (str "pubkey-algo") newSig.pubkeyAlgo
  let state ← resultAddHashAlgo state (str "hash-algo") newSig.hashAlgo
  let state ← resultAddTimestamp state (str "timestamp") (unsignedInt newSig.timestamp.toInt)
  let state ← whenSome newSig.fpr (resultAddFpr · (str "fpr")) state
  let state ← resultAddValue state (str "sig-class") newSig.sigClass
  resultXmlTagEnd state

/-- A signature, in the loop of `result_verify_to_xml`. -/
def addSignature (texts : ErrorTexts) (state : ResultXmlState) (sig : Signature)
    : Option ResultXmlState := do
  let state ← resultXmlTagStart state (str "signature") []
  let state ← resultAddValue state (str "summary") sig.summary
  let state ← whenSome sig.fpr (resultAddFpr · (str "fpr")) state
  let state ← resultAddError texts state (str "status") sig.status
  let state ← resultAddTimestamp state (str "timestamp") (unsignedInt sig.timestamp.toNat)
  let state ← resultAddTimestamp state (str "exp-timestamp")
    (unsignedInt sig.expTimestamp.toNat)
  let state ← resultAddValue state (str "wrong-key-usage") sig.wrongKeyUsage.toUInt32
  let state ← resultAddValue state (str "pka-trust") (unsignedInt sig.pkaTrust.val)
  let state ← resultAddValue state (str "chain-model") sig.chainModel.toUInt32
  let state ← resultAddValue state (str "validity") (unsignedInt (validityCode sig.validity))
  let state ← resultAddError texts state (str "validity-reason") sig.validityReason
  let state ← resultAddPubkeyAlgo state (str "pubkey-algo") sig.pubkeyAlgo
  let state ← resultAddHashAlgo state (str "hash-algo") sig.hashAlgo
  let state ← whenSome sig.pkaAddress (resultAddString · (str "pka_address")) state
  resultXmlTagEnd state

/-- An import status, in the loop of `result_import_to_xml`. -/
def addImportStatus (texts : ErrorTexts) (state : ResultXmlState) (stat : ImportStatus)
    : Option ResultXmlState := do
  let state ← resultXmlTagStart state (str "import-status") []
  let state ← whenSome stat.fpr (resultAddFpr · (str "fpr")) state
  let state ← resultAddError texts state (str "result") stat.result
  let state ← resultAddValue state (str "status") stat.status
  resultXmlTagEnd state

/-- A subkey, in the loop of `cmd_keylist`. -/
def addSubkey (state : ResultXmlState) (subkey : Subkey) : Option ResultXmlState := do
  let state ← resultXmlTagStart state (str "subkey") []
  let state ← resultAddKeyid state (str "keyid") (some subkey.keyid)
  let state ← whenSome subkey.fpr (resultAddFpr · (str "fpr")) state
  let state ← resultAddValue state (str "secret") subkey.secret.toUInt32
  let state ← resultAddValue state (str "is_cardkey") subkey.isCardkey.toUInt32
  let state ← whenSome subkey.cardNumber (resultAddString · (str "card_number")) state
  let state ← whenSome subkey.curve (resultAddString · (str "curve")) state
  resultXmlTagEnd state

/-- A user ID, in the loop of `cmd_keylist`. -/
def addUserId (state : ResultXmlState) (uid : UserId) : Option ResultXmlState := do
  let state ← resultXmlTagStart state (str "uid") []
  let state ← resultAddString state (str "uid") (some uid.uid)
  let state ← resultAddString state (str "name") (some uid.name)
  let state ← resultAddString state (str "email") (some uid.email)
  let state ← resultAddString state (str "comment") (some uid.comment)
  resultXmlTagEnd state

/-- The issuer of a key. -/
def addIssuer (key : Key) (state : ResultXmlState) : Option ResultXmlState := do
  let state ← resultXmlTagStart state (str "issuer") []
  let state ← resultAddString state (str "serial") key.issuerSerial
  let state ← resultAddString state (str "name") key.issuerName
  resultXmlTagEnd state

/-- A key, in the loop of `cmd_keylist`. -/
def addKey (state : ResultXmlState) (key : Key) : Option ResultXmlState := do
  let state ← resultXmlTagStart state (str "key") []
  let state ← resultAddValue state (str "revoked") key.revoked.toUInt32
  let state ← resultAddValue state (str "expired") key.expired.toUInt32
  let state ← resultAddValue state (str "disabled") key.disabled.toUInt32
  let state ← resultAddValue state (str "invalid") key.invalid.toUInt32
  let state ← resultAddValue state (str "can-encrypt") key.canEncrypt.toUInt32
  let state ← resultAddValue state (str "can-sign") key.canSign.toUInt32
  let state ← resultAddValue state (str "can-certify") key.canCertify.toUInt32
  let state ← resultAddValue state (str "can-authenticate") key.canAuthenticate.toUInt32
  let state ← resultAddValue state (str "is-qualified") key.isQualified.toUInt32
  let state ← resultAddValue state (str "secret") key.secret.toUInt32
  let state ← resultAddProtocol state (str "protocol") key.protocol
  let state ← addIssuer key state
  let state ← resultAddString state (str "chain-id") key.chainId
  let state ← resultAddValidity state (str "owner-trust") key.ownerTrust
  let state ← addList (str "subkeys") addSubkey key.subkeys state
  let state ← addList (str "uids") addUserId key.uids state
  resultXmlTagEnd state

-----------------------------------------------------------------------------------------
-- The functions for results
-----------------------------------------------------------------------------------------

/-- `result_encrypt_to_xml`, from the result on. -/
def resultEncryptToXml (texts : ErrorTexts) (res : EncryptResult) (state : ResultXmlState)
    : Option ResultXmlState := do
  let state ← resultXmlTagStart state (str "encrypt-result") []
  let state ← addEntries (str "invalid-recipients") (addInvalidKey texts) res.invalidRecipients
    state
  resultXmlTagEnd state

/-- `if (res->wrong_key_usage)` in `result_decrypt_to_xml`, an element without a text. -/
def addWrongKeyUsage (wrongKeyUsage : Bool) (state : ResultXmlState) : Option ResultXmlState :=
  if wrongKeyUsage then do
    let state ← resultXmlTagStart state (str "wrong-key-usage") []
    resultXmlTagEnd state
  else some state

/-- `result_decrypt_to_xml`, from the result on. -/
def resultDecryptToXml (texts : ErrorTexts) (res : DecryptResult) (state : ResultXmlState)
    : Option ResultXmlState := do
  let state ← resultXmlTagStart state (str "decrypt-result") []
  let state ← whenSome res.fileName (addText · (str "file-name") []) state
  let state ←
    whenSome res.unsupportedAlgorithm (addText · (str "unsupported-alogorithm") []) state
  let state ← addWrongKeyUsage res.wrongKeyUsage state
  let state ← addEntries (str "recipients") (addRecipient texts) res.recipients state
  resultXmlTagEnd state

/-- `result_sign_to_xml`, from the result on. -/
def resultSignToXml (texts : ErrorTexts) (res : SignResult) (state : ResultXmlState)
    : Option ResultXmlState := do
  let state ← resultXmlTagStart state (str "sign-result") []
  let state ← addEntries (str "invalid-signers") (addInvalidKey texts) res.invalidSigners state
  let state ← addEntries (str "signatures") addNewSignature res.signatures state
  resultXmlTagEnd state

/-- `result_verify_to_xml`, from the result on. -/
def resultVerifyToXml (texts : ErrorTexts) (res : VerifyResult) (state : ResultXmlState)
    : Option ResultXmlState := do
  let state ← resultXmlTagStart state (str "verify-result") []
  let state ← whenSome res.fileName (addText · (str "file-name") []) state
  let state ← addEntries (str "signatures") (addSignature texts) res.signatures state
  resultXmlTagEnd state

/-- `result_import_to_xml`, from the result on. -/
def resultImportToXml (texts : ErrorTexts) (res : ImportResult) (state : ResultXmlState)
    : Option ResultXmlState := do
  let state ← resultXmlTagStart state (str "import-result") []
  let state ← resultAddValue state (str "considered") (unsignedInt res.considered.toInt)
  let state ← resultAddValue state (str "no-user-id") (unsignedInt res.noUserId.toInt)
  let state ← resultAddValue state (str "imported") (unsignedInt res.imported.toInt)
  let state ← resultAddValue state (str "imported-rsa") (unsignedInt res.importedRsa.toInt)
  let state ← resultAddValue state (str "unchanged") (unsignedInt res.unchanged.toInt)
  let state ← resultAddValue state (str "new-user-ids") (unsignedInt res.newUserIds.toInt)
  let state ← resultAddValue state (str "new-sub-keys") (unsignedInt res.newSubKeys.toInt)
  let state ← resultAddValue state (str "new-signatures") (unsignedInt res.newSignatures.toInt)
  let state ← resultAddValue state (str "new-revocations")
    (unsignedInt res.newRevocations.toInt)
  let state ← resultAddValue state (str "secret-read") (unsignedInt res.secretRead.toInt)
  let state ← resultAddValue state (str "secret-imported")
    (unsignedInt res.secretImported.toInt)
  let state ← resultAddValue state (str "secret-unchanged")
    (unsignedInt res.secretUnchanged.toInt)
  let state ← resultAddValue state (str "skipped-new-keys")
    (unsignedInt res.skippedNewKeys.toInt)
  let state ← resultAddValue state (str "not-imported") (unsignedInt res.notImported.toInt)
  let state ← addEntries (str "imports") (addImportStatus texts) res.imports state
  resultXmlTagEnd state

/-- `result_genkey_to_xml`, from the result on. -/
def resultGenkeyToXml (res : GenkeyResult) (state : ResultXmlState) : Option ResultXmlState := do
  let state ← resultXmlTagStart state (str "genkey-result") []
  let state ← resultAddValue state (str "primary") res.primary.toUInt32
  let state ← resultAddValue state (str "sub") res.sub.toUInt32
  let state ← whenSome res.fpr (resultAddFpr · (str "fpr")) state
  resultXmlTagEnd state

/-- `result_keylist_to_xml`, from the result on. -/
def resultKeylistToXml (res : KeylistResult) (state : ResultXmlState)
    : Option ResultXmlState := do
  let state ← resultXmlTagStart state (str "keylist-result") []
  let state ← resultAddValue state (str "truncated") res.truncated.toUInt32
  resultXmlTagEnd state

/-- `result_vfs_mount_to_xml`, from the result on. -/
def resultVfsMountToXml (res : VfsMountResult) (state : ResultXmlState)
    : Option ResultXmlState := do
  let state ← resultXmlTagStart state (str "vfs-mount-result") []
  let state ← resultAddString state (str "mount-dir") res.mountDir
  resultXmlTagEnd state

/-- The element that `cmd_keylist` writes, with the keys that the loop gets. -/
def cmdKeylist (keys : List Key) (state : ResultXmlState) : Option ResultXmlState :=
  addList (str "keylist") addKey keys state

/-- What is written: the result of an operation, which may be missing, or keys. -/
inductive Report where
  | encrypt (res : Option EncryptResult)
  | decrypt (res : Option DecryptResult)
  | sign (res : Option SignResult)
  | verify (res : Option VerifyResult)
  | imports (res : Option ImportResult)
  | genkey (res : Option GenkeyResult)
  | keylist (res : Option KeylistResult)
  | vfsMount (res : Option VfsMountResult)
  | keyList (keys : List Key)

/-- `if (! res) return 0;` and the initial state. -/
def withResult {ρ : Type} (res : Option ρ) (indent : Nat)
    (toXml : ρ → ResultXmlState → Option ResultXmlState)
    : Option Str :=
  match res with
  | none => some []
  | some res => (toXml res (resultInit indent)).map (·.written)

/-- The bytes that the write callback gets. -/
def Report.toXml (texts : ErrorTexts) (indent : Nat) : Report → Option Str
  | .encrypt res => withResult res indent (resultEncryptToXml texts)
  | .decrypt res => withResult res indent (resultDecryptToXml texts)
  | .sign res => withResult res indent (resultSignToXml texts)
  | .verify res => withResult res indent (resultVerifyToXml texts)
  | .imports res => withResult res indent (resultImportToXml texts)
  | .genkey res => withResult res indent resultGenkeyToXml
  | .keylist res => withResult res indent resultKeylistToXml
  | .vfsMount res => withResult res indent resultVfsMountToXml
  | .keyList keys => (cmdKeylist keys (resultInit indent)).map (·.written)

end Gpgme.ResultXml
