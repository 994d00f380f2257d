import Gpgme.Tool.XmlTrees

/-! The functions for results and keys write the elements that say what is in them. -/

namespace Gpgme.ResultXml

open CString Xml

variable {name : Str} {texts : ErrorTexts}

-----------------------------------------------------------------------------------------
-- Single values
-----------------------------------------------------------------------------------------

theorem toUnsigned_lt (n : Int) : CInt.toUnsigned n < 2 ^ 32 := by
  unfold CInt.toUnsigned
  omega

theorem unsignedInt_toNat (n : Int) : (unsignedInt n).toNat = CInt.toUnsigned n :=
  UInt32.toNat_ofNat_of_lt' (toUnsigned_lt n)

theorem unsignedInt_unsigned (n : UInt32) : unsignedInt n.toNat = n := by
  apply UInt32.toNat_inj.mp
  have bound := n.toNat_lt
  rw [unsignedInt_toNat]
  unfold CInt.toUnsigned
  omega

theorem unsignedInt_flag (flag : Bool) : unsignedInt flag.toNat = flag.toUInt32 := by
  cases flag <;> rfl

theorem Emits.value (n : Int)
    : Emits (fun state => resultAddValue state name (unsignedInt n)) [valueElement name n] :=
  Emits.group [(str "value", .hexadecimal n)] Closes.tagEnd

theorem Emits.unsigned (n : UInt32)
    : Emits (fun state => resultAddValue state name n) [valueElement name n.toNat] := by
  have emits
      : Emits (fun state => resultAddValue state name (unsignedInt n.toNat))
          [valueElement name n.toNat] :=
    Emits.value n.toNat
  rwa [unsignedInt_unsigned] at emits

theorem Emits.flag (flag : Bool)
    : Emits (fun state => resultAddValue state name flag.toUInt32)
        [valueElement name flag.toNat] := by
  have emits
      : Emits (fun state => resultAddValue state name (unsignedInt flag.toNat))
          [valueElement name flag.toNat] :=
    Emits.value flag.toNat
  rwa [unsignedInt_flag] at emits

theorem Emits.timestamp (n : Int)
    : Emits (fun state => resultAddTimestamp state name (unsignedInt n))
        [timestampElement name n] :=
  Emits.group [(str "unix", .timestamp n)] Closes.tagEnd

theorem Emits.code (n : UInt32) (content : Str)
    : Emits
        (fun state => addText state name [(str "value", some (hexCode n))] (some content))
        [codeElement name (.hexadecimal n.toNat) content] := by
  have code : hexCode n = (Written.hexadecimal n.toNat).text := by
    rw [Written.text, unsignedInt_unsigned]
  rw [code]
  exact Emits.text [(str "value", .hexadecimal n.toNat)] content

theorem Emits.error (err : GpgError)
    : Emits (fun state => resultAddError texts state name err) [errorElement texts name err] :=
  Emits.code err (errorMessage texts err)

theorem Emits.pubkeyAlgo (algo : UInt32)
    : Emits (fun state => resultAddPubkeyAlgo state (str "pubkey-algo") algo)
        [pubkeyAlgoElement algo] :=
  Emits.code algo (algoMessage (gpgmePubkeyAlgoName algo))

theorem Emits.hashAlgo (algo : UInt32)
    : Emits (fun state => resultAddHashAlgo state (str "hash-algo") algo)
        [hashAlgoElement algo] :=
  Emits.code algo (algoMessage (gpgmeHashAlgoName algo))

theorem Emits.sigMode (mode : SigMode)
    : Emits (fun state => resultAddSigMode state (str "type") mode) [sigModeElement mode] :=
  Emits.text [(str "type", .mode mode), (str "value", .enumeration (sigModeCode mode))]
    (sigModeName mode)

theorem Emits.protocol (protocol : Protocol)
    : Emits (fun state => resultAddProtocol state (str "protocol") protocol)
        [protocolElement protocol] :=
  Emits.text [(str "value", .enumeration (protocolCode protocol))]
    (gpgmeGetProtocolName protocol)

theorem Emits.validity (validity : Validity)
    : Emits (fun state => resultAddValidity state (str "owner-trust") validity)
        [validityElement validity] :=
  Emits.text [(str "value", .enumeration (validityCode validity))] (validityName validity)

theorem Emits.plain (content : Str)
    : Emits (fun state => addText state name [] (some content)) [textElement name content] :=
  Emits.text [] content

theorem Emits.string (string : Option Str)
    : Emits (fun state => resultAddString state name string) [stringElement name string] :=
  Emits.text [] (string.getD [])

theorem Emits.fpr (fpr : Option Str)
    : Emits (whenSome fpr (resultAddFpr · name)) (optional name fpr) :=
  Emits.present fpr Emits.plain

theorem Emits.optionalString (string : Option Str)
    : Emits (whenSome string (resultAddString · name)) (optional name string) :=
  Emits.present string Emits.plain

theorem Emits.optionalText (string : Option Str)
    : Emits (whenSome string (addText · name [])) (optional name string) :=
  Emits.present string Emits.plain

-----------------------------------------------------------------------------------------
-- Entries of lists
-----------------------------------------------------------------------------------------

theorem emits_invalidKey (key : InvalidKey)
    : Emits (fun state => addInvalidKey texts state key) [invalidKeyElement texts key] :=
  Emits.group [] (Closes.append (Emits.fpr _) (Closes.cons (Emits.error _) Closes.tagEnd))

theorem emits_recipient (recp : Recipient)
    : Emits (fun state => addRecipient texts state recp) [recp.element texts] :=
  Emits.group []
    (Closes.cons (Emits.plain _)
      (Closes.cons (Emits.pubkeyAlgo _) (Closes.cons (Emits.error _) Closes.tagEnd)))

theorem emits_newSignature (sig : NewSignature)
    : Emits (fun state => addNewSignature state sig) [sig.element] := by
  apply Emits.group []
  apply Closes.cons (Emits.sigMode _)
  apply Closes.cons (Emits.pubkeyAlgo _)
  apply Closes.cons (Emits.hashAlgo _)
  apply Closes.cons (Emits.timestamp _)
  apply Closes.append (Emits.fpr _)
  exact Closes.cons (Emits.unsigned _) Closes.tagEnd

theorem emits_signature (sig : Signature)
    : Emits (fun state => addSignature texts state sig) [sig.element texts] := by
  apply Emits.group []
  apply Closes.cons (Emits.unsigned _)
  apply Closes.append (Emits.fpr _)
  apply Closes.cons (Emits.error _)
  apply Closes.cons (Emits.timestamp _)
  apply Closes.cons (Emits.timestamp _)
  apply Closes.cons (Emits.flag _)
  apply Closes.cons (Emits.value _)
  apply Closes.cons (Emits.flag _)
  apply Closes.cons (Emits.value _)
  apply Closes.cons (Emits.error _)
  apply Closes.cons (Emits.pubkeyAlgo _)
  apply Closes.cons (Emits.hashAlgo _)
  exact Closes.append (Emits.optionalString _) Closes.tagEnd

theorem emits_importStatus (stat : ImportStatus)
    : Emits (fun state => addImportStatus texts state stat) [stat.element texts] :=
  Emits.group []
    (Closes.append (Emits.fpr _)
      (Closes.cons (Emits.error _) (Closes.cons (Emits.unsigned _) Closes.tagEnd)))

theorem emits_subkey (subkey : Subkey)
    : Emits (fun state => addSubkey state subkey) [subkeyElement subkey] := by
  apply Emits.group []
  apply Closes.cons (Emits.plain _)
  apply Closes.append (Emits.fpr _)
  apply Closes.cons (Emits.flag _)
  apply Closes.cons (Emits.flag _)
  apply Closes.append (Emits.optionalString _)
  exact Closes.append (Emits.optionalString _) Closes.tagEnd

theorem emits_userId (uid : UserId)
    : Emits (fun state => addUserId state uid) [userIdElement uid] := by
  apply Emits.group []
  apply Closes.cons (Emits.string _)
  apply Closes.cons (Emits.string _)
  apply Closes.cons (Emits.string _)
  exact Closes.cons (Emits.string _) Closes.tagEnd

theorem emits_key (key : Key) : Emits (fun state => addKey state key) [keyElement key] := by
  apply Emits.group []
  apply Closes.cons (Emits.flag _)
  apply Closes.cons (Emits.flag _)
  apply Closes.cons (Emits.flag _)
  apply Closes.cons (Emits.flag _)
  apply Closes.cons (Emits.flag _)
  apply Closes.cons (Emits.flag _)
  apply Closes.cons (Emits.flag _)
  apply Closes.cons (Emits.flag _)
  apply Closes.cons (Emits.flag _)
  apply Closes.cons (Emits.flag _)
  apply Closes.cons (Emits.protocol _)
  have issuer
      : Emits (addIssuer key)
          [.group (str "issuer") []
            [stringElement (str "serial") key.issuerSerial,
              stringElement (str "name") key.issuerName]] :=
    Emits.group []
      (Closes.cons (Emits.string _) (Closes.cons (Emits.string _) Closes.tagEnd))
  apply Closes.cons issuer
  apply Closes.cons (Emits.string _)
  apply Closes.cons (Emits.validity _)
  apply Closes.cons (Emits.list emits_subkey)
  exact Closes.cons (Emits.list emits_userId) Closes.tagEnd

-----------------------------------------------------------------------------------------
-- Results
-----------------------------------------------------------------------------------------

theorem emits_encrypt (res : EncryptResult)
    : Emits (resultEncryptToXml texts res) [res.element texts] :=
  Emits.group [] (Closes.append (Emits.entries emits_invalidKey) Closes.tagEnd)

theorem emits_decrypt (res : DecryptResult)
    : Emits (resultDecryptToXml texts res) [res.element texts] := by
  have flag
      : Emits (addWrongKeyUsage res.wrongKeyUsage)
          (if res.wrongKeyUsage then [.group (str "wrong-key-usage") [] []] else []) := by
    cases res.wrongKeyUsage with
    | false => exact fun _ _ => rfl
    | true => exact Emits.group [] Closes.tagEnd
  apply Emits.group []
  apply Closes.append (Emits.optionalText _)
  apply Closes.append (Emits.optionalText _)
  apply Closes.append flag
  exact Closes.append (Emits.entries emits_recipient) Closes.tagEnd

theorem emits_sign (res : SignResult)
    : Emits (resultSignToXml texts res) [res.element texts] :=
  Emits.group []
    (Closes.append (Emits.entries emits_invalidKey)
      (Closes.append (Emits.entries emits_newSignature) Closes.tagEnd))

theorem emits_verify (res : VerifyResult)
    : Emits (resultVerifyToXml texts res) [res.element texts] :=
  Emits.group []
    (Closes.append (Emits.optionalText _)
      (Closes.append (Emits.entries emits_signature) Closes.tagEnd))

theorem emits_import (res : ImportResult)
    : Emits (resultImportToXml texts res) [res.element texts] := by
  apply Emits.group []
  apply Closes.cons (Emits.value _)
  apply Closes.cons (Emits.value _)
  apply Closes.cons (Emits.value _)
  apply Closes.cons (Emits.value _)
  apply Closes.cons (Emits.value _)
  apply Closes.cons (Emits.value _)
  apply Closes.cons (Emits.value _)
  apply Closes.cons (Emits.value _)
  apply Closes.cons (Emits.value _)
  apply Closes.cons (Emits.value _)
  apply Closes.cons (Emits.value _)
  apply Closes.cons (Emits.value _)
  apply Closes.cons (Emits.value _)
  apply Closes.cons (Emits.value _)
  change Closes _ (listed (str "imports") (res.imports.map (ImportStatus.element texts)) ++ [])
  exact Closes.append (Emits.entries emits_importStatus) Closes.tagEnd

theorem emits_genkey (res : GenkeyResult) : Emits (resultGenkeyToXml res) [res.element] :=
  Emits.group []
    (Closes.cons (Emits.flag _)
      (Closes.cons (Emits.flag _) (Closes.append (Emits.fpr _) Closes.tagEnd)))

theorem emits_keylist (res : KeylistResult) : Emits (resultKeylistToXml res) [res.element] :=
  Emits.group [] (Closes.cons (Emits.flag _) Closes.tagEnd)

theorem emits_vfsMount (res : VfsMountResult) : Emits (resultVfsMountToXml res) [res.element] :=
  Emits.group [] (Closes.cons (Emits.string _) Closes.tagEnd)

theorem emits_keys (keys : List Key)
    : Emits (cmdKeylist keys) [.group (str "keylist") [] (keys.map keyElement)] :=
  Emits.list emits_key

end Gpgme.ResultXml
