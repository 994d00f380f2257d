import Gpgme.Tool.XmlReports

/-! When the XML for a report can be read back: it is well formed, its texts are the strings of
the report and its attributes denote the numbers.
-/

namespace Gpgme.ResultXml

open CString Xml

variable {name : Str} {texts : ErrorTexts}

-----------------------------------------------------------------------------------------
-- Strings and numbers of reports
-----------------------------------------------------------------------------------------

def EncryptResult.strings (res : EncryptResult) : List Str :=
  res.invalidRecipients.flatMap fun key => key.fpr.toList

def DecryptResult.strings (res : DecryptResult) : List Str :=
  res.fileName.toList ++ res.unsupportedAlgorithm.toList
    ++ res.recipients.flatMap fun recp => [recp.keyid]

def SignResult.strings (res : SignResult) : List Str :=
  (res.invalidSigners.flatMap fun key => key.fpr.toList)
    ++ res.signatures.flatMap fun sig => sig.fpr.toList

def VerifyResult.strings (res : VerifyResult) : List Str :=
  res.fileName.toList
    ++ res.signatures.flatMap fun sig => sig.fpr.toList ++ sig.pkaAddress.toList

def ImportResult.strings (res : ImportResult) : List Str :=
  res.imports.flatMap fun stat => stat.fpr.toList

def subkeyStrings (subkey : Subkey) : List Str :=
  subkey.keyid :: subkey.fpr.toList ++ subkey.cardNumber.toList ++ subkey.curve.toList

def userIdStrings (uid : UserId) : List Str := [uid.uid, uid.name, uid.email, uid.comment]

def keyStrings (key : Key) : List Str :=
  key.issuerSerial.toList ++ key.issuerName.toList ++ key.chainId.toList
    ++ key.subkeys.flatMap subkeyStrings
    ++ key.uids.flatMap userIdStrings

/-- The strings of a report that are shown. -/
def Report.strings : Report → List Str
  | .encrypt res => res.toList.flatMap EncryptResult.strings
  | .decrypt res => res.toList.flatMap DecryptResult.strings
  | .sign res => res.toList.flatMap SignResult.strings
  | .verify res => res.toList.flatMap VerifyResult.strings
  | .imports res => res.toList.flatMap ImportResult.strings
  | .genkey res => res.toList.flatMap fun res => res.fpr.toList
  | .keylist _ => []
  | .vfsMount res => res.toList.flatMap fun res => res.mountDir.toList
  | .keyList keys => keys.flatMap keyStrings

/-- The points in time of a report. -/
def Report.timestamps : Report → List Int
  | .sign (some res) => res.signatures.map fun sig => sig.timestamp.toInt
  | .verify (some res) =>
      res.signatures.flatMap fun sig => [(sig.timestamp.toNat : Int), sig.expTimestamp.toNat]
  | _ => []

/-- The numbers of a report that may be negative. -/
def Report.counts : Report → List Int32
  | .imports (some res) => res.counts.map Prod.snd
  | _ => []

/-- The protocols of a report. -/
def Report.protocols : Report → List Protocol
  | .keyList keys => keys.map fun key => key.protocol
  | _ => []

-----------------------------------------------------------------------------------------
-- The elements are written
-----------------------------------------------------------------------------------------

theorem depthAll_optional (name : Str) (string : Option Str)
    : depthAll (optional name string) ≤ 1 := by
  cases string with
  | none => exact Nat.zero_le _
  | some s => exact Nat.le_refl _

theorem depthAll_listed (name : Str) {children : List (Element Written)} {bound : Nat}
    (inner : depthAll children ≤ bound)
    : depthAll (listed name children) ≤ bound + 1 := by
  unfold listed
  split
  · exact Nat.zero_le _
  · simp only [depthAll, Element.depth]
    omega

theorem wellNamedAll_optional (string : Option Str) (valid : isName name)
    : wellNamedAll (optional name string) := by
  cases string with
  | none => rfl
  | some s =>
      change (isName name && wellNamedAttributes [] && true) = true
      rw [valid]
      rfl

theorem wellNamedAll_listed {children : List (Element Written)} (valid : isName name)
    (inner : wellNamedAll children)
    : wellNamedAll (listed name children) := by
  unfold listed
  split
  · rfl
  · change (isName name && wellNamedAttributes [] && wellNamedAll children && true) = true
    rw [valid, inner]
    rfl

/-- An element with permitted names that goes no deeper than a bound. -/
structure Sound (bound : Nat) (element : Element Written) : Prop where
  depth : element.depth ≤ bound
  named : element.wellNamed

theorem depthAll_sound {α : Type} {bound : Nat} {tree : α → Element Written}
    (sound : ∀ entry, Sound bound (tree entry)) (entries : List α)
    : depthAll (entries.map tree) ≤ bound :=
  depthAll_map fun entry _ => (sound entry).depth

theorem wellNamedAll_sound {α : Type} {bound : Nat} {tree : α → Element Written}
    (sound : ∀ entry, Sound bound (tree entry)) (entries : List α)
    : wellNamedAll (entries.map tree) :=
  wellNamedAll_map fun entry _ => (sound entry).named

theorem sound_invalidKey (texts : ErrorTexts) (key : InvalidKey)
    : Sound 2 (invalidKeyElement texts key) := by
  have fpr := depthAll_optional (str "fpr") key.fpr
  refine ⟨?_, ?_⟩
  · simp only [invalidKeyElement, errorElement, codeElement, Element.depth, depthAll,
      depthAll_append]
    omega
  · rw [invalidKeyElement, Element.wellNamed, wellNamedAll_append,
      wellNamedAll_optional _ (by decide)]
    rfl

theorem sound_recipient (texts : ErrorTexts) (recp : Recipient) : Sound 2 (recp.element texts) where
  depth := by
    simp only [Recipient.element, textElement, pubkeyAlgoElement, errorElement, codeElement,
      Element.depth, depthAll]
    omega
  named := rfl

theorem sound_newSignature (sig : NewSignature) : Sound 2 sig.element := by
  have fpr := depthAll_optional (str "fpr") sig.fpr
  refine ⟨?_, ?_⟩
  · simp only [NewSignature.element, sigModeElement, pubkeyAlgoElement, hashAlgoElement,
      timestampElement, valueElement, codeElement, Element.depth, depthAll, depthAll_append]
    omega
  · simp only [NewSignature.element, Element.wellNamed, wellNamedAll, wellNamedAll_append,
      wellNamedAll_optional sig.fpr (show isName (str "fpr") by decide)]
    rfl

theorem sound_signature (texts : ErrorTexts) (sig : Signature) : Sound 2 (sig.element texts) := by
  have fpr := depthAll_optional (str "fpr") sig.fpr
  have address := depthAll_optional (str "pka_address") sig.pkaAddress
  refine ⟨?_, ?_⟩
  · simp only [Signature.element, pubkeyAlgoElement, hashAlgoElement, errorElement,
      timestampElement, valueElement, codeElement, Element.depth, depthAll, depthAll_append]
    omega
  · simp only [Signature.element, Element.wellNamed, wellNamedAll, wellNamedAll_append,
      wellNamedAll_optional sig.fpr (show isName (str "fpr") by decide),
      wellNamedAll_optional sig.pkaAddress (show isName (str "pka_address") by decide)]
    rfl

theorem sound_importStatus (texts : ErrorTexts) (stat : ImportStatus)
    : Sound 2 (stat.element texts) := by
  have fpr := depthAll_optional (str "fpr") stat.fpr
  refine ⟨?_, ?_⟩
  · simp only [ImportStatus.element, errorElement, valueElement, codeElement, Element.depth,
      depthAll, depthAll_append]
    omega
  · simp only [ImportStatus.element, Element.wellNamed, wellNamedAll_append,
      wellNamedAll_optional stat.fpr (show isName (str "fpr") by decide)]
    rfl

theorem sound_subkey (subkey : Subkey) : Sound 2 (subkeyElement subkey) := by
  have fpr := depthAll_optional (str "fpr") subkey.fpr
  have card := depthAll_optional (str "card_number") subkey.cardNumber
  have curve := depthAll_optional (str "curve") subkey.curve
  refine ⟨?_, ?_⟩
  · simp only [subkeyElement, textElement, valueElement, Element.depth, depthAll,
      depthAll_append]
    omega
  · simp only [subkeyElement, Element.wellNamed, wellNamedAll, wellNamedAll_append,
      wellNamedAll_optional subkey.fpr (show isName (str "fpr") by decide),
      wellNamedAll_optional subkey.cardNumber (show isName (str "card_number") by decide),
      wellNamedAll_optional subkey.curve (show isName (str "curve") by decide)]
    rfl

theorem sound_userId (uid : UserId) : Sound 2 (userIdElement uid) where
  depth := by
    simp only [userIdElement, textElement, Element.depth, depthAll]
    omega
  named := rfl

theorem sound_key (key : Key) : Sound 4 (keyElement key) := by
  have subkeys := depthAll_sound sound_subkey key.subkeys
  have uids := depthAll_sound sound_userId key.uids
  refine ⟨?_, ?_⟩
  · simp only [keyElement, textElement, stringElement, valueElement, protocolElement,
      validityElement, codeElement, Element.depth, depthAll]
    omega
  · simp only [keyElement, Element.wellNamed, wellNamedAll,
      wellNamedAll_sound sound_subkey key.subkeys, wellNamedAll_sound sound_userId key.uids]
    rfl

theorem sound_encrypt (res : EncryptResult) : Sound 4 (res.element texts) := by
  have keys := depthAll_listed (str "invalid-recipients")
    (depthAll_sound (sound_invalidKey texts) res.invalidRecipients)
  refine ⟨?_, ?_⟩
  · simp only [EncryptResult.element, Element.depth, depthAll, depthAll_append]
    omega
  · rw [EncryptResult.element, Element.wellNamed, wellNamedAll_append,
      wellNamedAll_listed (by decide) (wellNamedAll_sound (sound_invalidKey texts) _)]
    rfl

theorem sound_decrypt (res : DecryptResult) : Sound 4 (res.element texts) := by
  have file := depthAll_optional (str "file-name") res.fileName
  have algorithm := depthAll_optional (str "unsupported-alogorithm")
    res.unsupportedAlgorithm
  have recipients := depthAll_listed (str "recipients")
    (depthAll_sound (sound_recipient texts) res.recipients)
  refine ⟨?_, ?_⟩
  · simp only [DecryptResult.element, Element.depth, depthAll_append]
    cases res.wrongKeyUsage <;> simp only [if_true, Bool.false_eq_true, if_false, depthAll,
      Element.depth] <;> omega
  · rw [DecryptResult.element, Element.wellNamed, wellNamedAll_append,
      wellNamedAll_optional _ (by decide), wellNamedAll_append,
      wellNamedAll_optional _ (by decide), wellNamedAll_append, wellNamedAll_append,
      wellNamedAll_listed (by decide) (wellNamedAll_sound (sound_recipient texts) _)]
    cases res.wrongKeyUsage <;> rfl

theorem sound_sign (res : SignResult) : Sound 4 (res.element texts) := by
  have keys := depthAll_listed (str "invalid-signers")
    (depthAll_sound (sound_invalidKey texts) res.invalidSigners)
  have signatures := depthAll_listed (str "signatures")
    (depthAll_sound sound_newSignature res.signatures)
  refine ⟨?_, ?_⟩
  · simp only [SignResult.element, Element.depth, depthAll, depthAll_append]
    omega
  · rw [SignResult.element, Element.wellNamed, wellNamedAll_append,
      wellNamedAll_listed (by decide) (wellNamedAll_sound (sound_invalidKey texts) _),
      wellNamedAll_append,
      wellNamedAll_listed (by decide) (wellNamedAll_sound sound_newSignature _)]
    rfl

theorem sound_verify (res : VerifyResult) : Sound 4 (res.element texts) := by
  have file := depthAll_optional (str "file-name") res.fileName
  have signatures := depthAll_listed (str "signatures")
    (depthAll_sound (sound_signature texts) res.signatures)
  refine ⟨?_, ?_⟩
  · simp only [VerifyResult.element, Element.depth, depthAll, depthAll_append]
    omega
  · rw [VerifyResult.element, Element.wellNamed, wellNamedAll_append,
      wellNamedAll_optional _ (by decide), wellNamedAll_append,
      wellNamedAll_listed (by decide) (wellNamedAll_sound (sound_signature texts) _)]
    rfl

theorem sound_import (res : ImportResult) : Sound 4 (res.element texts) := by
  have imports := depthAll_listed (str "imports")
    (depthAll_sound (sound_importStatus texts) res.imports)
  refine ⟨?_, ?_⟩
  · simp only [ImportResult.element, ImportResult.counts, List.map_cons, List.map_nil,
      valueElement, Element.depth, depthAll, depthAll_append]
    omega
  · rw [ImportResult.element, Element.wellNamed, wellNamedAll_append, wellNamedAll_append,
      wellNamedAll_listed (by decide) (wellNamedAll_sound (sound_importStatus texts) _)]
    rfl

theorem sound_genkey (res : GenkeyResult) : Sound 4 res.element := by
  have fpr := depthAll_optional (str "fpr") res.fpr
  refine ⟨?_, ?_⟩
  · simp only [GenkeyResult.element, valueElement, Element.depth, depthAll, depthAll_append]
    omega
  · simp only [GenkeyResult.element, Element.wellNamed, wellNamedAll, wellNamedAll_append,
      wellNamedAll_optional res.fpr (show isName (str "fpr") by decide)]
    rfl

theorem sound_keylist (res : KeylistResult) : Sound 4 res.element where
  depth := by
    simp only [KeylistResult.element, valueElement, Element.depth, depthAll]
    omega
  named := rfl

theorem sound_vfsMount (res : VfsMountResult) : Sound 4 res.element where
  depth := by
    simp only [VfsMountResult.element, stringElement, textElement, Element.depth, depthAll]
    omega
  named := rfl

theorem report_sound (texts : ErrorTexts) (report : Report)
    : depthAll (report.elements texts) ≤ 5 ∧ wellNamedAll (report.elements texts) := by
  have result {ρ : Type} {tree : ρ → Element Written} (sound : ∀ res, Sound 4 (tree res))
      (res : Option ρ)
      : depthAll (res.toList.map tree) ≤ 5 ∧ wellNamedAll (res.toList.map tree) :=
    ⟨Nat.le_succ_of_le (depthAll_sound sound _), wellNamedAll_sound sound _⟩
  cases report with
  | encrypt res => exact result sound_encrypt res
  | decrypt res => exact result sound_decrypt res
  | sign res => exact result sound_sign res
  | verify res => exact result sound_verify res
  | imports res => exact result sound_import res
  | genkey res => exact result sound_genkey res
  | keylist res => exact result sound_keylist res
  | vfsMount res => exact result sound_vfsMount res
  | keyList keys =>
      have each := depthAll_sound sound_key keys
      refine ⟨?_, ?_⟩
      · simp only [Report.elements, depthAll, Element.depth]
        omega
      · simp only [Report.elements, wellNamedAll, Element.wellNamed,
          wellNamedAll_sound sound_key keys]
        rfl

theorem toXml_eq (indent : Nat) (report : Report)
    : report.toXml texts indent
      = some (writeLines indent (shown (report.elements texts))) := by
  have top {f : ResultXmlState → Option ResultXmlState} {elements : List (Element Written)}
      (emits : Emits f elements) (shallow : depthAll elements ≤ 5)
      : (f (resultInit indent)).map (·.written) = some (writeLines indent (shown elements)) := by
    have room : (resultInit indent).tags.length + depthAll elements ≤ maxTags := by
      change 0 + depthAll elements ≤ 20
      omega
    rw [emits _ room]
    unfold ResultXmlState.add
    cases elements with
    | nil => rfl
    | cons first others => rfl
  have result {ρ : Type} {toXml : ρ → ResultXmlState → Option ResultXmlState}
      {tree : ρ → Element Written} (emits : ∀ res, Emits (toXml res) [tree res])
      (sound : ∀ res, Sound 4 (tree res)) (res : Option ρ)
      : withResult res indent toXml
        = some (writeLines indent (shown (res.toList.map tree))) := by
    cases res with
    | none => rfl
    | some res => exact top (emits res) (Nat.le_succ_of_le (depthAll_sound sound [res]))
  cases report with
  | encrypt res => exact result emits_encrypt sound_encrypt res
  | decrypt res => exact result emits_decrypt sound_decrypt res
  | sign res => exact result emits_sign sound_sign res
  | verify res => exact result emits_verify sound_verify res
  | imports res => exact result emits_import sound_import res
  | genkey res => exact result emits_genkey sound_genkey res
  | keylist res => exact result emits_keylist sound_keylist res
  | vfsMount res => exact result emits_vfsMount sound_vfsMount res
  | keyList keys =>
      exact top (emits_keys keys) (report_sound texts (.keyList keys)).1

-----------------------------------------------------------------------------------------
-- Texts
-----------------------------------------------------------------------------------------

/-- A property of the texts that are no strings of a report. -/
structure Derived (texts : ErrorTexts) (q : Str → Prop) : Prop where
  error : ∀ err, q (errorMessage texts err)
  pubkeyAlgo : ∀ algo, q (algoMessage (gpgmePubkeyAlgoName algo))
  hashAlgo : ∀ algo, q (algoMessage (gpgmeHashAlgoName algo))
  sigMode : ∀ mode, q (sigModeName mode)
  protocol : ∀ protocol, q (gpgmeGetProtocolName protocol)
  validity : ∀ validity, q (validityName validity)
  empty : q []

@[simp]
theorem textsAll_optional (string : Option Str)
    : textsAll (optional name string) = string.toList := by
  cases string <;> rfl

@[simp]
theorem textsAll_listed (children : List (Element Written))
    : textsAll (listed name children) = textsAll children := by
  cases children with
  | nil => rfl
  | cons first others => simp [listed, textsAll, Element.texts]

theorem Derived.getD {q : Str → Prop} (derived : Derived texts q) (string : Option Str)
    : q (string.getD []) ↔ ∀ s ∈ string.toList, q s := by
  cases string with
  | none => simp [derived.empty]
  | some s => simp

theorem texts_entries {α : Type} {tree : α → Element Written} {strings : α → List Str}
    {q : Str → Prop}
    (each : ∀ entry, (∀ content ∈ (tree entry).texts, q content) ↔ ∀ s ∈ strings entry, q s)
    (entries : List α)
    : (∀ content ∈ textsAll (entries.map tree), q content)
      ↔ ∀ s ∈ entries.flatMap strings, q s := by
  rw [textsAll_map, List.forall_mem_flatMap, List.forall_mem_flatMap]
  exact forall₂_congr fun entry _ => each entry

section Derived

variable {q : Str → Prop} (derived : Derived texts q)
include derived

theorem Derived.texts_invalidKeys (keys : List InvalidKey)
    : (∀ content ∈ textsAll (keys.map (invalidKeyElement texts)), q content)
      ↔ ∀ s ∈ keys.flatMap fun key => key.fpr.toList, q s := by
  apply texts_entries
  intro key
  simp [invalidKeyElement, errorElement, codeElement, Element.texts, textsAll, or_imp,
    forall_and, derived.error]

theorem Derived.texts_recipients (recipients : List Recipient)
    : (∀ content ∈ textsAll (recipients.map (Recipient.element texts)), q content)
      ↔ ∀ s ∈ recipients.flatMap fun recp => [recp.keyid], q s := by
  apply texts_entries
  intro recp
  simp [Recipient.element, textElement, pubkeyAlgoElement, errorElement, codeElement,
    Element.texts, textsAll, derived.error, derived.pubkeyAlgo]

theorem Derived.texts_newSignatures (signatures : List NewSignature)
    : (∀ content ∈ textsAll (signatures.map NewSignature.element), q content)
      ↔ ∀ s ∈ signatures.flatMap fun sig => sig.fpr.toList, q s := by
  apply texts_entries
  intro sig
  simp [NewSignature.element, sigModeElement, pubkeyAlgoElement, hashAlgoElement,
    timestampElement, valueElement, codeElement, Element.texts, textsAll, derived.sigMode,
    derived.pubkeyAlgo, derived.hashAlgo]

theorem Derived.texts_signatures (signatures : List Signature)
    : (∀ content ∈ textsAll (signatures.map (Signature.element texts)), q content)
      ↔ ∀ s ∈ signatures.flatMap fun sig => sig.fpr.toList ++ sig.pkaAddress.toList, q s := by
  apply texts_entries
  intro sig
  simp [Signature.element, pubkeyAlgoElement, hashAlgoElement, errorElement, timestampElement,
    valueElement, codeElement, Element.texts, textsAll, or_imp, forall_and, derived.error,
    derived.pubkeyAlgo, derived.hashAlgo]

theorem Derived.texts_imports (imports : List ImportStatus)
    : (∀ content ∈ textsAll (imports.map (ImportStatus.element texts)), q content)
      ↔ ∀ s ∈ imports.flatMap fun stat => stat.fpr.toList, q s := by
  apply texts_entries
  intro stat
  simp [ImportStatus.element, errorElement, valueElement, codeElement, Element.texts, textsAll,
    or_imp, forall_and, derived.error]

theorem Derived.texts_key (key : Key)
    : (∀ content ∈ (keyElement key).texts, q content) ↔ ∀ s ∈ keyStrings key, q s := by
  have subkeys
      : (∀ content ∈ textsAll (key.subkeys.map subkeyElement), q content)
        ↔ ∀ s ∈ key.subkeys.flatMap subkeyStrings, q s := by
    apply texts_entries
    intro subkey
    simp [subkeyElement, subkeyStrings, textElement, valueElement, Element.texts, textsAll]
  have uids
      : (∀ content ∈ textsAll (key.uids.map userIdElement), q content)
        ↔ ∀ s ∈ key.uids.flatMap userIdStrings, q s :=
    texts_entries (fun _ => Iff.rfl) key.uids
  simp only [keyElement, keyStrings, textElement, stringElement, valueElement, protocolElement,
    validityElement, codeElement, Element.texts, textsAll, List.forall_mem_append,
    List.forall_mem_cons, List.append_nil, List.nil_append, List.cons_append, derived.protocol,
    derived.validity, derived.getD, subkeys, uids, true_and, and_assoc]

theorem Derived.texts_iff (report : Report)
    : (∀ content ∈ textsAll (report.elements texts), q content)
      ↔ ∀ s ∈ report.strings, q s := by
  cases report with
  | encrypt res =>
      apply texts_entries
      intro res
      simp only [EncryptResult.element, EncryptResult.strings, Element.texts, List.append_nil,
        textsAll_listed, derived.texts_invalidKeys]
  | decrypt res =>
      apply texts_entries
      intro res
      have flag
          : textsAll (if res.wrongKeyUsage then
              [Element.group (str "wrong-key-usage") ([] : List (Str × Written)) []] else [])
            = [] := by
        cases res.wrongKeyUsage <;> rfl
      simp only [DecryptResult.element, DecryptResult.strings, Element.texts, List.append_nil,
        List.nil_append, textsAll_append, textsAll_optional, textsAll_listed, flag,
        List.forall_mem_append, derived.texts_recipients, and_assoc]
  | sign res =>
      apply texts_entries
      intro res
      simp only [SignResult.element, SignResult.strings, Element.texts, List.append_nil,
        textsAll_append, textsAll_listed, List.forall_mem_append, derived.texts_invalidKeys,
        derived.texts_newSignatures]
  | verify res =>
      apply texts_entries
      intro res
      simp only [VerifyResult.element, VerifyResult.strings, Element.texts, List.append_nil,
        textsAll_append, textsAll_optional, textsAll_listed, List.forall_mem_append,
        derived.texts_signatures]
  | imports res =>
      apply texts_entries
      intro res
      simp only [ImportResult.element, ImportResult.strings, ImportResult.counts, List.map_cons,
        List.map_nil, valueElement, Element.texts, textsAll, List.append_nil, List.nil_append,
        textsAll_append, textsAll_listed, derived.texts_imports]
  | genkey res =>
      apply texts_entries
      intro res
      simp only [GenkeyResult.element, valueElement, Element.texts, textsAll, List.append_nil,
        List.nil_append, textsAll_optional]
  | keylist res =>
      cases res with
      | none => exact Iff.rfl
      | some res => exact Iff.rfl
  | vfsMount res =>
      apply texts_entries
      intro res
      simp only [VfsMountResult.element, stringElement, textElement, Element.texts, textsAll,
        List.append_nil, List.forall_mem_singleton, derived.getD]
  | keyList keys =>
      have each := texts_entries derived.texts_key keys
      simp only [Report.elements, Report.strings, Element.texts, textsAll, List.append_nil, each]

end Derived

-----------------------------------------------------------------------------------------
-- Attributes
-----------------------------------------------------------------------------------------

/-- An attribute denotes the number or word that it is written for. -/
def Readable (pair : Str × Written) : Prop :=
  readAttribute pair.1 pair.2.text = some pair.2.denoted

theorem snprintf_short {size : Nat} {text : Str} (short : text.length < size)
    : snprintf size text = text :=
  List.take_of_length_le (by omega)

theorem hexCode_eq (n : UInt32) : hexCode n = [48, 120] ++ hexadecimal n.toNat := by
  apply snprintf_short
  have digits : (hexadecimal n.toNat).length ≤ 8 := length_hexadecimal n.toNat_lt
  rw [List.length_append, List.length_cons, List.length_singleton]
  omega

theorem readable_hexadecimal (n : Int)
    : Readable (str "value", .hexadecimal n) ↔ 0 ≤ n ∧ n < 2 ^ 32 := by
  have read
      : readAttribute (str "value") (Written.hexadecimal n).text
        = some (.number (CInt.toUnsigned n)) := by
    change (readHexadecimal (hexCode (unsignedInt n))).map (fun n => Denoted.number n) = _
    rw [hexCode_eq, readHexadecimal_hexadecimal, unsignedInt_toNat]
    rfl
  have same : Readable (str "value", .hexadecimal n) ↔ (CInt.toUnsigned n : Int) = n := by
    unfold Readable
    rw [read]
    simp [Written.denoted]
  rw [same]
  unfold CInt.toUnsigned
  omega

theorem readable_unsigned (n : UInt32) : Readable (str "value", .hexadecimal n.toNat) := by
  have bound := n.toNat_lt
  rw [readable_hexadecimal]
  omega

theorem readable_flag (flag : Bool) : Readable (str "value", .hexadecimal flag.toNat) := by
  rw [readable_hexadecimal]
  cases flag <;> decide

theorem readable_count (n : Int32)
    : Readable (str "value", .hexadecimal n.toInt) ↔ 0 ≤ n.toInt := by
  have bound := n.toInt_lt
  rw [readable_hexadecimal]
  omega

theorem readable_validity (validity : Validity)
    : Readable (str "value", .enumeration (validityCode validity)) := by
  cases validity <;> rfl

theorem readable_protocol (protocol : Protocol)
    : Readable (str "value", .enumeration (protocolCode protocol))
      ↔ protocol ≠ .default ∧ protocol ≠ .unknown := by
  unfold Readable
  cases protocol <;> decide

theorem not_readable_timestamp (n : Int) : ¬Readable (str "unix", .timestamp n) := by
  have digits : (decimal (unsignedInt n).toNat).length ≤ 10 := by
    have bound := (unsignedInt n).toNat_lt
    exact length_decimal (by omega)
  have whole
      : snprintf 19 (decimal (unsignedInt n).toNat ++ str "i")
        = decimal (unsignedInt n).toNat ++ str "i" := by
    apply snprintf_short
    rw [List.length_append]
    change _ + 1 < _
    omega
  have unread : readDecimal (decimal (unsignedInt n).toNat ++ str "i") = none := by
    apply if_neg
    rintro ⟨-, all⟩
    rw [List.all_append, Bool.and_eq_true] at all
    exact absurd all.2 (by decide)
  change ¬(readDecimal (snprintf 19 (decimal (unsignedInt n).toNat ++ str "i"))).map
    (fun n => Denoted.number n) = _
  rw [whole, unread]
  simp

@[simp]
theorem pairsAll_optional (string : Option Str) : pairsAll (optional name string) = [] := by
  cases string <;> rfl

@[simp]
theorem pairsAll_listed (children : List (Element Written))
    : pairsAll (listed name children) = pairsAll children := by
  cases children with
  | nil => rfl
  | cons first others => simp [listed, pairsAll, Element.pairs]

theorem readable_entries {α : Type} {tree : α → Element Written} (good : α → Prop)
    (each : ∀ entry, (∀ pair ∈ (tree entry).pairs, Readable pair) ↔ good entry)
    (entries : List α)
    : (∀ pair ∈ pairsAll (entries.map tree), Readable pair) ↔ ∀ entry ∈ entries, good entry := by
  rw [pairsAll_map, List.forall_mem_flatMap]
  exact forall₂_congr fun entry _ => each entry

theorem readable_invalidKeys (texts : ErrorTexts) (keys : List InvalidKey)
    : ∀ pair ∈ pairsAll (keys.map (invalidKeyElement texts)), Readable pair := by
  rw [readable_entries (fun _ => True)]
  · exact fun _ _ => trivial
  · intro key
    simp [invalidKeyElement, errorElement, codeElement, Element.pairs, pairsAll,
      readable_unsigned]

theorem readable_recipients (texts : ErrorTexts) (recipients : List Recipient)
    : ∀ pair ∈ pairsAll (recipients.map (Recipient.element texts)), Readable pair := by
  rw [readable_entries (fun _ => True)]
  · exact fun _ _ => trivial
  · intro recp
    simp [Recipient.element, textElement, pubkeyAlgoElement, errorElement, codeElement,
      Element.pairs, pairsAll, readable_unsigned]

theorem readable_imports (texts : ErrorTexts) (imports : List ImportStatus)
    : ∀ pair ∈ pairsAll (imports.map (ImportStatus.element texts)), Readable pair := by
  rw [readable_entries (fun _ => True)]
  · exact fun _ _ => trivial
  · intro stat
    simp [ImportStatus.element, errorElement, valueElement, codeElement, Element.pairs,
      pairsAll, readable_unsigned]

theorem readable_newSignatures (signatures : List NewSignature)
    : (∀ pair ∈ pairsAll (signatures.map NewSignature.element), Readable pair)
      ↔ signatures = [] := by
  rw [readable_entries (fun _ => False), List.eq_nil_iff_forall_not_mem]
  intro sig
  simp [NewSignature.element, sigModeElement, pubkeyAlgoElement, hashAlgoElement,
    timestampElement, valueElement, codeElement, Element.pairs, pairsAll,
    not_readable_timestamp]

theorem readable_signatures (signatures : List Signature)
    : (∀ pair ∈ pairsAll (signatures.map (Signature.element texts)), Readable pair)
      ↔ signatures = [] := by
  rw [readable_entries (fun _ => False), List.eq_nil_iff_forall_not_mem]
  intro sig
  simp [Signature.element, pubkeyAlgoElement, hashAlgoElement, errorElement, timestampElement,
    valueElement, codeElement, Element.pairs, pairsAll, not_readable_timestamp]

theorem readable_keys (keys : List Key)
    : (∀ pair ∈ pairsAll (keys.map keyElement), Readable pair)
      ↔ ∀ key ∈ keys, key.protocol ≠ .default ∧ key.protocol ≠ .unknown := by
  apply readable_entries fun key : Key => key.protocol ≠ .default ∧ key.protocol ≠ .unknown
  intro key
  have subkeys : ∀ pair ∈ pairsAll (key.subkeys.map subkeyElement), Readable pair := by
    rw [readable_entries (fun _ => True)]
    · exact fun _ _ => trivial
    · intro subkey
      simp [subkeyElement, textElement, valueElement, Element.pairs, pairsAll, readable_flag]
  have uids : pairsAll (key.uids.map userIdElement) = [] := by
    simp [userIdElement, textElement, Element.pairs, pairsAll]
  simp only [keyElement, textElement, stringElement, valueElement, protocolElement,
    validityElement, codeElement, Element.pairs, pairsAll, List.nil_append, List.append_nil,
    List.cons_append, List.forall_mem_cons, uids, readable_flag,
    readable_validity, readable_protocol, true_and]
  exact and_iff_left subkeys

theorem readable_result {ρ : Type} {tree : ρ → Element Written} {res : Option ρ} {good : Prop}
    (missing : res = none → good)
    (each : ∀ r, res = some r → ((∀ pair ∈ (tree r).pairs, Readable pair) ↔ good))
    : (∀ pair ∈ pairsAll (res.toList.map tree), Readable pair) ↔ good := by
  cases res with
  | none => exact iff_of_true (by simp [pairsAll]) (missing rfl)
  | some r => simpa [pairsAll] using each r rfl

theorem readable_iff (texts : ErrorTexts) (report : Report)
    : (∀ pair ∈ pairsAll (report.elements texts), Readable pair)
      ↔ report.timestamps = []
        ∧ (∀ n ∈ report.counts, 0 ≤ n.toInt)
        ∧ ∀ protocol ∈ report.protocols, protocol ≠ .default ∧ protocol ≠ .unknown := by
  cases report with
  | encrypt res =>
      have keys := readable_invalidKeys texts
      apply readable_result (by simp [Report.timestamps, Report.counts, Report.protocols])
      rintro res rfl
      simpa [Report.timestamps, Report.counts, Report.protocols, EncryptResult.element,
        Element.pairs] using keys res.invalidRecipients
  | decrypt res =>
      have recipients := readable_recipients texts
      apply readable_result (by simp [Report.timestamps, Report.counts, Report.protocols])
      rintro res rfl
      have flag
          : pairsAll (if res.wrongKeyUsage then
              [Element.group (str "wrong-key-usage") ([] : List (Str × Written)) []] else [])
            = [] := by
        cases res.wrongKeyUsage <;> rfl
      simpa [Report.timestamps, Report.counts, Report.protocols, DecryptResult.element,
        Element.pairs, flag] using recipients res.recipients
  | sign res =>
      have keys := readable_invalidKeys texts
      apply readable_result
      · rintro rfl
        simp [Report.timestamps, Report.counts, Report.protocols]
      · rintro res rfl
        simp only [Report.timestamps, Report.counts, Report.protocols, SignResult.element,
          Element.pairs, pairsAll_append, pairsAll_listed, List.nil_append,
          List.forall_mem_append, List.map_eq_nil_iff, readable_newSignatures]
        simpa [pairsAll] using fun _ => keys res.invalidSigners
  | verify res =>
      apply readable_result
      · rintro rfl
        simp [Report.timestamps, Report.counts, Report.protocols]
      · rintro res rfl
        simp only [Report.timestamps, Report.counts, Report.protocols, VerifyResult.element,
          Element.pairs, pairsAll_append, pairsAll_optional, pairsAll_listed, List.nil_append,
          List.forall_mem_append, readable_signatures]
        cases res.signatures with
        | nil => simp [pairsAll]
        | cons first others => simp
  | imports res =>
      have imports := readable_imports texts
      apply readable_result
      · rintro rfl
        simp [Report.timestamps, Report.counts, Report.protocols]
      · rintro res rfl
        have counts
            : (∀ pair ∈ pairsAll (res.counts.map fun count =>
                valueElement count.1 count.2.toInt), Readable pair)
              ↔ ∀ n ∈ res.counts.map Prod.snd, 0 ≤ n.toInt := by
          rw [List.forall_mem_map]
          apply readable_entries fun count : Str × Int32 => 0 ≤ count.2.toInt
          intro count
          simp [valueElement, Element.pairs, pairsAll, readable_count]
        simp only [Report.timestamps, Report.counts, Report.protocols, ImportResult.element,
          Element.pairs, pairsAll_append, pairsAll_listed, List.nil_append,
          List.forall_mem_append, counts]
        simpa [pairsAll] using fun _ => imports res.imports
  | genkey res =>
      apply readable_result (by simp [Report.timestamps, Report.counts, Report.protocols])
      rintro res rfl
      simp [Report.timestamps, Report.counts, Report.protocols, GenkeyResult.element,
        valueElement, Element.pairs, pairsAll, readable_flag]
  | keylist res =>
      apply readable_result (by simp [Report.timestamps, Report.counts, Report.protocols])
      rintro res rfl
      simp [Report.timestamps, Report.counts, Report.protocols, KeylistResult.element,
        valueElement, Element.pairs, pairsAll, readable_flag]
  | vfsMount res =>
      apply readable_result (by simp [Report.timestamps, Report.counts, Report.protocols])
      rintro res rfl
      simp [Report.timestamps, Report.counts, Report.protocols, VfsMountResult.element,
        stringElement, textElement, Element.pairs, pairsAll]
  | keyList keys =>
      simp only [Report.elements, Report.timestamps, Report.counts, Report.protocols, pairsAll,
        Element.pairs, List.nil_append, List.append_nil, readable_keys, List.forall_mem_map]
      simp

-----------------------------------------------------------------------------------------
-- Permitted characters
-----------------------------------------------------------------------------------------

/-- Texts without control characters. -/
def PlainText (s : Str) : Prop := ∀ c ∈ s, 32 ≤ c

/-- The texts of errors have no control characters. -/
structure ErrorTexts.Plain (texts : ErrorTexts) : Prop where
  strerror : ∀ err, PlainText (texts.gpgStrerror err)
  strsource : ∀ err, PlainText (texts.gpgStrsource err)

theorem PlainText.permitted {s : Str} (plain : PlainText s) : s.all isChar := by
  rw [List.all_eq_true]
  intro c member
  simp [isChar, plain c member]

theorem PlainText.append {first second : Str} (plain : PlainText first)
    (plainSecond : PlainText second)
    : PlainText (first ++ second) := by
  intro c member
  rcases List.mem_append.mp member with member | member
  · exact plain c member
  · exact plainSecond c member

theorem PlainText.take {s : Str} (plain : PlainText s) (n : Nat) : PlainText (s.take n) :=
  fun c member => plain c (List.mem_of_mem_take member)

instance (s : Str) : Decidable (PlainText s) := List.decidableBAll (32 ≤ ·) s

theorem algoMessage_plain {algo : Option Str} (plain : ∀ s ∈ algo, PlainText s)
    : PlainText (algoMessage algo) := by
  apply PlainText.take
  cases algo with
  | none => exact (by decide)
  | some s => exact plain s rfl

theorem ErrorTexts.Plain.derived (plain : texts.Plain) : Derived texts PlainText where
  error err :=
    ((((plain.strerror err).append (by decide)).append (plain.strsource err)).append
      (by decide)).take _
  pubkeyAlgo algo := by
    apply algoMessage_plain
    intro s known
    unfold gpgmePubkeyAlgoName at known
    split at known <;> cases known <;> decide
  hashAlgo algo := by
    apply algoMessage_plain
    intro s known
    unfold gpgmeHashAlgoName at known
    split at known <;> cases known <;> decide
  sigMode mode := by cases mode <;> decide
  protocol protocol := by cases protocol <;> decide
  validity validity := by cases validity <;> decide
  empty := by decide

theorem isAttributeByte_of_digit {c : UInt8} (digit : digitValue c < 16)
    : isAttributeByte c := by
  simp only [digitValue, UInt8.le_iff_toNat_le, UInt8.reduceToNat] at digit
  simp only [isAttributeByte, isChar, UInt8.le_iff_toNat_le, UInt8.reduceToNat,
    Bool.and_eq_true, Bool.or_eq_true, decide_eq_true_eq, bne_iff_ne, ne_eq,
    ← UInt8.toNat_inj]
  split_ifs at digit <;> omega

theorem decimal_attributeBytes (n : Nat) : (decimal n).all isAttributeByte := by
  obtain ⟨first, rest, digits, below, -, others⟩ := decimal_digits n
  rw [digits, List.all_cons, Bool.and_eq_true, List.all_eq_true]
  refine ⟨isAttributeByte_of_digit ?_, ?_⟩
  · rw [digitValue_digitCode below]
    omega
  · intro c member
    obtain ⟨d, small, rfl⟩ := others c member
    apply isAttributeByte_of_digit
    rw [digitValue_digitCode small]
    omega

theorem snprintf_all {p : UInt8 → Bool} {text : Str} (all : text.all p) (size : Nat)
    : (snprintf size text).all p := by
  rw [List.all_eq_true] at all ⊢
  exact fun c member => all c (List.mem_of_mem_take member)

theorem Written.attributeBytes (written : Written) : written.text.all isAttributeByte := by
  cases written with
  | hexadecimal n =>
      have digits : (CString.hexadecimal (unsignedInt n).toNat).all isAttributeByte := by
        rw [List.all_eq_true]
        intro c member
        exact isAttributeByte_of_digit ((hexadecimal_spec _).2.1 c member)
      apply snprintf_all
      rw [List.all_append, digits]
      decide
  | enumeration n => exact snprintf_all (decimal_attributeBytes n) _
  | timestamp n =>
      apply snprintf_all
      rw [List.all_append, decimal_attributeBytes]
      decide
  | mode sigMode => cases sigMode <;> decide

-----------------------------------------------------------------------------------------
-- Lengths
-----------------------------------------------------------------------------------------

theorem clip_eq_iff (s : Str) : clip s = s ↔ s.length < 2 ^ 31 := by
  unfold clip
  rw [List.take_eq_self_iff]
  unfold CInt.toInt
  omega

theorem short_texts : Derived texts fun s => clip s = s := by
  have cut (size : Nat) (s : Str) (small : size ≤ 2 ^ 31)
      : clip (snprintf size s) = snprintf size s := by
    rw [clip_eq_iff]
    unfold snprintf
    rw [List.length_take]
    omega
  refine ⟨fun _ => cut _ _ (by decide), fun _ => cut _ _ (by decide),
    fun _ => cut _ _ (by decide), ?_, ?_, ?_, rfl⟩
  · intro mode
    rw [clip_eq_iff]
    cases mode <;> decide
  · intro protocol
    rw [clip_eq_iff]
    cases protocol <;> decide
  · intro validity
    rw [clip_eq_iff]
    cases validity <;> decide

-----------------------------------------------------------------------------------------
-- Reports
-----------------------------------------------------------------------------------------

/-- The output is well-formed XML for what the report says: its strings are the texts, its
numbers are what the attributes denote, and each entry of a list is an element.
-/
def Faithful (texts : ErrorTexts) (indent : Nat) (report : Report) : Prop :=
  ∃ written,
    report.toXml texts indent = some written
    ∧ (readDocument written).bind (interpretAll readAttribute)
      = some (mapAll Written.denoted id (report.elements texts))

/-- No point in time is written, no negative number and none of the protocols whose codes have
more than one digit, and the lengths of the strings fit an `int`.
-/
structure Report.Writable (report : Report) : Prop where
  timestamps : report.timestamps = []
  counts : ∀ n ∈ report.counts, 0 ≤ n.toInt
  protocols : ∀ protocol ∈ report.protocols, protocol ≠ .default ∧ protocol ≠ .unknown
  strings : ∀ s ∈ report.strings, s.length < 2 ^ 31

theorem faithful_iff (indent : Nat) (report : Report) (plainTexts : texts.Plain)
    (plain : ∀ s ∈ report.strings, PlainText s)
    : Faithful texts indent report
      ↔ (∀ pair ∈ pairsAll (report.elements texts), Readable pair)
        ∧ ∀ content ∈ textsAll (report.elements texts), clip content = content := by
  have valid : validAll (shown (report.elements texts)) := by
    apply validAll_map _ (report_sound texts report).2
    · exact fun pair _ => pair.2.attributeBytes
    · intro content member
      have all := (plainTexts.derived.texts_iff report).mpr plain content member
      exact (all.take _).permitted
  unfold Faithful
  rw [toXml_eq]
  simp only [Option.some.injEq, exists_eq_left', readDocument_writeLines indent valid,
    Option.bind_some]
  exact interpretAll_iff (report.elements texts)

/-- The output for strings without control characters is faithful exactly when the report has
nothing that is written in another format than it is read in.
-/
theorem result_xml_faithful_iff (texts : ErrorTexts) (indent : Nat) (report : Report)
    (plainTexts : texts.Plain) (plain : ∀ s ∈ report.strings, PlainText s)
    : Faithful texts indent report ↔ report.Writable := by
  have readable := readable_iff texts report
  have short : (∀ content ∈ textsAll (report.elements texts), clip content = content)
      ↔ ∀ s ∈ report.strings, s.length < 2 ^ 31 := by
    rw [short_texts.texts_iff]
    exact forall₂_congr fun s _ => clip_eq_iff s
  rw [faithful_iff indent report plainTexts plain, readable, short]
  constructor
  · rintro ⟨⟨timestamps, counts, protocols⟩, strings⟩
    exact ⟨timestamps, counts, protocols, strings⟩
  · rintro ⟨timestamps, counts, protocols, strings⟩
    exact ⟨⟨timestamps, counts, protocols⟩, strings⟩

/-- An encryption where the key of one recipient, with markup in its fingerprint, is missing. -/
theorem missing_key_faithful
    : Faithful ⟨fun _ => str "No public key", fun _ => str "GPGME"⟩ 2
        (.encrypt (some { invalidRecipients := [⟨some (str "<A&B>"), gpgError 9⟩] })) := by
  have strings
      : Report.strings
          (.encrypt (some { invalidRecipients := [⟨some (str "<A&B>"), gpgError 9⟩] }))
        = [str "<A&B>"] :=
    rfl
  have message : PlainText (str "No public key") := by decide
  have source : PlainText (str "GPGME") := by decide
  apply (result_xml_faithful_iff _ 2 _ ⟨fun _ => message, fun _ => source⟩ _).mpr
  · refine ⟨rfl, by simp [Report.counts], by simp [Report.protocols], ?_⟩
    rw [strings, List.forall_mem_singleton]
    decide
  · rw [strings, List.forall_mem_singleton]
    decide

/-- The time of a new signature is written with a letter behind it. -/
theorem new_signature_unfaithful
    : ¬Faithful ⟨fun _ => str "Success", fun _ => str "GPGME"⟩ 2
        (.sign (some { signatures := [{ type := .normal }] })) := by
  have message : PlainText (str "Success") := by decide
  have source : PlainText (str "GPGME") := by decide
  rw [faithful_iff 2 _ ⟨fun _ => message, fun _ => source⟩
    (by simp [Report.strings, SignResult.strings])]
  rintro ⟨readable, -⟩
  have none := (readable_newSignatures [{ type := .normal }]).mp fun pair member =>
    readable pair (by simpa [Report.elements, SignResult.element, pairsAll, Element.pairs]
      using member)
  cases none

end Gpgme.ResultXml
