import Gpgme.Tool.OperationResults

/-! What the functions for results and keys say, as elements with numbers and words, and that the
output functions write these elements.
-/

namespace Gpgme.ResultXml

open CString Xml

-----------------------------------------------------------------------------------------
-- Values of attributes
-----------------------------------------------------------------------------------------

/-- A value of an attribute, with the format that it is written in. -/
inductive Written where
  | hexadecimal (n : Int)
  | enumeration (n : Nat)
  | timestamp (n : Int)
  | mode (sigMode : SigMode)

/-- What an attribute denotes. -/
inductive Denoted where
  | number (n : Int)
  | word (s : Str)
deriving DecidableEq, Repr

def Written.text : Written → Str
  | .hexadecimal n => hexCode (unsignedInt n)
  | .enumeration n => snprintf 19 (decimal n)
  | .timestamp n => snprintf 19 (decimal (unsignedInt n).toNat ++ str "i")
  | .mode sigMode => sigModeName sigMode

def Written.denoted : Written → Denoted
  | .hexadecimal n => .number n
  | .enumeration n => .number n
  | .timestamp n => .number n
  | .mode sigMode => .word (sigModeName sigMode)

/-- The attribute `value` holds a hexadecimal number, and the attribute `unix` a decimal one. -/
def readAttribute (name text : Str) : Option Denoted :=
  if name = str "value" then (readHexadecimal text).map fun n => .number n
  else if name = str "unix" then (readDecimal text).map fun n => .number n
  else some (.word text)

-----------------------------------------------------------------------------------------
-- Elements
-----------------------------------------------------------------------------------------

def textElement (name content : Str) : Element Written := .text name [] content

/-- A text with the code that it stands for. -/
def codeElement (name : Str) (code : Written) (content : Str) : Element Written :=
  .text name [(str "value", code)] content

def valueElement (name : Str) (n : Int) : Element Written :=
  .group name [(str "value", .hexadecimal n)] []

def timestampElement (name : Str) (n : Int) : Element Written :=
  .group name [(str "unix", .timestamp n)] []

def errorElement (texts : ErrorTexts) (name : Str) (err : GpgError) : Element Written :=
  codeElement name (.hexadecimal err.toNat) (errorMessage texts err)

def pubkeyAlgoElement (algo : UInt32) : Element Written :=
  codeElement (str "pubkey-algo") (.hexadecimal algo.toNat)
    (algoMessage (gpgmePubkeyAlgoName algo))

def hashAlgoElement (algo : UInt32) : Element Written :=
  codeElement (str "hash-algo") (.hexadecimal algo.toNat)
    (algoMessage (gpgmeHashAlgoName algo))

def sigModeElement (mode : SigMode) : Element Written :=
  .text (str "type")
    [(str "type", .mode mode), (str "value", .enumeration (sigModeCode mode))]
    (sigModeName mode)

def protocolElement (protocol : Protocol) : Element Written :=
  codeElement (str "protocol") (.enumeration (protocolCode protocol))
    (gpgmeGetProtocolName protocol)

def validityElement (validity : Validity) : Element Written :=
  codeElement (str "owner-trust") (.enumeration (validityCode validity))
    (validityName validity)

/-- An element for a string that may be missing. -/
def optional (name : Str) (string : Option Str) : List (Element Written) :=
  string.toList.map (textElement name)

/-- An element around the elements of a list, when there are some. -/
def listed (name : Str) (children : List (Element Written)) : List (Element Written) :=
  if children.isEmpty then [] else [.group name [] children]

/-- An element around strings that are empty when they are missing. -/
def stringElement (name : Str) (string : Option Str) : Element Written :=
  textElement name (string.getD [])

def invalidKeyElement (texts : ErrorTexts) (key : InvalidKey) : Element Written :=
  .group (str "invalid-key") []
    (optional (str "fpr") key.fpr ++ [errorElement texts (str "reason") key.reason])

def EncryptResult.element (texts : ErrorTexts) (res : EncryptResult) : Element Written :=
  .group (str "encrypt-result") []
    (listed (str "invalid-recipients") (res.invalidRecipients.map (invalidKeyElement texts))
      ++ [])

def Recipient.element (texts : ErrorTexts) (recp : Recipient) : Element Written :=
  .group (str "recipient") []
    [textElement (str "keyid") recp.keyid, pubkeyAlgoElement recp.pubkeyAlgo,
      errorElement texts (str "status") recp.status]

def DecryptResult.element (texts : ErrorTexts) (res : DecryptResult) : Element Written :=
  .group (str "decrypt-result") []
    (optional (str "file-name") res.fileName
      ++ (optional (str "unsupported-alogorithm") res.unsupportedAlgorithm
        ++ ((if res.wrongKeyUsage then [.group (str "wrong-key-usage") [] []] else [])
          ++ (listed (str "recipients") (res.recipients.map (Recipient.element texts)) ++ []))))

def NewSignature.element (sig : NewSignature) : Element Written :=
  .group (str "new-signature") []
    (sigModeElement sig.type
      :: pubkeyAlgoElement sig.pubkeyAlgo
      :: hashAlgoElement sig.hashAlgo
      :: timestampElement (str "timestamp") sig.timestamp.toInt
      :: (optional (str "fpr") sig.fpr ++ [valueElement (str "sig-class") sig.sigClass.toNat]))

def SignResult.element (texts : ErrorTexts) (res : SignResult) : Element Written :=
  .group (str "sign-result") []
    (listed (str "invalid-signers") (res.invalidSigners.map (invalidKeyElement texts))
      ++ (listed (str "signatures") (res.signatures.map NewSignature.element) ++ []))

def Signature.element (texts : ErrorTexts) (sig : Signature) : Element Written :=
  .group (str "signature") []
    (valueElement (str "summary") sig.summary.toNat
      :: (optional (str "fpr") sig.fpr
        ++ (errorElement texts (str "status") sig.status
          :: timestampElement (str "timestamp") sig.timestamp.toNat
          :: timestampElement (str "exp-timestamp") sig.expTimestamp.toNat
          :: valueElement (str "wrong-key-usage") sig.wrongKeyUsage.toNat
          :: valueElement (str "pka-trust") sig.pkaTrust.val
          :: valueElement (str "chain-model") sig.chainModel.toNat
          :: valueElement (str "validity") (validityCode sig.validity)
          :: errorElement texts (str "validity-reason") sig.validityReason
          :: pubkeyAlgoElement sig.pubkeyAlgo
          :: hashAlgoElement sig.hashAlgo
          :: (optional (str "pka_address") sig.pkaAddress ++ []))))

def VerifyResult.element (texts : ErrorTexts) (res : VerifyResult) : Element Written :=
  .group (str "verify-result") []
    (optional (str "file-name") res.fileName
      ++ (listed (str "signatures") (res.signatures.map (Signature.element texts)) ++ []))

def ImportStatus.element (texts : ErrorTexts) (stat : ImportStatus) : Element Written :=
  .group (str "import-status") []
    (optional (str "fpr") stat.fpr
      ++ [errorElement texts (str "result") stat.result,
        valueElement (str "status") stat.status.toNat])

/-- The counts of an import, each under its name. -/
def ImportResult.counts (res : ImportResult) : List (Str × Int32) :=
  [(str "considered", res.considered), (str "no-user-id", res.noUserId),
    (str "imported", res.imported), (str "imported-rsa", res.importedRsa),
    (str "unchanged", res.unchanged), (str "new-user-ids", res.newUserIds),
    (str "new-sub-keys", res.newSubKeys), (str "new-signatures", res.newSignatures),
    (str "new-revocations", res.newRevocations), (str "secret-read", res.secretRead),
    (str "secret-imported", res.secretImported), (str "secret-unchanged", res.secretUnchanged),
    (str "skipped-new-keys", res.skippedNewKeys), (str "not-imported", res.notImported)]

def ImportResult.element (texts : ErrorTexts) (res : ImportResult) : Element Written :=
  .group (str "import-result") []
    (res.counts.map (fun count => valueElement count.1 count.2.toInt)
      ++ (listed (str "imports") (res.imports.map (ImportStatus.element texts)) ++ []))

def GenkeyResult.element (res : GenkeyResult) : Element Written :=
  .group (str "genkey-result") []
    (valueElement (str "primary") res.primary.toNat
      :: valueElement (str "sub") res.sub.toNat
      :: (optional (str "fpr") res.fpr ++ []))

def KeylistResult.element (res : KeylistResult) : Element Written :=
  .group (str "keylist-result") [] [valueElement (str "truncated") res.truncated.toNat]

def VfsMountResult.element (res : VfsMountResult) : Element Written :=
  .group (str "vfs-mount-result") [] [stringElement (str "mount-dir") res.mountDir]

def subkeyElement (subkey : Subkey) : Element Written :=
  .group (str "subkey") []
    (textElement (str "keyid") subkey.keyid
      :: (optional (str "fpr") subkey.fpr
        ++ (valueElement (str "secret") subkey.secret.toNat
          :: valueElement (str "is_cardkey") subkey.isCardkey.toNat
          :: (optional (str "card_number") subkey.cardNumber
            ++ (optional (str "curve") subkey.curve ++ [])))))

def userIdElement (uid : UserId) : Element Written :=
  .group (str "uid") []
    [textElement (str "uid") uid.uid, textElement (str "name") uid.name,
      textElement (str "email") uid.email, textElement (str "comment") uid.comment]

def keyElement (key : Key) : Element Written :=
  .group (str "key") []
    [valueElement (str "revoked") key.revoked.toNat,
      valueElement (str "expired") key.expired.toNat,
      valueElement (str "disabled") key.disabled.toNat,
      valueElement (str "invalid") key.invalid.toNat,
      valueElement (str "can-encrypt") key.canEncrypt.toNat,
      valueElement (str "can-sign") key.canSign.toNat,
      valueElement (str "can-certify") key.canCertify.toNat,
      valueElement (str "can-authenticate") key.canAuthenticate.toNat,
      valueElement (str "is-qualified") key.isQualified.toNat,
      valueElement (str "secret") key.secret.toNat,
      protocolElement key.protocol,
      .group (str "issuer") []
        [stringElement (str "serial") key.issuerSerial,
          stringElement (str "name") key.issuerName],
      stringElement (str "chain-id") key.chainId,
      validityElement key.ownerTrust,
      .group (str "subkeys") [] (key.subkeys.map subkeyElement),
      .group (str "uids") [] (key.uids.map userIdElement)]

/-- What a report says. -/
def Report.elements (texts : ErrorTexts) : Report → List (Element Written)
  | .encrypt res => res.toList.map (EncryptResult.element texts)
  | .decrypt res => res.toList.map (DecryptResult.element texts)
  | .sign res => res.toList.map (SignResult.element texts)
  | .verify res => res.toList.map (VerifyResult.element texts)
  | .imports res => res.toList.map (ImportResult.element texts)
  | .genkey res => res.toList.map GenkeyResult.element
  | .keylist res => res.toList.map KeylistResult.element
  | .vfsMount res => res.toList.map VfsMountResult.element
  | .keyList keys => [.group (str "keylist") [] (keys.map keyElement)]

-----------------------------------------------------------------------------------------
-- Writing elements
-----------------------------------------------------------------------------------------

/-- A text as far as its length fits an `int`. -/
def clip (s : Str) : Str := s.take (CInt.toInt s.length).toNat

/-- The elements with the texts that are written for them. -/
def shown (elements : List (Element Written)) : List (Element Str) :=
  mapAll Written.text clip elements

/-- The state when elements have been written. -/
def ResultXmlState.add (state : ResultXmlState) (elements : List (Element Written))
    : ResultXmlState :=
  if elements.isEmpty then state
  else state.completeParent.write (writeLines state.indent (shown elements))

/-- A function writes elements wherever the arrays have room for their tags. -/
def Emits (f : ResultXmlState → Option ResultXmlState) (elements : List (Element Written))
    : Prop :=
  ∀ state : ResultXmlState,
    state.tags.length + depthAll elements ≤ maxTags → f state = some (state.add elements)

/-- A function writes elements and the end tag of the element that they are in. -/
def Closes (f : ResultXmlState → Option ResultXmlState) (elements : List (Element Written))
    : Prop :=
  ∀ state : ResultXmlState,
    state.tags.length + depthAll elements ≤ maxTags
    → f state = resultXmlTagEnd (state.add elements)

variable {f g : ResultXmlState → Option ResultXmlState} {state : ResultXmlState}
variable {name : Str} {element : Element Written} {elements others : List (Element Written)}

@[simp]
theorem completeParent_length : state.completeParent.tags.length = state.tags.length := by
  unfold ResultXmlState.completeParent
  split
  · rfl
  · rename_i tag hadData outer same
    rw [same]
    rfl

@[simp]
theorem completeParent_indent : state.completeParent.indent = state.indent := by
  unfold ResultXmlState.completeParent
  split
  · rfl
  · split <;> rfl

theorem completeParent_idem (bytes : Str)
    : (state.completeParent.write bytes).completeParent = state.completeParent.write bytes := by
  unfold ResultXmlState.completeParent
  rcases same : state.tags with _ | ⟨⟨tag, hadData⟩, outer⟩
  · simp [ResultXmlState.write, same]
  · simp [ResultXmlState.write]

@[simp]
theorem add_nil : state.add [] = state := rfl

@[simp]
theorem add_length : (state.add elements).tags.length = state.tags.length := by
  unfold ResultXmlState.add
  split
  · rfl
  · exact completeParent_length

theorem mapAll_append (first second : List (Element Written))
    : shown (first ++ second) = shown first ++ shown second := by
  unfold shown
  induction first with
  | nil => rfl
  | cons one more ih => rw [List.cons_append, mapAll, mapAll, ih, List.cons_append]

theorem writeLines_append (indent : Nat) (first second : List (Element Str))
    : writeLines indent (first ++ second)
      = writeLines indent first ++ writeLines indent second := by
  induction first with
  | nil => rfl
  | cons one more ih => simp [writeLines, ih]

theorem add_append : (state.add elements).add others = state.add (elements ++ others) := by
  cases elements with
  | nil => rfl
  | cons first more =>
      cases others with
      | nil => rw [List.append_nil, add_nil]
      | cons next last =>
          have indent : (state.add (first :: more)).indent = state.indent :=
            completeParent_indent
          change ((state.completeParent.write _).completeParent).write
              (writeLines (state.add (first :: more)).indent _)
            = state.completeParent.write (writeLines state.indent (shown (_ ++ _)))
          rw [completeParent_idem, indent, mapAll_append, writeLines_append]
          simp [ResultXmlState.write]

-----------------------------------------------------------------------------------------
-- Rules
-----------------------------------------------------------------------------------------

theorem Closes.tagEnd : Closes resultXmlTagEnd [] := fun _ _ => rfl

theorem Closes.append (first : Emits f elements) (rest : Closes g others)
    : Closes (fun state => f state >>= g) (elements ++ others) := by
  intro state room
  rw [depthAll_append] at room
  change (f state).bind g = _
  rw [first state (by omega), Option.bind_some, rest _ (by rw [add_length]; omega), add_append]

theorem Closes.cons (first : Emits f [element]) (rest : Closes g others)
    : Closes (fun state => f state >>= g) (element :: others) :=
  Closes.append first rest

theorem foldl_attribute (attributes : List (Str × Written))
    : (attributes.map fun pair => (pair.1, some pair.2.text)).foldl ResultXmlState.attribute state
      = state.write (writeAttributes (attributes.map fun pair => (pair.1, pair.2.text))) := by
  induction attributes generalizing state with
  | nil => simp [ResultXmlState.write, writeAttributes]
  | cons pair more ih =>
      rw [List.map_cons, List.foldl_cons, ih]
      simp [ResultXmlState.attribute, ResultXmlState.write, writeAttributes]

theorem resultXmlTagStart_eq (attributes : List (Str × Written))
    (room : state.tags.length < maxTags)
    : resultXmlTagStart state name (attributes.map fun pair => (pair.1, some pair.2.text))
      = some {
          indent := state.indent + 2
          tags := (name, .nothing) :: state.completeParent.tags
          written := state.completeParent.written ++ spaces state.indent
            ++ (60 :: name ++ writeAttributes (attributes.map fun pair => (pair.1, pair.2.text)))
        } := by
  unfold resultXmlTagStart
  have same
      : (((resultXmlIndent state.completeParent).write [60]).write name).tags.length
        < maxTags := by
    change state.completeParent.tags.length < maxTags
    rwa [completeParent_length]
  simp only [if_pos same, foldl_attribute]
  simp [resultXmlIndent, ResultXmlState.write, spaces]

theorem completeParent_open {indent : Nat} {outer : List (Str × HadData)} {written : Str}
    : ResultXmlState.completeParent { indent, tags := (name, .nothing) :: outer, written }
      = { indent, tags := (name, .elements) :: outer, written := written ++ [62, 10] } :=
  rfl

theorem Emits.group (attributes : List (Str × Written)) (inner : Closes f elements)
    : Emits
        (fun state =>
          resultXmlTagStart state name (attributes.map fun pair => (pair.1, some pair.2.text))
            >>= f)
        [.group name attributes elements] := by
  intro state room
  simp only [depthAll, Element.depth] at room
  change (resultXmlTagStart state name _).bind f = _
  rw [resultXmlTagStart_eq attributes (by omega), Option.bind_some, inner]
  · cases elements with
    | nil =>
        simp [resultXmlTagEnd, ResultXmlState.write, ResultXmlState.add, shown, mapAll,
          Element.map, writeLines, Element.write]
    | cons first more =>
        simp [resultXmlTagEnd, resultXmlIndent, completeParent_open, ResultXmlState.write,
          ResultXmlState.add, shown, mapAll, Element.map, writeLines, Element.write, closing,
          spaces]
  · change state.completeParent.tags.length + 1 + _ ≤ _
    rw [completeParent_length]
    omega

theorem replacement_eq (c : UInt8) : (resultXmlEscapeReplacement c).getD [c] = escapeByte c := by
  unfold resultXmlEscapeReplacement escapeByte
  split_ifs <;> rfl

theorem escape_clip (s : Str) : resultXmlEscape (some s) = escape (clip s) := by
  change (clip s).flatMap (fun c => (resultXmlEscapeReplacement c).getD [c]) = _
  rw [funext replacement_eq]
  rfl

theorem resultXmlTagData_open {indent : Nat} {outer : List (Str × HadData)} {written : Str}
    (content : Str)
    : resultXmlTagData { indent, tags := (name, .nothing) :: outer, written } (some content)
      = some {
          indent
          tags := (name, .data) :: outer
          written := written ++ [62] ++ escape (clip content)
        } := by
  rw [← escape_clip]
  rfl

theorem resultXmlTagEnd_data {indent : Nat} {outer : List (Str × HadData)} {written : Str}
    : resultXmlTagEnd { indent := indent + 2, tags := (name, .data) :: outer, written }
      = some { indent, tags := outer, written := written ++ [60, 47] ++ name ++ [62, 10] } :=
  rfl

theorem textLine_eq (written blanks attributes data : Str) (name : Str)
    : written ++ blanks ++ (60 :: name ++ attributes) ++ [62] ++ data ++ [60, 47] ++ name
        ++ [62, 10]
      = written
        ++ (blanks ++ (60 :: name ++ attributes ++ [62] ++ data ++ ([60, 47] ++ name ++ [62]))
          ++ [10]) := by
  simp only [List.append_assoc, List.cons_append, List.nil_append]

theorem Emits.text (attributes : List (Str × Written)) (content : Str)
    : Emits
        (fun state =>
          addText state name (attributes.map fun pair => (pair.1, some pair.2.text))
            (some content))
        [.text name attributes content] := by
  intro state room
  simp only [depthAll, Element.depth] at room
  change addText state name _ (some content) = _
  unfold addText
  rw [resultXmlTagStart_eq attributes (by omega)]
  simp only [Option.bind_eq_bind, Option.bind_some, resultXmlTagData_open, resultXmlTagEnd_data]
  simp only [ResultXmlState.add, shown, mapAll, Element.map, writeLines, Element.write, closing,
    List.isEmpty_cons, Bool.false_eq_true, if_false, ResultXmlState.write,
    completeParent_indent, Option.some.injEq, ResultXmlState.mk.injEq, true_and]
  exact textLine_eq _ _ _ _ _

theorem foldlM_add {α : Type} {add : ResultXmlState → α → Option ResultXmlState}
    {tree : α → Element Written} (entries : List α)
    (each : ∀ entry, Emits (fun state => add state entry) [tree entry])
    (room : state.tags.length + depthAll (entries.map tree) ≤ maxTags)
    : entries.foldlM add state = some (state.add (entries.map tree)) := by
  induction entries generalizing state with
  | nil => rfl
  | cons entry more ih =>
      rw [List.map_cons, depthAll] at room
      have one : state.tags.length + depthAll [tree entry] ≤ maxTags := by
        simp only [depthAll]
        omega
      have first : add state entry = some (state.add [tree entry]) := each entry state one
      change (add state entry).bind (fun state => more.foldlM add state) = _
      rw [first, Option.bind_some, ih (by rw [add_length]; omega), add_append]
      rfl

theorem Emits.list {α : Type} {add : ResultXmlState → α → Option ResultXmlState}
    {tree : α → Element Written} {entries : List α}
    (each : ∀ entry, Emits (fun state => add state entry) [tree entry])
    : Emits (addList name add entries) [.group name [] (entries.map tree)] := by
  have loop : Closes (fun state => entries.foldlM add state >>= resultXmlTagEnd)
      (entries.map tree ++ []) := by
    apply Closes.append _ Closes.tagEnd
    exact fun state room => foldlM_add entries each room
  rw [List.append_nil] at loop
  exact Emits.group [] loop

theorem Emits.entries {α : Type} {add : ResultXmlState → α → Option ResultXmlState}
    {tree : α → Element Written} {entries : List α}
    (each : ∀ entry, Emits (fun state => add state entry) [tree entry])
    : Emits (addEntries name add entries) (listed name (entries.map tree)) := by
  intro state room
  unfold addEntries
  unfold listed at room ⊢
  rw [List.isEmpty_map] at room ⊢
  by_cases empty : entries.isEmpty
  · rw [if_pos empty, if_pos empty]
    rfl
  · rw [if_neg empty] at room ⊢
    rw [if_neg empty]
    exact Emits.list each state room

theorem Emits.present {add : ResultXmlState → Option Str → Option ResultXmlState}
    (string : Option Str)
    (each : ∀ s, Emits (fun state => add state (some s)) [textElement name s])
    : Emits (whenSome string add) (optional name string) := by
  cases string with
  | none => exact fun _ _ => rfl
  | some s => exact each s

end Gpgme.ResultXml
