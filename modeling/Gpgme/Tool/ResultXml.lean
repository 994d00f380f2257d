import Gpgme.Keylist.Key
import Gpgme.Lib.Hexadecimal
import Gpgme.Lib.XmlTrees

/-! The output of results and keys as XML in `gpgme-tool.c`. Buffers for escaped text are
allocated successfully. The numbers in the results have the widths of their C types.
-/

namespace Gpgme.ResultXml

open CString

-----------------------------------------------------------------------------------------
-- The state of the output
-----------------------------------------------------------------------------------------

/-- `MAX_TAGS`. -/
def maxTags : Nat := 20

/-- `had_data`: nothing has been written behind the tag, or elements, or text. -/
inductive HadData where
  | nothing | elements | data
deriving DecidableEq, Repr

/-- `struct result_xml_state`. The arrays `tag` and `had_data` are a list as far as they are in
use, the innermost tag first, and `next_tag` is its length; `written` is what the callback got.
-/
structure ResultXmlState where
  indent : Nat
  tags : List (Str × HadData) := []
  written : Str := []

/-- `result_init`. -/
def resultInit (indent : Nat) : ResultXmlState := { indent }

/-- `(*cb) (hook, bytes, strlen (bytes))`. -/
def ResultXmlState.write (state : ResultXmlState) (bytes : Str) : ResultXmlState :=
  { state with written := state.written ++ bytes }

/-- `result_xml_indent`. -/
def resultXmlIndent (state : ResultXmlState) : ResultXmlState :=
  state.write (List.replicate state.indent 32)

/-- One attribute of a start tag. -/
def ResultXmlState.attribute (state : ResultXmlState) (attr : Str × Option Str)
    : ResultXmlState :=
  ((((state.write [32]).write attr.1).write [61, 34]).write (attr.2.getD (str "(null)"))).write
    [34]

/-- The start tag of the enclosing element is completed. -/
def ResultXmlState.completeParent (state : ResultXmlState) : ResultXmlState :=
  match state.tags with
  | [] => state
  | (tag, hadData) :: outer =>
      let state := if hadData = .nothing then state.write [62, 10] else state
      { state with tags := (tag, .elements) :: outer }

/-- `result_xml_tag_start`; `none` is an access outside the arrays. -/
def resultXmlTagStart (state : ResultXmlState) (name : Str) (attrs : List (Str × Option Str))
    : Option ResultXmlState :=
  let state := ((resultXmlIndent state.completeParent).write [60]).write name
  if state.tags.length < maxTags then
    let tags := (name, HadData.nothing) :: state.tags
    some (attrs.foldl ResultXmlState.attribute { state with tags, indent := state.indent + 2 })
  else none

/-- `result_xml_escape_replacement`. -/
def resultXmlEscapeReplacement (c : UInt8) : Option Str :=
  if c = 60 then some (str "&lt;")
  else if c = 62 then some (str "&gt;")
  else if c = 38 then some (str "&amp;")
  else none

/-- `result_xml_escape`; the length of the text is kept in an `int`. -/
def resultXmlEscape (data : Option Str) : Str :=
  match data with
  | none => []
  | some data =>
      let dataLen := CInt.toInt data.length
      (data.take dataLen.toNat).flatMap fun c => (resultXmlEscapeReplacement c).getD [c]

/-- `result_xml_tag_data`; the newline is written with the NUL behind it. -/
def resultXmlTagData (state : ResultXmlState) (data : Option Str) : Option ResultXmlState :=
  match state.tags with
  | [] => none
  | (tag, hadData) :: outer =>
      let state :=
        if hadData = .nothing then state.write [62]
        else resultXmlIndent (state.write [10, 0])
      let state := { state with tags := (tag, .data) :: outer }
      some (state.write (resultXmlEscape data))

/-- `result_xml_tag_end`. -/
def resultXmlTagEnd (state : ResultXmlState) : Option ResultXmlState :=
  match state.tags with
  | [] => none
  | (tag, hadData) :: outer =>
      let state := { state with tags := outer, indent := state.indent - 2 }
      if hadData = .nothing then some (state.write [32, 47, 62, 10])
      else
        let state := if hadData = .elements then resultXmlIndent state else state
        some (((state.write [60, 47]).write tag).write [62, 10])

-----------------------------------------------------------------------------------------
-- Names
-----------------------------------------------------------------------------------------

/-- `gpgme_pubkey_algo_name`. -/
def gpgmePubkeyAlgoName (algo : UInt32) : Option Str :=
  match algo.toNat with
  | 1 => some (str "RSA")
  | 2 => some (str "RSA-E")
  | 3 => some (str "RSA-S")
  | 16 => some (str "ELG-E")
  | 17 => some (str "DSA")
  | 18 => some (str "ECC")
  | 20 => some (str "ELG")
  | 301 => some (str "ECDSA")
  | 302 => some (str "ECDH")
  | 303 => some (str "EdDSA")
  | _ => none

/-- `gpgme_hash_algo_name`. -/
def gpgmeHashAlgoName (algo : UInt32) : Option Str :=
  match algo.toNat with
  | 1 => some (str "MD5")
  | 2 => some (str "SHA1")
  | 3 => some (str "RIPEMD160")
  | 5 => some (str "MD2")
  | 6 => some (str "TIGER192")
  | 7 => some (str "HAVAL")
  | 8 => some (str "SHA256")
  | 9 => some (str "SHA384")
  | 10 => some (str "SHA512")
  | 11 => some (str "SHA224")
  | 301 => some (str "MD4")
  | 302 => some (str "CRC32")
  | 303 => some (str "CRC32RFC1510")
  | 304 => some (str "CRC24RFC2440")
  | _ => none

/-- The values of `gpgme_protocol_t`. -/
def protocolCode : Protocol → Nat
  | .openpgp => 0
  | .cms => 1
  | .gpgconf => 2
  | .assuan => 3
  | .g13 => 4
  | .uiserver => 5
  | .spawn => 6
  | .default => 254
  | .unknown => 255

/-- `gpgme_get_protocol_name`, which knows every value of the enumeration. -/
def gpgmeGetProtocolName : Protocol → Str
  | .openpgp => str "OpenPGP"
  | .cms => str "CMS"
  | .gpgconf => str "GPGCONF"
  | .assuan => str "Assuan"
  | .g13 => str "G13"
  | .uiserver => str "UIServer"
  | .spawn => str "Spawn"
  | .default => str "default"
  | .unknown => str "unknown"

/-- The values of `gpgme_validity_t`. -/
def validityCode : Validity → Nat
  | .unknown => 0
  | .undefined => 1
  | .never => 2
  | .marginal => 3
  | .full => 4
  | .ultimate => 5

/-- The texts in `result_add_validity`. -/
def validityName : Validity → Str
  | .undefined => str "undefined"
  | .never => str "never"
  | .marginal => str "marginal"
  | .full => str "full"
  | .ultimate => str "ultimate"
  | .unknown => str "unknown"

/-- The values of `gpgme_sig_mode_t`. -/
def sigModeCode : SigMode → Nat
  | .normal => 0
  | .detach => 1
  | .clear => 2

/-- The texts in `result_add_sig_mode`. -/
def sigModeName : SigMode → Str
  | .normal => str "normal"
  | .detach => str "detach"
  | .clear => str "clear"

-----------------------------------------------------------------------------------------
-- Elements for single values
-----------------------------------------------------------------------------------------

/-- What libgpg-error knows about errors. -/
structure ErrorTexts where
  gpgStrerror : GpgError → Str
  gpgStrsource : GpgError → Str

/-- The conversion of an argument to `unsigned int`. -/
def unsignedInt (n : Int) : UInt32 := UInt32.ofNat (CInt.toUnsigned n)

/-- What `snprintf` leaves in a buffer when it is told this size. -/
def snprintf (size : Nat) (text : Str) : Str := text.take (size - 1)

/-- A code in the format `0x%x`. -/
def hexCode (n : UInt32) : Str := snprintf 19 ([48, 120] ++ hexadecimal n.toNat)

/-- The text of an error. -/
def errorMessage (texts : ErrorTexts) (err : GpgError) : Str :=
  snprintf 1023
    (texts.gpgStrerror err ++ str " <" ++ texts.gpgStrsource err ++ str ">")

/-- The text of an algorithm; a null pointer is shown as `(null)`. -/
def algoMessage (name : Option Str) : Str := snprintf 79 (name.getD (str "(null)"))

/-- A start tag, a text and the end tag. -/
def addText (state : ResultXmlState) (name : Str) (attrs : List (Str × Option Str))
    (data : Option Str)
    : Option ResultXmlState := do
  let state ← resultXmlTagStart state name attrs
  let state ← resultXmlTagData state data
  resultXmlTagEnd state

/-- `result_add_error`. -/
def resultAddError (texts : ErrorTexts) (state : ResultXmlState) (name : Str) (err : GpgError)
    : Option ResultXmlState :=
  addText state name [(str "value", some (hexCode err))] (some (errorMessage texts err))

/-- `result_add_pubkey_algo`. -/
def resultAddPubkeyAlgo (state : ResultXmlState) (name : Str) (algo : UInt32)
    : Option ResultXmlState :=
  addText state name [(str "value", some (hexCode algo))]
    (some (algoMessage (gpgmePubkeyAlgoName algo)))

/-- `result_add_hash_algo`. -/
def resultAddHashAlgo (state : ResultXmlState) (name : Str) (algo : UInt32)
    : Option ResultXmlState :=
  addText state name [(str "value", some (hexCode algo))]
    (some (algoMessage (gpgmeHashAlgoName algo)))

/-- `result_add_keyid`. -/
def resultAddKeyid (state : ResultXmlState) (name : Str) (keyid : Option Str)
    : Option ResultXmlState :=
  addText state name [] keyid

/-- `result_add_fpr`. -/
def resultAddFpr (state : ResultXmlState) (name : Str) (fpr : Option Str)
    : Option ResultXmlState :=
  addText state name [] fpr

/-- `result_add_timestamp`, with its format `%ui`. -/
def resultAddTimestamp (state : ResultXmlState) (name : Str) (timestamp : UInt32)
    : Option ResultXmlState := do
  let code := snprintf 19 (decimal timestamp.toNat ++ str "i")
  let state ← resultXmlTagStart state name [(str "unix", some code)]
  resultXmlTagEnd state

/-- `result_add_sig_mode`. -/
def resultAddSigMode (state : ResultXmlState) (name : Str) (sigMode : SigMode)
    : Option ResultXmlState :=
  let code := snprintf 19 (decimal (sigModeCode sigMode))
  let mode := sigModeName sigMode
  addText state name [(str "type", some mode), (str "value", some code)] (some mode)

/-- `result_add_protocol`. -/
def resultAddProtocol (state : ResultXmlState) (name : Str) (protocol : Protocol)
    : Option ResultXmlState :=
  let code := snprintf 19 (decimal (protocolCode protocol))
  addText state name [(str "value", some code)] (some (gpgmeGetProtocolName protocol))

/-- `result_add_validity`. -/
def resultAddValidity (state : ResultXmlState) (name : Str) (validity : Validity)
    : Option ResultXmlState :=
  let code := snprintf 19 (decimal (validityCode validity))
  addText state name [(str "value", some code)] (some (validityName validity))

/-- `result_add_value`. -/
def resultAddValue (state : ResultXmlState) (name : Str) (val : UInt32)
    : Option ResultXmlState := do
  let state ← resultXmlTagStart state name [(str "value", some (hexCode val))]
  resultXmlTagEnd state

/-- `result_add_string`. -/
def resultAddString (state : ResultXmlState) (name : Str) (string : Option Str)
    : Option ResultXmlState :=
  addText state name [] (some (string.getD []))

/-- A call that is made only when a pointer is not null. -/
def whenSome (pointer : Option Str)
    (add : ResultXmlState → Option Str → Option ResultXmlState) (state : ResultXmlState)
    : Option ResultXmlState :=
  if pointer.isSome then add state pointer else some state

end Gpgme.ResultXml
