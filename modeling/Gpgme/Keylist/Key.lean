import Mathlib.Data.List.DropRight
import Gpgme.Conversion

/-! Keys and their parts, from `key.c`, `mbox-util.c` and `sig-notation.c`. User IDs and key
signatures carry their address, because the key listing keeps pointers to them; the lists they
are linked in are only appended to.
-/

namespace Gpgme

open CString

-----------------------------------------------------------------------------------------
-- Data types
-----------------------------------------------------------------------------------------

/-- `gpgme_keyorg_t`. -/
inductive Keyorg where
  | unknown | ks | dane | wkd | url | file | self | other
deriving DecidableEq, Repr

/-- `struct _gpgme_key_sig`; without a user ID the parts of one are null. -/
structure KeySig where
  addr : Nat := 0
  revoked : Bool := false
  exportable : Bool := false
  pubkeyAlgo : Int := 0
  keyid : Str := []
  timestamp : Int := 0
  expires : Int := 0
  status : GpgError := 0
  uid : Str := []
  name : Option Str := none
  email : Option Str := none
  comment : Option Str := none
  sigClass : Nat := 0
  notations : List SigNotation := []

/-- `struct _gpgme_user_id`. -/
structure UserId where
  addr : Nat
  revoked : Bool := false
  invalid : Bool := false
  validity : Validity := .unknown
  uid : Str
  name : Str
  email : Str
  comment : Str
  address : Option Str
  origin : Keyorg := .unknown
  lastUpdate : Nat := 0
  tofu : Option TofuInfo := none
  signatures : List KeySig := []

/-- `struct _gpgme_subkey`. -/
structure Subkey where
  revoked : Bool := false
  expired : Bool := false
  disabled : Bool := false
  invalid : Bool := false
  canEncrypt : Bool := false
  canSign : Bool := false
  canCertify : Bool := false
  secret : Bool := false
  canAuthenticate : Bool := false
  isQualified : Bool := false
  isCardkey : Bool := false
  isDeVs : Bool := false
  pubkeyAlgo : Int := 0
  length : Nat := 0
  keyid : Str := []
  fpr : Option Str := none
  timestamp : Int := 0
  expires : Int := 0
  cardNumber : Option Str := none
  curve : Option Str := none
  keygrip : Option Str := none

/-- `struct _gpgme_key`. -/
structure Key where
  revoked : Bool := false
  expired : Bool := false
  disabled : Bool := false
  invalid : Bool := false
  canEncrypt : Bool := false
  canSign : Bool := false
  canCertify : Bool := false
  secret : Bool := false
  canAuthenticate : Bool := false
  isQualified : Bool := false
  origin : Keyorg := .unknown
  protocol : Protocol := .openpgp
  issuerSerial : Option Str := none
  issuerName : Option Str := none
  chainId : Option Str := none
  ownerTrust : Validity := .unknown
  subkeys : List Subkey := []
  uids : List UserId := []
  keylistMode : Nat := 0
  fpr : Option Str := none
  lastUpdate : Nat := 0

-----------------------------------------------------------------------------------------
-- User IDs
-----------------------------------------------------------------------------------------

def isBlank (c : UInt8) : Bool := c == 32 || c == 9

/-- `set_user_id_part`: the text without the blanks at its end. -/
def setUserIdPart (part : Str) : Str := part.rdropWhile isBlank

/-- The variables of `parse_user_id`; `part` is the text from `start` on. -/
structure UserIdParser where
  inName : Bool := false
  inEmail : Nat := 0
  inComment : Nat := 0
  part : Str := []
  name : Option Str := none
  email : Option Str := none
  comment : Option Str := none

/-- Store the name in front of an angle bracket or a parenthesis. -/
def UserIdParser.endName (parser : UserIdParser) : UserIdParser :=
  if parser.inName then
    { parser with name := parser.name.or (some (setUserIdPart parser.part)), inName := false }
  else
    parser

/-- The body of the loop of `parse_user_id`. -/
def UserIdParser.step (parser : UserIdParser) (c : UInt8) : UserIdParser :=
  if parser.inEmail ≠ 0 then
    if c = 60 then
      { parser with inEmail := parser.inEmail + 1, part := parser.part ++ [c] }
    else if c = 62 then
      let email :=
        if parser.inEmail = 1 then parser.email.or (some (setUserIdPart parser.part))
        else parser.email
      { parser with inEmail := parser.inEmail - 1, email, part := parser.part ++ [c] }
    else
      { parser with part := parser.part ++ [c] }
  else if parser.inComment ≠ 0 then
    if c = 40 then
      { parser with inComment := parser.inComment + 1, part := parser.part ++ [c] }
    else if c = 41 then
      let comment :=
        if parser.inComment = 1 then parser.comment.or (some (setUserIdPart parser.part))
        else parser.comment
      { parser with inComment := parser.inComment - 1, comment, part := parser.part ++ [c] }
    else
      { parser with part := parser.part ++ [c] }
  else if c = 60 then
    { parser.endName with inEmail := 1, part := [] }
  else if c = 40 then
    { parser.endName with inComment := 1, part := [] }
  else if !parser.inName && !isBlank c then
    { parser with inName := true, part := [c] }
  else
    { parser with part := parser.part ++ [c] }

/-- `parse_user_id`: name, email and comment. Parts that are not found are empty. -/
def parseUserId (src : Str) : Str × Str × Str :=
  let parser := (src.foldl UserIdParser.step {}).endName
  (parser.name.getD [], parser.email.getD [], parser.comment.getD [])

/-- `parse_x509_user_id`. -/
def parseX509UserId (src : Str) : Str × Str × Str :=
  if src.head? = some 60 ∧ src.getLast? = some 62 then ([], src, []) else ([], [], [])

/-- The parts of a user ID according to the protocol of its key. -/
def userIdParts (protocol : Protocol) (src : Str) : Str × Str × Str :=
  if protocol = .cms then parseX509UserId src else parseUserId src

-----------------------------------------------------------------------------------------
-- Mailboxes
-----------------------------------------------------------------------------------------

/-- `ascii_strlwr`. -/
def asciiStrlwr (string : Str) : Str :=
  string.map (fun c => if 65 ≤ c ∧ c ≤ 90 then c ||| 32 else c)

def countChr (string : Str) (c : UInt8) : Nat := string.count c

/-- `string_has_ctrl_or_space`. -/
def stringHasCtrlOrSpace (string : Str) : Bool := string.any (· ≤ 32)

/-- `strstr` or `my_memstr` with two dots. -/
def hasDotdot : Str → Bool
  | [] => false
  | c :: rest => (c == 46 && rest.head? == some 46) || hasDotdot rest

/-- `has_dotdot_after_at`. -/
def hasDotdotAfterAt (string : Str) : Bool := hasDotdot (string.dropWhile (· != 64)).tail

/-- The characters that `has_invalid_email_chars` takes on both sides of the at-sign. -/
def validEmailChars : Str :=
  str "01234567890_-.abcdefghijklmnopqrstuvwxyzABCDEFGHIJKLMNOPQRSTUVWXYZ"

/-- The characters that are also valid in front of the at-sign. -/
def validLocalChars : Str := str "!#$%&'*+/=?^\x60\x7b|\x7d~"

/-- The loop of `has_invalid_email_chars`. -/
def hasInvalidEmailChars : Bool → Str → Bool
  | _, [] => false
  | atSeen, c :: rest =>
      if 128 ≤ c then hasInvalidEmailChars atSeen rest
      else if c = 64 then hasInvalidEmailChars true rest
      else if !atSeen && !(validEmailChars.contains c || validLocalChars.contains c) then true
      else if atSeen && !validEmailChars.contains c then true
      else hasInvalidEmailChars atSeen rest

/-- `_gpgme_is_valid_mailbox`. -/
def isValidMailbox (name : Str) : Bool :=
  name != [] && !hasInvalidEmailChars false name && countChr name 64 == 1
    && name.head? != some 64 && name.getLast? != some 64 && name.getLast? != some 46
    && !hasDotdot name

/-- `_gpgme_mailbox_from_userid`. -/
def mailboxFromUserid (userid : Str) : Option Str :=
  match userid.dropWhile (· != 60) with
  | _ :: s =>
      let result := s.takeWhile (· != 62)
      if result = s ∨ result = [] then none
      else if countChr result 64 ≠ 1 || result.head? == some 64 || result.getLast? == some 64
          || result.getLast? == some 46 || stringHasCtrlOrSpace result
          || hasDotdotAfterAt result then
        none
      else
        some (asciiStrlwr result)
  | [] => if isValidMailbox userid then some (asciiStrlwr userid) else none

-----------------------------------------------------------------------------------------
-- Building keys
-----------------------------------------------------------------------------------------

/-- `_gpgme_key_add_subkey`. -/
def Key.addSubkey (key : Key) (subkey : Subkey) : Key :=
  { key with subkeys := key.subkeys ++ [subkey] }

/-- The user ID that `_gpgme_key_append_name` makes of a name. -/
def newUserId (addr : Nat) (protocol : Protocol) (src : Str) (convert : Bool) : UserId :=
  let uid := if convert then decodeCString src else src
  let (name, email, comment) := userIdParts protocol uid
  let address := mailboxFromUserid uid
  if email = [] ∧ address = some name then
    { addr, uid, name := [], email := name, comment, address }
  else
    { addr, uid, name, email, comment, address }

/-- `_gpgme_key_append_name`. -/
def Key.appendName (key : Key) (addr : Nat) (src : Str) (convert : Bool) : Key :=
  { key with uids := key.uids ++ [newUserId addr key.protocol src convert] }

/-- The signature that `_gpgme_key_add_sig` makes of a name. -/
def newKeySig (protocol : Protocol) (src : Option Str) : KeySig :=
  match src with
  | none => {}
  | some src =>
      let uid := decodeCString src
      let (name, email, comment) := userIdParts protocol uid
      { uid, name := some name, email := some email, comment := some comment }

-----------------------------------------------------------------------------------------
-- Notations
-----------------------------------------------------------------------------------------

/-- `_gpgme_sig_notation_create`. -/
def sigNotationCreate (name value : Option Str) (critical humanReadable : Bool)
    : Except GpgError SigNotation :=
  if name.isSome && !humanReadable then .error (gpgError ErrCode.invValue)
  else
    .ok {
      name,
      value,
      valueLen := (value.getD []).length,
      critical,
      humanReadable,
      flagCritical := critical,
      flagHumanReadable := humanReadable }

/-- `RFC2440_GET_WORD`. -/
def getWord (buffer : Nat → UInt8) (pos : Nat) : Nat :=
  (buffer pos).toNat * 256 + (buffer (pos + 1)).toNat

/-- `_gpgme_parse_notation`. The decoded data may be shorter than the length that the record
states; behind its terminator the buffer holds what the memory held before.
-/
def parseSigNotation (memory : Nat → UInt8) (type pkflags len : Int) (data : Str)
    : Except GpgError (Option SigNotation) :=
  if type ≠ 20 ∧ type ≠ 26 then .ok none
  else if CInt.toSize len > data.length then .error (gpgError ErrCode.invEngine)
  else if type = 20 ∧ len < 8 then .error (gpgError ErrCode.invEngine)
  else
    let decoded := decodePercentBinary data
    let buffer (pos : Nat) : UInt8 :=
      if pos = decoded.length then 0 else decoded.getD pos (memory pos)
    let critical := pkflags / 2 % 2 == 1
    if type = 20 then
      let nameLen := getWord buffer 4
      let valueLen := getWord buffer 6
      if 8 + nameLen + valueLen > len.toNat then .error (gpgError ErrCode.invEngine)
      else
        let name := (List.range nameLen).map (fun i => buffer (8 + i))
        let value := (List.range valueLen).map (fun i => buffer (8 + nameLen + i))
        (sigNotationCreate (some name) (some value) critical (128 ≤ buffer 0)).map some
    else
      (sigNotationCreate none (some (decoded.takeWhile (· != 0))) critical false).map some

end Gpgme
