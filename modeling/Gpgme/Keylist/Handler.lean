import Gpgme.Keylist.Key
import Gpgme.Operation.Verify

/-! The colon line handler of `keylist.c`. Every access to an array or through a pointer that
the source makes is a partial operation here, so that a run of the handler shows whether all of
them are valid.
-/

namespace Gpgme

open CString

-----------------------------------------------------------------------------------------
-- Operation data
-----------------------------------------------------------------------------------------

/-- The operation data of `keylist.c`. The pointers into the key that is being read are
addresses; objects are numbered as they are allocated.
-/
structure KeylistData where
  truncated : Bool := false
  keydbSearchErr : GpgError := 0
  tmpKey : Option Key := none
  tmpUid : Option Nat := none
  tmpKeysig : Option Nat := none
  keyCond : Bool := false
  keyQueue : List Key := []
  allocated : Nat := 0

/-- The fields of the context that the handler reads. -/
structure KeylistCtx where
  protocol : Protocol := .openpgp
  keylistMode : Nat := 0

/-- `GPGME_KEYLIST_MODE_WITH_SECRET`. -/
def KeylistCtx.withSecret (ctx : KeylistCtx) : Bool := ctx.keylistMode.testBit 4

/-- What the handler finds in memory that nothing was stored in: the slots of the field array
that the line does not fill, where reading a wild pointer ends the run, and a decoding buffer.
-/
structure Uninitialized where
  slot : Nat → Option Str
  buffer : Nat → UInt8

/-- `_gpgme_op_keylist_event_cb` for the event that `finish_key` sends. -/
def KeylistData.queueKey (opd : KeylistData) (key : Key) : KeylistData :=
  { opd with keyQueue := opd.keyQueue ++ [key], keyCond := true }

/-- `finish_key`. -/
def KeylistData.finishKey (opd : KeylistData) : KeylistData :=
  let opd' := { opd with tmpKey := none, tmpUid := none, tmpKeysig := none }
  match opd.tmpKey with
  | none => opd'
  | some key => opd'.queueKey key

-----------------------------------------------------------------------------------------
-- Fields
-----------------------------------------------------------------------------------------

/-- `NR_FIELDS`. -/
def nrFields : Nat := 20

/-- The texts between the colons of a line. -/
def colonFields : Str → List Str
  | [] => [[]]
  | c :: rest =>
      if c = 58 then [] :: colonFields rest
      else
        match colonFields rest with
        | [] => [[c]]
        | field :: fields => (c :: field) :: fields

/-- The loop that splits a line. -/
def lineFields (line : Str) : List Str := (colonFields line).take nrFields

/-- The field array of a line with the memory behind it. -/
structure Fields where
  texts : List Str
  memory : Uninitialized

def Fields.ofLine (memory : Uninitialized) (line : Str) : Fields where
  texts := lineFields line
  memory := memory

namespace Fields

/-- The variable `fields`. -/
def count (fields : Fields) : Nat := fields.texts.length

/-- `field[index]`. -/
def read (fields : Fields) (index : Nat) : Option Str :=
  match fields.texts[index]? with
  | some text => some text
  | none => fields.memory.slot index

/-- `if (fields >= least) update (value, field[index]);` -/
def update {α : Type} (fields : Fields) (least index : Nat) (set : α → Str → α) (value : α)
    : Option α :=
  if least ≤ fields.count then (fields.read index).map (set value) else some value

/-- `if (fields >= least && condition) update (value, field[index]);` -/
def updateIf {α : Type} (fields : Fields) (condition : Bool) (least index : Nat)
    (set : α → Str → α) (value : α)
    : Option α :=
  if condition then fields.update least index set value else some value

/-- `(fields >= least) ? field[index] : NULL` -/
def optional (fields : Fields) (least index : Nat) : Option (Option Str) :=
  if least ≤ fields.count then (fields.read index).map some else some none

end Fields

/-- The record types. -/
inductive Rectype where
  | none | sig | uid | tfs | sub | pub | fpr | grp | ssb | sec | crt | crs | rev | spk
deriving DecidableEq, Repr

/-- The types that the source only takes together with `&& key`. -/
def keyRectypeOf (name : Str) : Rectype :=
  if name = str "fpr" then .fpr
  else if name = str "grp" then .grp
  else if name = str "uid" then .uid
  else if name = str "tfs" then .tfs
  else if name = str "sub" then .sub
  else if name = str "ssb" then .ssb
  else if name = str "spk" then .spk
  else .none

/-- The type of a record. -/
def rectypeOf (name : Str) (key : Bool) : Rectype :=
  if name = str "sig" then .sig
  else if name = str "rev" then .rev
  else if name = str "pub" then .pub
  else if name = str "sec" then .sec
  else if name = str "crt" then .crt
  else if name = str "crs" then .crs
  else if key then keyRectypeOf name
  else .none

/-- Whether the record starts a keyblock. -/
def Rectype.startsKey : Rectype → Bool
  | pub | sec | crt | crs => true
  | _ => false

/-- Whether the record is about an X.509 certificate. -/
def Rectype.isX509 : Rectype → Bool
  | crt | crs => true
  | _ => false

-----------------------------------------------------------------------------------------
-- Flags and numbers
-----------------------------------------------------------------------------------------

/-- The letters in front of the first digit. -/
def leadingLetters (src : Str) : Str := src.takeWhile (fun c => !(48 ≤ c && c ≤ 57))

/-- `set_subkey_trust_info`. -/
def Subkey.setTrustInfo (subkey : Subkey) (src : Str) : Subkey :=
  (leadingLetters src).foldl
    (fun subkey c =>
      match c with
      | 101 => { subkey with expired := true }
      | 114 => { subkey with revoked := true }
      | 100 => { subkey with disabled := true }
      | 105 => { subkey with invalid := true }
      | _ => subkey)
    subkey

/-- `set_subkey_capability`. -/
def Subkey.setCapability (subkey : Subkey) (src : Str) : Subkey :=
  src.foldl
    (fun subkey c =>
      match c with
      | 101 => { subkey with canEncrypt := true }
      | 115 => { subkey with canSign := true }
      | 99 => { subkey with canCertify := true }
      | 97 => { subkey with canAuthenticate := true }
      | 113 => { subkey with isQualified := true }
      | 100 => { subkey with disabled := true }
      | _ => subkey)
    subkey

/-- Values up to 1 are ignored. -/
def Subkey.setLength (subkey : Subkey) (src : Str) : Subkey :=
  if 1 < atoi src then { subkey with length := (atoi src).toNat } else subkey

def Subkey.setPubkeyAlgo (protocol : Protocol) (subkey : Subkey) (src : Str) : Subkey :=
  if 1 ≤ atoi src ∧ atoi src < 128 then
    { subkey with pubkeyAlgo := mapPkAlgo (atoi src) protocol }
  else
    subkey

def Subkey.setTimestamp (subkey : Subkey) (src : Str) : Subkey :=
  { subkey with timestamp := (parseTimestamp src).1 }

def Subkey.setExpires (subkey : Subkey) (src : Str) : Subkey :=
  { subkey with expires := (parseTimestamp src).1 }

def Subkey.setCurve (subkey : Subkey) (src : Str) : Subkey :=
  if src = [] then subkey else { subkey with curve := some src }

def Subkey.setCompliance (subkey : Subkey) (src : Str) : Subkey :=
  if src ≠ [] ∧ complianceFlags src then { subkey with isDeVs := true } else subkey

/-- Change the subkey that was added last. -/
def Key.onSubkey (set : Subkey → Str → Subkey) (key : Key) (src : Str) : Key :=
  { key with subkeys := key.subkeys.modifyLast (set · src) }

/-- `set_mainkey_trust_info`. -/
def Key.setTrustInfo (key : Key) (src : Str) : Key :=
  (leadingLetters src).foldl
    (fun key c =>
      match c with
      | 101 => { key with expired := true }
      | 114 => { key with revoked := true }
      | 100 => { key with disabled := true }
      | 105 => { key with invalid := true }
      | _ => key)
    { key with subkeys := key.subkeys.modifyHead (·.setTrustInfo src) }

/-- `set_mainkey_capability`. -/
def Key.setCapability (key : Key) (src : Str) : Key :=
  src.foldl
    (fun key c =>
      match c with
      | 100 | 68 => { key with disabled := true }
      | 101 | 69 => { key with canEncrypt := true }
      | 115 | 83 => { key with canSign := true }
      | 99 | 67 => { key with canCertify := true }
      | 97 | 65 => { key with canAuthenticate := true }
      | 113 | 81 => { key with isQualified := true }
      | _ => key)
    { key with subkeys := key.subkeys.modifyHead (·.setCapability src) }

/-- `set_ownertrust`. -/
def Key.setOwnertrust (key : Key) (src : Str) : Key :=
  (leadingLetters src).foldl
    (fun key c =>
      match c with
      | 110 => { key with ownerTrust := .never }
      | 109 => { key with ownerTrust := .marginal }
      | 102 => { key with ownerTrust := .full }
      | 117 => { key with ownerTrust := .ultimate }
      | _ => { key with ownerTrust := .unknown })
    key

/-- `set_userid_flags`. -/
def UserId.setFlags (uid : UserId) (src : Str) : UserId :=
  (leadingLetters src).foldl
    (fun uid c =>
      match c with
      | 114 => { uid with revoked := true }
      | 105 => { uid with invalid := true }
      | 110 => { uid with validity := .never }
      | 109 => { uid with validity := .marginal }
      | 102 => { uid with validity := .full }
      | 117 => { uid with validity := .ultimate }
      | _ => uid)
    uid

/-- `parse_keyorg`. -/
def parseKeyorg (string : Str) : Keyorg :=
  match atoi string with
  | 0 => .unknown
  | 1 | 2 => .ks
  | 3 => .dane
  | 4 => .wkd
  | 5 => .url
  | 6 => .file
  | 7 => .self
  | _ => .other

def isHexDigit (c : UInt8) : Bool := digitValue c < 16

/-- `parse_sec_field15` for the subkey that was added last. -/
def Key.parseSecField15 (key : Key) (field : Str) : Key :=
  let onSubkey (set : Subkey → Subkey) : Key :=
    { key with secret := true, subkeys := key.subkeys.modifyLast set }
  match field with
  | [] => key
  | c :: _ =>
      if c = 35 then onSubkey (fun subkey => { subkey with secret := false })
      else if isHexDigit c then
        onSubkey (fun subkey => { subkey with isCardkey := true, cardNumber := some field })
      else if c = 43 then onSubkey (fun subkey => { subkey with secret := true })
      else key

-----------------------------------------------------------------------------------------
-- Records of keys and subkeys
-----------------------------------------------------------------------------------------

/-- The fields that a key and a subkey have in common, apart from the key ID. -/
def readAlgorithm (ctx : KeylistCtx) (fields : Fields) (key : Key) : Option Key := do
  let key ← fields.update 3 2 (Key.onSubkey Subkey.setLength) key
  fields.update 4 3 (Key.onSubkey (Subkey.setPubkeyAlgo ctx.protocol)) key

def readTimes (fields : Fields) (key : Key) : Option Key := do
  let key ← fields.update 6 5 (Key.onSubkey Subkey.setTimestamp) key
  fields.update 7 6 (Key.onSubkey Subkey.setExpires) key

/-- The smartcard, the curve and the compliance flags. -/
def readSecretAndCurve (ctx : KeylistCtx) (fields : Fields) (key : Key) : Option Key := do
  let key ← fields.updateIf (key.secret || ctx.withSecret) 15 14 Key.parseSecField15 key
  let key ← fields.update 17 16 (Key.onSubkey Subkey.setCurve) key
  fields.update 17 17 (Key.onSubkey Subkey.setCompliance) key

/-- The key of a keyblock before its fields are read. -/
def freshKey (ctx : KeylistCtx) (rectype : Rectype) : Key where
  keylistMode := ctx.keylistMode
  secret := rectype = .sec ∨ rectype = .crs
  protocol := if rectype.isX509 then .cms else .openpgp
  subkeys := [{ secret := rectype = .sec ∨ rectype = .crs }]

/-- A record that starts a keyblock. -/
def newKeyblock (ctx : KeylistCtx) (rectype : Rectype) (fields : Fields) : Option Key := do
  let key ← fields.update 2 1 Key.setTrustInfo (freshKey ctx rectype)
  let key ← readAlgorithm ctx fields key
  -- Short key IDs come from the listing of an external keyserver.
  let key ←
    fields.update 5 4
      (Key.onSubkey fun subkey src =>
        if src.length ≤ 16 then { subkey with keyid := src } else subkey)
      key
  let key ← readTimes fields key
  let key ←
    fields.updateIf rectype.isX509 8 7 (fun key src => { key with issuerSerial := some src }) key
  let key ← fields.update 9 8 Key.setOwnertrust key
  let key ←
    fields.updateIf rectype.isX509 10 9
      (fun key src => { key with issuerName := some (decodeCString src) }) key
  let key ← fields.update 12 11 Key.setCapability key
  let key ← readSecretAndCurve ctx fields key
  let key ← fields.update 20 18 (fun key src => { key with lastUpdate := parseTimestampUl src }) key
  fields.update 20 19 (fun key src => { key with origin := parseKeyorg src }) key

/-- A record that adds a subkey. -/
def newSubkey (ctx : KeylistCtx) (rectype : Rectype) (fields : Fields) (key : Key)
    : Option Key := do
  let key := key.addSubkey { secret := rectype = .ssb }
  let key ← fields.update 2 1 (Key.onSubkey Subkey.setTrustInfo) key
  let key ← readAlgorithm ctx fields key
  let key ←
    fields.update 5 4
      (Key.onSubkey fun subkey src =>
        if src.length = 16 then { subkey with keyid := src } else subkey)
      key
  let key ← readTimes fields key
  let key ← fields.update 12 11 (Key.onSubkey Subkey.setCapability) key
  readSecretAndCurve ctx fields key

/-- Store a fingerprint in the subkey that was added last, if that has none. The fingerprint of
the first subkey is also the one of the key.
-/
def Key.setFingerprint (key : Key) (src : Str) : Option (GpgError × Key) := do
  let subkey ← key.subkeys.getLast?
  let fpr := subkey.fpr.getD src
  let key := key.onSubkey (fun subkey src => { subkey with fpr := some src }) fpr
  if key.subkeys.length ≠ 1 then some (0, key)
  else if key.fpr.any (· != fpr) then some (gpgError ErrCode.internal, key)
  else some (0, { key with fpr := some fpr })

/-- Store the chain ID of a certificate, if there is none. -/
def readChainId (fields : Fields) (key : Key) : Option Key :=
  fields.updateIf key.chainId.isNone 13 12
    (fun key src => if src = [] then key else { key with chainId := some src }) key

/-- A fingerprint record. -/
def readFingerprint (fields : Fields) (key : Key) : Option (GpgError × Key) := do
  match ← fields.optional 10 9 with
  | none | some [] => (readChainId fields key).map (0, ·)
  | some src =>
      let (err, key) ← key.setFingerprint src
      if err ≠ 0 then some (err, key) else (readChainId fields key).map (0, ·)

/-- Store a keygrip in the subkey that was added last, if that has none. -/
def Key.setKeygrip (key : Key) (src : Str) : Option Key := do
  let subkey ← key.subkeys.getLast?
  some (key.onSubkey (fun subkey src => { subkey with keygrip := some src })
    (subkey.keygrip.getD src))

/-- A keygrip record. -/
def readKeygrip (fields : Fields) (key : Key) : Option Key := do
  match ← fields.optional 10 9 with
  | none | some [] => some key
  | some src => key.setKeygrip src

-----------------------------------------------------------------------------------------
-- Records of user IDs and signatures
-----------------------------------------------------------------------------------------

/-- Change the user ID that was added last. -/
def Key.onLastUid (key : Key) (set : UserId → UserId) : Key :=
  { key with uids := key.uids.modifyLast set }

/-- A user ID record with enough fields. -/
def newUid (addr : Nat) (fields : Fields) (key : Key) : Option Key := do
  let src ← fields.read 9
  let flags ← fields.read 1
  let key := (key.appendName addr src true).onLastUid (·.setFlags flags)
  let key ←
    fields.update 20 18
      (fun key src =>
        key.onLastUid fun uid => { uid with lastUpdate := parseTimestampUl src })
      key
  fields.update 20 19
    (fun key src => key.onLastUid fun uid => { uid with origin := parseKeyorg src }) key

/-- The steps of `parse_tfs_record`, which may fail. -/
abbrev TfsReader := ExceptT GpgError Option

/-- A check that the engine has sent what is understood. -/
def tfsCheck (condition : Bool) : TfsReader Unit :=
  if condition then pure () else throw (gpgError ErrCode.invEngine)

def tfsField (fields : Fields) (index : Nat) : TfsReader Str := ExceptT.lift (fields.read index)

/-- The number in a field. -/
def tfsNumber (fields : Fields) (index : Nat) : TfsReader Nat := do
  let text ← tfsField fields index
  tfsCheck (strtoulField text).isSome
  pure ((strtoulField text).getD 0)

/-- The fields of a TOFU record; the last two are missing in the output of gpg 2.1.15. -/
def readTofuInfo (fields : Fields) : TfsReader TofuInfo := do
  tfsCheck (8 ≤ fields.count)
  let version ← tfsField fields 1
  tfsCheck (atoi version = 1)
  let validity ← tfsNumber fields 2
  tfsCheck (validity ≤ 7)
  let signcount ← tfsNumber fields 3
  let encrcount ← tfsNumber fields 4
  let policy ← tfsField fields 5
  let signfirst ← tfsNumber fields 6
  let signlast ← tfsNumber fields 7
  let ti : TofuInfo := {
    validity,
    signcount := clampCount signcount,
    encrcount := clampCount encrcount,
    policy := parseTofuPolicy policy,
    signfirst,
    signlast }
  if 9 < fields.count then do
    let encrfirst ← tfsNumber fields 8
    let encrlast ← tfsNumber fields 9
    pure { ti with encrfirst, encrlast }
  else
    pure ti

/-- `parse_tfs_record`; only the first record of a user ID counts. -/
def parseTfsRecord (fields : Fields) (uid : UserId) : Option (GpgError × UserId) :=
  if uid.tofu.isSome then some (0, uid)
  else do
    match ← (readTofuInfo fields).run with
    | .error err => some (err, uid)
    | .ok ti => some (0, { uid with tofu := some ti })

/-- Work on the user ID at an address. -/
def Key.atUid (key : Key) (addr : Nat) (parse : UserId → Option (GpgError × UserId))
    : Option (GpgError × Key) := do
  let index := key.uids.findIdx (·.addr == addr)
  let uid ← key.uids[index]?
  let (err, uid) ← parse uid
  some (err, { key with uids := key.uids.set index uid })

/-- The calculated trust of a signature. -/
def sigStatusOf (src : Str) : GpgError :=
  match src.head? with
  | some 45 => gpgError ErrCode.badSignature
  | some 63 => gpgError ErrCode.noPubkey
  | some 37 => gpgError ErrCode.general
  | _ => gpgError ErrCode.noError

/-- The signature class, of which 0x30 means revoked. -/
def KeySig.setClass (keysig : KeySig) (src : Str) : KeySig :=
  match src with
  | high :: low :: rest =>
      let keysig :=
        match hextobyte high low with
        | none => keysig
        | some sigClass =>
            { keysig with sigClass, revoked := keysig.revoked || sigClass == 48 }
      if rest.head? = some 120 then { keysig with exportable := true } else keysig
  | _ => keysig

/-- A signature or revocation record. -/
def newSig (ctx : KeylistCtx) (fields : Fields) (protocol : Protocol) : Option KeySig := do
  let src ← fields.optional 10 9
  let keysig := newKeySig protocol src
  let keysig ←
    fields.update 2 1 (fun keysig src => { keysig with status := sigStatusOf src }) keysig
  let keysig ←
    fields.update 4 3
      (fun keysig src =>
        if 1 ≤ atoi src ∧ atoi src < 128 then
          { keysig with pubkeyAlgo := mapPkAlgo (atoi src) ctx.protocol }
        else keysig)
      keysig
  let keysig ←
    fields.update 5 4
      (fun keysig src => if src.length = 16 then { keysig with keyid := src } else keysig) keysig
  let keysig ←
    fields.update 6 5 (fun keysig src => { keysig with timestamp := (parseTimestamp src).1 }) keysig
  let keysig ←
    fields.update 7 6 (fun keysig src => { keysig with expires := (parseTimestamp src).1 }) keysig
  fields.update 11 10 KeySig.setClass keysig

/-- The notation of a subpacket record; `none` inside is a type without notations. The code
checks for four fields and reads five.
-/
def readNotation (fields : Fields) : Option (Except GpgError (Option SigNotation)) :=
  if 4 ≤ fields.count then do
    let type ← fields.read 1
    let flags ← fields.read 2
    let len ← fields.read 3
    let data ← fields.read 4
    if atoi type = 20 ∨ atoi type = 26 then
      some (parseSigNotation fields.memory.buffer (atoi type) (atoi flags) (atoi len) data)
    else
      some (.ok none)
  else
    some (.ok none)

def UserId.addSig (keysig : KeySig) (uid : UserId) : UserId :=
  { uid with signatures := uid.signatures ++ [keysig] }

/-- Change the signature that was added last. -/
def UserId.onLastSig (set : KeySig → KeySig) (uid : UserId) : UserId :=
  { uid with signatures := uid.signatures.modifyLast set }

def KeySig.addNotation (parsed : SigNotation) (keysig : KeySig) : KeySig :=
  { keysig with notations := keysig.notations ++ [parsed] }

/-- `key->_last_uid`. -/
def Key.lastUid (key : Key) : Option Nat := key.uids.getLast?.map (·.addr)

/-- `key->_last_uid->_last_keysig`; the first pointer must not be null. -/
def Key.lastKeysig (key : Key) : Option (Option Nat) :=
  key.uids.getLast?.map fun uid => uid.signatures.getLast?.map (·.addr)

-----------------------------------------------------------------------------------------
-- The handler
-----------------------------------------------------------------------------------------

/-- What the handler does before it looks at the type: the pointers to the user ID and to the
signature are kept for the records that may follow them.
-/
def KeylistData.clearPointers (opd : KeylistData) (rectype : Rectype) : KeylistData :=
  { opd with
    tmpUid :=
      if rectype ≠ .sig ∧ rectype ≠ .rev ∧ rectype ≠ .tfs then none else opd.tmpUid,
    tmpKeysig := if rectype ≠ .spk then none else opd.tmpKeysig }

/-- The result of a handler; `none` is a failed assertion or an access to something that is not
there.
-/
abbrev KeylistResult := Option (GpgError × KeylistData)

/-- A signature or revocation record for the current user ID. -/
def KeylistData.addSig (ctx : KeylistCtx) (fields : Fields) (opd : KeylistData)
    : KeylistResult :=
  match opd.tmpUid with
  | none => some (0, opd)
  | some uid => do
      let key ← opd.tmpKey
      guard (key.lastUid = some uid)
      let keysig ← newSig ctx fields key.protocol
      some (0, { opd with
        tmpKey := some (key.onLastUid (UserId.addSig { keysig with addr := opd.allocated })),
        tmpKeysig := some opd.allocated,
        allocated := opd.allocated + 1 })

/-- A subpacket record for the current signature. -/
def KeylistData.addSubpacket (fields : Fields) (opd : KeylistData) : KeylistResult :=
  match opd.tmpKeysig with
  | none => some (0, opd)
  | some keysig => do
      let key ← opd.tmpKey
      guard (key.lastKeysig = some (some keysig))
      match ← readNotation fields with
      | .error err => some (err, opd)
      | .ok none => some (0, opd)
      | .ok (some parsed) =>
          some (0, { opd with
            tmpKey := some (key.onLastUid (UserId.onLastSig (KeySig.addNotation parsed))) })

/-- The switch of `keylist_colon_handler`. -/
def keylistSwitch (ctx : KeylistCtx) (rectype : Rectype) (fields : Fields) (opd : KeylistData)
    : KeylistResult :=
  match rectype with
  | .pub | .sec | .crt | .crs => do
      let key ← newKeyblock ctx rectype fields
      some (0, { opd.finishKey with tmpKey := some key })
  | .sub | .ssb => do
      let key ← opd.tmpKey
      let key ← newSubkey ctx rectype fields key
      some (0, { opd with tmpKey := some key })
  | .uid =>
      if 10 ≤ fields.count then do
        let key ← opd.tmpKey
        let key ← newUid opd.allocated fields key
        some (0, { opd with
          tmpKey := some key,
          tmpUid := key.lastUid,
          allocated := opd.allocated + 1 })
      else
        some (0, opd)
  | .tfs =>
      match opd.tmpUid with
      | none => some (0, opd)
      | some uid => do
          let key ← opd.tmpKey
          let (err, key) ← key.atUid uid (parseTfsRecord fields)
          some (err, { opd with tmpKey := some key })
  | .fpr => do
      let key ← opd.tmpKey
      let (err, key) ← readFingerprint fields key
      some (err, { opd with tmpKey := some key })
  | .grp => do
      let key ← opd.tmpKey
      let key ← readKeygrip fields key
      some (0, { opd with tmpKey := some key })
  | .sig | .rev => opd.addSig ctx fields
  | .spk => opd.addSubpacket fields
  | .none => some (0, opd)

/-- `keylist_colon_handler`; without a line it is the call at the end of file. -/
def keylistColonHandler (ctx : KeylistCtx) (memory : Uninitialized) (opd : KeylistData)
    (line : Option Str)
    : KeylistResult :=
  match line with
  | none => some (0, opd.finishKey)
  | some line => do
      let fields := Fields.ofLine memory line
      let name ← fields.read 0
      let rectype := rectypeOf name opd.tmpKey.isSome
      keylistSwitch ctx rectype fields (opd.clearPointers rectype)

/-- A run of the handler over lines; what it returns is ignored by the reader of the pipe. -/
def keylistRun (ctx : KeylistCtx) (memory : Uninitialized) (opd : KeylistData)
    (lines : List (Option Str))
    : Option KeylistData :=
  lines.foldlM (fun opd line => (keylistColonHandler ctx memory opd line).map Prod.snd) opd

end Gpgme
