import Gpgme.Keylist.Records
import Gpgme.Lib.Fallible

/-! What the parts of the key listing handler leave alone. Each part returns on every line that
has the fields it reads, and changes only what its record is about.
-/

namespace Gpgme

open CString Fallible

-----------------------------------------------------------------------------------------
-- The last element of a list
-----------------------------------------------------------------------------------------

theorem length_modifyLast {α : Type*} (f : α → α) (xs : List α)
    : (xs.modifyLast f).length = xs.length := by
  rcases xs.eq_nil_or_concat with rfl | ⟨init, last, rfl⟩
  · rfl
  · rw [List.concat_eq_append, List.modifyLast_concat]
    simp

theorem map_modifyLast {α β : Type*} {f : α → α} {g : β → β} {h : α → β}
    (commutes : ∀ x, h (f x) = g (h x)) (xs : List α)
    : (xs.modifyLast f).map h = (xs.map h).modifyLast g := by
  rcases xs.eq_nil_or_concat with rfl | ⟨init, last, rfl⟩
  · rfl
  · rw [List.concat_eq_append, List.modifyLast_concat, List.map_append, List.map_append]
    simp only [List.map_cons, List.map_nil, List.modifyLast_concat, commutes]

theorem getLast?_modifyLast {α : Type*} (f : α → α) (xs : List α)
    : (xs.modifyLast f).getLast? = xs.getLast?.map f := by
  rcases xs.eq_nil_or_concat with rfl | ⟨init, last, rfl⟩
  · rfl
  · rw [List.concat_eq_append, List.modifyLast_concat]
    simp

-----------------------------------------------------------------------------------------
-- Reading fields
-----------------------------------------------------------------------------------------

variable {ctx : KeylistCtx} {memory : Uninitialized} {fields : Fields}

theorem Fields.read_of_lt {index : Nat} (inside : index < fields.count)
    : fields.read index = some (fields.texts.getD index []) := by
  have found : ∃ text, fields.texts[index]? = some text :=
    ⟨_, List.getElem?_eq_some_iff.mpr ⟨inside, rfl⟩⟩
  obtain ⟨text, found⟩ := found
  simp [Fields.read, found]

theorem Fields.read_returns {index : Nat} (inside : index < fields.count)
    : Returns (fields.read index) (· = fields.texts.getD index []) :=
  ⟨_, Fields.read_of_lt inside, rfl⟩

theorem Fields.update_returns {α : Type} {least index : Nat} {set : α → Str → α} {value : α}
    {post : α → Prop} (checked : index < least) (holds : post value)
    (kept : ∀ value src, post value → post (set value src))
    : Returns (fields.update least index set value) post := by
  refine Returns.ite (fun enough => ?_) (fun _ => ⟨value, rfl, holds⟩)
  rw [Fields.read_of_lt (by omega)]
  exact ⟨_, rfl, kept value _ holds⟩

-----------------------------------------------------------------------------------------
-- What the fields of a key leave alone
-----------------------------------------------------------------------------------------

/-- User IDs, protocol and number of subkeys are the same. -/
structure Key.Frame (key key' : Key) : Prop where
  uids : key'.uids = key.uids
  protocol : key'.protocol = key.protocol
  subkeys : key'.subkeys.length = key.subkeys.length

theorem Key.Frame.refl (key : Key) : key.Frame key := ⟨rfl, rfl, rfl⟩

theorem Key.Frame.trans {key key' key'' : Key} (first : key.Frame key') (second : key'.Frame key'')
    : key.Frame key'' :=
  ⟨second.uids.trans first.uids, second.protocol.trans first.protocol,
    second.subkeys.trans first.subkeys⟩

theorem Key.frame_foldl {set : Key → UInt8 → Key} (keeps : ∀ (key : Key) c, key.Frame (set key c))
    (src : Str) (key : Key)
    : key.Frame (src.foldl set key) := by
  induction src generalizing key with
  | nil => exact Key.Frame.refl key
  | cons c rest ih => exact (keeps key c).trans (ih (set key c))

theorem Key.frame_onSubkey (set : Subkey → Str → Subkey) (key : Key) (src : Str)
    : key.Frame (key.onSubkey set src) :=
  ⟨rfl, rfl, length_modifyLast _ _⟩

theorem Key.frame_setTrustInfo (key : Key) (src : Str) : key.Frame (key.setTrustInfo src) := by
  have first : key.Frame { key with subkeys := key.subkeys.modifyHead (·.setTrustInfo src) } :=
    ⟨rfl, rfl, by simp⟩
  refine first.trans (Key.frame_foldl (fun key c => ?_) _ _)
  split <;> exact ⟨rfl, rfl, rfl⟩

theorem Key.frame_setCapability (key : Key) (src : Str) : key.Frame (key.setCapability src) := by
  have first : key.Frame { key with subkeys := key.subkeys.modifyHead (·.setCapability src) } :=
    ⟨rfl, rfl, by simp⟩
  refine first.trans (Key.frame_foldl (fun key c => ?_) _ _)
  split <;> exact ⟨rfl, rfl, rfl⟩

theorem Key.frame_setOwnertrust (key : Key) (src : Str) : key.Frame (key.setOwnertrust src) := by
  refine Key.frame_foldl (fun key c => ?_) _ _
  split <;> exact ⟨rfl, rfl, rfl⟩

theorem Key.frame_parseSecField15 (key : Key) (src : Str)
    : key.Frame (key.parseSecField15 src) := by
  unfold Key.parseSecField15
  dsimp only
  split
  · exact Key.Frame.refl key
  · split
    · exact ⟨rfl, rfl, length_modifyLast _ _⟩
    · split
      · exact ⟨rfl, rfl, length_modifyLast _ _⟩
      · split
        · exact ⟨rfl, rfl, length_modifyLast _ _⟩
        · exact Key.Frame.refl key

theorem Fields.update_frame {least index : Nat} {set : Key → Str → Key} {base key : Key}
    (checked : index < least) (frame : base.Frame key)
    (keeps : ∀ (key : Key) src, key.Frame (set key src))
    : Returns (fields.update least index set key) base.Frame :=
  Fields.update_returns checked frame fun key src kept => kept.trans (keeps key src)

theorem Fields.updateIf_frame {condition : Bool} {least index : Nat} {set : Key → Str → Key}
    {base key : Key} (checked : index < least) (frame : base.Frame key)
    (keeps : ∀ (key : Key) src, key.Frame (set key src))
    : Returns (fields.updateIf condition least index set key) base.Frame :=
  Returns.ite (fun _ => Fields.update_frame checked frame keeps) (fun _ => ⟨key, rfl, frame⟩)

theorem Fields.optional_returns {least index : Nat} (checked : index < least)
    : Returns (fields.optional least index) (fun _ => True) := by
  refine Returns.ite (fun enough => ?_) (fun _ => ⟨none, rfl, trivial⟩)
  rw [Fields.read_of_lt (by omega)]
  exact ⟨_, rfl, trivial⟩

/-- The compliance flags are read where the line has a field 18, or fails to have exactly one
field less.
-/
def CoversCompliance (fields : Fields) : Prop :=
  fields.count = 17 → (fields.memory.slot 17).isSome

theorem Fields.update_compliance {base key : Key} (covered : CoversCompliance fields)
    (frame : base.Frame key)
    : Returns (fields.update 17 17 (Key.onSubkey Subkey.setCompliance) key) base.Frame := by
  refine Returns.ite (fun enough => ?_) (fun _ => ⟨key, rfl, frame⟩)
  have readable : ∃ src, fields.read 17 = some src := by
    by_cases last : fields.count = 17
    · obtain ⟨src, held⟩ := Option.isSome_iff_exists.mp (covered last)
      have outside : fields.texts[17]? = none := List.getElem?_eq_none (le_of_eq last)
      exact ⟨src, by simp [Fields.read, outside, held]⟩
    · exact ⟨_, Fields.read_of_lt (by omega)⟩
  obtain ⟨src, found⟩ := readable
  rw [found]
  exact ⟨_, rfl, frame.trans (Key.frame_onSubkey _ key src)⟩

theorem readAlgorithm_returns {base key : Key} (frame : base.Frame key)
    : Returns (readAlgorithm ctx fields key) base.Frame := by
  refine Returns.bind (Fields.update_frame (by omega) frame (Key.frame_onSubkey _)) fun key frame => ?_
  exact Fields.update_frame (by omega) frame (Key.frame_onSubkey _)

theorem readTimes_returns {base key : Key} (frame : base.Frame key)
    : Returns (readTimes fields key) base.Frame := by
  refine Returns.bind (Fields.update_frame (by omega) frame (Key.frame_onSubkey _)) fun key frame => ?_
  exact Fields.update_frame (by omega) frame (Key.frame_onSubkey _)

theorem readSecretAndCurve_returns {base key : Key} (covered : CoversCompliance fields)
    (frame : base.Frame key)
    : Returns (readSecretAndCurve ctx fields key) base.Frame := by
  refine Returns.bind (Fields.updateIf_frame (by omega) frame Key.frame_parseSecField15) fun key frame => ?_
  refine Returns.bind (Fields.update_frame (by omega) frame (Key.frame_onSubkey _)) fun key frame => ?_
  exact Fields.update_compliance covered frame

theorem newKeyblock_returns (rectype : Rectype) (covered : CoversCompliance fields)
    : Returns (newKeyblock ctx rectype fields) (freshKey ctx rectype).Frame := by
  unfold newKeyblock
  refine Returns.bind (Fields.update_frame (by omega) (Key.Frame.refl _) Key.frame_setTrustInfo) fun key frame => ?_
  refine Returns.bind (readAlgorithm_returns frame) fun key frame => ?_
  refine Returns.bind (Fields.update_frame (by omega) frame (Key.frame_onSubkey _)) fun key frame => ?_
  refine Returns.bind (readTimes_returns frame) fun key frame => ?_
  refine Returns.bind (Fields.updateIf_frame (by omega) frame fun _ _ => ⟨rfl, rfl, rfl⟩) fun key frame => ?_
  refine Returns.bind (Fields.update_frame (by omega) frame Key.frame_setOwnertrust) fun key frame => ?_
  refine Returns.bind (Fields.updateIf_frame (by omega) frame fun _ _ => ⟨rfl, rfl, rfl⟩) fun key frame => ?_
  refine Returns.bind (Fields.update_frame (by omega) frame Key.frame_setCapability) fun key frame => ?_
  refine Returns.bind (readSecretAndCurve_returns covered frame) fun key frame => ?_
  refine Returns.bind (Fields.update_frame (by omega) frame fun _ _ => ⟨rfl, rfl, rfl⟩) fun key frame => ?_
  exact Fields.update_frame (by omega) frame fun _ _ => ⟨rfl, rfl, rfl⟩

theorem newSubkey_returns (rectype : Rectype) (covered : CoversCompliance fields) (key : Key)
    : Returns (newSubkey ctx rectype fields key)
        (key.addSubkey { secret := rectype = .ssb }).Frame := by
  unfold newSubkey
  refine Returns.bind (Fields.update_frame (by omega) (Key.Frame.refl _) (Key.frame_onSubkey _)) fun key frame => ?_
  refine Returns.bind (readAlgorithm_returns frame) fun key frame => ?_
  refine Returns.bind (Fields.update_frame (by omega) frame (Key.frame_onSubkey _)) fun key frame => ?_
  refine Returns.bind (readTimes_returns frame) fun key frame => ?_
  refine Returns.bind (Fields.update_frame (by omega) frame (Key.frame_onSubkey _)) fun key frame => ?_
  exact readSecretAndCurve_returns covered frame

theorem Key.lastSubkey_returns {key : Key} (subkeys : key.subkeys ≠ [])
    : Returns key.subkeys.getLast? (fun _ => True) :=
  ⟨_, List.getLast?_eq_some_getLast subkeys, trivial⟩

theorem Key.setFingerprint_returns {key : Key} (subkeys : key.subkeys ≠ []) (src : Str)
    : Returns (key.setFingerprint src) (fun result => key.Frame result.2) := by
  refine Returns.bind (Key.lastSubkey_returns subkeys) fun subkey _ => ?_
  have framed := Key.frame_onSubkey (fun subkey src => { subkey with fpr := some src }) key
    (subkey.fpr.getD src)
  refine Returns.ite (fun _ => ⟨_, rfl, framed⟩) (fun _ => ?_)
  refine Returns.ite (fun _ => ⟨_, rfl, framed⟩) (fun _ => ⟨_, rfl, ?_⟩)
  exact ⟨rfl, rfl, length_modifyLast _ _⟩

theorem readChainId_returns {base key : Key} (frame : base.Frame key)
    : Returns ((readChainId fields key).map (fun key => ((0 : GpgError), key)))
        (fun result => base.Frame result.2) := by
  have stored : Returns (readChainId fields key) base.Frame := by
    refine Fields.updateIf_frame (by omega) frame fun key src => ?_
    split
    · exact Key.Frame.refl key
    · exact ⟨rfl, rfl, rfl⟩
  obtain ⟨key', same, frame'⟩ := stored
  exact ⟨(0, key'), by rw [same]; rfl, frame'⟩

theorem readFingerprint_returns {key : Key} (subkeys : key.subkeys ≠ [])
    : Returns (readFingerprint fields key) (fun result => key.Frame result.2) := by
  refine Returns.bind (Fields.optional_returns (by omega)) fun src _ => ?_
  split
  · exact readChainId_returns (Key.Frame.refl key)
  · exact readChainId_returns (Key.Frame.refl key)
  · refine Returns.bind (Key.setFingerprint_returns subkeys _) fun result frame => ?_
    exact Returns.ite (fun _ => ⟨_, rfl, frame⟩) (fun _ => readChainId_returns frame)

theorem readKeygrip_returns {key : Key} (subkeys : key.subkeys ≠ [])
    : Returns (readKeygrip fields key) key.Frame := by
  refine Returns.bind (Fields.optional_returns (by omega)) fun src _ => ?_
  split
  · exact ⟨key, rfl, Key.Frame.refl key⟩
  · exact ⟨key, rfl, Key.Frame.refl key⟩
  · refine Returns.bind (Key.lastSubkey_returns subkeys) fun subkey _ => ?_
    exact ⟨_, rfl, Key.frame_onSubkey _ _ _⟩

-----------------------------------------------------------------------------------------
-- User IDs and trust information
-----------------------------------------------------------------------------------------

/-- Address, text and signatures are the same. -/
structure UserId.Frame (uid uid' : UserId) : Prop where
  addr : uid'.addr = uid.addr
  text : uid'.uid = uid.uid
  signatures : uid'.signatures = uid.signatures

theorem UserId.Frame.refl (uid : UserId) : uid.Frame uid := ⟨rfl, rfl, rfl⟩

theorem UserId.Frame.trans {uid uid' uid'' : UserId} (first : uid.Frame uid')
    (second : uid'.Frame uid'')
    : uid.Frame uid'' :=
  ⟨second.addr.trans first.addr, second.text.trans first.text,
    second.signatures.trans first.signatures⟩

theorem UserId.Frame.entry {uid uid' : UserId} (frame : uid.Frame uid')
    : uid'.entry = uid.entry := by
  simp only [UserId.entry, frame.text, frame.signatures]

theorem UserId.frame_setFlags (uid : UserId) (src : Str) : uid.Frame (uid.setFlags src) := by
  unfold UserId.setFlags
  induction leadingLetters src generalizing uid with
  | nil => exact UserId.Frame.refl uid
  | cons c rest ih =>
      refine UserId.Frame.trans ?_ (ih _)
      dsimp only
      split <;> exact ⟨rfl, rfl, rfl⟩

/-- A user ID without signatures was added to a key. -/
def AddsUid (base : Key) (addr : Nat) (text : Str) (key : Key) : Prop :=
  key.protocol = base.protocol
  ∧ key.subkeys.length = base.subkeys.length
  ∧ ∃ uid : UserId,
      key.uids = base.uids ++ [uid] ∧ uid.addr = addr ∧ uid.uid = text ∧ uid.signatures = []

theorem AddsUid.onLast {base key : Key} {addr : Nat} {text : Str} {set : UserId → UserId}
    (adds : AddsUid base addr text key) (keeps : ∀ uid : UserId, uid.Frame (set uid))
    : AddsUid base addr text (key.onLastUid set) := by
  obtain ⟨protocol, subkeys, uid, uids, same, named, unsigned⟩ := adds
  refine ⟨protocol, subkeys, set uid, ?_, ?_, ?_, ?_⟩
  · rw [Key.onLastUid, uids, List.modifyLast_concat]
  · rw [(keeps uid).addr, same]
  · rw [(keeps uid).text, named]
  · rw [(keeps uid).signatures, unsigned]

theorem newUserId_fields (addr : Nat) (protocol : Protocol) (src : Str)
    : (newUserId addr protocol src true).addr = addr
      ∧ (newUserId addr protocol src true).uid = decodeCString src
      ∧ (newUserId addr protocol src true).signatures = [] := by
  unfold newUserId
  simp only [if_true]
  split <;> exact ⟨rfl, rfl, rfl⟩

theorem newUid_returns (addr : Nat) (enough : 10 ≤ fields.count) (key : Key)
    : Returns (newUid addr fields key)
        (AddsUid key addr (decodeCString (fields.texts.getD 9 []))) := by
  obtain ⟨same, named, unsigned⟩ :=
    newUserId_fields addr key.protocol (fields.texts.getD 9 [])
  refine Returns.bind (Fields.read_returns (by omega)) fun src found => ?_
  subst found
  refine Returns.bind (Fields.read_returns (by omega)) fun flags _ => ?_
  have appended : AddsUid key addr (decodeCString (fields.texts.getD 9 []))
      (key.appendName addr (fields.texts.getD 9 []) true) :=
    ⟨rfl, rfl, _, rfl, same, named, unsigned⟩
  have flagged := appended.onLast (fun uid => uid.frame_setFlags flags)
  refine Returns.bind (Fields.update_returns (by omega) flagged fun key src adds => ?_)
    fun key adds => ?_
  · exact adds.onLast fun uid => ⟨rfl, rfl, rfl⟩
  · exact Fields.update_returns (by omega) adds fun key src adds =>
      adds.onLast fun uid => ⟨rfl, rfl, rfl⟩

/-- The reader neither reads a field that is not there nor stops for another reason than an
error.
-/
def TfsReader.Total {α : Type} (reader : TfsReader α) : Prop :=
  Returns reader.run (fun _ => True)

theorem TfsReader.Total.bind {α β : Type} {reader : TfsReader α} {f : α → TfsReader β}
    (total : reader.Total) (rest : ∀ value, (f value).Total)
    : TfsReader.Total (reader >>= f) := by
  unfold TfsReader.Total
  rw [ExceptT.run_bind]
  refine Returns.bind total fun result _ => ?_
  cases result with
  | ok value => exact rest value
  | error err => exact ⟨_, rfl, trivial⟩

theorem tfsCheck_total (condition : Bool) : (tfsCheck condition).Total := by
  unfold tfsCheck
  split <;> exact ⟨_, rfl, trivial⟩

theorem tfsField_total {index : Nat} (inside : index < fields.count)
    : (tfsField fields index).Total := by
  unfold tfsField
  rw [Fields.read_of_lt inside]
  exact ⟨_, rfl, trivial⟩

theorem tfsNumber_total {index : Nat} (inside : index < fields.count)
    : (tfsNumber fields index).Total := by
  refine (tfsField_total inside).bind fun text => ?_
  exact (tfsCheck_total _).bind fun _ => ⟨_, rfl, trivial⟩

theorem readTofuInfo_total : (readTofuInfo fields).Total := by
  unfold readTofuInfo
  by_cases enough : 8 ≤ fields.count
  · refine (tfsCheck_total _).bind fun _ => ?_
    refine (tfsField_total (by omega)).bind fun version => ?_
    refine (tfsCheck_total _).bind fun _ => ?_
    refine (tfsNumber_total (by omega)).bind fun validity => ?_
    refine (tfsCheck_total _).bind fun _ => ?_
    refine (tfsNumber_total (by omega)).bind fun signcount => ?_
    refine (tfsNumber_total (by omega)).bind fun encrcount => ?_
    refine (tfsField_total (by omega)).bind fun policy => ?_
    refine (tfsNumber_total (by omega)).bind fun signfirst => ?_
    refine (tfsNumber_total (by omega)).bind fun signlast => ?_
    dsimp only
    split
    · refine (tfsNumber_total (by omega)).bind fun encrfirst => ?_
      exact (tfsNumber_total (by omega)).bind fun encrlast => ⟨_, rfl, trivial⟩
    · exact ⟨_, rfl, trivial⟩
  · have refused : tfsCheck (8 ≤ fields.count) = throw (gpgError ErrCode.invEngine) := by
      simp [tfsCheck, enough]
    rw [refused]
    exact ⟨_, rfl, trivial⟩

theorem parseTfsRecord_returns (uid : UserId)
    : Returns (parseTfsRecord fields uid) (fun result => uid.Frame result.2) := by
  refine Returns.ite (fun _ => ⟨_, rfl, UserId.Frame.refl uid⟩) (fun _ => ?_)
  refine Returns.bind readTofuInfo_total fun result _ => ?_
  cases result with
  | error err => exact ⟨_, rfl, UserId.Frame.refl uid⟩
  | ok ti => exact ⟨_, rfl, rfl, rfl, rfl⟩

theorem Key.atUid_returns {key : Key} {addr : Nat}
    {parse : UserId → Option (GpgError × UserId)} (present : key.lastUid = some addr)
    (parses : ∀ uid, Returns (parse uid) (fun result => uid.Frame result.2))
    : Returns (key.atUid addr parse) (fun result =>
        result.2.protocol = key.protocol
        ∧ result.2.subkeys = key.subkeys
        ∧ result.2.lastUid = key.lastUid
        ∧ result.2.entries = key.entries) := by
  obtain ⟨last, isLast, rfl⟩ := Option.map_eq_some_iff.mp present
  have member : last ∈ key.uids := List.mem_of_getLast? isLast
  have inside : key.uids.findIdx (·.addr == last.addr) < key.uids.length :=
    List.findIdx_lt_length_of_exists ⟨last, member, by simp⟩
  unfold Key.atUid
  dsimp only
  generalize key.uids.findIdx (·.addr == last.addr) = index at inside ⊢
  obtain ⟨uid, found⟩ : ∃ uid, key.uids[index]? = some uid :=
    ⟨_, List.getElem?_eq_some_iff.mpr ⟨inside, rfl⟩⟩
  have reached : Returns key.uids[index]? (· = uid) := ⟨uid, found, rfl⟩
  refine Returns.bind reached fun uid same => ?_
  subst same
  refine Returns.bind (parses uid) fun result frame => ?_
  have replaced {β : Type} (f : UserId → β) (kept : f result.2 = f uid)
      : (key.uids.set index result.2).map f = key.uids.map f := by
    refine List.ext_getElem? fun position => ?_
    rw [List.getElem?_map, List.getElem?_map, List.getElem?_set]
    split
    · next here =>
        subst here
        rw [found, Option.map_some, Option.map_some, kept]
    · rfl
  refine ⟨_, rfl, rfl, rfl, ?_, replaced UserId.entry frame.entry⟩
  simp only [Key.lastUid, ← List.getLast?_map]
  rw [replaced (·.addr) frame.addr]

-----------------------------------------------------------------------------------------
-- Signatures and subpackets
-----------------------------------------------------------------------------------------

theorem Fields.update_sig {least index : Nat} {set : KeySig → Str → KeySig} {keysig : KeySig}
    (checked : index < least) (new : keysig.addr = 0)
    (keeps : ∀ keysig src, (set keysig src).addr = keysig.addr)
    : Returns (fields.update least index set keysig) (·.addr = 0) :=
  Fields.update_returns checked new fun keysig src kept => (keeps keysig src).trans kept

theorem KeySig.addr_setClass (keysig : KeySig) (src : Str)
    : (keysig.setClass src).addr = keysig.addr := by
  unfold KeySig.setClass
  split
  · dsimp only
    split <;> split <;> rfl
  · rfl

theorem newSig_returns (ctx : KeylistCtx) (fields : Fields) (protocol : Protocol)
    : Returns (newSig ctx fields protocol) (·.addr = 0) := by
  have ite_addr {condition : Prop} [Decidable condition] {changed keysig : KeySig}
      (same : changed.addr = keysig.addr)
      : (if condition then changed else keysig).addr = keysig.addr := by
    split
    · exact same
    · rfl
  unfold newSig
  refine Returns.bind (Fields.optional_returns (by omega)) fun src _ => ?_
  have new : (newKeySig protocol src).addr = 0 := by
    unfold newKeySig
    split <;> rfl
  refine Returns.bind (Fields.update_sig (by omega) new fun _ _ => rfl) fun keysig new => ?_
  refine Returns.bind (Fields.update_sig (by omega) new fun _ _ => ite_addr rfl)
    fun keysig new => ?_
  refine Returns.bind (Fields.update_sig (by omega) new fun _ _ => ite_addr rfl)
    fun keysig new => ?_
  refine Returns.bind (Fields.update_sig (by omega) new fun _ _ => rfl) fun keysig new => ?_
  refine Returns.bind (Fields.update_sig (by omega) new fun _ _ => rfl) fun keysig new => ?_
  exact Fields.update_sig (by omega) new KeySig.addr_setClass

/-- The data of a subpacket is read where the line has a field 5, or fails to have exactly one
field less.
-/
def CoversSubpacket (fields : Fields) : Prop :=
  fields.count = 4 → (fields.memory.slot 4).isSome

theorem readNotation_returns (covered : CoversSubpacket fields)
    : Returns (readNotation fields) (fun _ => True) := by
  refine Returns.ite (fun enough => ?_) (fun _ => ⟨_, rfl, trivial⟩)
  have data : Returns (fields.read 4) (fun _ => True) := by
    by_cases last : fields.count = 4
    · obtain ⟨src, held⟩ := Option.isSome_iff_exists.mp (covered last)
      have outside : fields.texts[4]? = none := List.getElem?_eq_none (le_of_eq last)
      exact ⟨src, by simp [Fields.read, outside, held], trivial⟩
    · exact ⟨_, Fields.read_of_lt (by omega), trivial⟩
  refine Returns.bind (Fields.read_returns (by omega)) fun type _ => ?_
  refine Returns.bind (Fields.read_returns (by omega)) fun flags _ => ?_
  refine Returns.bind (Fields.read_returns (by omega)) fun len _ => ?_
  refine Returns.bind data fun src _ => ?_
  exact Returns.ite (fun _ => ⟨_, rfl, trivial⟩) (fun _ => ⟨_, rfl, trivial⟩)

end Gpgme
