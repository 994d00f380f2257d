import Gpgme.Keylist.Frames

/-! A run of the key listing handler keeps its pointers valid and attaches records by the rule
of its pointers. One invariant relates the operation data to the lines that were read; it is the
base of what is said about signatures, about assertions and about the key queue.
-/

namespace Gpgme

open CString Fallible

variable {ctx : KeylistCtx} {memory : Uninitialized} {fields : Fields}

-----------------------------------------------------------------------------------------
-- The invariant
-----------------------------------------------------------------------------------------

/-- The operation data after the lines of a history. The pointers are set exactly when their
rule says so, and then point to the last user ID and its last signature.
-/
structure Tracks (ctx : KeylistCtx) (memory : Uninitialized) (opd : KeylistData)
    (history : List Str) : Prop where
  key : opd.tmpKey.isSome = history.any startsKeyblock
  protocol : ∀ key, opd.tmpKey = some key → key.protocol = keyblockProtocol history
  subkeys : ∀ key, opd.tmpKey = some key → key.subkeys ≠ []
  uid : opd.tmpUid.isSome = followsUid pointerRule history
  keysig : opd.tmpKeysig.isSome = followsSig pointerRule history
  lastUid : ∀ addr, opd.tmpUid = some addr
    → ∃ key, opd.tmpKey = some key ∧ key.lastUid = some addr
  lastKeysig : ∀ addr, opd.tmpKeysig = some addr
    → ∃ key, opd.tmpKey = some key ∧ key.lastKeysig = some (some addr)
  entries : opd.keys.map Key.entries = attached ctx memory pointerRule history

theorem start_tracks (ctx : KeylistCtx) (memory : Uninitialized) : Tracks ctx memory {} [] where
  key := rfl
  protocol := by simp
  subkeys := by simp
  uid := rfl
  keysig := rfl
  lastUid := by simp
  lastKeysig := by simp
  entries := rfl

variable {opd : KeylistData} {history : List Str} {line : Str}

theorem keyQueue_finishKey (opd : KeylistData) : opd.finishKey.keyQueue = opd.keys := by
  unfold KeylistData.finishKey KeylistData.keys
  dsimp only
  cases opd.tmpKey with
  | none => simp
  | some key => rfl

theorem keyRectypeOf_startsKey (name : Str) : (keyRectypeOf name).startsKey = false := by
  unfold keyRectypeOf
  split_ifs <;> rfl

theorem rectypeOf_startsKey (name : Str) (key : Bool)
    : (rectypeOf name key).startsKey = (rectypeOf name true).startsKey := by
  cases key with
  | true => rfl
  | false =>
      unfold rectypeOf
      simp only [Bool.false_eq_true, if_false, if_true]
      split_ifs
      all_goals first | rfl | exact (keyRectypeOf_startsKey name).symm

theorem startsKeyblock_eq (history : List Str) (line : Str)
    : startsKeyblock line = (recordAt history line).startsKey :=
  (rectypeOf_startsKey _ _).symm

theorem rectypeOf_false (name : Str)
    : (rectypeOf name false).startsKey
      ∨ rectypeOf name false = .sig
      ∨ rectypeOf name false = .rev
      ∨ rectypeOf name false = .none := by
  unfold rectypeOf
  simp only [Bool.false_eq_true, if_false]
  split_ifs <;> simp [Rectype.startsKey]

theorem Tracks.needsKey (tracks : Tracks ctx memory opd history) (line : Str)
    (needs
      : recordAt history line = .sub ∨ recordAt history line = .ssb
        ∨ recordAt history line = .uid ∨ recordAt history line = .fpr
        ∨ recordAt history line = .grp)
    : ∃ key, opd.tmpKey = some key := by
  refine Option.isSome_iff_exists.mp ?_
  rw [tracks.key]
  by_contra absent
  have types := rectypeOf_false (recordName line)
  have same : recordAt history line = rectypeOf (recordName line) false := by
    unfold recordAt
    rw [Bool.eq_false_iff.mpr absent]
  rw [← same] at types
  rcases needs with found | found | found | found | found <;>
    simp [found, Rectype.startsKey] at types

theorem colonFields_ne_nil (line : Str) : colonFields line ≠ [] := by
  cases line with
  | nil => simp [colonFields]
  | cons c rest =>
      unfold colonFields
      split
      · simp
      · split <;> simp

theorem Fields.read_name (memory : Uninitialized) (line : Str)
    : (Fields.ofLine memory line).read 0 = some (recordName line) := by
  unfold Fields.read Fields.ofLine recordName lineFields
  cases fields : colonFields line with
  | nil => exact absurd fields (colonFields_ne_nil line)
  | cons field rest => rfl

theorem Tracks.handler_eq (tracks : Tracks ctx memory opd history) (line : Str)
    : keylistColonHandler ctx memory opd (some line)
      = keylistSwitch ctx (recordAt history line) (Fields.ofLine memory line)
          (opd.clearPointers (recordAt history line)) := by
  unfold keylistColonHandler recordAt
  simp only [Fields.read_name, Option.bind_eq_bind, Option.bind_some, tracks.key]

/-- Everything that is attached to a key, its protocol and that it has a subkey. -/
structure Key.Kept (key key' : Key) : Prop where
  entries : key'.entries = key.entries
  protocol : key'.protocol = key.protocol
  subkeys : key.subkeys ≠ [] → key'.subkeys ≠ []

theorem Key.Frame.kept {key key' : Key} (frame : key.Frame key') : key.Kept key' where
  entries := by rw [Key.entries, frame.uids, Key.entries]
  protocol := frame.protocol
  subkeys := by
    intro present absent
    have count := frame.subkeys
    rw [absent] at count
    exact present (List.length_eq_zero_iff.mp count.symm)

theorem Key.Kept.addSubkey {key key' : Key} {subkey : Subkey}
    (frame : (key.addSubkey subkey).Frame key')
    : key.Kept key' where
  entries := frame.kept.entries
  protocol := frame.protocol
  subkeys := fun _ => frame.kept.subkeys (by simp [Key.addSubkey])

/-- The keys of the listing are kept. -/
structure KeylistData.KeepsKeys (opd next : KeylistData) : Prop where
  keyQueue : next.keyQueue = opd.keyQueue
  tmpKey : (opd.tmpKey = none ∧ next.tmpKey = none)
    ∨ ∃ key key', opd.tmpKey = some key ∧ next.tmpKey = some key' ∧ key.Kept key'

theorem KeylistData.KeepsKeys.same {opd next : KeylistData}
    (keyQueue : next.keyQueue = opd.keyQueue) (tmpKey : next.tmpKey = opd.tmpKey)
    : opd.KeepsKeys next := by
  refine ⟨keyQueue, ?_⟩
  cases current : opd.tmpKey with
  | none => exact Or.inl ⟨rfl, tmpKey.trans current⟩
  | some key => exact Or.inr ⟨key, key, rfl, tmpKey.trans current, rfl, rfl, id⟩

theorem Tracks.quiet {next : KeylistData} (tracks : Tracks ctx memory opd history)
    (keeps : opd.KeepsKeys next)
    (other : (recordAt history line).startsKey = false)
    (nothing : placeOf ctx memory pointerRule history line = .nothing)
    (uid : next.tmpUid.isSome = followsUid pointerRule (line :: history))
    (keysig : next.tmpKeysig.isSome = followsSig pointerRule (line :: history))
    (lastUid : ∀ addr, next.tmpUid = some addr
      → ∃ key, next.tmpKey = some key ∧ key.lastUid = some addr)
    (lastKeysig : ∀ addr, next.tmpKeysig = some addr
      → ∃ key, next.tmpKey = some key ∧ key.lastKeysig = some (some addr))
    : Tracks ctx memory next (line :: history) := by
  have unchanged : startsKeyblock line = false := by rw [startsKeyblock_eq history, other]
  obtain ⟨keyQueue, ⟨absent, absent'⟩ | ⟨key, key', current, current', kept⟩⟩ := keeps
  · refine ⟨?_, by simp [absent'], by simp [absent'], uid, keysig, lastUid, lastKeysig, ?_⟩
    · rw [List.any_cons, unchanged, Bool.false_or, ← tracks.key, absent, absent']
    · rw [attached, nothing, Attachments.add, ← tracks.entries]
      simp [KeylistData.keys, keyQueue, absent, absent']
  · refine ⟨?_, ?_, ?_, uid, keysig, lastUid, lastKeysig, ?_⟩
    · rw [List.any_cons, unchanged, Bool.false_or, ← tracks.key, current, current']
      rfl
    · intro found same
      obtain rfl := Option.some.inj (current'.symm.trans same)
      rw [kept.protocol, tracks.protocol key current, keyblockProtocol, unchanged]
      rfl
    · intro found same
      obtain rfl := Option.some.inj (current'.symm.trans same)
      exact kept.subkeys (tracks.subkeys key current)
    · rw [attached, nothing, Attachments.add, ← tracks.entries]
      simp [KeylistData.keys, keyQueue, current, current', kept.entries]

-----------------------------------------------------------------------------------------
-- The step
-----------------------------------------------------------------------------------------

/-- The fields that the handler reads for a record are there, or their slots can be read. -/
structure Covered (memory : Uninitialized) (history : List Str) (line : Str) : Prop where
  compliance : (recordAt history line).startsKey ∨ recordAt history line = .sub
      ∨ recordAt history line = .ssb
    → CoversCompliance (Fields.ofLine memory line)
  subpacket : recordAt history line = .spk → followsSig pointerRule history
    → CoversSubpacket (Fields.ofLine memory line)

theorem Tracks.newKeyblock {rectype : Rectype} (tracks : Tracks ctx memory opd history)
    (type : recordAt history line = rectype) (starts : rectype.startsKey)
    (covered : Covered memory history line)
    : Returns
        (do
          let key ← Gpgme.newKeyblock ctx rectype (Fields.ofLine memory line)
          some ((0 : GpgError),
            { (opd.clearPointers rectype).finishKey with tmpKey := some key }))
        (fun result => Tracks ctx memory result.2 (line :: history)) := by
  have starting : startsKeyblock line = true := by rw [startsKeyblock_eq history, type, starts]
  have covers := covered.compliance (Or.inl (by rw [type, starts]))
  refine Returns.bind (newKeyblock_returns rectype covers) fun key frame => ?_
  have queue : (opd.clearPointers rectype).finishKey.keyQueue = opd.keys :=
    keyQueue_finishKey (opd.clearPointers rectype)
  have pointers : (opd.clearPointers rectype).finishKey.tmpUid = none
      ∧ (opd.clearPointers rectype).finishKey.tmpKeysig = none := by
    unfold KeylistData.finishKey
    dsimp only
    split <;> exact ⟨rfl, rfl⟩
  refine ⟨_, rfl, ?_, ?_, ?_, ?_, ?_, by simp [pointers.1], by simp [pointers.2], ?_⟩
  · simp [starting]
  · intro found same
    cases same
    simp [frame.protocol, freshKey, keyblockProtocol, starting, type]
  · intro found same
    cases same
    exact frame.kept.subkeys (by simp [freshKey])
  · dsimp only
    rw [pointers.1]
    cases rectype <;> simp [Rectype.startsKey, followsUid, isUidRecord, pointerRule, type] at starts ⊢
  · dsimp only
    rw [pointers.2]
    cases rectype <;> simp [Rectype.startsKey, followsSig, isSigRecord, type] at starts ⊢
  · have placed : placeOf ctx memory pointerRule history line = .key := by
      unfold placeOf
      rw [type]
      cases rectype <;> simp [Rectype.startsKey] at starts ⊢
    rw [attached, placed, Attachments.add, ← tracks.entries]
    simp only [KeylistData.keys, queue, List.map_append, Option.toList_some, List.map_cons,
      List.map_nil]
    rw [Key.entries, frame.uids]
    rfl

theorem Tracks.cleared {next : KeylistData} (tracks : Tracks ctx memory opd history)
    (keeps : opd.KeepsKeys next) (uid : next.tmpUid = none) (keysig : next.tmpKeysig = none)
    (other : (recordAt history line).startsKey = false)
    (noUid : isUidRecord history line = false)
    (noSig : isSigRecord history line = false)
    (noTfs : recordAt history line ≠ .tfs)
    (noSpk : recordAt history line ≠ .spk)
    : Tracks ctx memory next (line :: history) := by
  simp only [isSigRecord, decide_eq_false_iff_not, not_or] at noSig
  refine tracks.quiet keeps other ?_ ?_ ?_ (by simp [uid]) (by simp [keysig])
  · unfold placeOf
    cases type : recordAt history line <;> simp_all [Rectype.startsKey]
  · simp [uid, followsUid, noUid, pointerRule, noSig.1, noSig.2, noTfs]
  · simp [keysig, followsSig, isSigRecord, noSig.1, noSig.2, noSpk]

theorem KeylistData.entries_of_key {key : Key} (current : opd.tmpKey = some key)
    : opd.keys.map Key.entries = opd.keyQueue.map Key.entries ++ [key.entries] := by
  simp [KeylistData.keys, current]

theorem Key.entries_onLastUid (key : Key) (set : UserId → UserId)
    (change : UidEntry → UidEntry)
    (commutes : ∀ uid : UserId, (set uid).entry = change uid.entry)
    : (key.onLastUid set).entries = key.entries.modifyLast change :=
  map_modifyLast commutes key.uids

theorem Tracks.newUid (tracks : Tracks ctx memory opd history)
    (type : recordAt history line = .uid) (enough : 10 ≤ (Fields.ofLine memory line).count)
    : Returns (keylistSwitch ctx .uid (Fields.ofLine memory line) (opd.clearPointers .uid))
        (fun result => Tracks ctx memory result.2 (line :: history)) := by
  have noKeyblock : startsKeyblock line = false := by rw [startsKeyblock_eq history, type]; rfl
  have isUid : isUidRecord history line = true := by
    have counted : 10 ≤ (lineFields line).length := enough
    simp [isUidRecord, type, counted]
  obtain ⟨key, current⟩ := tracks.needsKey line (by simp [type])
  have present : Returns (opd.clearPointers .uid).tmpKey (· = key) := ⟨key, current, rfl⟩
  unfold keylistSwitch
  refine Returns.ite (fun _ => ?_) (fun short => absurd enough short)
  refine Returns.bind present fun key same => ?_
  subst same
  refine Returns.bind (newUid_returns _ enough key) fun key' adds => ?_
  obtain ⟨protocol, subkeys, uid, uids, addr, text, unsigned⟩ := adds
  have last : key'.lastUid = some uid.addr := by simp [Key.lastUid, uids]
  refine ⟨_, rfl, ?_, ?_, ?_, ?_, ?_, ?_, ?_, ?_⟩
  · simp [noKeyblock, ← tracks.key, current]
  · intro found same
    cases same
    rw [protocol, tracks.protocol key current, keyblockProtocol, noKeyblock]
    rfl
  · intro found same absent
    cases same
    have count := subkeys
    rw [absent] at count
    exact tracks.subkeys key current (List.length_eq_zero_iff.mp count.symm)
  · simp [last, followsUid, isUid]
  · simp [KeylistData.clearPointers, followsSig, isSigRecord, type]
  · intro found same
    exact ⟨key', rfl, same⟩
  · simp [KeylistData.clearPointers]
  · have placed : placeOf ctx memory pointerRule history line
        = .uid (decodeCString ((Fields.ofLine memory line).texts.getD 9 [])) := by
      unfold placeOf
      simp only [type, isUid, if_true]
    rw [attached, placed, Attachments.add, ← tracks.entries,
      KeylistData.entries_of_key current, List.modifyLast_concat]
    simp [KeylistData.keys, KeylistData.clearPointers, Key.entries, uids, UserId.entry, text,
      unsigned]

theorem Tracks.tfs (tracks : Tracks ctx memory opd history)
    (type : recordAt history line = .tfs)
    : Returns (keylistSwitch ctx .tfs (Fields.ofLine memory line) (opd.clearPointers .tfs))
        (fun result => Tracks ctx memory result.2 (line :: history)) := by
  have follows : followsUid pointerRule (line :: history) = followsUid pointerRule history := by
    simp [followsUid, isUidRecord, pointerRule, type]
  have noSig : followsSig pointerRule (line :: history) = false := by
    simp [followsSig, isSigRecord, type]
  have nothing : placeOf ctx memory pointerRule history line = .nothing := by
    unfold placeOf
    rw [type]
  have other : (recordAt history line).startsKey = false := by rw [type]; rfl
  unfold keylistSwitch
  dsimp only
  have pointer : (opd.clearPointers .tfs).tmpUid = opd.tmpUid := rfl
  rw [pointer]
  cases tmpUid : opd.tmpUid with
  | none =>
      refine ⟨_, rfl, tracks.quiet (KeylistData.KeepsKeys.same rfl rfl) other nothing ?_ ?_ ?_
        (by simp [KeylistData.clearPointers])⟩
      · rw [follows, ← tracks.uid]
        rfl
      · rw [noSig]
        rfl
      · simp [pointer, tmpUid]
  | some addr =>
      obtain ⟨key, current, last⟩ := tracks.lastUid addr tmpUid
      have present : Returns (opd.clearPointers .tfs).tmpKey (· = key) := ⟨key, current, rfl⟩
      refine Returns.bind present fun key same => ?_
      subst same
      refine Returns.bind (Key.atUid_returns last parseTfsRecord_returns) fun result kept => ?_
      obtain ⟨protocol, subkeys, lastUid, entries⟩ := kept
      have keeps : key.Kept result.2 := ⟨entries, protocol, by rw [subkeys]; exact id⟩
      refine ⟨_, rfl, tracks.quiet ⟨rfl, Or.inr ⟨key, _, current, rfl, keeps⟩⟩ other nothing
        ?_ ?_ ?_ (by simp [KeylistData.clearPointers])⟩
      · rw [follows, ← tracks.uid, tmpUid]
      · rw [noSig]
        rfl
      · intro found same
        obtain rfl := Option.some.inj same
        exact ⟨_, rfl, by rw [lastUid, last]⟩

theorem Tracks.onLastUid {next : KeylistData} {key : Key} {set : UserId → UserId}
    (tracks : Tracks ctx memory opd history) (edit : UidEntry → UidEntry)
    (current : opd.tmpKey = some key)
    (keyQueue : next.keyQueue = opd.keyQueue)
    (tmpKey : next.tmpKey = some (key.onLastUid set))
    (edits : ∀ uid, (set uid).entry = edit uid.entry)
    (other : (recordAt history line).startsKey = false)
    (place : ∀ attachments : Attachments,
      attachments.add (placeOf ctx memory pointerRule history line)
      = attachments.modifyLast (·.modifyLast edit))
    (uid : next.tmpUid.isSome = followsUid pointerRule (line :: history))
    (keysig : next.tmpKeysig.isSome = followsSig pointerRule (line :: history))
    (lastUid : ∀ addr, next.tmpUid = some addr
      → ∃ key, next.tmpKey = some key ∧ key.lastUid = some addr)
    (lastKeysig : ∀ addr, next.tmpKeysig = some addr
      → ∃ key, next.tmpKey = some key ∧ key.lastKeysig = some (some addr))
    : Tracks ctx memory next (line :: history) := by
  have unchanged : startsKeyblock line = false := by rw [startsKeyblock_eq history, other]
  refine ⟨?_, ?_, ?_, uid, keysig, lastUid, lastKeysig, ?_⟩
  · rw [List.any_cons, unchanged, Bool.false_or, ← tracks.key, current, tmpKey]
    rfl
  · intro found same
    obtain rfl := Option.some.inj (tmpKey.symm.trans same)
    rw [keyblockProtocol, unchanged]
    exact tracks.protocol key current
  · intro found same
    obtain rfl := Option.some.inj (tmpKey.symm.trans same)
    exact tracks.subkeys key current
  · rw [attached, place, ← tracks.entries, KeylistData.entries_of_key current,
      List.modifyLast_concat]
    have entries := key.entries_onLastUid set edit edits
    simp only [KeylistData.keys, keyQueue, tmpKey, Option.toList_some, List.map_append,
      List.map_cons, List.map_nil, entries]

theorem Tracks.sig {rectype : Rectype} (tracks : Tracks ctx memory opd history)
    (type : recordAt history line = rectype) (isSig : rectype = .sig ∨ rectype = .rev)
    : Returns ((opd.clearPointers rectype).addSig ctx (Fields.ofLine memory line))
        (fun result => Tracks ctx memory result.2 (line :: history)) := by
  have noKeyblock : startsKeyblock line = false := by
    rw [startsKeyblock_eq history, type]
    rcases isSig with rfl | rfl <;> rfl
  have noSpk : recordAt history line ≠ .spk := by
    rw [type]
    rcases isSig with rfl | rfl <;> simp
  have signs : isSigRecord history line = true := by simp [isSigRecord, type, isSig]
  have follows : followsUid pointerRule (line :: history) = followsUid pointerRule history := by
    rcases isSig with rfl | rfl <;> simp [followsUid, isUidRecord, pointerRule, type]
  have followsSelf : followsSig pointerRule (line :: history)
      = followsUid pointerRule history := by
    simp [followsSig, noSpk, signs]
  have pointer : (opd.clearPointers rectype).tmpUid = opd.tmpUid := by
    rcases isSig with rfl | rfl <;> rfl
  have dropped : (opd.clearPointers rectype).tmpKeysig = none := by
    rcases isSig with rfl | rfl <;> rfl
  obtain ⟨keysig, parsed, new⟩ :=
    newSig_returns ctx (Fields.ofLine memory line) (keyblockProtocol history)
  have placed : placeOf ctx memory pointerRule history line
      = if followsUid pointerRule history then .sig keysig else .nothing := by
    unfold placeOf
    rw [type]
    rcases isSig with rfl | rfl <;> simp only [parsed]
  unfold KeylistData.addSig
  rw [pointer]
  cases tmpUid : opd.tmpUid with
  | none =>
      have unfollowed : followsUid pointerRule history = false := by rw [← tracks.uid, tmpUid]; rfl
      refine ⟨_, rfl, tracks.quiet (KeylistData.KeepsKeys.same rfl rfl) ?_ ?_ ?_ ?_ ?_ ?_⟩
      · rw [← startsKeyblock_eq, noKeyblock]
      · rw [placed, unfollowed]
        rfl
      · rw [follows, unfollowed, pointer, tmpUid]
        rfl
      · rw [followsSelf, unfollowed, dropped]
        rfl
      · simp [pointer, tmpUid]
      · simp [dropped]
  | some addr =>
      have followed : followsUid pointerRule history = true := by rw [← tracks.uid, tmpUid]; rfl
      obtain ⟨key, current, last⟩ := tracks.lastUid addr tmpUid
      have present : Returns (opd.clearPointers rectype).tmpKey (· = key) := ⟨key, current, rfl⟩
      refine Returns.bind present fun key same => ?_
      subst same
      have asserted : Returns (guard (key.lastUid = some addr) : Option Unit) (fun _ => True) :=
        ⟨(), by simp [last], trivial⟩
      refine Returns.bind asserted fun _ _ => ?_
      have read : Returns (newSig ctx (Fields.ofLine memory line) key.protocol) (· = keysig) :=
        ⟨keysig, by rw [tracks.protocol key current, parsed], rfl⟩
      refine Returns.bind read fun keysig same => ?_
      subst same
      obtain ⟨uid, isLast, rfl⟩ := Option.map_eq_some_iff.mp last
      obtain ⟨init, uids⟩ : ∃ init, key.uids = init ++ [uid] := List.getLast?_eq_some_iff.mp isLast
      have signed (uid : UserId)
          : (uid.addSig { keysig with addr := opd.allocated }).entry
            = uid.entry.addSig keysig := by
        simp [UserId.entry, UserId.addSig, UidEntry.addSig, KeySig.content, ← new]
      refine ⟨_, rfl, tracks.onLastUid (UidEntry.addSig · keysig) current rfl rfl signed
        ?_ ?_ ?_ ?_ ?_ ?_⟩
      · rw [← startsKeyblock_eq, noKeyblock]
      · intro attachments
        rw [placed, followed]
        rfl
      · simp [follows, followed]
      · simp [followsSelf, followed]
      · intro found same
        obtain rfl := Option.some.inj same
        exact ⟨_, rfl, by simp [Key.lastUid, Key.onLastUid, uids, List.modifyLast_concat, UserId.addSig]⟩
      · intro found same
        cases same
        exact ⟨_, rfl, by simp [Key.lastKeysig, Key.onLastUid, uids, List.modifyLast_concat, UserId.addSig]⟩

theorem Tracks.spk (tracks : Tracks ctx memory opd history)
    (type : recordAt history line = .spk) (covered : Covered memory history line)
    : Returns ((opd.clearPointers .spk).addSubpacket (Fields.ofLine memory line))
        (fun result => Tracks ctx memory result.2 (line :: history)) := by
  have other : (recordAt history line).startsKey = false := by rw [type]; rfl
  have unfollowed : followsUid pointerRule (line :: history) = false := by
    simp [followsUid, isUidRecord, pointerRule, type]
  have follows : followsSig pointerRule (line :: history) = followsSig pointerRule history := by
    simp [followsSig, type]
  have pointer : (opd.clearPointers .spk).tmpKeysig = opd.tmpKeysig := rfl
  unfold KeylistData.addSubpacket
  rw [pointer]
  cases tmpKeysig : opd.tmpKeysig with
  | none =>
      have unsigned : followsSig pointerRule history = false := by
        rw [← tracks.keysig, tmpKeysig]
        rfl
      refine ⟨_, rfl, tracks.quiet (KeylistData.KeepsKeys.same rfl rfl) other ?_ ?_ ?_
        (by simp [KeylistData.clearPointers]) ?_⟩
      · unfold placeOf
        simp only [type, unsigned, Bool.false_eq_true, and_false, if_false]
        split <;> rfl
      · rw [unfollowed]
        rfl
      · rw [follows, unsigned, pointer, tmpKeysig]
        rfl
      · simp [pointer, tmpKeysig]
  | some addr =>
      have signed : followsSig pointerRule history = true := by
        rw [← tracks.keysig, tmpKeysig]
        rfl
      obtain ⟨key, current, last⟩ := tracks.lastKeysig addr tmpKeysig
      have present : Returns (opd.clearPointers .spk).tmpKey (· = key) := ⟨key, current, rfl⟩
      refine Returns.bind present fun key same => ?_
      subst same
      have asserted
          : Returns (guard (key.lastKeysig = some (some addr)) : Option Unit) (fun _ => True) :=
        ⟨(), by simp [last], trivial⟩
      refine Returns.bind asserted fun _ _ => ?_
      obtain ⟨result, read, _⟩ := readNotation_returns (covered.subpacket type signed)
      have reads : Returns (readNotation (Fields.ofLine memory line)) (· = result) :=
        ⟨result, read, rfl⟩
      refine Returns.bind reads fun found same => ?_
      subst same
      have unplaced (fails : ∀ parsed, found ≠ .ok (some parsed))
          : placeOf ctx memory pointerRule history line = .nothing := by
        unfold placeOf
        rw [type]
        dsimp only
        rw [read]
        split
        · next parsed same => exact absurd (Option.some.inj same) (fails parsed)
        · rfl
      have kept (next : KeylistData) (keyQueue : next.keyQueue = opd.keyQueue)
          (tmpKey : next.tmpKey = opd.tmpKey) (tmpUid : next.tmpUid = none)
          (keysig : next.tmpKeysig = some addr)
          (nothing : placeOf ctx memory pointerRule history line = .nothing)
          : Tracks ctx memory next (line :: history) := by
        refine tracks.quiet (KeylistData.KeepsKeys.same keyQueue tmpKey) other nothing ?_ ?_
          (by simp [tmpUid]) ?_
        · rw [unfollowed, tmpUid]
          rfl
        · rw [follows, signed, keysig]
          rfl
        · intro pointed same
          obtain rfl := Option.some.inj (keysig.symm.trans same)
          exact ⟨key, tmpKey.trans current, last⟩
      match found with
      | .error err =>
          exact ⟨_, rfl, kept _ rfl rfl rfl tmpKeysig (unplaced (by simp))⟩
      | .ok none =>
          exact ⟨_, rfl, kept _ rfl rfl rfl tmpKeysig (unplaced (by simp))⟩
      | .ok (some parsed) =>
          have placed : placeOf ctx memory pointerRule history line
              = if 4 ≤ (Fields.ofLine memory line).count then .subpacket parsed
                else .nothing := by
            unfold placeOf
            simp only [type, read, signed, and_true]
            rfl
          have enough : 4 ≤ (Fields.ofLine memory line).count := by
            by_contra short
            simp [readNotation, short] at read
          have noted (uid : UserId)
              : (uid.onLastSig (KeySig.addNotation parsed)).entry
                = uid.entry.onLastSig (KeySig.addNotation parsed) := by
            have content (keysig : KeySig)
                : (keysig.addNotation parsed).content = keysig.content.addNotation parsed := rfl
            exact congrArg (Prod.mk uid.uid) (map_modifyLast content uid.signatures)
          obtain ⟨uid, isLast, sigs⟩ := Option.map_eq_some_iff.mp last
          obtain ⟨init, uids⟩ : ∃ init, key.uids = init ++ [uid] :=
            List.getLast?_eq_some_iff.mp isLast
          refine ⟨_, rfl,
            tracks.onLastUid (UidEntry.onLastSig · (KeySig.addNotation parsed)) current rfl rfl
              noted other ?_ ?_ ?_ (by simp [KeylistData.clearPointers]) ?_⟩
          · intro attachments
            rw [placed, if_pos enough]
            rfl
          · rw [unfollowed]
            rfl
          · rw [follows, signed]
            rfl
          · intro pointed same
            obtain rfl := Option.some.inj same
            refine ⟨_, rfl, ?_⟩
            simp [Key.lastKeysig, Key.onLastUid, uids, List.modifyLast_concat, UserId.onLastSig,
              getLast?_modifyLast, KeySig.addNotation, Function.comp_def, sigs]

theorem Tracks.onKey {key key' : Key} (tracks : Tracks ctx memory opd history) (line : Str)
    (type : recordAt history line = .sub ∨ recordAt history line = .ssb
      ∨ recordAt history line = .fpr ∨ recordAt history line = .grp)
    (current : opd.tmpKey = some key) (kept : key.Kept key')
    : Tracks ctx memory
        { opd.clearPointers (recordAt history line) with tmpKey := some key' }
        (line :: history) := by
  refine tracks.cleared ⟨rfl, Or.inr ⟨key, key', current, rfl, kept⟩⟩ ?_ ?_ ?_ ?_ ?_ ?_ ?_ <;>
    rcases type with type | type | type | type <;>
      simp [KeylistData.clearPointers, isUidRecord, isSigRecord, Rectype.startsKey, type]

theorem Tracks.newSubkey {rectype : Rectype} (tracks : Tracks ctx memory opd history)
    (type : recordAt history line = rectype) (isSub : rectype = .sub ∨ rectype = .ssb)
    (covered : Covered memory history line)
    : Returns
        (do
          let key ← (opd.clearPointers rectype).tmpKey
          let key ← Gpgme.newSubkey ctx rectype (Fields.ofLine memory line) key
          some ((0 : GpgError), { opd.clearPointers rectype with tmpKey := some key }))
        (fun result => Tracks ctx memory result.2 (line :: history)) := by
  subst type
  obtain ⟨key, current⟩ := tracks.needsKey line (by tauto)
  have present : Returns (opd.clearPointers (recordAt history line)).tmpKey (· = key) :=
    ⟨key, current, rfl⟩
  refine Returns.bind present fun key same => ?_
  subst same
  refine Returns.bind (newSubkey_returns _ (covered.compliance (Or.inr isSub)) key)
    fun key' frame => ?_
  exact ⟨_, rfl, tracks.onKey line (by tauto) current (Key.Kept.addSubkey frame)⟩

theorem Tracks.step (tracks : Tracks ctx memory opd history) (covered : Covered memory history line)
    : Returns (keylistColonHandler ctx memory opd (some line))
        (fun result => Tracks ctx memory result.2 (line :: history)) := by
  rw [tracks.handler_eq line]
  cases type : recordAt history line with
  | none =>
      refine ⟨_, rfl, tracks.cleared (KeylistData.KeepsKeys.same rfl rfl) rfl rfl ?_ ?_ ?_ ?_ ?_⟩ <;>
        simp [isUidRecord, isSigRecord, Rectype.startsKey, type]
  | pub => exact tracks.newKeyblock type rfl covered
  | sec => exact tracks.newKeyblock type rfl covered
  | crt => exact tracks.newKeyblock type rfl covered
  | crs => exact tracks.newKeyblock type rfl covered
  | sub => exact tracks.newSubkey type (Or.inl rfl) covered
  | ssb => exact tracks.newSubkey type (Or.inr rfl) covered
  | uid =>
      by_cases enough : 10 ≤ (Fields.ofLine memory line).count
      · exact tracks.newUid type enough
      · have short : ¬ 10 ≤ (lineFields line).length := enough
        unfold keylistSwitch
        dsimp only
        rw [if_neg enough]
        refine ⟨_, rfl, tracks.cleared (KeylistData.KeepsKeys.same rfl rfl) rfl rfl
          ?_ ?_ ?_ ?_ ?_⟩ <;>
          simp [isUidRecord, isSigRecord, Rectype.startsKey, type, short]
  | tfs => exact tracks.tfs type
  | fpr =>
      obtain ⟨key, current⟩ := tracks.needsKey line (by simp [type])
      have present : Returns (opd.clearPointers .fpr).tmpKey (· = key) := ⟨key, current, rfl⟩
      refine Returns.bind present fun key same => ?_
      subst same
      refine Returns.bind (readFingerprint_returns (tracks.subkeys key current))
        fun result frame => ?_
      have kept := tracks.onKey line (by simp [type]) current frame.kept
      rw [type] at kept
      exact ⟨_, rfl, kept⟩
  | grp =>
      obtain ⟨key, current⟩ := tracks.needsKey line (by simp [type])
      have present : Returns (opd.clearPointers .grp).tmpKey (· = key) := ⟨key, current, rfl⟩
      refine Returns.bind present fun key same => ?_
      subst same
      refine Returns.bind (readKeygrip_returns (tracks.subkeys key current)) fun key' frame => ?_
      have kept := tracks.onKey line (by simp [type]) current frame.kept
      rw [type] at kept
      exact ⟨_, rfl, kept⟩
  | sig => exact tracks.sig type (Or.inl rfl)
  | rev => exact tracks.sig type (Or.inr rfl)
  | spk => exact tracks.spk type covered

-----------------------------------------------------------------------------------------
-- Lines with too few fields
-----------------------------------------------------------------------------------------

theorem readSecretAndCurve_falls (uncovered : ¬ CoversCompliance fields) (key : Key)
    : readSecretAndCurve ctx fields key = none := by
  simp only [CoversCompliance, Classical.not_imp, Bool.not_eq_true,
    Option.isSome_eq_false_iff, Option.isNone_iff_eq_none] at uncovered
  obtain ⟨count, wild⟩ := uncovered
  have outside : fields.texts[17]? = none := List.getElem?_eq_none (le_of_eq count)
  have unread : fields.read 17 = none := by simp [Fields.read, outside, wild]
  unfold readSecretAndCurve
  simp only [Option.bind_eq_bind, Option.bind_eq_none_iff]
  intro _ _ key' _
  simp [Fields.update, count, unread]

theorem newKeyblock_falls (rectype : Rectype) (uncovered : ¬ CoversCompliance fields)
    : newKeyblock ctx rectype fields = none := by
  unfold newKeyblock
  simp only [Option.bind_eq_bind, Option.bind_eq_none_iff]
  intro _ _ _ _ _ _ _ _ _ _ _ _ _ _ key _ key' read
  rw [readSecretAndCurve_falls uncovered] at read
  cases read

theorem newSubkey_falls (rectype : Rectype) (uncovered : ¬ CoversCompliance fields) (key : Key)
    : newSubkey ctx rectype fields key = none := by
  unfold newSubkey
  simp only [Option.bind_eq_bind, Option.bind_eq_none_iff]
  intro _ _ _ _ _ _ _ _ key' _
  exact readSecretAndCurve_falls uncovered key'

theorem readNotation_falls (uncovered : ¬ CoversSubpacket fields)
    : readNotation fields = none := by
  simp only [CoversSubpacket, Classical.not_imp, Bool.not_eq_true,
    Option.isSome_eq_false_iff, Option.isNone_iff_eq_none] at uncovered
  obtain ⟨count, wild⟩ := uncovered
  have outside : fields.texts[4]? = none := List.getElem?_eq_none (le_of_eq count)
  have unread : fields.read 4 = none := by simp [Fields.read, outside, wild]
  unfold readNotation
  rw [if_pos (le_of_eq count.symm), unread]
  simp only [Option.bind_eq_bind, Option.bind_none, Option.bind_eq_none_iff, implies_true]

theorem Tracks.falls (tracks : Tracks ctx memory opd history)
    (uncovered : ¬ Covered memory history line)
    : keylistColonHandler ctx memory opd (some line) = none := by
  rw [tracks.handler_eq line]
  by_cases compliance : (recordAt history line).startsKey ∨ recordAt history line = .sub
      ∨ recordAt history line = .ssb
    → CoversCompliance (Fields.ofLine memory line)
  · have subpacket : ¬ (recordAt history line = .spk → followsSig pointerRule history
        → CoversSubpacket (Fields.ofLine memory line)) :=
      fun covers => uncovered ⟨compliance, covers⟩
    simp only [Classical.not_imp] at subpacket
    obtain ⟨type, signed, unread⟩ := subpacket
    rw [← tracks.keysig] at signed
    obtain ⟨addr, tmpKeysig⟩ := Option.isSome_iff_exists.mp signed
    rw [type]
    unfold keylistSwitch KeylistData.addSubpacket
    have pointer : (opd.clearPointers .spk).tmpKeysig = some addr := tmpKeysig
    simp only [pointer, readNotation_falls unread, Option.bind_eq_bind, Option.bind_none,
      Option.bind_eq_none_iff, implies_true]
  · simp only [Classical.not_imp] at compliance
    obtain ⟨type, unread⟩ := compliance
    have starts (rectype : Rectype) (next : Key → GpgError × KeylistData)
        : (do
            let key ← Gpgme.newKeyblock ctx rectype (Fields.ofLine memory line)
            some (next key)) = none := by
      rw [newKeyblock_falls rectype unread]
      rfl
    have adds (rectype : Rectype) (next : Key → GpgError × KeylistData)
        : (do
            let key ← (opd.clearPointers rectype).tmpKey
            let key ← Gpgme.newSubkey ctx rectype (Fields.ofLine memory line) key
            some (next key)) = none := by
      simp only [newSubkey_falls rectype unread, Option.bind_eq_bind, Option.bind_none,
        Option.bind_eq_none_iff, implies_true]
    cases found : recordAt history line <;> simp [found, Rectype.startsKey] at type
    all_goals first | exact starts _ _ | exact adds _ _

-----------------------------------------------------------------------------------------
-- Runs
-----------------------------------------------------------------------------------------

theorem keylistRun_cons (opd : KeylistData) (line : Option Str) (rest : List (Option Str))
    : keylistRun ctx memory opd (line :: rest)
      = (keylistColonHandler ctx memory opd line).bind
          fun result => keylistRun ctx memory result.2 rest := by
  unfold keylistRun
  rw [List.foldlM_cons]
  cases keylistColonHandler ctx memory opd line <;> rfl

theorem keylistRun_append (ctx : KeylistCtx) (memory : Uninitialized) (opd : KeylistData)
    (lines more : List (Option Str))
    : keylistRun ctx memory opd (lines ++ more)
      = (keylistRun ctx memory opd lines).bind fun next => keylistRun ctx memory next more :=
  List.foldlM_append

theorem Tracks.run {next : KeylistData} {lines : List Str}
    (tracks : Tracks ctx memory opd history)
    (ran : keylistRun ctx memory opd (lines.map some) = some next)
    : Tracks ctx memory next (lines.reverse ++ history) := by
  induction lines generalizing opd history with
  | nil =>
      cases ran
      exact tracks
  | cons line rest ih =>
      rw [List.map_cons, keylistRun_cons] at ran
      by_cases covered : Covered memory history line
      · obtain ⟨result, handled, tracks'⟩ := tracks.step covered
        rw [handled] at ran
        have later := ih tracks' ran
        rwa [List.reverse_cons, List.append_assoc]
      · rw [tracks.falls covered] at ran
        cases ran

theorem Tracks.run_isSome_iff {lines : List Str} (tracks : Tracks ctx memory opd history)
    : (keylistRun ctx memory opd (lines.map some)).isSome
      ↔ ∀ before line after, lines = before ++ line :: after
        → Covered memory (before.reverse ++ history) line := by
  induction lines generalizing opd history with
  | nil => simp [keylistRun]
  | cons first rest ih =>
      rw [List.map_cons, keylistRun_cons]
      by_cases covered : Covered memory history first
      · obtain ⟨result, handled, tracks'⟩ := tracks.step covered
        rw [handled, Option.bind_some, ih tracks']
        constructor
        · intro all before line after whole
          cases before with
          | nil =>
              cases whole
              exact covered
          | cons head tail =>
              cases whole
              simpa using all tail line after rfl
        · intro all before line after whole
          have shifted := all (first :: before) line after (by rw [whole]; rfl)
          simpa using shifted
      · rw [tracks.falls covered, Option.bind_none]
        refine ⟨by simp, fun all => absurd (all [] first rest rfl) covered⟩

theorem hasRecord_iff {lines history : List Str} {line : Str}
    : HasRecord lines history line ↔ ∃ after, lines = history.reverse ++ line :: after := by
  unfold HasRecord
  constructor
  · rintro ⟨front, same⟩
    refine ⟨front.reverse, ?_⟩
    have reversed := congrArg List.reverse same
    simpa using reversed.symm
  · rintro ⟨after, rfl⟩
    exact ⟨after.reverse, by simp⟩

theorem keylistRun_isSome_iff (ctx : KeylistCtx) (memory : Uninitialized) (lines : List Str)
    : (keylistRun ctx memory {} (lines.map some)).isSome
      ↔ ∀ history line, HasRecord lines history line → Covered memory history line := by
  rw [(start_tracks ctx memory).run_isSome_iff]
  constructor
  · intro all history line record
    obtain ⟨after, whole⟩ := hasRecord_iff.mp record
    simpa using all history.reverse line after whole
  · intro all before line after whole
    refine all _ _ (hasRecord_iff.mpr ⟨after, ?_⟩)
    simpa using whole

end Gpgme
