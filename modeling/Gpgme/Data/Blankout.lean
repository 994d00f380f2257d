import Gpgme.Data.Objects
import Gpgme.Data.PropertyRuns

/-! What a data object that has been blanked answers, and that it stays blanked. -/

namespace Gpgme

-----------------------------------------------------------------------------------------
-- What the status handler does to the property table
-----------------------------------------------------------------------------------------

/-- The part of a context that decides which objects are blanked. -/
structure Blanking where
  calls : List Nat
  plaintextDserial : Nat
  ignoreMdcError : Bool

def Ctx.blanking (ctx : Ctx) : Blanking :=
  ⟨ctx.blankoutCalls, ctx.decrypt.plaintextDserial, ctx.ignoreMdcError⟩

/-- The effect of a status line: only DECRYPTION_FAILED blanks an object. -/
def Blanking.note (blanking : Blanking) (code : StatusCode) : Blanking :=
  if code = .decryptionFailed ∧ blanking.ignoreMdcError = false then
    { blanking with calls := blanking.calls ++ [blanking.plaintextDserial] }
  else blanking

@[simp]
theorem Blanking.note_ignoreMdcError (blanking : Blanking) (code : StatusCode)
    : (blanking.note code).ignoreMdcError = blanking.ignoreMdcError := by
  unfold note
  split <;> rfl

@[simp]
theorem Blanking.note_plaintextDserial (blanking : Blanking) (code : StatusCode)
    : (blanking.note code).plaintextDserial = blanking.plaintextDserial := by
  unfold note
  split <;> rfl

theorem Ctx.callStatusCb_blanking (ctx : Ctx) (keyword args : Str)
    : (ctx.callStatusCb keyword args).2.blanking = ctx.blanking := by
  obtain ⟨_, recorded⟩ := ctx.callStatusCb_changes keyword args
  rw [recorded]
  rfl

theorem progressStatusHandler_blanking (ctx : Ctx) (code : StatusCode) (args : Str)
    : ∃ next,
        progressStatusHandler ctx code args = some (0, args, next)
        ∧ next.blanking = ctx.blanking := by
  unfold progressStatusHandler
  split
  · exact ⟨_, rfl, rfl⟩
  · split
    · exact ⟨_, rfl, rfl⟩
    · dsimp only
      split <;> exact ⟨_, rfl, rfl⟩

theorem passphraseStatusHandler_blanking (ctx : Ctx) (code : StatusCode) (args : Str)
    : ∃ err left next,
        passphraseStatusHandler ctx code args = some (err, left, next)
        ∧ next.blanking = ctx.blanking
        ∧ (code = .decryptionFailed → err = 0) := by
  cases code
  case error =>
    exact ⟨_, _, _, rfl, ctx.callStatusCb_blanking _ _, by simp⟩
  case failure =>
    exact ⟨_, _, _, rfl, ctx.callStatusCb_blanking _ _, by simp⟩
  case eof =>
    simp only [passphraseStatusHandler]
    split <;> exact ⟨_, _, _, rfl, rfl, by simp⟩
  all_goals exact ⟨_, _, _, rfl, rfl, by simp⟩

theorem noteErrorLocation_dserial (opd : DecryptData) (location : Str) (err : GpgError)
    (detail : Option Str)
    : (noteErrorLocation opd location err detail).plaintextDserial = opd.plaintextDserial := by
  unfold noteErrorLocation
  repeat' split
  all_goals rfl

theorem parseStatusError_dserial (args : Str) (opd : DecryptData)
    : (parseStatusError args opd).2.plaintextDserial = opd.plaintextDserial := by
  unfold parseStatusError
  split
  · rfl
  · dsimp only
    split <;> exact noteErrorLocation_dserial _ _ _ _

theorem parseDecryptionInfo_dserial (args : Str) (opd : DecryptData)
    (protocol : Protocol)
    : (parseDecryptionInfo args opd protocol).2.plaintextDserial = opd.plaintextDserial := by
  unfold parseDecryptionInfo
  split <;> rfl

theorem decryptStatusSwitch_blanking (ctx : Ctx) (code : StatusCode) (args : Str)
    : ∃ err left next,
        decryptStatusSwitch ctx code args = some (err, left, next)
        ∧ next.blanking = ctx.blanking.note code := by
  cases code
  case decryptionFailed =>
    refine ⟨_, _, _, rfl, ?_⟩
    cases ignore : ctx.ignoreMdcError <;> simp [Ctx.blanking, Blanking.note, ignore]
  case decryptionInfo =>
    refine ⟨_, _, { ctx with
      decrypt := (parseDecryptionInfo args ctx.decrypt ctx.protocol).2 }, rfl, ?_⟩
    simp [Ctx.blanking, Blanking.note, parseDecryptionInfo_dserial]
  case error =>
    refine ⟨_, _, { ctx with decrypt := (parseStatusError args ctx.decrypt).2 }, rfl, ?_⟩
    simp [Ctx.blanking, Blanking.note, parseStatusError_dserial]
  case encTo =>
    simp only [decryptStatusSwitch]
    split <;> exact ⟨_, _, _, rfl, by simp [Ctx.blanking, Blanking.note]⟩
  case noSeckey =>
    simp only [decryptStatusSwitch]
    split <;> exact ⟨_, _, _, rfl, by simp [Ctx.blanking, Blanking.note]⟩
  case inquireMaxlen =>
    exact ⟨_, _, _, rfl, (ctx.callStatusCb_blanking _ _).trans (by simp [Blanking.note])⟩
  all_goals exact ⟨_, _, _, rfl, by simp [Ctx.blanking, Blanking.note]⟩

theorem decryptStatusHandlerInstalled_blanking (ctx : Ctx) (code : StatusCode)
    (args : Str)
    : ∃ err left next,
        decryptStatusHandlerInstalled ctx code args = some (err, left, next)
        ∧ next.blanking = ctx.blanking.note code := by
  obtain ⟨shown, progress, sameShown⟩ := progressStatusHandler_blanking ctx code args
  obtain ⟨err, left, asked, passphrase, sameAsked, accepted⟩ :=
    passphraseStatusHandler_blanking shown code args
  simp only [decryptStatusHandlerInstalled, decryptStatusHandler, StatusHandler.andThen, progress,
    passphrase]
  by_cases refused : err = 0
  · obtain ⟨answer, rest, next, handled, blanking⟩ := decryptStatusSwitch_blanking asked code left
    refine ⟨answer, rest, next, by simpa [refused] using handled, ?_⟩
    rw [blanking, sameAsked, sameShown]
  · refine ⟨err, left, asked, by simp [refused], ?_⟩
    have other : code ≠ .decryptionFailed := fun isFailed => refused (accepted isFailed)
    rw [sameAsked, sameShown]
    simp [Blanking.note, other]

end Gpgme

namespace Gpgme.Data

-----------------------------------------------------------------------------------------
-- How the registry evolves
-----------------------------------------------------------------------------------------

/-- Later objects have larger numbers, and an object that is still there keeps its number and
stays blanked.
-/
structure Registry.Evolves (reg next : Registry) : Prop where
  created : reg.created ≤ next.created
  live
    : ∀ {dh entry},
        next.live dh = some entry
        → reg.created < entry.serial
          ∨ ∃ old,
              reg.live dh = some old
              ∧ old.serial = entry.serial
              ∧ (old.blankout = true → entry.blankout = true)

namespace Registry

variable {reg middle next : Registry}

theorem Evolves.refl (reg : Registry) : reg.Evolves reg :=
  ⟨le_refl _, fun live => Or.inr ⟨_, live, rfl, id⟩⟩

theorem Evolves.trans (first : reg.Evolves middle) (second : middle.Evolves next)
    : reg.Evolves next := by
  refine ⟨first.created.trans second.created, ?_⟩
  intro dh entry live
  rcases second.live live with new | ⟨old, oldLive, sameSerial, kept⟩
  · exact Or.inl (first.created.trans_lt new)
  · rcases first.live oldLive with new | ⟨older, olderLive, sameSerial', kept'⟩
    · exact Or.inl (sameSerial ▸ new)
    · exact Or.inr ⟨older, olderLive, sameSerial'.trans sameSerial, kept ∘ kept'⟩

theorem evolves_insert (reg : Registry) (dh : Handle) : reg.Evolves (reg.insert dh) := by
  refine ⟨Nat.le_succ _, ?_⟩
  intro other entry live
  by_cases same : other = dh
  · simp only [insert, same, Function.update_self, Option.some.injEq] at live
    subst live
    exact Or.inl (Nat.lt_succ_self _)
  · simp only [insert, Function.update_of_ne same] at live
    exact Or.inr ⟨entry, live, rfl, id⟩

theorem evolves_remove (reg : Registry) (dh : Handle) : reg.Evolves (reg.remove dh) := by
  refine ⟨le_refl _, ?_⟩
  intro other entry live
  by_cases same : other = dh
  · simp [remove, same] at live
  · exact Or.inr ⟨entry, by simpa [remove, same] using live, rfl, id⟩

theorem evolves_setFlag (reg : Registry) (dh : Handle) : reg.Evolves (reg.setFlag dh true) := by
  refine ⟨le_refl _, ?_⟩
  intro other entry live
  by_cases same : other = dh
  · subst same
    simp only [setFlag, Function.update_self, Option.map_eq_some_iff] at live
    obtain ⟨old, oldLive, rfl⟩ := live
    exact Or.inr ⟨old, oldLive, rfl, fun _ => rfl⟩
  · exact Or.inr ⟨entry, by simpa [setFlag, same] using live, rfl, id⟩

/-- The object with a number is blanked, if it is still there. -/
def Blanked (reg : Registry) (serial : Nat) : Prop :=
  ∀ dh entry, reg.live dh = some entry → entry.serial = serial → entry.blankout = true

theorem Blanked.evolves {serial : Nat} (blanked : reg.Blanked serial) (evolves : reg.Evolves next)
    (assigned : serial ≤ reg.created)
    : next.Blanked serial := by
  intro dh entry live isSerial
  rcases evolves.live live with new | ⟨old, oldLive, sameSerial, kept⟩
  · omega
  · exact kept (blanked dh old oldLive (sameSerial.trans isSerial))

theorem blanked_setProp (unique : reg.SerialsUnique) (serial : Nat)
    : (reg.after {} (.setProp none serial .blankout 1)).Blanked serial := by
  intro dh entry live isSerial
  simp only [after] at live
  split at live
  · next designated =>
      obtain ⟨target, isTarget, ⟨given, _⟩ | ⟨_, _, sameSerial⟩⟩ := designated.choose_spec
      · cases given
      · by_cases same : dh = designated.choose
        · rw [← same] at live
          simp only [setFlag, Function.update_self, Option.map_eq_some_iff] at live
          obtain ⟨_, _, rfl⟩ := live
          rfl
        · have before : reg.live dh = some entry := by simpa [setFlag, same] using live
          exact absurd (unique.distinct before isTarget (isSerial.trans sameSerial.symm)) same
  · next nobody =>
      have positive := (unique.assigned live).1
      exact absurd ⟨dh, entry, live, Or.inr ⟨rfl, by omega, isSerial⟩⟩ nobody

/-- The numbers of the live objects. -/
def serials (reg : Registry) (dh : Handle) : Option Nat := (reg.live dh).map Entry.serial

theorem evolves_setProp (reg : Registry) (serial : Nat)
    : reg.Evolves (reg.after {} (.setProp none serial .blankout 1))
      ∧ (reg.after {} (.setProp none serial .blankout 1)).serials = reg.serials := by
  simp only [after]
  split
  · next designated =>
      refine ⟨reg.evolves_setFlag designated.choose, ?_⟩
      funext dh
      by_cases same : dh = designated.choose
      · subst same
        simp only [serials, setFlag, Function.update_self, Option.map_map]
        rfl
      · simp [serials, setFlag, same]
  · exact ⟨Evolves.refl reg, rfl⟩

theorem live_iff_of_serials (same : next.serials = reg.serials) (dh : Handle)
    : (next.live dh).isSome ↔ (reg.live dh).isSome := by
  have sameAt := congrFun same dh
  have mapped := congrArg Option.isSome sameAt
  simp only [serials, Option.isSome_map] at mapped
  rw [mapped]

end Registry

-----------------------------------------------------------------------------------------
-- The invariant
-----------------------------------------------------------------------------------------

/-- The table represents the registry, every live object has a payload, and memory objects
are well formed.
-/
structure DataWorld.Keeps (world : DataWorld) (reg : Registry) : Prop where
  represents : world.props.Represents reg
  payloads : ∀ dh, (world.payload dh).isSome ↔ (reg.live dh).isSome
  wellFormed : ∀ {dh mem}, world.payload dh = some (.mem mem) → mem.WellFormed

/-- The allocator returns no address in use, and the serial numbers do not run out. -/
def DataWorld.Fresh (world : DataWorld) (addr : Option Handle) : Prop :=
  (∀ dh ∈ addr, world.props.propidx dh = none) ∧ world.props.tbl.lastDserial + 1 < 2 ^ 64

/-- Handles are live, and the buffers of the caller are smaller than the address space. -/
def DataOp.Valid (world : DataWorld) : DataOp → Prop
  | .new _ addr | .newExternal _ addr => world.Fresh addr
  | .newFromMem _ _ addr buffer _ => world.Fresh addr ∧ buffer.length < 2 ^ 63
  | .release dh | .read dh _ _ | .releaseAndGetMem dh _ => (world.props.propidx dh).isSome
  | .write dh _ buffer _ => (world.props.propidx dh).isSome ∧ buffer.length < 2 ^ 63
  | .seek dh offset _ _ => (world.props.propidx dh).isSome ∧ -2 ^ 63 ≤ offset ∧ offset < 2 ^ 63
  | .startDecrypt _ plaintext => ∀ dh ∈ plaintext, (world.props.propidx dh).isSome
  | .setIgnoreMdcError _ _ | .statusLine _ _ => True

/-- A table that an index of type `int` can address has room for the new object. -/
def DataWorld.HasRoom (world : DataWorld) : Prop :=
  world.props.tbl.entries.countP (fun entry => entry.dh.isSome) < maxTableSize

/-- Before a creation the number of live objects is below the largest table that an index of
type `int` can address, and the offset of a seek can be negated.
-/
def DataOp.Fits (world : DataWorld) : DataOp → Prop
  | .new _ _ | .newExternal _ _ | .newFromMem _ _ _ _ _ => world.HasRoom
  | .seek _ offset _ _ => offset ≠ -2 ^ 63
  | _ => True

def DataOp.Allowed (world : DataWorld) (op : DataOp) : Prop := op.Valid world ∧ op.Fits world

theorem Mem.WellFormed.refines {mem : Mem} (wf : mem.WellFormed) : mem.Refines (mem.view wf) :=
  ⟨wf, rfl⟩

/-- A memory object in the payload is well formed. -/
def WellFormedPayload (payload : Option Payload) : Prop :=
  ∀ mem, payload = some (.mem mem) → mem.WellFormed

theorem payload_new : WellFormedPayload (some (.mem {})) := by
  intro mem isMem
  cases isMem
  refine ⟨?_, ?_, ?_, ?_, ?_⟩ <;> simp [Mem.source]

theorem payload_external : WellFormedPayload (some .external) := by
  intro mem isMem
  cases isMem

theorem payload_newFromMem (alloc : Alloc) {buffer : List UInt8} (small : buffer.length < 2 ^ 63)
    (copy : Bool)
    : WellFormedPayload ((newFromMem alloc buffer copy).map .mem) := by
  intro mem isMem
  obtain ⟨filled, created, same⟩ := Option.map_eq_some_iff.mp isMem
  cases same
  obtain ⟨⟨wf, _⟩, _⟩ := newFromMem_refines small created
  exact wf

namespace DataWorld.Keeps

variable {world : DataWorld} {reg : Registry}

theorem initial (ctxs : Nat → Ctx) : DataWorld.Keeps { ctxs } {} :=
  ⟨PropWorld.represents_empty, by simp, by simp⟩

theorem lookup (keeps : world.Keeps reg) {dh : Handle}
    (alive : (world.props.propidx dh).isSome)
    : ∃ entry,
        reg.live dh = some entry
        ∧ world.serial dh = some entry.serial
        ∧ world.blankout dh = some (0, entry.blankout.toNat) := by
  obtain ⟨idx, isIdx⟩ := Option.isSome_iff_exists.mp alive
  obtain ⟨entries, entry, present, _, found, _, live, checked, small⟩ :=
    keeps.represents.entryOfHandle isIdx
  refine ⟨_, live, ?_, ?_⟩
  · simp [DataWorld.serial, DataWorld.ref, isIdx, gpgmeDataGetDserial, checked]
  · have same : CInt.toInt idx = idx := CInt.toInt_of_range (by omega) (by omega)
    simp [DataWorld.blankout, DataWorld.ref, isIdx, gpgmeDataGetProp, propIndex, same, checked,
      present, found]

theorem payload (keeps : world.Keeps reg) {dh : Handle}
    (alive : (world.props.propidx dh).isSome)
    : ∃ payload, world.payload dh = some payload := by
  rw [← Option.isSome_iff_exists, keeps.payloads, keeps.represents.live_iff]
  exact alive

theorem setMem (keeps : world.Keeps reg) {dh : Handle} {mem : Mem}
    (alive : (world.payload dh).isSome) (wf : mem.WellFormed)
    : (world.setMem dh mem).Keeps reg := by
  refine ⟨keeps.represents, ?_, ?_⟩
  · intro other
    rw [← keeps.payloads]
    by_cases same : other = dh
    · subst same
      simp [DataWorld.setMem, alive]
    · simp [DataWorld.setMem, same]
  · intro other mem' isMem
    by_cases same : other = dh
    · simp only [DataWorld.setMem, same, Function.update_self, Option.some.injEq,
        Payload.mem.injEq] at isMem
      exact isMem ▸ wf
    · simp only [DataWorld.setMem, Function.update_of_ne same] at isMem
      exact keeps.wellFormed isMem

theorem release (keeps : world.Keeps reg) {dh : Handle}
    (alive : (world.props.propidx dh).isSome)
    : ∃ next, world.release dh = some next ∧ next.Keeps (reg.remove dh) := by
  obtain ⟨idx, isIdx⟩ := Option.isSome_iff_exists.mp alive
  obtain ⟨props, released, represents⟩ := gpgmeDataRelease_represents keeps.represents isIdx
  refine ⟨_, by rw [DataWorld.release, released]; rfl, represents, ?_, ?_⟩
  · intro other
    by_cases same : other = dh
    · simp [same, Registry.remove]
    · simpa [same, Registry.remove] using keeps.payloads other
  · intro other mem isMem
    by_cases same : other = dh
    · simp [same] at isMem
    · simp only [Function.update_of_ne same] at isMem
      exact keeps.wellFormed isMem

theorem create (keeps : world.Keeps reg) (alloc : TableAlloc) {addr : Option Handle}
    {payload : Option Payload} (fresh : world.Fresh addr) (room : world.HasRoom)
    (wf : WellFormedPayload payload)
    : ∃ event next reg',
        world.create alloc addr payload = some (event, next)
        ∧ next.Keeps reg'
        ∧ reg.Evolves reg'
        ∧ (∀ dh, addr ≠ some dh → reg'.live dh = reg.live dh)
        ∧ ∀ number, event = .object number .created → reg.created < number := by
  have unused : ∀ dh, addr = some dh → reg.live dh = none :=
    fun dh isAddr => keeps.represents.dead (fresh.1 dh isAddr)
  have numbers : reg.created + 1 < 2 ^ 64 := by
    rw [← keeps.represents.last]
    exact fresh.2
  have count : reg.count < maxTableSize := by
    rw [← keeps.represents.counted]
    exact room
  obtain ⟨err, props, created, _, represents⟩ :=
    gpgmeDataNew_represents alloc keeps.represents unused numbers count
  unfold DataWorld.create
  rw [created]
  cases addr with
  | none =>
      exact ⟨_, _, reg, rfl, ⟨represents, keeps.payloads, keeps.wellFormed⟩, .refl reg,
        fun _ _ => rfl, by simp⟩
  | some dh =>
      have apart {other : Handle} (notAddr : some dh ≠ some other) : other ≠ dh :=
        fun same => notAddr (by rw [same])
      simp only [Registry.after] at represents
      by_cases failed : err ≠ 0
      · rw [if_neg failed] at represents
        simp only [if_pos failed]
        exact ⟨_, _, reg, rfl, ⟨represents, keeps.payloads, keeps.wellFormed⟩, .refl reg,
          fun _ _ => rfl, by simp⟩
      · rw [if_pos (not_not.mp failed)] at represents
        simp only [if_neg failed]
        have dead : world.payload dh = none := by
          rw [← Option.not_isSome_iff_eq_none, keeps.payloads, unused dh rfl]
          simp
        cases payload with
        | none =>
            have alive : (props.propidx dh).isSome := by
              rw [← represents.live_iff]
              simp [Registry.insert]
            obtain ⟨idx, isIdx⟩ := Option.isSome_iff_exists.mp alive
            obtain ⟨left, released, represents'⟩ := gpgmeDataRelease_represents represents isIdx
            simp only [released, Option.map_some]
            refine ⟨_, _, _, rfl, ⟨represents', ?_, keeps.wellFormed⟩,
              (reg.evolves_insert dh).trans (Registry.evolves_remove _ dh), ?_, by simp⟩
            · intro other
              by_cases same : other = dh
              · simp [same, Registry.remove, dead]
              · simpa [same, Registry.remove, Registry.insert] using keeps.payloads other
            · intro other notAddr
              simp [Registry.remove, Registry.insert, apart notAddr]
        | some payload =>
            refine ⟨_, _, _, rfl, ⟨represents, ?_, ?_⟩, reg.evolves_insert dh, ?_, ?_⟩
            · intro other
              by_cases same : other = dh
              · simp [same, Registry.insert]
              · simpa [same, Registry.insert] using keeps.payloads other
            · intro other mem isMem
              by_cases same : other = dh
              · simp only [same, Function.update_self, Option.some.injEq] at isMem
                exact wf mem (by rw [isMem])
              · simp only [Function.update_of_ne same] at isMem
                exact keeps.wellFormed isMem
            · intro other notAddr
              simp [Registry.insert, apart notAddr]
            · intro number isEvent
              cases isEvent
              rw [represents.last]
              exact Nat.lt_succ_self _

theorem read (keeps : world.Keeps reg) {dh : Handle} (alive : (world.props.propidx dh).isSome)
    (size : Nat) (reply : MemAnswer)
    : ∃ answer next, world.read dh size reply = some (answer, next) ∧ next.Keeps reg := by
  obtain ⟨entry, _, _, blankout⟩ := keeps.lookup alive
  obtain ⟨payload, isPayload⟩ := keeps.payload alive
  unfold DataWorld.read
  rw [blankout, isPayload]
  dsimp only
  split
  · exact ⟨_, _, rfl, keeps⟩
  · cases payload with
    | external => exact ⟨_, _, rfl, keeps⟩
    | mem mem =>
        obtain ⟨next, ran, ⟨wf, _⟩, _⟩ := memRead_refines (keeps.wellFormed isPayload).refines size
        simp only [ran, Option.map_some]
        exact ⟨_, _, rfl, keeps.setMem (by rw [isPayload]; rfl) wf⟩

theorem write (keeps : world.Keeps reg) {dh : Handle} (alive : (world.props.propidx dh).isSome)
    (alloc : Alloc) {buffer : List UInt8} (small : buffer.length < 2 ^ 63) (reply : Int)
    : ∃ answer next, world.write dh alloc buffer reply = some (answer, next) ∧ next.Keeps reg := by
  obtain ⟨payload, isPayload⟩ := keeps.payload alive
  unfold DataWorld.write
  rw [isPayload]
  cases payload with
  | external => exact ⟨_, _, rfl, keeps⟩
  | mem mem =>
      obtain ⟨ret, next, ran, _, outcome, _⟩ :=
        memWrite_refines alloc (keeps.wellFormed isPayload).refines small
      have wf : next.WellFormed := by
        rcases outcome with ⟨_, wf, _⟩ | ⟨_, wf, _⟩ <;> exact wf
      simp only [ran, Option.map_some]
      exact ⟨_, _, rfl, keeps.setMem (by rw [isPayload]; rfl) wf⟩

theorem seek (keeps : world.Keeps reg) {dh : Handle} (alive : (world.props.propidx dh).isSome)
    {offset : Int} (low : -2 ^ 63 < offset) (high : offset < 2 ^ 63) (whence reply : Int)
    : ∃ answer next, world.seek dh offset whence reply = some (answer, next) ∧ next.Keeps reg := by
  obtain ⟨payload, isPayload⟩ := keeps.payload alive
  unfold DataWorld.seek
  rw [isPayload]
  cases payload with
  | external => exact ⟨_, _, rfl, keeps⟩
  | mem mem =>
      obtain ⟨next, ran, ⟨wf, _⟩, _⟩ :=
        memSeek_refines (keeps.wellFormed isPayload).refines whence low high
      simp only [ran]
      exact ⟨_, _, rfl, keeps.setMem (by rw [isPayload]; rfl) wf⟩

end DataWorld.Keeps

-----------------------------------------------------------------------------------------
-- Taking the memory of an object
-----------------------------------------------------------------------------------------

/-- The object has no storage of its own. -/
def Mem.borrowed (mem : Mem) : Bool := mem.buffer.isNone && mem.origBuffer.isSome

/-- What is returned for a blanked memory object. Apart from the memory that a borrowed
buffer makes necessary, it depends on nothing but whether the object is empty.
-/
def blankedMem (empty borrowed : Bool) (alloc : Alloc) : Option (Nat × List UInt8) :=
  let len := if empty then 0 else 1
  if borrowed ∧ alloc.malloc len = none then none else some (len, List.replicate len 0)

theorem Mem.WellFormed.storage {mem : Mem} (wf : mem.WellFormed)
    : mem.length ≤ (mem.source.getD []).length :=
  wf.lengthLe.trans wf.stored.ge

theorem takeMem_blanked {mem : Mem} (wf : mem.WellFormed) (alloc : Alloc)
    : DataWorld.takeMem mem true alloc
      = some (blankedMem (mem.length == 0) mem.borrowed alloc) := by
  have storage := wf.storage
  unfold DataWorld.takeMem blankedMem Mem.borrowed
  cases buffer : mem.buffer with
  | none =>
      cases orig : mem.origBuffer with
      | none =>
          have empty : mem.length = 0 := by simpa [Mem.source, buffer, orig] using storage
          simp [empty]
      | some bytes =>
          by_cases empty : mem.length = 0
          · cases granted : alloc.malloc 0 <;> simp [empty, granted]
          · cases granted : alloc.malloc 1 <;> simp [empty, granted]
  | some str =>
      simp only [Mem.source, buffer, Option.some_or, Option.getD_some] at storage
      by_cases empty : mem.length = 0
      · simp [empty]
      · cases str with
        | nil =>
            simp only [List.length_nil, Nat.le_zero] at storage
            exact absurd storage empty
        | cons first rest => simp [empty]

theorem takeMem_succeeds {mem : Mem} (wf : mem.WellFormed) (blankout : Bool) (alloc : Alloc)
    : ∃ result, DataWorld.takeMem mem blankout alloc = some result := by
  cases blankout with
  | true => exact ⟨_, takeMem_blanked wf alloc⟩
  | false =>
      have storage := wf.storage
      unfold DataWorld.takeMem
      cases buffer : mem.buffer with
      | none =>
          cases orig : mem.origBuffer with
          | none =>
              have empty : mem.length = 0 := by simpa [Mem.source, buffer, orig] using storage
              simp [empty]
          | some bytes =>
              simp only [Mem.source, buffer, orig, Option.none_or, Option.getD_some] at storage
              cases granted : alloc.malloc mem.length <;> simp [granted, storage]
      | some str =>
          simp only [Mem.source, buffer, Option.some_or, Option.getD_some] at storage
          simp [storage]

namespace DataWorld.Keeps

variable {world : DataWorld} {reg : Registry}

theorem releaseAndGetMem (keeps : world.Keeps reg) {dh : Handle}
    (alive : (world.props.propidx dh).isSome) (alloc : Alloc)
    : ∃ answer next,
        world.releaseAndGetMem dh alloc = some (answer, next) ∧ next.Keeps (reg.remove dh) := by
  obtain ⟨entry, _, _, blankout⟩ := keeps.lookup alive
  obtain ⟨payload, isPayload⟩ := keeps.payload alive
  obtain ⟨next, released, keeps'⟩ := keeps.release alive
  unfold DataWorld.releaseAndGetMem
  rw [isPayload]
  cases payload with
  | external => exact ⟨_, _, by simp only [released]; rfl, keeps'⟩
  | mem mem =>
      obtain ⟨result, taken⟩ :=
        takeMem_succeeds (keeps.wellFormed isPayload) (entry.blankout.toNat != 0) alloc
      exact ⟨_, _, by simp only [blankout, taken, released]; rfl, keeps'⟩

theorem blankAll (keeps : world.Keeps reg) (calls : List Nat)
    : ∃ tbl reg',
        DataWorld.blankAll world.props.tbl calls = some tbl
        ∧ DataWorld.Keeps { world with props := { world.props with tbl } } reg'
        ∧ reg.Evolves reg'
        ∧ reg'.serials = reg.serials
        ∧ ∀ serial ∈ calls, serial ≤ reg.created → reg'.Blanked serial := by
  induction calls generalizing world reg with
  | nil => exact ⟨_, reg, rfl, keeps, .refl reg, rfl, by simp⟩
  | cons dserial rest ih =>
      have given : world.props.ref none = some none := rfl
      obtain ⟨tbl, set, represents⟩ :=
        gpgmeDataSetProp_represents keeps.represents given dserial .blankout 1
      obtain ⟨evolves, serials⟩ := reg.evolves_setProp dserial
      have keeps' : DataWorld.Keeps { world with props := { world.props with tbl } }
          (reg.after {} (.setProp none dserial .blankout 1)) :=
        ⟨represents,
          fun dh => (keeps.payloads dh).trans (Registry.live_iff_of_serials serials dh).symm,
          keeps.wellFormed⟩
      obtain ⟨last, reg', blanked, kept, evolves', serials', flagged⟩ := ih keeps'
      refine ⟨last, reg', by simp only [DataWorld.blankAll, set]; exact blanked, kept,
        evolves.trans evolves', serials'.trans serials, ?_⟩
      intro serial member assigned
      have assigned' := assigned.trans evolves.created
      rcases List.mem_cons.mp member with rfl | member
      · exact (Registry.blanked_setProp keeps.represents.serials serial).evolves evolves' assigned'
      · exact flagged serial member assigned'

theorem setCtxs (keeps : world.Keeps reg) (ctxs : Nat → Ctx)
    : DataWorld.Keeps { world with ctxs } reg :=
  ⟨keeps.represents, keeps.payloads, keeps.wellFormed⟩

theorem statusLine (keeps : world.Keeps reg) (ctx : Nat) (line : StatusLine)
    : ∃ err next reg',
        world.statusLine ctx line = some (err, next)
        ∧ next.Keeps reg'
        ∧ reg.Evolves reg'
        ∧ reg'.serials = reg.serials
        ∧ (line.code = .decryptionFailed
          → (world.ctxs ctx).ignoreMdcError = false
          → (world.ctxs ctx).decrypt.plaintextDserial ≤ reg.created
          → reg'.Blanked (world.ctxs ctx).decrypt.plaintextDserial) := by
  obtain ⟨err, left, handled, ran, blanking⟩ := decryptStatusHandlerInstalled_blanking
    { world.ctxs ctx with blankoutCalls := [] } line.code line.args
  obtain ⟨tbl, reg', blanked, kept, evolves, serials, flagged⟩ :=
    keeps.blankAll handled.blankoutCalls
  refine ⟨err, _, reg', by rw [DataWorld.statusLine, ran]; simp only [blanked]; rfl,
    kept.setCtxs _, evolves, serials, ?_⟩
  intro isFailed checked assigned
  apply flagged _ _ assigned
  have calls := congrArg Blanking.calls blanking
  simp only [Ctx.blanking, Blanking.note, isFailed, checked, and_self, if_true,
    List.nil_append] at calls
  rw [calls]
  exact List.mem_singleton_self _

theorem answering {dh : Handle} {reg' : Registry} {result : Option (DataAnswer × DataWorld)}
    (evolves : reg.Evolves reg')
    (succeeds : ∃ answer next, result = some (answer, next) ∧ next.Keeps reg')
    : ∃ event next reg',
        world.answering dh result = some (event, next) ∧ next.Keeps reg' ∧ reg.Evolves reg' := by
  obtain ⟨answer, next, rfl, kept⟩ := succeeds
  exact ⟨_, next, reg', rfl, kept, evolves⟩

theorem step (keeps : world.Keeps reg) {op : DataOp} (allowed : op.Allowed world)
    : ∃ event next reg',
        world.step op = some (event, next) ∧ next.Keeps reg' ∧ reg.Evolves reg' := by
  obtain ⟨valid, fits⟩ := allowed
  cases op with
  | new alloc addr =>
      obtain ⟨event, next, reg', created, kept, evolves, _⟩ :=
        keeps.create alloc valid fits payload_new
      exact ⟨event, next, reg', created, kept, evolves⟩
  | newExternal alloc addr =>
      obtain ⟨event, next, reg', created, kept, evolves, _⟩ :=
        keeps.create alloc valid fits payload_external
      exact ⟨event, next, reg', created, kept, evolves⟩
  | newFromMem alloc copyAlloc addr buffer copy =>
      obtain ⟨event, next, reg', created, kept, evolves, _⟩ :=
        keeps.create alloc valid.1 fits (payload_newFromMem copyAlloc valid.2 copy)
      exact ⟨event, next, reg', created, kept, evolves⟩
  | release dh =>
      obtain ⟨next, released, kept⟩ := keeps.release valid
      exact answering (reg.evolves_remove dh) ⟨.released, next, by rw [released]; rfl, kept⟩
  | read dh size reply => exact answering (.refl reg) (keeps.read valid size reply)
  | write dh alloc buffer reply =>
      exact answering (.refl reg) (keeps.write valid.1 alloc valid.2 reply)
  | seek dh offset whence reply =>
      have low : -2 ^ 63 < offset := lt_of_le_of_ne valid.2.1 (Ne.symm fits)
      exact answering (.refl reg) (keeps.seek valid.1 low valid.2.2 whence reply)
  | releaseAndGetMem dh alloc =>
      exact answering (reg.evolves_remove dh) (keeps.releaseAndGetMem valid alloc)
  | setIgnoreMdcError ctx value => exact ⟨_, _, reg, rfl, keeps.setCtxs _, .refl reg⟩
  | startDecrypt ctx plaintext =>
      cases plaintext with
      | none => exact ⟨_, _, reg, rfl, keeps.setCtxs _, .refl reg⟩
      | some dh =>
          obtain ⟨entry, _, serial, _⟩ := keeps.lookup (valid dh rfl)
          have started : ∃ ctxs, world.startDecrypt ctx (some dh) = some { world with ctxs } :=
            ⟨_, by simp only [DataWorld.startDecrypt, serial]; rfl⟩
          obtain ⟨ctxs, started⟩ := started
          exact ⟨.context ctx 0, _, reg, by rw [DataWorld.step, started]; rfl, keeps.setCtxs ctxs,
            .refl reg⟩
  | statusLine ctx line =>
      obtain ⟨err, next, reg', handled, kept, evolves, _⟩ := keeps.statusLine ctx line
      exact ⟨_, next, reg', by rw [DataWorld.step, handled]; rfl, kept, evolves⟩

end DataWorld.Keeps

/-- Nothing of the data can be read from an object any more. -/
structure DataWorld.Unreadable (world : DataWorld) (dh : Handle) (serial : Nat) : Prop where
  read
    : ∀ size reply,
        world.step (.read dh size reply) = some (.object serial (.bytes 0 []), world)
  memory
    : ∀ mem alloc,
        world.payload dh = some (.mem mem)
        → ∃ next,
            world.step (.releaseAndGetMem dh alloc)
              = some (.object serial
                  (.mem (blankedMem (mem.length == 0) mem.borrowed alloc)), next)
  external
    : ∀ alloc,
        world.payload dh = some .external
        → ∃ next,
            world.step (.releaseAndGetMem dh alloc) = some (.object serial (.mem none), next)

theorem DataWorld.Keeps.unreadable {world : DataWorld} {reg : Registry}
    (keeps : world.Keeps reg) {dh : Handle} {serial : Nat} (blanked : reg.Blanked serial)
    (isSerial : world.serial dh = some serial)
    : world.Unreadable dh serial := by
  have alive : (world.props.propidx dh).isSome := by
    cases found : world.props.propidx dh with
    | none => simp [DataWorld.serial, DataWorld.ref, found] at isSerial
    | some idx => rfl
  obtain ⟨entry, live, entrySerial, blankout⟩ := keeps.lookup alive
  have same : entry.serial = serial := Option.some.inj (entrySerial.symm.trans isSerial)
  rw [blanked dh entry live same] at blankout
  obtain ⟨next, released, _⟩ := keeps.release alive
  refine ⟨?_, ?_, ?_⟩
  · intro size reply
    simp [DataWorld.step, DataWorld.answering, DataWorld.read, blankout, isSerial]
  · intro mem alloc isMem
    refine ⟨next, ?_⟩
    simp [DataWorld.step, DataWorld.answering, DataWorld.releaseAndGetMem, isMem, blankout,
      takeMem_blanked (keeps.wellFormed isMem) alloc, released, isSerial]
  · intro alloc isExternal
    refine ⟨next, ?_⟩
    simp [DataWorld.step, DataWorld.answering, DataWorld.releaseAndGetMem, isExternal, released,
      isSerial]

end Gpgme.Data
