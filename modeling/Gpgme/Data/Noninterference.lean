import Gpgme.Data.Blankout
import Gpgme.Data.Hiding

/-! A DECRYPTION_FAILED line makes no difference to any object but its own plaintext.
Two runs, one of which handles the line, are compared through what is left of the property
table when the flag of that one object is hidden.
-/

namespace Gpgme.Data

-----------------------------------------------------------------------------------------
-- Two runs
-----------------------------------------------------------------------------------------

/-- Whether an event is neither one of the object nor one of the context. -/
def DataEvent.shows (serial ctx : Nat) : DataEvent → Bool
  | .object other _ => other != serial
  | .refused _ => true
  | .context other _ => other != ctx

namespace DataWorld

/-- Two states that differ at most in the object with the number `serial` and in the
context `ctx`, of which they agree on what decides about later objects.
-/
structure Twin (serial ctx : Nat) (left right : DataWorld) : Prop where
  keepsLeft : ∃ reg, left.Keeps reg
  keepsRight : ∃ reg, right.Keeps reg
  props : left.props.hide serial = right.props.hide serial
  payload : ∀ dh, left.serial dh ≠ some serial → left.payload dh = right.payload dh
  ctxs : ∀ other, other ≠ ctx → left.ctxs other = right.ctxs other
  plaintext
    : (left.ctxs ctx).decrypt.plaintextDserial = (right.ctxs ctx).decrypt.plaintextDserial
  ignoreMdcError : (left.ctxs ctx).ignoreMdcError = (right.ctxs ctx).ignoreMdcError

variable {serial ctx : Nat} {left right : DataWorld}

namespace Twin

/-- Both tables have the objects at the same places. -/
theorem propidx (twin : Twin serial ctx left right)
    : left.props.propidx = right.props.propidx := by
  simpa using congrArg PropWorld.propidx twin.props

/-- Both tables agree but for the hidden flag. -/
theorem tbl (twin : Twin serial ctx left right)
    : left.props.tbl.hide serial = right.props.tbl.hide serial := by
  simpa using congrArg PropWorld.tbl twin.props

/-- Both worlds find the same object for a handle. -/
theorem ref (twin : Twin serial ctx left right) (dh : Handle) : left.ref dh = right.ref dh := by
  simp only [DataWorld.ref, twin.propidx]

/-- Both worlds give a handle the same serial number. -/
theorem serial_eq (twin : Twin serial ctx left right) (dh : Handle)
    : left.serial dh = right.serial dh := by
  simp only [DataWorld.serial, twin.ref]
  congr 1
  funext ref
  rw [← gpgmeDataGetDserial_hide serial, twin.tbl, gpgmeDataGetDserial_hide]

/-- The flag of any other object is the same. -/
theorem blankout_eq (twin : Twin serial ctx left right) {dh : Handle}
    (alive : (left.props.propidx dh).isSome) (other : left.serial dh ≠ some serial)
    : left.blankout dh = right.blankout dh := by
  obtain ⟨reg, keeps⟩ := twin.keepsLeft
  obtain ⟨reg', keeps'⟩ := twin.keepsRight
  obtain ⟨held, live, isSerial, isFlag⟩ := keeps.lookup alive
  obtain ⟨held', live', isSerial', isFlag'⟩ := keeps'.lookup (twin.propidx ▸ alive)
  obtain ⟨idx, isIdx⟩ := Option.isSome_iff_exists.mp alive
  obtain ⟨_, entry, _, _, _, back, entered, checked, _⟩ := keeps.represents.entryOfHandle isIdx
  obtain ⟨_, entry', _, _, _, back', entered', checked', _⟩ :=
    keeps'.represents.entryOfHandle (twin.propidx ▸ isIdx)
  rw [live] at entered
  rw [live'] at entered'
  cases entered
  cases entered'
  have apart : entry.dserial ≠ serial := fun same => other (by rw [isSerial, ← same])
  have apart' : entry'.dserial ≠ serial := by
    intro same
    exact other (by rw [twin.serial_eq, isSerial', ← same])
  have hidden := entryOfHandle_hide serial left.props.tbl ⟨dh, idx⟩ idx
  rw [twin.tbl, entryOfHandle_hide, checked, checked', Option.map_some, Option.map_some,
    Option.some.injEq, Property.hide_of_ne serial (by rw [back]; rfl) apart,
    Property.hide_of_ne serial (by rw [back']; rfl) apart'] at hidden
  rw [isFlag, isFlag', hidden]

/-- What is allowed on the left is allowed on the right. -/
theorem allowed (twin : Twin serial ctx left right) {op : DataOp} (allowed : op.Allowed left)
    : op.Allowed right := by
  have lastDserial : left.props.tbl.lastDserial = right.props.tbl.lastDserial := by
    simpa using congrArg PropertyTable.lastDserial twin.tbl
  have count (world : DataWorld)
      : world.props.tbl.entries.countP (fun entry => entry.dh.isSome)
        = (world.props.tbl.hide serial).entries.countP (fun entry => entry.dh.isSome) := by
    simp only [PropertyTable.entries, PropertyTable.hide]
    cases world.props.tbl.table <;> simp [List.countP_map, Function.comp_def]
  have valid : op.Valid left = op.Valid right := by
    cases op <;> simp [DataOp.Valid, DataWorld.Fresh, twin.propidx, lastDserial]
  have fits : op.Fits left = op.Fits right := by
    cases op <;> simp [DataOp.Fits, DataWorld.HasRoom, count, twin.tbl]
  rw [DataOp.Allowed, ← valid, ← fits]
  exact allowed

end Twin

/-- Both calls succeed with the same event, or with one that does not show. -/
def Together (serial ctx : Nat) (left right : Option (DataEvent × DataWorld)) : Prop :=
  ∃ event next event' next',
    left = some (event, next)
    ∧ right = some (event', next')
    ∧ (event = event' ∨ (event.shows serial ctx = false ∧ event'.shows serial ctx = false))
    ∧ Twin serial ctx next next'

/-- The memory of an object after a call, unless it stays as it is. -/
def store (world : DataWorld) (dh : Handle) : Option Mem → DataWorld
  | none => world
  | some mem => world.setMem dh mem

/-- A call on an object that sees its flag and its data only. -/
def act (world : DataWorld) (dh : Handle)
    (call : Option (GpgError × Nat) → Option Payload → Option (DataAnswer × Option Mem))
    : Option (DataAnswer × DataWorld) :=
  (call (world.blankout dh) (world.payload dh)).map (fun (answer, mem) =>
    (answer, world.store dh mem))

/-- Storing leaves the table alone. -/
theorem store_props (world : DataWorld) (dh : Handle) (mem : Option Mem)
    : (world.store dh mem).props = world.props := by
  cases mem <;> rfl

/-- Storing leaves the contexts alone. -/
theorem store_ctxs (world : DataWorld) (dh : Handle) (mem : Option Mem)
    : (world.store dh mem).ctxs = world.ctxs := by
  cases mem <;> rfl

/-- Storing leaves the other payloads alone. -/
theorem store_payload (world : DataWorld) (dh : Handle) (mem : Option Mem) {other : Handle}
    (apart : other ≠ dh)
    : (world.store dh mem).payload other = world.payload other := by
  cases mem <;> simp [store, setMem, apart]

/-- The table alone decides the serial numbers. -/
theorem serial_of_props {world next : DataWorld} (same : next.props = world.props) (dh : Handle)
    : next.serial dh = world.serial dh := by
  simp only [DataWorld.serial, DataWorld.ref, same]

/-- A call on the same object on both sides. -/
theorem Twin.act (twin : Twin serial ctx left right) {dh : Handle}
    (alive : (left.props.propidx dh).isSome)
    (call : Option (GpgError × Nat) → Option Payload → Option (DataAnswer × Option Mem))
    (succeeds : ∃ reg answer next, left.act dh call = some (answer, next) ∧ next.Keeps reg)
    (succeeds' : ∃ reg answer next, right.act dh call = some (answer, next) ∧ next.Keeps reg)
    : Together serial ctx (left.answering dh (left.act dh call))
        (right.answering dh (right.act dh call)) := by
  obtain ⟨reg, answer, next, ran, keeps⟩ := succeeds
  obtain ⟨reg', answer', next', ran', keeps'⟩ := succeeds'
  obtain ⟨⟨answered, mem⟩, called, isNext⟩ := Option.map_eq_some_iff.mp ran
  obtain ⟨⟨answered', mem'⟩, called', isNext'⟩ := Option.map_eq_some_iff.mp ran'
  cases isNext
  cases isNext'
  have stored (same : left.serial dh ≠ some serial → mem = mem')
      : Twin serial ctx (left.store dh mem) (right.store dh mem') := by
    refine ⟨⟨reg, keeps⟩, ⟨reg', keeps'⟩, ?_, ?_, ?_, ?_, ?_⟩
    · simpa only [store_props] using twin.props
    · intro other apart
      rw [serial_of_props (store_props left dh mem)] at apart
      by_cases here : other = dh
      · subst here
        rw [← same apart]
        have before := twin.payload other apart
        cases mem <;> simp [store, setMem, before]
      · rw [store_payload _ _ _ here, store_payload _ _ _ here]
        exact twin.payload other apart
    · simpa only [store_ctxs] using twin.ctxs
    · simpa only [store_ctxs] using twin.plaintext
    · simpa only [store_ctxs] using twin.ignoreMdcError
  refine ⟨_, _, _, _, by rw [ran]; rfl, by rw [ran']; rfl, ?_⟩
  by_cases same : left.serial dh = some serial
  · refine ⟨Or.inr ⟨?_, ?_⟩, stored (fun apart => absurd same apart)⟩
    · simp [DataEvent.shows, same]
    · simp [DataEvent.shows, ← twin.serial_eq, same]
  · rw [twin.blankout_eq alive same, twin.payload dh same, called'] at called
    cases called
    exact ⟨Or.inl (by rw [twin.serial_eq]), stored (fun _ => rfl)⟩

-----------------------------------------------------------------------------------------
-- Reads, writes and seeks
-----------------------------------------------------------------------------------------

def readCall (size : Nat) (reply : MemAnswer) (blankout : Option (GpgError × Nat))
    (payload : Option Payload)
    : Option (DataAnswer × Option Mem) :=
  match blankout with
  | none => none
  | some (err, blankout) =>
      if err ≠ 0 ∨ blankout ≠ 0 then some (.bytes 0 [], none)
      else
        match payload with
        | none => none
        | some .external => some (.bytes (CInt.toInt reply.1) reply.2, none)
        | some (.mem mem) =>
            (memRead mem size).map (fun (ret, bytes, mem) => (.bytes (CInt.toInt ret) bytes, mem))

/-- A read as an action on the payload. -/
theorem read_eq_act (world : DataWorld) (dh : Handle) (size : Nat) (reply : MemAnswer)
    : world.read dh size reply = world.act dh (readCall size reply) := by
  unfold DataWorld.read DataWorld.act readCall
  cases world.blankout dh with
  | none => rfl
  | some flag =>
      dsimp only
      split
      · rfl
      · rcases world.payload dh with _ | mem | _
        · rfl
        · simp only [Option.map_map]
          rfl
        · rfl

def writeCall (alloc : Alloc) (buffer : List UInt8) (reply : Int)
    (_blankout : Option (GpgError × Nat)) (payload : Option Payload)
    : Option (DataAnswer × Option Mem) :=
  match payload with
  | none => none
  | some .external => some (.bytes (CInt.toInt reply) [], none)
  | some (.mem mem) =>
      (memWrite alloc mem buffer).map (fun (ret, mem) => (.bytes (CInt.toInt ret) [], mem))

/-- A write as an action on the payload. -/
theorem write_eq_act (world : DataWorld) (dh : Handle) (alloc : Alloc) (buffer : List UInt8)
    (reply : Int)
    : world.write dh alloc buffer reply = world.act dh (writeCall alloc buffer reply) := by
  unfold DataWorld.write DataWorld.act writeCall
  rcases world.payload dh with _ | mem | _
  · rfl
  · simp only [Option.map_map]
    rfl
  · rfl

def seekCall (offset whence reply : Int) (_blankout : Option (GpgError × Nat))
    (payload : Option Payload)
    : Option (DataAnswer × Option Mem) :=
  match payload with
  | none => none
  | some .external => some (.bytes (CInt.toInt reply) [], none)
  | some (.mem mem) =>
      some (.bytes (CInt.toInt (memSeek mem offset whence).1) [],
        some (memSeek mem offset whence).2)

/-- A seek as an action on the payload. -/
theorem seek_eq_act (world : DataWorld) (dh : Handle) (offset whence reply : Int)
    : world.seek dh offset whence reply = world.act dh (seekCall offset whence reply) := by
  unfold DataWorld.seek DataWorld.act seekCall
  rcases world.payload dh with _ | mem | _ <;> rfl

-----------------------------------------------------------------------------------------
-- Releases and creations
-----------------------------------------------------------------------------------------

/-- The serial numbers are those of the registry. -/
theorem Keeps.serial_eq {world : DataWorld} {reg : Registry} (keeps : world.Keeps reg)
    (dh : Handle)
    : world.serial dh = reg.serials dh := by
  cases alive : world.props.propidx dh with
  | none =>
      simp [DataWorld.serial, DataWorld.ref, alive, Registry.serials, keeps.represents.dead alive]
  | some idx =>
      obtain ⟨entry, live, isSerial, _⟩ := keeps.lookup (by rw [alive]; rfl)
      simp [isSerial, Registry.serials, live]

/-- The object is released on both sides. -/
theorem Twin.release (twin : Twin serial ctx left right) {dh : Handle}
    (alive : (left.props.propidx dh).isSome)
    : ∃ next next',
        left.release dh = some next
        ∧ right.release dh = some next'
        ∧ Twin serial ctx next next' := by
  obtain ⟨reg, keeps⟩ := twin.keepsLeft
  obtain ⟨reg', keeps'⟩ := twin.keepsRight
  obtain ⟨next, released, kept⟩ := keeps.release alive
  obtain ⟨next', released', kept'⟩ := keeps'.release (twin.propidx ▸ alive)
  refine ⟨next, next', released, released', ?_⟩
  have sameSerial {other : Handle} (apart : other ≠ dh)
      : next.serial other = left.serial other := by
    rw [kept.serial_eq, keeps.serial_eq]
    simp [Registry.serials, Registry.remove, apart]
  obtain ⟨props, removed, isNext⟩ := Option.map_eq_some_iff.mp released
  obtain ⟨props', removed', isNext'⟩ := Option.map_eq_some_iff.mp released'
  have hidden := gpgmeDataRelease_hide serial left.props dh
  rw [twin.props, gpgmeDataRelease_hide, removed, removed', Option.map_some, Option.map_some,
    Option.some.injEq] at hidden
  refine ⟨⟨_, kept⟩, ⟨_, kept'⟩, ?_, ?_, ?_, ?_, ?_⟩
  · rw [← isNext, ← isNext']
    exact hidden.symm
  · intro other apart
    by_cases here : other = dh
    · simp [← isNext, ← isNext', here]
    · rw [sameSerial here] at apart
      simpa [← isNext, ← isNext', here] using twin.payload other apart
  · simpa [← isNext, ← isNext'] using twin.ctxs
  · simpa [← isNext, ← isNext'] using twin.plaintext
  · simpa [← isNext, ← isNext'] using twin.ignoreMdcError

/-- The memory of the object is taken on both sides. -/
theorem Twin.releaseAndGetMem (twin : Twin serial ctx left right) {dh : Handle}
    (alive : (left.props.propidx dh).isSome) (alloc : Alloc)
    : Together serial ctx (left.answering dh (left.releaseAndGetMem dh alloc))
        (right.answering dh (right.releaseAndGetMem dh alloc)) := by
  obtain ⟨next, next', released, released', kept⟩ := twin.release alive
  obtain ⟨reg, keeps⟩ := twin.keepsLeft
  obtain ⟨reg', keeps'⟩ := twin.keepsRight
  have released_of {world after : DataWorld} {answer : DataAnswer} {last : DataWorld}
      (gone : world.release dh = some after)
      (ran : world.releaseAndGetMem dh alloc = some (answer, last))
      : last = after := by
    unfold DataWorld.releaseAndGetMem at ran
    rw [gone] at ran
    repeat' split at ran
    all_goals simp_all
  obtain ⟨answer, last, ran, _⟩ := keeps.releaseAndGetMem alive alloc
  obtain ⟨answer', last', ran', _⟩ := keeps'.releaseAndGetMem (twin.propidx ▸ alive) alloc
  cases released_of released ran
  cases released_of released' ran'
  refine ⟨_, _, _, _, by rw [ran]; rfl, by rw [ran']; rfl, ?_, kept⟩
  by_cases same : left.serial dh = some serial
  · right
    exact ⟨by simp [DataEvent.shows, same], by simp [DataEvent.shows, ← twin.serial_eq, same]⟩
  · left
    have sameAnswer : answer = answer' := by
      unfold DataWorld.releaseAndGetMem at ran ran'
      rw [twin.payload dh same, twin.blankout_eq alive same, released] at ran
      rw [released'] at ran'
      repeat' split at ran
      all_goals simp_all
    rw [twin.serial_eq, sameAnswer]

/-- A creation as far as the property table is concerned: the event, and the handle under
which the payload is entered.
-/
def createProps (alloc : TableAlloc) (props : PropWorld) (addr : Option Handle) (granted : Bool)
    : Option ((DataEvent × Option Handle) × PropWorld) :=
  match gpgmeDataNew alloc props addr with
  | none => none
  | some (err, props) =>
      match addr with
      | none => some ((.refused err, none), props)
      | some dh =>
          if err ≠ 0 then some ((.refused err, none), props)
          else if granted then some ((.object props.tbl.lastDserial .created, some dh), props)
          else
            (gpgmeDataRelease props dh).map (fun props =>
              ((.refused (gpgError ErrCode.enomem), none), props))

/-- The payload of a new object is entered. -/
def enter (world : DataWorld) (payload : Option Payload) (entered : Option Handle)
    (props : PropWorld)
    : DataWorld :=
  match entered with
  | none => { world with props }
  | some dh => { world with props, payload := Function.update world.payload dh payload }

/-- A creation changes the table, and then the payloads. -/
theorem create_eq (world : DataWorld) (alloc : TableAlloc) (addr : Option Handle)
    (payload : Option Payload)
    : world.create alloc addr payload
      = (createProps alloc world.props addr payload.isSome).map (fun ((event, entered), props) =>
          (event, world.enter payload entered props)) := by
  unfold create createProps
  cases gpgmeDataNew alloc world.props addr with
  | none => rfl
  | some result =>
      cases addr with
      | none => rfl
      | some dh =>
          dsimp only
          split
          · rfl
          · cases payload with
            | none =>
                simp only [Option.isSome_none, Bool.false_eq_true, if_false, Option.map_map]
                rfl
            | some payload => rfl

/-- Hiding the flag commutes with a creation. -/
theorem createProps_hide (alloc : TableAlloc) (props : PropWorld) (addr : Option Handle)
    (granted : Bool)
    : (createProps alloc (props.hide serial) addr granted).map
          (Prod.map id (PropWorld.hide serial))
      = (createProps alloc props addr granted).map (Prod.map id (PropWorld.hide serial)) := by
  have created := gpgmeDataNew_hide serial alloc props addr
  unfold createProps
  generalize gpgmeDataNew alloc (props.hide serial) addr = hidden at created ⊢
  generalize gpgmeDataNew alloc props addr = plain at created ⊢
  rcases hidden with _ | ⟨err, new⟩ <;> rcases plain with _ | ⟨err', new'⟩
  · rfl
  · simp at created
  · simp at created
  · simp only [Option.map_some, Prod.map_apply, id_eq, Option.some.injEq,
      Prod.mk.injEq] at created
    obtain ⟨rfl, same⟩ := created
    have sameTbl : new.tbl.hide serial = new'.tbl.hide serial := by
      simpa using congrArg PropWorld.tbl same
    have lastDserial : new.tbl.lastDserial = new'.tbl.lastDserial := by
      simpa using congrArg PropertyTable.lastDserial sameTbl
    cases addr with
    | none => simp [same]
    | some dh =>
        dsimp only
        split
        · simp [same]
        · cases granted with
          | true => simp [same, lastDserial]
          | false =>
              have released := gpgmeDataRelease_hide serial new dh
              rw [same, gpgmeDataRelease_hide] at released
              have paired := congrArg (Option.map (fun props =>
                ((DataEvent.refused (gpgError ErrCode.enomem), (none : Option Handle)), props)))
                released.symm
              simp only [Option.map_map] at paired
              simp only [Bool.false_eq_true, if_false, Option.map_map]
              exact paired

/-- Equal payloads stay equal when an object is entered. -/
theorem enter_payload (world : DataWorld) (payload : Option Payload) (entered : Option Handle)
    (props : PropWorld) {other : DataWorld} {dh : Handle} (props' : PropWorld)
    (same : world.payload dh = other.payload dh)
    : (world.enter payload entered props).payload dh
      = (other.enter payload entered props').payload dh := by
  cases entered with
  | none => exact same
  | some target =>
      by_cases here : dh = target
      · simp [enter, here]
      · simpa [enter, here] using same

/-- Entering an object leaves the contexts alone. -/
theorem enter_ctxs (world : DataWorld) (payload : Option Payload) (entered : Option Handle)
    (props : PropWorld)
    : (world.enter payload entered props).ctxs = world.ctxs := by
  cases entered <;> rfl

/-- Entering an object puts in the new table. -/
theorem enter_props (world : DataWorld) (payload : Option Payload) (entered : Option Handle)
    (props : PropWorld)
    : (world.enter payload entered props).props = props := by
  cases entered <;> rfl

/-- An object is created on both sides. -/
theorem Twin.create (twin : Twin serial ctx left right) (alloc : TableAlloc)
    {addr : Option Handle} {payload : Option Payload} (fresh : left.Fresh addr)
    (room : left.HasRoom) (fresh' : right.Fresh addr) (room' : right.HasRoom)
    (wf : WellFormedPayload payload)
    : Together serial ctx (left.create alloc addr payload) (right.create alloc addr payload) := by
  obtain ⟨reg, keeps⟩ := twin.keepsLeft
  obtain ⟨reg', keeps'⟩ := twin.keepsRight
  obtain ⟨event, next, after, created, kept, _, frame, _⟩ := keeps.create alloc fresh room wf
  obtain ⟨event', next', after', created', kept', _, _⟩ := keeps'.create alloc fresh' room' wf
  refine ⟨event, next, event', next', created, created', ?_⟩
  have sameSerial {other : Handle} (apart : addr ≠ some other)
      : next.serial other = left.serial other := by
    rw [kept.serial_eq, keeps.serial_eq]
    simp [Registry.serials, frame other apart]
  rw [create_eq] at created created'
  obtain ⟨⟨⟨_, entered⟩, props⟩, made, isNext⟩ := Option.map_eq_some_iff.mp created
  obtain ⟨⟨⟨_, entered'⟩, props'⟩, made', isNext'⟩ := Option.map_eq_some_iff.mp created'
  cases isNext
  cases isNext'
  have hidden : (createProps alloc (left.props.hide serial) addr payload.isSome).map
      (Prod.map id (PropWorld.hide serial)) = _ := createProps_hide alloc left.props addr _
  rw [twin.props, createProps_hide, made, made'] at hidden
  simp only [Option.map_some, Prod.map_apply, id_eq, Option.some.injEq, Prod.mk.injEq] at hidden
  obtain ⟨⟨rfl, rfl⟩, sameProps⟩ := hidden
  refine ⟨Or.inl rfl, ⟨_, kept⟩, ⟨_, kept'⟩, ?_, ?_, ?_, ?_, ?_⟩
  · rw [enter_props, enter_props]
    exact sameProps.symm
  · intro other apart
    refine enter_payload left payload entered' props props' (twin.payload other ?_)
    by_cases here : addr = some other
    · have dead := fresh.1 other here
      simp [DataWorld.serial, DataWorld.ref, dead]
    · rwa [sameSerial here] at apart
  · simpa only [enter_ctxs] using twin.ctxs
  · simpa only [enter_ctxs] using twin.plaintext
  · simpa only [enter_ctxs] using twin.ignoreMdcError

-----------------------------------------------------------------------------------------
-- Status lines
-----------------------------------------------------------------------------------------

/-- The same calls on both sides, by induction on them. -/
theorem blankAll_hide (serial : Nat) (calls : List Nat) (tbl : PropertyTable)
    : (blankAll (tbl.hide serial) calls).map (PropertyTable.hide serial)
      = (blankAll tbl calls).map (PropertyTable.hide serial) := by
  induction calls generalizing tbl with
  | nil => simp [blankAll, PropertyTable.hide_again]
  | cons dserial rest ih =>
      have set := gpgmeDataSetProp_hide serial tbl none dserial
      unfold blankAll
      generalize gpgmeDataSetProp (tbl.hide serial) none dserial .blankout 1 = hidden at set ⊢
      generalize gpgmeDataSetProp tbl none dserial .blankout 1 = plain at set ⊢
      rcases hidden with _ | ⟨err, next⟩ <;> rcases plain with _ | ⟨err', next'⟩
      · rfl
      · simp at set
      · simp at set
      · simp only [Option.map_some, Prod.map_apply, id_eq, Option.some.injEq,
          Prod.mk.injEq] at set
        dsimp only
        rw [← ih next, set.2, ih next']

/-- What a status line does on a side: the objects that it blanks, and what is left of the
context.
-/
theorem Keeps.statusLine_eq {world : DataWorld} {reg : Registry} (keeps : world.Keeps reg)
    (other : Nat) (line : StatusLine)
    : ∃ err left handled tbl reg',
        decryptStatusHandlerInstalled { world.ctxs other with blankoutCalls := [] } line.code
            line.args
          = some (err, left, handled)
        ∧ handled.blanking
            = Blanking.note ⟨[], (world.ctxs other).decrypt.plaintextDserial,
                (world.ctxs other).ignoreMdcError⟩ line.code
        ∧ DataWorld.blankAll world.props.tbl handled.blankoutCalls = some tbl
        ∧ world.statusLine other line
          = some (err, { world with
              props := { world.props with tbl }
              ctxs := Function.update world.ctxs other handled })
        ∧ DataWorld.Keeps { world with
            props := { world.props with tbl }
            ctxs := Function.update world.ctxs other handled } reg'
        ∧ reg'.serials = reg.serials := by
  obtain ⟨err, left, handled, ran, blanking⟩ := decryptStatusHandlerInstalled_blanking
    { world.ctxs other with blankoutCalls := [] } line.code line.args
  obtain ⟨tbl, reg', blanked, kept, _, serials, _⟩ := keeps.blankAll handled.blankoutCalls
  refine ⟨err, left, handled, tbl, reg', ran, blanking, blanked, ?_, kept.setCtxs _, serials⟩
  rw [DataWorld.statusLine, ran]
  simp only [blanked]
  rfl

/-- A status line is handled on both sides. -/
theorem Twin.statusLine (twin : Twin serial ctx left right) (other : Nat) (line : StatusLine)
    : Together serial ctx (left.step (.statusLine other line))
        (right.step (.statusLine other line)) := by
  obtain ⟨reg, keeps⟩ := twin.keepsLeft
  obtain ⟨reg', keeps'⟩ := twin.keepsRight
  obtain ⟨err, rest, handled, tbl, after, ran, blanking, blanked, stepped, kept, serials⟩ :=
    keeps.statusLine_eq other line
  obtain ⟨err', rest', handled', tbl', after', ran', blanking', blanked', stepped', kept', _⟩ :=
    keeps'.statusLine_eq other line
  refine ⟨_, _, _, _, by rw [step, stepped]; rfl, by rw [step, stepped']; rfl, ?_⟩
  have same : handled.blanking = handled'.blanking := by
    rw [blanking, blanking']
    by_cases here : other = ctx
    · rw [here, twin.plaintext, twin.ignoreMdcError]
    · rw [twin.ctxs other here]
  have calls : handled.blankoutCalls = handled'.blankoutCalls := congrArg Blanking.calls same
  have hidden := blankAll_hide serial handled.blankoutCalls left.props.tbl
  rw [twin.tbl, blankAll_hide, blanked, calls, blanked', Option.map_some, Option.map_some,
    Option.some.injEq] at hidden
  refine ⟨?_, ⟨_, kept⟩, ⟨_, kept'⟩, ?_, ?_, ?_, ?_, ?_⟩
  · by_cases here : other = ctx
    · right
      simp [DataEvent.shows, here]
    · left
      rw [twin.ctxs other here, ran'] at ran
      cases ran
      rfl
  · simp only [PropWorld.hide, twin.propidx, hidden]
  · intro dh apart
    refine twin.payload dh ?_
    rwa [kept.serial_eq, serials, ← keeps.serial_eq] at apart
  · intro third apart
    by_cases here : other = ctx
    · subst here
      simpa [apart] using twin.ctxs third apart
    · rw [twin.ctxs other here, ran'] at ran
      cases ran
      by_cases isOther : third = other
      · simp [isOther]
      · simpa [isOther] using twin.ctxs third apart
  · by_cases here : ctx = other
    · simpa [here, Ctx.blanking] using congrArg Blanking.plaintextDserial same
    · simpa [here] using twin.plaintext
  · by_cases here : ctx = other
    · simpa [here, Ctx.blanking] using congrArg Blanking.ignoreMdcError same
    · simpa [here] using twin.ignoreMdcError

/-- The line is handled on one side only. -/
theorem Keeps.twin_failed {world next : DataWorld} {reg : Registry} (keeps : world.Keeps reg)
    {ctx : Nat} {args : Str} {err : GpgError}
    (handled : world.statusLine ctx ⟨.decryptionFailed, args⟩ = some (err, next))
    : Twin (world.ctxs ctx).decrypt.plaintextDserial ctx next world := by
  obtain ⟨_, _, left, tbl, after, _, blanking, blanked, stepped, kept, serials⟩ :=
    keeps.statusLine_eq ctx ⟨.decryptionFailed, args⟩
  rw [stepped] at handled
  cases handled
  have hidden : tbl.hide (world.ctxs ctx).decrypt.plaintextDserial
      = world.props.tbl.hide (world.ctxs ctx).decrypt.plaintextDserial := by
    have calls := congrArg Blanking.calls blanking
    simp only [Ctx.blanking, Blanking.note, true_and] at calls
    rw [calls] at blanked
    cases ignored : (world.ctxs ctx).ignoreMdcError with
    | true =>
        simp only [ignored, reduceCtorEq, if_false, DataWorld.blankAll,
          Option.some.injEq] at blanked
        rw [blanked]
    | false =>
        simp only [ignored, if_true, List.nil_append, DataWorld.blankAll] at blanked
        split at blanked
        · cases blanked
        · next set =>
            cases blanked
            exact gpgmeDataSetProp_hidden _ set
  refine ⟨⟨_, kept⟩, ⟨_, keeps⟩, ?_, fun _ _ => rfl, ?_, ?_, ?_⟩
  · simp only [PropWorld.hide, hidden]
  · intro other apart
    simp [apart]
  · simpa [Ctx.blanking] using congrArg Blanking.plaintextDserial blanking
  · simpa [Ctx.blanking] using congrArg Blanking.ignoreMdcError blanking

/-- A context is changed on both sides. -/
theorem Twin.setCtx (twin : Twin serial ctx left right) {other : Nat} {changed changed' : Ctx}
    (same : other ≠ ctx → changed = changed')
    (plaintext : changed.decrypt.plaintextDserial = changed'.decrypt.plaintextDserial)
    (ignoreMdcError : changed.ignoreMdcError = changed'.ignoreMdcError)
    : Twin serial ctx { left with ctxs := Function.update left.ctxs other changed }
        { right with ctxs := Function.update right.ctxs other changed' } := by
  obtain ⟨reg, keeps⟩ := twin.keepsLeft
  obtain ⟨reg', keeps'⟩ := twin.keepsRight
  refine ⟨⟨reg, keeps.setCtxs _⟩, ⟨reg', keeps'.setCtxs _⟩, twin.props, twin.payload, ?_, ?_, ?_⟩
  · intro third apart
    by_cases here : third = other
    · subst here
      simpa using same apart
    · simpa [here] using twin.ctxs third apart
  · by_cases here : ctx = other
    · simpa [here] using plaintext
    · simpa [here] using twin.plaintext
  · by_cases here : ctx = other
    · simpa [here] using ignoreMdcError
    · simpa [here] using twin.ignoreMdcError

/-- The flags of a context are the same on both sides. -/
theorem Twin.ignores (twin : Twin serial ctx left right) (other : Nat)
    : (left.ctxs other).ignoreMdcError = (right.ctxs other).ignoreMdcError := by
  by_cases here : other = ctx
  · rw [here]
    exact twin.ignoreMdcError
  · rw [twin.ctxs other here]

/-- A decrypt operation is started on both sides. -/
theorem Twin.startDecrypt (twin : Twin serial ctx left right) (other : Nat)
    {plaintext : Option Handle}
    (alive : ∀ dh ∈ plaintext, (left.props.propidx dh).isSome)
    : Together serial ctx (left.step (.startDecrypt other plaintext))
        (right.step (.startDecrypt other plaintext)) := by
  cases plaintext with
  | none =>
      refine ⟨_, _, _, _, rfl, rfl, Or.inl rfl, twin.setCtx ?_ rfl (twin.ignores other)⟩
      intro here
      rw [twin.ctxs other here]
  | some dh =>
      obtain ⟨reg, keeps⟩ := twin.keepsLeft
      obtain ⟨entry, _, isSerial, _⟩ := keeps.lookup (alive dh rfl)
      have isSerial' := isSerial
      rw [twin.serial_eq] at isSerial'
      simp only [DataWorld.step, DataWorld.startDecrypt, isSerial, isSerial', Option.map_some]
      refine ⟨_, _, _, _, rfl, rfl, Or.inl rfl, twin.setCtx ?_ rfl (twin.ignores other)⟩
      intro here
      rw [twin.ctxs other here]

/-- The twins stay together when the flag of a context is set. -/
theorem Twin.setIgnoreMdcError (twin : Twin serial ctx left right) (other : Nat) (value : Bool)
    : Together serial ctx (left.step (.setIgnoreMdcError other value))
        (right.step (.setIgnoreMdcError other value)) := by
  refine ⟨_, _, _, _, rfl, rfl, Or.inl rfl, twin.setCtx ?_ ?_ rfl⟩
  · intro here
    rw [twin.ctxs other here]
  · by_cases here : other = ctx
    · simpa [here] using twin.plaintext
    · rw [twin.ctxs other here]

/-- Every allowed call keeps the two sides in step. -/
theorem Twin.step (twin : Twin serial ctx left right) {op : DataOp} (allowed : op.Allowed left)
    : Together serial ctx (left.step op) (right.step op) := by
  obtain ⟨reg, keeps⟩ := twin.keepsLeft
  obtain ⟨reg', keeps'⟩ := twin.keepsRight
  have allowed' := twin.allowed allowed
  obtain ⟨valid, fits⟩ := allowed
  obtain ⟨valid', fits'⟩ := allowed'
  cases op with
  | new alloc addr => exact twin.create alloc valid fits valid' fits' payload_new
  | newExternal alloc addr => exact twin.create alloc valid fits valid' fits' payload_external
  | newFromMem alloc copyAlloc addr buffer copy =>
      exact twin.create alloc valid.1 fits valid'.1 fits'
        (payload_newFromMem copyAlloc valid.2 copy)
  | release dh =>
      obtain ⟨next, next', released, released', kept⟩ := twin.release valid
      refine ⟨_, _, _, _, by rw [DataWorld.step, released]; rfl,
        by rw [DataWorld.step, released']; rfl, Or.inl ?_, kept⟩
      rw [twin.serial_eq]
  | read dh size reply =>
      obtain ⟨answer, next, ran, kept⟩ := keeps.read valid size reply
      obtain ⟨answer', next', ran', kept'⟩ := keeps'.read valid' size reply
      simp only [DataWorld.step]
      rw [read_eq_act] at ran ran' ⊢
      rw [read_eq_act]
      exact twin.act valid _ ⟨_, _, _, ran, kept⟩ ⟨_, _, _, ran', kept'⟩
  | write dh alloc buffer reply =>
      obtain ⟨answer, next, ran, kept⟩ := keeps.write valid.1 alloc valid.2 reply
      obtain ⟨answer', next', ran', kept'⟩ := keeps'.write valid'.1 alloc valid'.2 reply
      simp only [DataWorld.step]
      rw [write_eq_act] at ran ran' ⊢
      rw [write_eq_act]
      exact twin.act valid.1 _ ⟨_, _, _, ran, kept⟩ ⟨_, _, _, ran', kept'⟩
  | seek dh offset whence reply =>
      have low : -2 ^ 63 < offset := lt_of_le_of_ne valid.2.1 (Ne.symm fits)
      obtain ⟨answer, next, ran, kept⟩ := keeps.seek valid.1 low valid.2.2 whence reply
      obtain ⟨answer', next', ran', kept'⟩ := keeps'.seek valid'.1 low valid'.2.2 whence reply
      simp only [DataWorld.step]
      rw [seek_eq_act] at ran ran' ⊢
      rw [seek_eq_act]
      exact twin.act valid.1 _ ⟨_, _, _, ran, kept⟩ ⟨_, _, _, ran', kept'⟩
  | releaseAndGetMem dh alloc => exact twin.releaseAndGetMem valid alloc
  | setIgnoreMdcError other value => exact twin.setIgnoreMdcError other value
  | startDecrypt other plaintext => exact twin.startDecrypt other valid
  | statusLine other line => exact twin.statusLine other line

/-- Two runs over the same calls. -/
theorem Twin.run (twin : Twin serial ctx left right) {ops : List DataOp}
    (allowed : Machine.Along DataWorld.step DataOp.Allowed left ops)
    : ∃ events last events' last',
        Machine.run DataWorld.step left ops = some (events, last)
        ∧ Machine.run DataWorld.step right ops = some (events', last')
        ∧ events.filter (DataEvent.shows serial ctx) = events'.filter (DataEvent.shows serial ctx)
        ∧ Twin serial ctx last last' := by
  have together {left right : DataWorld} {op : DataOp} (twin : Twin serial ctx left right)
      (allowed : op.Allowed left)
      : Together serial ctx (left.step op) (right.step op) :=
    twin.step allowed
  exact Machine.run_lockstep together twin allowed

end DataWorld

-----------------------------------------------------------------------------------------
-- The plaintext of a failed decryption
-----------------------------------------------------------------------------------------

/-- No call but a creation reports a new object. -/
theorem DataWorld.answering_not_created {world next : DataWorld} {dh : Handle} {number : Nat}
    {result : Option (DataAnswer × DataWorld)}
    (other : ∀ next, result ≠ some (.created, next))
    : world.answering dh result ≠ some (.object number .created, next) := by
  intro answered
  obtain ⟨⟨answer, after⟩, isResult, isEvent⟩ := Option.map_eq_some_iff.mp answered
  cases isEvent
  exact other _ isResult

/-- A new object gets a number that was never used. -/
theorem DataWorld.Keeps.step_created {world next : DataWorld} {reg : Registry}
    (keeps : world.Keeps reg) {op : DataOp} (allowed : op.Allowed world) {number : Nat}
    (stepped : world.step op = some (.object number .created, next))
    : reg.created < number := by
  have created {alloc : TableAlloc} {addr : Option Handle} {payload : Option Payload}
      (fresh : world.Fresh addr) (room : world.HasRoom) (wf : WellFormedPayload payload)
      (made : world.create alloc addr payload = some (.object number .created, next))
      : reg.created < number := by
    obtain ⟨event, _, _, made', _, _, _, larger⟩ := keeps.create alloc fresh room wf
    rw [made'] at made
    cases made
    exact larger number rfl
  obtain ⟨valid, fits⟩ := allowed
  cases op with
  | new alloc addr => exact created valid fits payload_new stepped
  | newExternal alloc addr => exact created valid fits payload_external stepped
  | newFromMem alloc copyAlloc addr buffer copy =>
      exact created valid.1 fits (payload_newFromMem copyAlloc valid.2 copy) stepped
  | release dh =>
      refine absurd stepped (answering_not_created ?_)
      simp
  | read dh size reply =>
      refine absurd stepped (answering_not_created ?_)
      intro after
      unfold DataWorld.read
      repeat' split
      all_goals simp
  | write dh alloc buffer reply =>
      refine absurd stepped (answering_not_created ?_)
      intro after
      unfold DataWorld.write
      repeat' split
      all_goals simp
  | seek dh offset whence reply =>
      refine absurd stepped (answering_not_created ?_)
      intro after
      unfold DataWorld.seek
      repeat' split
      all_goals simp
  | releaseAndGetMem dh alloc =>
      refine absurd stepped (answering_not_created ?_)
      intro after
      unfold DataWorld.releaseAndGetMem
      repeat' split
      all_goals simp
  | setIgnoreMdcError ctx value => simp [DataWorld.step] at stepped
  | startDecrypt ctx plaintext => simp [DataWorld.step] at stepped
  | statusLine ctx line => simp [DataWorld.step] at stepped

/-- A run goes on from a state that keeps the invariant; the objects it creates get numbers
that were never used.
-/
theorem DataWorld.Keeps.run {world : DataWorld} {reg : Registry} (keeps : world.Keeps reg)
    {ops : List DataOp} (allowed : Machine.Along DataWorld.step DataOp.Allowed world ops)
    : ∃ events last reg',
        Machine.run DataWorld.step world ops = some (events, last)
        ∧ (∀ number, .object number .created ∈ events → reg.created < number)
        ∧ last.Keeps reg'
        ∧ reg.Evolves reg' := by
  have progress {state : DataWorld} {op : DataOp}
      (held : ∃ reg', state.Keeps reg' ∧ reg.Evolves reg') (allowed : op.Allowed state)
      : ∃ event next,
          state.step op = some (event, next)
          ∧ (∀ number, event = .object number .created → reg.created < number)
          ∧ ∃ reg', next.Keeps reg' ∧ reg.Evolves reg' := by
    obtain ⟨reg', kept, evolves⟩ := held
    obtain ⟨event, next, reg'', stepped, kept', evolves'⟩ := kept.step allowed
    refine ⟨event, next, stepped, ?_, reg'', kept', evolves.trans evolves'⟩
    rintro number rfl
    exact evolves.created.trans_lt (kept.step_created allowed stepped)
  obtain ⟨events, last, ran, fresh, reg', kept, evolves⟩ :=
    Machine.run_progress progress ⟨reg, keeps, .refl reg⟩ allowed
  exact ⟨events, last, reg', ran, fun number member => fresh _ member number rfl, kept, evolves⟩

/-- A DECRYPTION_FAILED line after which the run goes on. All other objects show the same
events as without the line, and none that is created later has the number of the plaintext;
if the plaintext is there and modification errors are not ignored, nothing of it can be read
any more.
-/
theorem failedPlaintext_unreadable (ctxs : Nat → Ctx) (early late : List DataOp) (ctx : Nat)
    (args : Str)
    (allowed
      : Machine.Along DataWorld.step DataOp.Allowed { ctxs }
          (early ++ .statusLine ctx ⟨.decryptionFailed, args⟩ :: late))
    : ∃ past before err events after events' after',
        Machine.run DataWorld.step { ctxs } early = some (past, before)
        ∧ Machine.run DataWorld.step { ctxs }
            (early ++ .statusLine ctx ⟨.decryptionFailed, args⟩ :: late)
          = some (past ++ .context ctx err :: events, after)
        ∧ Machine.run DataWorld.step { ctxs } (early ++ late) = some (past ++ events', after')
        ∧ events.filter (DataEvent.shows (before.ctxs ctx).decrypt.plaintextDserial ctx)
          = events'.filter (DataEvent.shows (before.ctxs ctx).decrypt.plaintextDserial ctx)
        ∧ ∀ dh,
            before.serial dh = some (before.ctxs ctx).decrypt.plaintextDserial
            → (∀ number,
                .object number .created ∈ events
                → number ≠ (before.ctxs ctx).decrypt.plaintextDserial)
              ∧ ((before.ctxs ctx).ignoreMdcError = false
                → after.serial dh = some (before.ctxs ctx).decrypt.plaintextDserial
                → after.Unreadable dh (before.ctxs ctx).decrypt.plaintextDserial) := by
  obtain ⟨allowedEarly, allowedRest⟩ := Machine.along_of_append allowed
  obtain ⟨past, before, reg, ran, _, keeps, _⟩ := (DataWorld.Keeps.initial ctxs).run allowedEarly
  have allowedLine := allowedRest past before ran
  obtain ⟨err, next, reg', handled, kept, evolves, _, blanked⟩ :=
    keeps.statusLine ctx ⟨.decryptionFailed, args⟩
  have stepped : before.step (.statusLine ctx ⟨.decryptionFailed, args⟩)
      = some (.context ctx err, next) := by
    rw [DataWorld.step, handled]
    rfl
  have allowedLate := allowedLine.2 _ _ stepped
  obtain ⟨events, after, reg'', ranLate, fresh, keptLast, evolvesLast⟩ := kept.run allowedLate
  obtain ⟨_, _, events', after', ranLeft, ranRight, shown, _⟩ :=
    (keeps.twin_failed handled).run allowedLate
  rw [ranLate] at ranLeft
  cases ranLeft
  refine ⟨past, before, err, events, after, events', after', ran,
    Machine.run_append_iff.mpr ⟨past, before, _, ran, ?_, rfl⟩,
    Machine.run_append_iff.mpr ⟨past, before, _, ran, ranRight, rfl⟩, shown, ?_⟩
  · exact Machine.run_cons_iff.mpr ⟨_, next, events, stepped, ranLate, rfl⟩
  · intro dh isPlaintext
    -- The plaintext is there, so its number has been assigned.
    have assigned : (before.ctxs ctx).decrypt.plaintextDserial ≤ reg.created := by
      rw [keeps.serial_eq] at isPlaintext
      obtain ⟨entry, live, isSerial⟩ := Option.map_eq_some_iff.mp isPlaintext
      rw [← isSerial]
      exact (keeps.represents.serials.assigned live).2
    have assigned' := assigned.trans evolves.created
    refine ⟨?_, ?_⟩
    · intro number member
      exact (assigned'.trans_lt (fresh number member)).ne'
    · intro checked isThere
      exact keptLast.unreadable ((blanked rfl checked assigned).evolves evolvesLast assigned')
        isThere

/-- An allocator with blocks of at most 16 bytes. -/
def smallBlocks : Alloc where
  grant size := if size ≤ 16 then some (fun _ => 0) else none
  bounded _ large := if_neg (by omega)

/-- Two bytes are written to the plaintext. -/
def writePlaintext : List DataOp :=
  [.new ampleMemory (some 1), .startDecrypt 0 (some 1), .write 1 smallBlocks [104, 105] 0]

/-- Another object is created, and the plaintext is read from its start. -/
def readPlaintext : List DataOp :=
  [.new ampleMemory (some 2), .seek 1 0 0 0, .read 1 2 (0, [])]

/-- The two bytes are read where decryption has not failed, and none of them where it has. -/
theorem failedPlaintext_unreadable_two
    : ∃ events after events' after',
        Machine.run DataWorld.step {}
            (writePlaintext ++ .statusLine 0 ⟨.decryptionFailed, []⟩ :: readPlaintext)
          = some (events, after)
        ∧ after.Unreadable 1 1
        ∧ events.getLast? = some (.object 1 (.bytes 0 []))
        ∧ Machine.run DataWorld.step {} (writePlaintext ++ readPlaintext)
          = some (events', after')
        ∧ events'.getLast? = some (.object 1 (.bytes 2 [104, 105])) := by
  obtain ⟨past, before, err, events, after, events', after', ran, ranLine, ranRest, _, plaintext⟩ :=
    failedPlaintext_unreadable (fun _ => {}) writePlaintext readPlaintext 0 [] (by
      refine ⟨⟨⟨by simp, by simp⟩, by simp [DataOp.Fits, DataWorld.HasRoom,
        PropertyTable.entries, maxTableSize]⟩, ?_⟩
      rintro event next ⟨rfl, rfl⟩
      refine ⟨⟨by simp [DataOp.Valid], trivial⟩, ?_⟩
      rintro event next ⟨rfl, rfl⟩
      refine ⟨⟨⟨rfl, by decide⟩, trivial⟩, ?_⟩
      rintro event next ⟨rfl, rfl⟩
      refine ⟨⟨trivial, trivial⟩, ?_⟩
      rintro event next ⟨rfl, rfl⟩
      refine ⟨⟨⟨?_, by decide⟩, ?_⟩, ?_⟩
      · rintro dh ⟨rfl⟩
        rfl
      · show List.countP _ _ < _
        decide
      rintro event next ⟨rfl, rfl⟩
      refine ⟨⟨⟨rfl, by decide⟩, show (0 : Int) ≠ -2 ^ 63 by decide⟩, ?_⟩
      rintro event next ⟨rfl, rfl⟩
      refine ⟨⟨rfl, trivial⟩, ?_⟩
      rintro event next ⟨rfl, rfl⟩
      trivial)
  cases ran
  cases ranLine
  cases ranRest
  exact ⟨_, _, _, _, rfl, (plaintext 1 rfl).2 rfl rfl, rfl, rfl, by decide +kernel⟩

-----------------------------------------------------------------------------------------
-- A plaintext behind the slots that an index of type `int` can address
-----------------------------------------------------------------------------------------

/-- The state after the creation of the objects `1`, …, `n`. -/
structure DataWorld.Crowded (world : DataWorld) (n : Nat) : Prop where
  filled : ∃ reg, TrackedTable.Filled ⟨world.props, reg⟩ n
  unused : ∀ k, n ≤ k → world.props.propidx (k + 1) = none
  checked : ∀ ctx, (world.ctxs ctx).ignoreMdcError = false

/-- Create the objects `1`, …, `n` in this order. -/
def createObjects (n : Nat) : List DataOp :=
  (List.range n).map (fun k => .new ampleMemory (some (k + 1)))

/-- One more object is created in a crowded world. -/
theorem DataWorld.Crowded.step {world : DataWorld} {n : Nat} (crowded : world.Crowded n)
    (bound : n ≤ 2 ^ 31)
    : ∃ event next,
        world.step (.new ampleMemory (some (n + 1))) = some (event, next)
        ∧ DataOp.Valid world (.new ampleMemory (some (n + 1)))
        ∧ next.Crowded (n + 1) := by
  obtain ⟨reg, filled⟩ := crowded.filled
  obtain ⟨tbl, free, inserted, _, _, _, _⟩ := insertIntoPropertyTable_filled filled bound
  obtain ⟨event, after, tracked, filled'⟩ := stepTracked_filled filled bound
  have created : gpgmeDataNew ampleMemory world.props (some (n + 1))
      = some (0, { tbl, propidx := Function.update world.props.propidx (n + 1) (some n) }) := by
    simp only [gpgmeDataNew, inserted, ne_eq, not_true_eq_false, if_false]
  have isAfter : after.world
      = { tbl, propidx := Function.update world.props.propidx (n + 1) (some n) } := by
    simp only [stepTracked, stepProp, created, Option.map_some, Option.some.injEq,
      Prod.mk.injEq] at tracked
    rw [← tracked.2]
  refine ⟨_, _, by simp only [DataWorld.step, DataWorld.create, created]; rfl, ?_,
    ⟨after.reg, ?_⟩, ?_, ?_⟩
  · refine ⟨?_, ?_⟩
    · rintro dh ⟨rfl⟩
      exact crowded.unused n (le_refl n)
    · have last : world.props.tbl.lastDserial = n := filled.last
      rw [last]
      omega
  · rw [← isAfter]
    exact filled'
  · intro k behind
    have apart : k + 1 ≠ n + 1 := by omega
    simp only [Function.update_of_ne apart]
    exact crowded.unused k (by omega)
  · exact crowded.checked

/-- By induction on the number of objects, up to one more than `int` has indices for. -/
theorem createObjects_crowded (n : Nat) (bound : n ≤ 2 ^ 31 + 1)
    : ∃ events last,
        Machine.run DataWorld.step {} (createObjects n) = some (events, last)
        ∧ Machine.Along DataWorld.step DataOp.Valid {} (createObjects n)
        ∧ last.Crowded n := by
  induction n with
  | zero =>
      obtain ⟨_, start, ran, _, filled⟩ := createMany_filled 0 (by omega)
      cases ran
      exact ⟨[], {}, rfl, trivial, ⟨_, filled⟩, fun _ _ => rfl, fun _ => rfl⟩
  | succ n ih =>
      obtain ⟨events, middle, ran, allowed, crowded⟩ := ih (by omega)
      obtain ⟨event, last, stepped, valid, crowded'⟩ := crowded.step (by omega)
      have split : createObjects (n + 1)
          = createObjects n ++ [.new ampleMemory (some (n + 1))] := by
        simp [createObjects, List.range_succ]
      rw [split]
      refine ⟨events ++ [event], last, ?_, Machine.along_append ran allowed ⟨valid, ?_⟩, crowded'⟩
      · refine Machine.run_append_iff.mpr ⟨events, middle, [event], ran, ?_, rfl⟩
        simp [Machine.run, stepped]
      · exact fun _ _ _ => trivial

/-- A scan that finds nothing up to the largest index overflows, by induction on the entries
left.
-/
theorem scanFrom_overflows {maxIdx : Nat} {stop : Property → Bool} {entries : List Property}
    (passes : ∀ idx ≤ maxIdx, ∃ entry, entries[idx]? = some entry ∧ stop entry = false)
    {left idx : Nat} (inside : idx ≤ maxIdx) (more : maxIdx < idx + left)
    : scanFrom maxIdx stop entries left idx = none := by
  induction left generalizing idx with
  | zero => omega
  | succ left ih =>
      obtain ⟨entry, here, goesOn⟩ := passes idx inside
      simp only [scanFrom, here, goesOn, Bool.false_eq_true, if_false]
      split
      · exact ih (by omega) (by omega)
      · rfl

/-- The entry of an object in a crowded table. -/
theorem getElem?_filledSlots {n free k : Nat} (taken : k < n)
    : (filledSlots n free)[k]? = some { dh := some (k + 1), dserial := k + 1 } := by
  rw [filledSlots, List.getElem?_append_left (by simpa using taken)]
  simp [taken]

/-- The number of the last object is found through its handle but not by a scan. -/
theorem DataWorld.Crowded.last {world : DataWorld} {n : Nat} (crowded : world.Crowded (n + 1))
    (large : maxInt < n) (small : n ≤ 2 ^ 31)
    : world.props.propidx (n + 1) = some n
      ∧ world.serial (n + 1) = some (n + 1)
      ∧ gpgmeDataSetProp world.props.tbl none (n + 1) .blankout 1 = none := by
  obtain ⟨reg, filled⟩ := crowded.filled
  have index : world.props.propidx (n + 1) = some n := filled.index (Nat.lt_succ_self n)
  obtain ⟨free, _, present, size⟩ := filled.slots.resolve_left (by simp)
  dsimp only at present size
  refine ⟨index, ?_, ?_⟩
  · have unsigned : CInt.toUnsigned n = n := by
      rw [CInt.toUnsigned_of_range (by omega) (by omega)]
      simp
    have inside : n < n + 1 + free := by omega
    simp [DataWorld.serial, DataWorld.ref, index, gpgmeDataGetDserial, entryOfHandle, present,
      size, unsigned, inside, getElem?_filledSlots]
  · have overflows : scanFrom maxInt
        (fun entry => entry.dh.isSome && entry.dserial == n + 1) (filledSlots (n + 1) free)
          (n + 1 + free) 0 = none := by
      refine scanFrom_overflows ?_ (Nat.zero_le _) (by omega)
      intro idx inside
      exact ⟨_, getElem?_filledSlots (by omega), by simp; omega⟩
    simp only [gpgmeDataSetProp, propIndex, Nat.succ_ne_zero, if_false, present, size, overflows]

/-- The line for the last object has no result. -/
theorem createObjects_statusLine_faults (n : Nat) (large : maxInt < n) (small : n ≤ 2 ^ 31)
    : ∃ past before,
        Machine.run DataWorld.step {} (createObjects (n + 1) ++ [.startDecrypt 0 (some (n + 1))])
          = some (past, before)
        ∧ before.serial (n + 1) = some (before.ctxs 0).decrypt.plaintextDserial
        ∧ Machine.Along DataWorld.step DataOp.Valid {}
            (createObjects (n + 1)
              ++ [.startDecrypt 0 (some (n + 1)), .statusLine 0 ⟨.decryptionFailed, []⟩])
        ∧ Machine.run DataWorld.step {}
            (createObjects (n + 1)
              ++ [.startDecrypt 0 (some (n + 1)), .statusLine 0 ⟨.decryptionFailed, []⟩])
          = none := by
  obtain ⟨events, crowd, ran, valid, crowded⟩ := createObjects_crowded (n + 1) (by omega)
  obtain ⟨index, isSerial, faults⟩ := crowded.last large small
  have started : ∃ next,
      crowd.step (.startDecrypt 0 (some (n + 1))) = some (.context 0 0, next)
      ∧ next.props = crowd.props
      ∧ (next.ctxs 0).decrypt.plaintextDserial = n + 1
      ∧ (next.ctxs 0).ignoreMdcError = false := by
    simp only [DataWorld.step, DataWorld.startDecrypt, isSerial, Option.map_some]
    exact ⟨_, rfl, rfl, by simp, by simp [crowded.checked]⟩
  obtain ⟨before, started, sameProps, plaintext, checked⟩ := started
  have faulted : before.step (.statusLine 0 ⟨.decryptionFailed, []⟩) = none := by
    obtain ⟨err, left, handled, handler, blanking⟩ := decryptStatusHandlerInstalled_blanking
      { before.ctxs 0 with blankoutCalls := [] } .decryptionFailed []
    have calls := congrArg Blanking.calls blanking
    simp only [Ctx.blanking, Blanking.note, checked, plaintext, and_self, if_true,
      List.nil_append] at calls
    simp [DataWorld.step, DataWorld.statusLine, handler, calls, DataWorld.blankAll, sameProps,
      faults]
  refine ⟨events ++ [.context 0 0], before, ?_, ?_, ?_, ?_⟩
  · refine Machine.run_append_iff.mpr ⟨events, crowd, _, ran, ?_, rfl⟩
    simp [Machine.run, started]
  · rw [DataWorld.serial_of_props sameProps, isSerial, plaintext]
  · refine Machine.along_append ran valid ⟨?_, fun _ _ _ => ⟨trivial, fun _ _ _ => trivial⟩⟩
    rintro dh ⟨rfl⟩
    rw [index]
    rfl
  · refine Machine.run_append_fault ran ?_
    simp [Machine.run, started, faulted]

/-- The plaintext is the 2^31 + 1st live object. -/
theorem failedPlaintext_index_overflows
    : ∃ past before,
        Machine.run DataWorld.step {}
            (createObjects (2147483648 + 1) ++ [.startDecrypt 0 (some (2147483648 + 1))])
          = some (past, before)
        ∧ before.serial (2147483648 + 1) = some (before.ctxs 0).decrypt.plaintextDserial
        ∧ Machine.Along DataWorld.step DataOp.Valid {}
            (createObjects (2147483648 + 1)
              ++ [.startDecrypt 0 (some (2147483648 + 1)), .statusLine 0 ⟨.decryptionFailed, []⟩])
        ∧ Machine.run DataWorld.step {}
            (createObjects (2147483648 + 1)
              ++ [.startDecrypt 0 (some (2147483648 + 1)), .statusLine 0 ⟨.decryptionFailed, []⟩])
          = none :=
  createObjects_statusLine_faults 2147483648 (by norm_num [maxInt]) (by norm_num)

end Gpgme.Data
