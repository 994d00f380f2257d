import Gpgme.CStringDecoder
import Gpgme.Keylist.UserIdScan

/-! The blocks that `_gpgme_key_append_name` and `_gpgme_key_add_sig` of `key.c` allocate for a
user ID, with what they write behind the structure at the start of each.
-/

namespace Gpgme

open ByteMemory CString

-----------------------------------------------------------------------------------------
-- The functions
-----------------------------------------------------------------------------------------

/-- `sizeof` of `struct _gpgme_user_id` and `struct _gpgme_key_sig`. -/
def sizeofUserId : Nat := 88

def sizeofKeySig : Nat := 128

/-- What the allocations return: a structure with the area behind it, a buffer of the decoder, and
the address in a block of its own.
-/
structure UserIdAllocs where
  block : Nat → Option Nat
  buffer : Nat → Option Nat
  mailbox : Str → Option Nat

/-- `int src_len = strlen (src);` -/
def srcLength {mem : ByteMemory} (src : CStringAt mem) : Int := CInt.toInt src.text.length

/-- `sizeof (*uid) + 2 * src_len + 3`, with a product of type `int`. -/
def userIdSize (structSize : Nat) (srcLen : Int) : Nat :=
  CInt.toSize (structSize + CInt.toSize (CInt.toInt (2 * srcLen)) + 3)

/-- The bytes behind the structure that a name of a given length needs. -/
def areaSize (length : Nat) : Nat := 2 * length + 3

/-- The conversion of the name into the area: the memory and `dst` behind it. An error of the
decoder is ignored.
-/
def convertUserId (allocs : UserIdAllocs) (mem : TracedMemory) (src : CStringAt mem.bytes)
    (area : Nat) (convert : Bool) (rounds : Nat)
    : Option (TracedMemory × Nat) :=
  let len := CInt.toSize (CInt.toInt (srcLength src + 1))
  if convert then
    match decodeCStringStart allocs.buffer mem src area len with
    | .error _ => some (mem, area)
    | .ok d =>
        let last := CDecoder.run rounds d
        if last.stopped then some (last.mem, d.dest) else none
  else
    some (mem.copyBytes src.addr area len, area)

/-- The name is converted into the area and its parts are stored behind it. -/
def fillUserId (protocol : Protocol) (allocs : UserIdAllocs) (mem : TracedMemory)
    (src : CStringAt mem.bytes) (area : Nat) (convert : Bool) (rounds : Nat)
    : Option UserIdPlaces := do
  let (mem, dst) ← convertUserId allocs mem src area convert rounds
  let (mem, len) ← mem.strlen dst rounds
  if protocol = .cms then parseX509UserIdAt mem area (dst + len + 1) rounds
  else parseUserIdAt mem area (dst + len + 1) rounds

/-- The pointers of a user ID, and the memory behind them. -/
structure AppendedName where
  mem : TracedMemory
  uid : Nat
  place : UserIdField → Nat
  address : Option Nat

/-- `_gpgme_mailbox_from_userid`: the address of a user ID with the block that it is put into. -/
def mailboxBlock (allocs : UserIdAllocs) (uid : Str) : Option (Nat × Str) :=
  (mailboxFromUserid uid).bind fun text => (allocs.mailbox text).map fun addr => (addr, text)

/-- The end of `_gpgme_key_append_name`: the address, which also becomes the email address of a key
that has only a mailbox for a name.
-/
def AppendedName.setAddress (allocs : UserIdAllocs) (rounds : Nat) (user : AppendedName)
    : Option AppendedName := do
  let (mem, len) ← user.mem.strlen user.uid rounds
  match mailboxBlock allocs (mem.text user.uid len) with
  | none => some { user with mem }
  | some (addr, text) =>
      let mem := mem.storeString addr text
      let email := user.place .email
      let user := { user with mem := mem.look email, address := some addr }
      if mem.bytes email ≠ 0 then some user
      else
        let (mem, len) ← user.mem.strlen (user.place .name) rounds
        if mem.text (user.place .name) len ≠ text then some { user with mem }
        else
          let mem := mem.store (user.place .name) 0
          some { user with mem, place := Function.update user.place .email addr }

/-- `_gpgme_key_append_name`, as far as the new user ID. The loops look at no more characters than
the area is meant to have.
-/
def appendNameMemory (protocol : Protocol) (allocs : UserIdAllocs)
    (mem : TracedMemory) (src : CStringAt mem.bytes) (convert : Bool)
    : Option (Except GpgError AppendedName) :=
  let rounds := areaSize src.text.length
  match allocs.block (userIdSize sizeofUserId (srcLength src)) with
  | none => some (.error (gpgError ErrCode.enomem))
  | some block => do
      let uid := block + sizeofUserId
      let places ← fillUserId protocol allocs mem src uid convert rounds
      let user : AppendedName := { mem := places.mem, uid, place := places.place, address := none }
      (user.setAddress allocs rounds).map .ok

/-- `_gpgme_key_add_sig` for a name, as far as the new signature; null when there is no memory. -/
def addSigMemory (protocol : Protocol) (allocs : UserIdAllocs)
    (mem : TracedMemory) (src : CStringAt mem.bytes)
    : Option (Option UserIdPlaces) :=
  match allocs.block (userIdSize sizeofKeySig (srcLength src)) with
  | none => some none
  | some block =>
      (fillUserId protocol allocs mem src (block + sizeofKeySig) true
        (areaSize src.text.length)).map some

-----------------------------------------------------------------------------------------
-- The area behind the structure
-----------------------------------------------------------------------------------------

/-- The user ID that is stored for a name. -/
def storedText (convert : Bool) (s : Str) : Str := if convert then unescapedText s else s

/-- What is stored is no longer than the source. -/
theorem storedText_length_le (convert : Bool) (s : Str)
    : (storedText convert s).length ≤ s.length := by
  cases convert with
  | false => exact le_rfl
  | true => exact unescapedText_length_le s

/-- What is stored has no NUL in it. -/
theorem storedText_plain (convert : Bool) {s : Str} (plain : ∀ c ∈ s, c ≠ 0)
    : ∀ c ∈ storedText convert s, c ≠ 0 := by
  cases convert with
  | false => exact plain
  | true => exact unescapedText_plain plain

/-- What is requested is what the name needs, and an object can be as large. -/
def RightSize (structSize length : Nat) : Prop :=
  userIdSize structSize (CInt.toInt length) = structSize + areaSize length
  ∧ structSize + areaSize length < 2 ^ 63

/-- The size is right exactly where the length can be doubled within an `int`. -/
theorem rightSize_iff {structSize length : Nat} (small : structSize < 2 ^ 16)
    : RightSize structSize length ↔ length < 2 ^ 30 := by
  unfold RightSize userIdSize areaSize CInt.toSize CInt.toInt
  omega

section Filling

variable (allocs : UserIdAllocs) (mem : TracedMemory) {src : CStringAt mem.bytes} {area : Nat}
  {convert : Bool} (protocol : Protocol) {rounds : Nat}

/-- The name is converted into the area, and its first bytes are all that is written there. -/
theorem convertUserId_spec (short : src.text.length < 2 ^ 30) (enough : src.text.length < rounds)
    (whole : convert = true → ¬EndsInBackslash src.text)
    (apart : Apart area (areaSize src.text.length) src.addr (src.text.length + 1))
    : ∃ mem',
        convertUserId allocs mem src area convert rounds = some (mem', area)
        ∧ mem.bytes.Writes mem'.bytes area (storedText convert src.text ++ [0])
        ∧ mem.Within mem' Set.univ {addr | area ≤ addr ∧ addr ≤ area + src.text.length} := by
  have len : CInt.toSize (CInt.toInt (srcLength src + 1)) = src.text.length + 1 := by
    unfold srcLength CInt.toSize CInt.toInt
    omega
  have suits : Apart area (src.text.length + 1) src.addr (src.text.length + 1) := by
    unfold Apart areaSize at *
    omega
  unfold convertUserId
  rw [len]
  cases convert with
  | true =>
      have ready := CDecoder.ready_start mem src (Or.inr suits)
      obtain ⟨within, ends⟩ := ready.run (whole rfl)
      obtain ⟨stopped, writes⟩ := ends enough
      have started
          : decodeCStringStart allocs.buffer mem src area (src.text.length + 1)
            = .ok { mem, src := src.addr, dest := area } := by
        simp [decodeCStringStart, percentBuffer]
      refine ⟨_, ?_, writes, within.mono (Set.subset_univ _) ?_⟩
      · rw [if_pos rfl, started]
        exact if_pos stopped
      · exact fun addr bounds => bounds
  | false =>
      have size : (src.text ++ [0]).length = src.text.length + 1 := by simp
      have apartCopy : Apart src.addr (src.text ++ [0]).length area (src.text ++ [0]).length := by
        rw [size]
        exact suits.symm
      obtain ⟨writes, within⟩ := TracedMemory.copyBytes_writes src.holds apartCopy
      rw [size] at writes within
      refine ⟨_, rfl, writes, within.mono subset_rfl ?_⟩
      rintro addr ⟨above, below⟩
      exact ⟨above, Nat.le_of_lt_succ below⟩

/-- The user ID and its parts are found in the area, and nothing is written elsewhere. -/
theorem fillUserId_spec (short : src.text.length < 2 ^ 30) (enough : src.text.length < rounds)
    (whole : convert = true → ¬EndsInBackslash src.text)
    (apart : Apart area (areaSize src.text.length) src.addr (src.text.length + 1))
    : ∃ places,
        fillUserId protocol allocs mem src area convert rounds = some places
        ∧ places.mem.bytes.Holds area (storedText convert src.text ++ [0])
        ∧ mem.Within places.mem Set.univ
            {addr | area ≤ addr ∧ addr < area + areaSize src.text.length}
        ∧ (∀ field,
            PartAt places.mem.bytes area (area + areaSize src.text.length)
              (some (places.place field))
              (some (partOf (userIdParts protocol (storedText convert src.text)) field)))
        ∧ (protocol ≠ .cms
          → Separate area (storedText convert src.text)
              (userIdParts protocol (storedText convert src.text)) places) := by
  obtain ⟨converted, ran, writes, within⟩ := convertUserId_spec allocs mem short enough whole apart
  have plain := storedText_plain convert src.plain
  have le := storedText_length_le convert src.text
  have enough := Nat.lt_of_le_of_lt le enough
  obtain ⟨measured, length, bytes, stores⟩ :=
    TracedMemory.strlen_string writes.holds plain enough
  have holds : measured.bytes.Holds area (storedText convert src.text ++ [0]) :=
    bytes ▸ writes.holds
  have step (places : UserIdPlaces)
      (stays
        : measured.Within places.mem Set.univ
            {addr | area + (storedText convert src.text).length < addr
              ∧ addr < area + 2 * (storedText convert src.text).length + 2})
      : mem.Within places.mem Set.univ
          {addr | area ≤ addr ∧ addr < area + areaSize src.text.length} := by
    have first
        : mem.Within measured Set.univ
            {addr | area ≤ addr ∧ addr < area + areaSize src.text.length} := by
      refine ⟨fun _ _ => Or.inr trivial, ?_⟩
      intro addr member
      rw [stores] at member
      refine (within.writes addr member).imp_right ?_
      rintro ⟨above, below⟩
      exact ⟨above, by unfold areaSize; omega⟩
    refine first.trans (stays.mono subset_rfl ?_)
    rintro addr ⟨above, below⟩
    exact ⟨by omega, by unfold areaSize; omega⟩
  have higher
      : area + 2 * (storedText convert src.text).length + 2
        ≤ area + areaSize src.text.length := by
    unfold areaSize
    omega
  unfold fillUserId userIdParts
  simp only [ran, length, Option.bind_eq_bind, Option.bind_some]
  by_cases cms : protocol = .cms
  · rw [if_pos cms, if_pos cms]
    obtain ⟨places, parsed, same, sameWrites, parts⟩ :=
      parseX509UserIdAt_spec holds plain enough
    refine ⟨places, parsed, same ▸ holds, step places ?_,
      fun field => (parts field).mono le_rfl higher, fun other => absurd cms other⟩
    exact ⟨fun _ _ => Or.inr trivial, fun addr member => Or.inl (sameWrites ▸ member)⟩
  · rw [if_neg cms, if_neg cms]
    obtain ⟨places, parsed, kept, stays, parts, separate⟩ := parseUserIdAt_spec holds plain enough
    exact ⟨places, parsed, kept, step places stays, fun field => (parts field).mono le_rfl higher,
      fun _ => separate⟩

end Filling

-----------------------------------------------------------------------------------------
-- The address
-----------------------------------------------------------------------------------------

/-- Lower case makes no NUL. -/
theorem asciiStrlwr_plain {s : Str} (plain : ∀ c ∈ s, c ≠ 0) : ∀ c ∈ asciiStrlwr s, c ≠ 0 := by
  intro c member
  obtain ⟨original, known, rfl⟩ := List.mem_map.mp member
  split
  · intro zero
    have bits := congrArg UInt8.toNat zero
    rw [UInt8.toNat_or] at bits
    have large : 32 ≤ original.toNat ||| 32 := Nat.right_le_or
    rw [show original.toNat ||| 32 = 0 from bits] at large
    omega
  · exact plain original known

/-- An address is never empty, and has only characters of the user ID. -/
theorem mailboxFromUserid_some {uid text : Str} (found : mailboxFromUserid uid = some text)
    : text ≠ [] ∧ ((∀ c ∈ uid, c ≠ 0) → ∀ c ∈ text, c ≠ 0) := by
  unfold mailboxFromUserid at found
  cases bracket : uid.dropWhile (· != 60) with
  | nil =>
      rw [bracket] at found
      dsimp only at found
      split at found
      · next valid =>
          cases found
          refine ⟨?_, asciiStrlwr_plain⟩
          simp only [isValidMailbox, Bool.and_eq_true, bne_iff_ne] at valid
          simpa [asciiStrlwr] using valid.1.1.1.1.1.1
      · cases found
  | cons c s =>
      rw [bracket] at found
      dsimp only at found
      split at found
      · cases found
      · next filled =>
          split at found
          · cases found
          · cases found
            rw [not_or] at filled
            refine ⟨by simpa [asciiStrlwr] using filled.2, ?_⟩
            intro plain
            refine asciiStrlwr_plain fun c member => plain c ?_
            have inside : c ∈ uid.dropWhile (· != 60) := by
              rw [bracket]
              exact List.mem_cons_of_mem _ ((List.takeWhile_prefix _).subset member)
            exact (List.dropWhile_suffix _).subset inside

/-- The key has only a mailbox for a name. -/
def MailboxOnly (parts : Str × Str × Str) (mailbox : Option (Nat × Str)) : Prop :=
  parts.2.1 = [] ∧ mailbox.map Prod.snd = some parts.1

/-- The bytes of the block with the address. -/
def mailboxBytes (mailbox : Option (Nat × Str)) : Set Nat :=
  {byte | ∃ addr text, mailbox = some (addr, text) ∧ addr ≤ byte ∧ byte < addr + (text.length + 1)}

/-- A user ID is complete: all parts stand in the area, only that a key that has nothing but a
mailbox has an empty name, and its email address is that in the block of the address.
-/
structure AppendedName.Complete (size : Nat) (uid : Str) (parts : Str × Str × Str)
    (mailbox : Option (Nat × Str)) (user : AppendedName)
    : Prop where
  holds : user.mem.bytes.Holds user.uid (uid ++ [0])
  address : user.address = mailbox.map Prod.fst
  places
    : ¬MailboxOnly parts mailbox
      → ∀ field,
          PartAt user.mem.bytes user.uid (user.uid + size) (some (user.place field))
            (some (partOf parts field))
  name
    : MailboxOnly parts mailbox
      → PartAt user.mem.bytes user.uid (user.uid + size) (some (user.place .name)) (some [])
  comment
    : MailboxOnly parts mailbox
      → PartAt user.mem.bytes user.uid (user.uid + size) (some (user.place .comment))
          (some parts.2.2)
  email
    : MailboxOnly parts mailbox
      → user.address = some (user.place .email)
        ∧ user.mem.bytes.Holds (user.place .email) (parts.1 ++ [0])

/-- What is written outside of the area leaves the parts in it alone. -/
theorem PartAt.keepApart {mem mem' : ByteMemory} {low size dest : Nat} {addr : Option Nat}
    {part : Option Str} {bytes : List UInt8} (stored : PartAt mem low (low + size) addr part)
    (writes : mem.Writes mem' dest bytes) (apart : Apart dest bytes.length low size)
    : PartAt mem' low (low + size) addr part := by
  cases stored with
  | missing => exact .missing
  | found above below holds plain =>
      refine .found above below (writes.keeps ?_ holds) plain
      rw [List.length_append, List.length_singleton]
      unfold Apart at apart ⊢
      omega

/-- A part is empty exactly where its pointer leads to a terminator. -/
theorem PartAt.empty_iff {mem : ByteMemory} {low high addr : Nat} {part : Str}
    (stored : PartAt mem low high (some addr) (some part))
    : mem addr = 0 ↔ part = [] := by
  cases stored with
  | found above below holds plain =>
      cases part with
      | nil => exact ⟨fun _ => rfl, fun _ => holds.1⟩
      | cons c rest =>
          have here : mem addr = c := holds.1
          rw [here]
          exact ⟨fun zero => absurd zero (plain c List.mem_cons_self), fun empty => by cases empty⟩

/-- The name is emptied and the email address becomes that of the mailbox. -/
theorem replaceName_complete (mem : TracedMemory) {initial : TracedMemory}
    {place : UserIdField → Nat} {low size addr : Nat} {uid : Str} {parts : Str × Str × Str}
    (holds : mem.bytes.Holds low (uid ++ [0]))
    (places
      : ∀ field,
          PartAt mem.bytes low (low + size) (some (place field)) (some (partOf parts field)))
    (separate : Separate low uid parts { mem := initial, place }) (filled : parts.1 ≠ [])
    (noEmail : parts.2.1 = []) (mailbox : mem.bytes.Holds addr (parts.1 ++ [0]))
    (clear : Apart addr (parts.1.length + 1) low size)
    : AppendedName.Complete size uid parts (some (addr, parts.1))
          { mem := mem.store (place .name) 0,
            uid := low,
            place := Function.update place .email addr,
            address := some addr }
      ∧ low ≤ place .name
      ∧ place .name < low + size := by
  have cleared
      : mem.bytes.Writes (mem.store (place .name) 0).bytes (place .name) [0] :=
    writes_store _ _ _
  have behind := separate.behind .name filled
  have bounds : low ≤ place .name ∧ place .name + parts.1.length < low + size := by
    have name := places .name
    cases name with
    | found above below _ _ => exact ⟨above, below⟩
  refine ⟨⟨?_, rfl, fun other => absurd ⟨noEmail, rfl⟩ other, ?_, ?_, ?_⟩, bounds.1, by omega⟩
  · refine cleared.keeps (Or.inr ?_) holds
    rw [List.length_append, List.length_singleton]
    exact behind
  · intro _
    have place' : Function.update place .email addr .name = place .name :=
      Function.update_of_ne (by simp) _ _
    have below : place .name + ([] : Str).length < low + size := by
      rw [List.length_nil]
      omega
    dsimp only
    rw [place']
    exact .found bounds.1 below cleared.holds (by simp)
  · intro _
    have comment := places .comment
    have place' : Function.update place .email addr .comment = place .comment :=
      Function.update_of_ne (by simp) _ _
    dsimp only
    rw [place']
    cases comment with
    | found above below holdsComment plainComment =>
        refine .found above below ?_ plainComment
        dsimp only [partOf] at holdsComment ⊢
        by_cases none : parts.2.2 = []
        · -- an empty comment may be the terminator of another part
          rw [none] at holdsComment ⊢
          refine ⟨?_, trivial⟩
          dsimp only [TracedMemory.store_bytes, ByteMemory.store]
          split
          · rfl
          · exact holdsComment.1
        · refine cleared.keeps ?_ holdsComment
          have apart := separate.apart .name .comment (by simp) filled none
          dsimp only [partOf] at apart
          unfold Apart
          rw [List.length_append, List.length_singleton]
          omega
  · intro _
    have place' : Function.update place .email addr .email = addr := Function.update_self _ _ _
    dsimp only
    rw [place']
    refine ⟨rfl, cleared.keeps ?_ mailbox⟩
    unfold Apart at clear ⊢
    rw [List.length_append, List.length_singleton]
    omega

/-- The address is put into its block; where it is the name and there is no email address, it takes
the place of both.
-/
theorem AppendedName.setAddress_spec (allocs : UserIdAllocs) (user : AppendedName) {uid : Str}
    {parts : Str × Str × Str} {size rounds : Nat} (unset : user.address = none)
    (enough : size ≤ rounds) (holds : user.mem.bytes.Holds user.uid (uid ++ [0]))
    (plain : ∀ c ∈ uid, c ≠ 0)
    (inside : uid.length < size)
    (places
      : ∀ field,
          PartAt user.mem.bytes user.uid (user.uid + size) (some (user.place field))
            (some (partOf parts field)))
    (separate
      : parts.1 ≠ [] → Separate user.uid uid parts { mem := user.mem, place := user.place })
    (apart
      : ∀ addr text,
          mailboxBlock allocs uid = some (addr, text)
          → Apart addr (text.length + 1) user.uid size)
    : ∃ next,
        user.setAddress allocs rounds = some next
        ∧ user.mem.Within next.mem Set.univ
            ({addr | user.uid ≤ addr ∧ addr < user.uid + size}
              ∪ mailboxBytes (mailboxBlock allocs uid))
        ∧ next.uid = user.uid
        ∧ next.Complete size uid parts (mailboxBlock allocs uid) := by
  obtain ⟨measured, length, bytes, stores⟩ :=
    TracedMemory.strlen_string holds plain (show uid.length < rounds by omega)
  have text : measured.text user.uid uid.length = uid :=
    TracedMemory.text_eq (holds_append.mp (bytes ▸ holds)).1
  unfold setAddress
  rw [length]
  simp only [Option.bind_eq_bind, Option.bind_some, text]
  cases found : mailboxBlock allocs uid with
  | none =>
      have other : ¬MailboxOnly parts none := by simp [MailboxOnly]
      refine ⟨_, rfl, ⟨fun _ _ => Or.inr trivial, ?_⟩, rfl, bytes ▸ holds, unset, ?_, ?_, ?_, ?_⟩
      · intro addr member
        exact Or.inl (stores ▸ member)
      · intro _ field
        dsimp only
        rw [bytes]
        exact places field
      · exact fun only => absurd only other
      · exact fun only => absurd only other
      · exact fun only => absurd only other
  | some block =>
      obtain ⟨addr, address⟩ := block
      have clear := apart addr address found
      obtain ⟨writes, stays⟩ := measured.storeString_writes addr address
      rw [bytes] at writes
      have size' : (address ++ [0]).length = address.length + 1 := by simp
      have within
          : user.mem.Within (measured.storeString addr address) Set.univ
              ({byte | user.uid ≤ byte ∧ byte < user.uid + size}
                ∪ mailboxBytes (some (addr, address))) := by
        refine ⟨fun _ _ => Or.inr trivial, ?_⟩
        intro byte member
        rcases stays.writes byte member with before | ⟨above, below⟩
        · exact Or.inl (stores ▸ before)
        · exact Or.inr (Or.inr ⟨addr, address, rfl, above, below⟩)
      have kept (field : UserIdField)
          : PartAt (measured.storeString addr address).bytes user.uid (user.uid + size)
              (some (user.place field)) (some (partOf parts field)) :=
        (places field).keepApart writes (by rwa [size'])
      have keptUid
          : (measured.storeString addr address).bytes.Holds user.uid (uid ++ [0]) := by
        refine writes.keeps ?_ holds
        rw [size', List.length_append, List.length_singleton]
        unfold Apart at clear ⊢
        omega
      have emailByte := (kept .email).empty_iff
      have written : (measured.storeString addr address).bytes.Holds addr (address ++ [0]) :=
        writes.holds
      dsimp only
      generalize measured.storeString addr address = stored at within kept keptUid emailByte written
      have filled : address ≠ [] := by
        obtain ⟨text', known, same⟩ := Option.bind_eq_some_iff.mp found
        obtain ⟨_, _, pair⟩ := Option.map_eq_some_iff.mp same
        cases pair
        exact (mailboxFromUserid_some known).1
      by_cases noEmail : parts.2.1 = []
      · rw [if_neg (not_not_intro (emailByte.mpr noEmail))]
        have namePart := kept .name
        cases namePart with
        | found aboveName belowName holdsName plainName =>
            have enoughName : (partOf parts .name).length < rounds := by omega
            obtain ⟨looked, nameLength, same', sameWrites⟩ :=
              TracedMemory.strlen_string (m := stored.look (user.place .email)) holdsName plainName
                enoughName
            have sameBytes : looked.bytes = stored.bytes := same'
            have nameText : looked.text (user.place .name) parts.1.length = parts.1 :=
              TracedMemory.text_eq (sameBytes ▸ (holds_append.mp holdsName).1)
            have reading
                : user.mem.Within looked Set.univ
                    ({byte | user.uid ≤ byte ∧ byte < user.uid + size}
                      ∪ mailboxBytes (some (addr, address))) :=
              ⟨fun _ _ => Or.inr trivial,
                fun byte member => within.writes byte (sameWrites ▸ member)⟩
            simp only [nameLength, Option.bind_some, partOf, nameText]
            by_cases same : parts.1 = address
            · subst same
              rw [if_neg (not_not_intro rfl)]
              obtain ⟨complete, inName⟩ := replaceName_complete looked (sameBytes ▸ keptUid)
                (fun field => sameBytes ▸ kept field) (separate filled) filled noEmail
                (sameBytes ▸ written) clear
              refine ⟨_, rfl, reading.trans ⟨fun _ => Or.inl, ?_⟩, rfl, complete⟩
              intro byte member
              rcases List.mem_append.mp member with before | now
              · exact Or.inl before
              · rw [List.mem_singleton.mp now]
                exact Or.inr (Or.inl inName)
            · have other : ¬MailboxOnly parts (some (addr, address)) := by
                rintro ⟨-, equal⟩
                exact same (Option.some.inj equal).symm
              rw [if_pos same]
              refine ⟨_, rfl, reading, rfl, sameBytes ▸ keptUid, rfl, ?_,
                fun only => absurd only other, fun only => absurd only other,
                fun only => absurd only other⟩
              intro _ field
              dsimp only
              rw [sameBytes]
              exact kept field
      · have other : ¬MailboxOnly parts (some (addr, address)) := fun only => noEmail only.1
        rw [if_pos (fun zero => noEmail (emailByte.mp zero))]
        exact ⟨_, rfl, within.look, rfl, keptUid, rfl, fun _ => kept,
          fun only => absurd only other, fun only => absurd only other,
          fun only => absurd only other⟩

-----------------------------------------------------------------------------------------
-- Whole user IDs
-----------------------------------------------------------------------------------------

/-- New blocks are apart from the name and from each other. -/
structure UserIdAllocs.Fresh (allocs : UserIdAllocs) {mem : ByteMemory} (src : CStringAt mem) : Prop
    where
  block
    : ∀ size block,
        allocs.block size = some block → Apart block size src.addr (src.text.length + 1)
  mailbox
    : ∀ size block text addr,
        allocs.block size = some block
        → allocs.mailbox text = some addr
        → Apart addr (text.length + 1) block size

section Blocks

variable {allocs : UserIdAllocs} {mem : ByteMemory} {src : CStringAt mem} {block : Nat}
  {convert : Bool} (protocol : Protocol)

/-- The area behind a structure is apart from what the block is apart from. -/
theorem apart_area {structSize other otherSize size : Nat}
    (apart : Apart block (structSize + size) other otherSize)
    : Apart (block + structSize) size other otherSize := by
  unfold Apart at apart ⊢
  omega

/-- `_gpgme_key_append_name` on a name of less than 1 GiB. -/
theorem appendNameMemory_spec (fresh : allocs.Fresh src) (short : src.text.length < 2 ^ 30)
    (whole : convert = true → ¬EndsInBackslash src.text)
    (given : allocs.block (userIdSize sizeofUserId (srcLength src)) = some block)
    : ∃ user,
        appendNameMemory protocol allocs { bytes := mem } src convert = some (.ok user)
        ∧ user.uid = block + sizeofUserId
        ∧ (∀ addr ∈ user.mem.writes,
            (user.uid ≤ addr ∧ addr < user.uid + areaSize src.text.length)
            ∨ addr ∈ mailboxBytes (mailboxBlock allocs (storedText convert src.text)))
        ∧ user.Complete (areaSize src.text.length) (storedText convert src.text)
            (userIdParts protocol (storedText convert src.text))
            (mailboxBlock allocs (storedText convert src.text)) := by
  have size : userIdSize sizeofUserId (srcLength src) = sizeofUserId + areaSize src.text.length :=
    ((rightSize_iff (by decide)).mpr short).1
  have blockApart := fresh.block _ _ given
  rw [size] at blockApart
  have le := storedText_length_le convert src.text
  have enough : src.text.length < areaSize src.text.length := by
    unfold areaSize
    omega
  obtain ⟨places, filled, holds, within, parts, separate⟩ :=
    fillUserId_spec allocs { bytes := mem } protocol short enough whole (apart_area blockApart)
  have separateName
      : (userIdParts protocol (storedText convert src.text)).1 ≠ []
        → Separate (block + sizeofUserId) (storedText convert src.text)
            (userIdParts protocol (storedText convert src.text)) places := by
    intro named
    refine separate fun cms => named ?_
    unfold userIdParts parseX509UserId
    rw [if_pos cms]
    split <;> rfl
  have mailboxApart (addr : Nat) (text : Str)
      (found : mailboxBlock allocs (storedText convert src.text) = some (addr, text))
      : Apart addr (text.length + 1) (block + sizeofUserId) (areaSize src.text.length) := by
    obtain ⟨_, _, same⟩ := Option.bind_eq_some_iff.mp found
    obtain ⟨_, given', pair⟩ := Option.map_eq_some_iff.mp same
    cases pair
    have apart := fresh.mailbox _ _ _ _ given given'
    rw [size] at apart
    unfold Apart at apart ⊢
    omega
  obtain ⟨user, ran, stays, uid, complete⟩ :=
    AppendedName.setAddress_spec allocs ⟨places.mem, block + sizeofUserId, places.place, none⟩ rfl
      le_rfl holds (storedText_plain convert src.plain) (Nat.lt_of_le_of_lt le enough) parts
      separateName mailboxApart
  refine ⟨user, ?_, uid, ?_, complete⟩
  · unfold appendNameMemory
    rw [given]
    simp only [filled, Option.bind_eq_bind, Option.bind_some, ran, Option.map_some]
  · rw [uid]
    exact (((within.mono subset_rfl Set.subset_union_left).trans stays).all rfl rfl).2

/-- `_gpgme_key_add_sig` on a name of less than 1 GiB. -/
theorem addSigMemory_spec (fresh : allocs.Fresh src) (short : src.text.length < 2 ^ 30)
    (whole : ¬EndsInBackslash src.text)
    (given : allocs.block (userIdSize sizeofKeySig (srcLength src)) = some block)
    : ∃ places,
        addSigMemory protocol allocs { bytes := mem } src = some (some places)
        ∧ (∀ addr ∈ places.mem.writes,
            block + sizeofKeySig ≤ addr
            ∧ addr < block + sizeofKeySig + areaSize src.text.length)
        ∧ ∀ field,
            PartAt places.mem.bytes (block + sizeofKeySig)
              (block + sizeofKeySig + areaSize src.text.length) (some (places.place field))
              (some (partOf (userIdParts protocol (unescapedText src.text)) field)) := by
  have size : userIdSize sizeofKeySig (srcLength src) = sizeofKeySig + areaSize src.text.length :=
    ((rightSize_iff (by decide)).mpr short).1
  have blockApart := fresh.block _ _ given
  rw [size] at blockApart
  have enough : src.text.length < areaSize src.text.length := by
    unfold areaSize
    omega
  obtain ⟨places, filled, holds, within, parts, -⟩ :=
    fillUserId_spec allocs { bytes := mem } protocol short enough (fun (_ : true = true) => whole)
      (apart_area blockApart)
  refine ⟨places, ?_, (within.all rfl rfl).2, parts⟩
  unfold addSigMemory
  rw [given]
  simp only [filled, Option.map_some]

end Blocks

-----------------------------------------------------------------------------------------
-- The decoder and the buffers that are made for it
-----------------------------------------------------------------------------------------

/-- `_gpgme_decode_c_string` on a string, with a buffer of the caller or a new one. -/
def DecodeStaysInside {mem : ByteMemory} (src : CStringAt mem) : Prop :=
  ∀ malloc destp len d,
    decodeCStringStart malloc { bytes := mem } src destp len = .ok d
    → Suits src d.dest
    → d.StaysInside src.text

/-- `_gpgme_key_append_name`, with the name decoded or not, keeps to the block that it requests and
to that of the address.
-/
def AppendNameFits (protocol : Protocol) {mem : ByteMemory} (src : CStringAt mem) (convert : Bool)
    : Prop :=
  ∀ allocs : UserIdAllocs, allocs.Fresh src →
    ∀ block, allocs.block (userIdSize sizeofUserId (srcLength src)) = some block →
      ∃ user,
        appendNameMemory protocol allocs { bytes := mem } src convert = some (.ok user)
        ∧ ∀ addr ∈ user.mem.writes,
            (block + sizeofUserId ≤ addr
              ∧ addr < block + sizeofUserId + areaSize src.text.length)
            ∨ addr ∈ mailboxBytes (mailboxBlock allocs (storedText convert src.text))

/-- `_gpgme_key_add_sig` keeps to the block that it requests. -/
def AddSigFits (protocol : Protocol) {mem : ByteMemory} (src : CStringAt mem) : Prop :=
  ∀ allocs : UserIdAllocs, allocs.Fresh src →
    ∀ block, allocs.block (userIdSize sizeofKeySig (srcLength src)) = some block →
      ∃ places,
        addSigMemory protocol allocs { bytes := mem } src = some (some places)
        ∧ ∀ addr ∈ places.mem.writes,
            block + sizeofKeySig ≤ addr
            ∧ addr < block + sizeofKeySig + areaSize src.text.length

/-- Both functions request the block that a name needs. -/
def SizedFromLength (length : Nat) : Prop :=
  RightSize sizeofUserId length ∧ RightSize sizeofKeySig length

/-- Both sizes are right for strings of less than 1 GiB. -/
theorem sizedFromLength_iff (length : Nat) : SizedFromLength length ↔ length < 2 ^ 30 := by
  unfold SizedFromLength
  rw [rightSize_iff (by decide), rightSize_iff (by decide), and_self]

/-- Decoding a string stays inside of it, and the buffers that key listings make for the result and
its parts have the size of it and are never exceeded, exactly where the string does not end in a
lone backslash and its length can be doubled within an `int`.
-/
theorem decodeCString_fits_iff (protocol : Protocol) {mem : ByteMemory} (src : CStringAt mem)
    : (DecodeStaysInside src
        ∧ SizedFromLength src.text.length
        ∧ (∀ convert, AppendNameFits protocol src convert)
        ∧ AddSigFits protocol src)
      ↔ ¬EndsInBackslash src.text ∧ src.text.length < 2 ^ 30 := by
  constructor
  · rintro ⟨inside, sized, -⟩
    refine ⟨?_, (sizedFromLength_iff _).mp sized⟩
    have suits : Suits src (src.addr + (src.text.length + 1)) := Or.inr (Or.inr le_rfl)
    refine (CDecoder.staysInside_iff src suits).mp (inside (fun _ => none)
      (src.addr + (src.text.length + 1)) (src.text.length + 1) _ ?_ suits)
    simp [decodeCStringStart, percentBuffer]
  · rintro ⟨whole, short⟩
    refine ⟨?_, (sizedFromLength_iff _).mpr short, ?_, ?_⟩
    · intro malloc destp len d started suits
      unfold decodeCStringStart at started
      split at started
      · cases started
      · cases started
        exact (CDecoder.staysInside_iff src suits).mpr whole
    · intro convert allocs fresh block given
      obtain ⟨user, ran, uid, stays, -⟩ :=
        appendNameMemory_spec protocol fresh short (fun _ => whole) given
      exact ⟨user, ran, uid ▸ stays⟩
    · intro allocs fresh block given
      obtain ⟨places, ran, stays, -⟩ := addSigMemory_spec protocol fresh short whole given
      exact ⟨places, ran, stays⟩

/-- A memory that holds an `a` and a backslash at address 0. -/
def backslashMemory : ByteMemory := fun addr => if addr = 0 then 97 else if addr = 1 then 92 else 0

def backslashString : CStringAt backslashMemory where
  addr := 0
  text := [97, 92]
  holds := ⟨rfl, rfl, rfl, trivial⟩
  plain := by simp

/-- The byte behind the terminator is read. -/
theorem lone_backslash_leaves_string : ¬DecodeStaysInside backslashString := by
  intro inside
  have suits : Suits backslashString 8 := Or.inr (Or.inr (by decide))
  have bound := (inside (fun _ => none) 8 3 _ rfl suits).reads 3 3 (by decide)
  exact absurd bound.2 (by decide)

end Gpgme
