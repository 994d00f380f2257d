import Gpgme.Lib.ByteMemory

/-! A memory of bytes together with the addresses that a program has read and written, so that
the bounds of its accesses can be stated also where an access changes nothing.
-/

/-- A memory with its past accesses. -/
structure TracedMemory where
  bytes : ByteMemory
  reads : List Nat := []
  writes : List Nat := []

namespace TracedMemory

variable {m mid m' : TracedMemory}

-----------------------------------------------------------------------------------------
-- Accesses
-----------------------------------------------------------------------------------------

/-- The byte at an address is read; its value is `m.bytes addr`. -/
def look (m : TracedMemory) (addr : Nat) : TracedMemory := { m with reads := m.reads ++ [addr] }

/-- `*addr = byte;` -/
def store (m : TracedMemory) (addr : Nat) (byte : UInt8) : TracedMemory :=
  { m with bytes := m.bytes.store addr byte, writes := m.writes ++ [addr] }

/-- `*dest = *src;` -/
def copy (m : TracedMemory) (src dest : Nat) : TracedMemory :=
  (m.look src).store dest (m.bytes src)

@[simp]
theorem look_bytes (addr : Nat) : (m.look addr).bytes = m.bytes := rfl

@[simp]
theorem look_reads (addr : Nat) : (m.look addr).reads = m.reads ++ [addr] := rfl

@[simp]
theorem look_writes (addr : Nat) : (m.look addr).writes = m.writes := rfl

@[simp]
theorem store_bytes (addr : Nat) (byte : UInt8)
    : (m.store addr byte).bytes = m.bytes.store addr byte := rfl

@[simp]
theorem store_reads (addr : Nat) (byte : UInt8) : (m.store addr byte).reads = m.reads := rfl

@[simp]
theorem store_writes (addr : Nat) (byte : UInt8)
    : (m.store addr byte).writes = m.writes ++ [addr] := rfl

@[simp]
theorem copy_bytes (src dest : Nat)
    : (m.copy src dest).bytes = m.bytes.store dest (m.bytes src) := rfl

@[simp]
theorem copy_reads (src dest : Nat) : (m.copy src dest).reads = m.reads ++ [src] := rfl

@[simp]
theorem copy_writes (src dest : Nat) : (m.copy src dest).writes = m.writes ++ [dest] := rfl

-----------------------------------------------------------------------------------------
-- Bounds
-----------------------------------------------------------------------------------------

/-- What is new in the second memory was read in one set of addresses and written in another. -/
structure Within (m m' : TracedMemory) (reads writes : Set Nat) : Prop where
  reads : ∀ addr ∈ m'.reads, addr ∈ m.reads ∨ addr ∈ reads
  writes : ∀ addr ∈ m'.writes, addr ∈ m.writes ∨ addr ∈ writes

variable {reads reads' writes writes' : Set Nat}

theorem Within.refl (m : TracedMemory) (reads writes : Set Nat) : m.Within m reads writes :=
  ⟨fun _ => Or.inl, fun _ => Or.inl⟩

theorem Within.trans (first : m.Within mid reads writes) (second : mid.Within m' reads writes)
    : m.Within m' reads writes := by
  constructor
  · intro addr member
    exact (second.reads addr member).elim (first.reads addr) Or.inr
  · intro addr member
    exact (second.writes addr member).elim (first.writes addr) Or.inr

theorem Within.mono (within : m.Within m' reads writes) (moreReads : reads ⊆ reads')
    (moreWrites : writes ⊆ writes')
    : m.Within m' reads' writes' :=
  ⟨fun addr member => (within.reads addr member).imp_right (@moreReads addr),
    fun addr member => (within.writes addr member).imp_right (@moreWrites addr)⟩

theorem Within.look (within : m.Within m' Set.univ writes) {addr : Nat}
    : m.Within (m'.look addr) Set.univ writes :=
  ⟨fun _ _ => Or.inr trivial, within.writes⟩

theorem Within.all (within : m.Within m' reads writes) (noReads : m.reads = [])
    (noWrites : m.writes = [])
    : (∀ addr ∈ m'.reads, addr ∈ reads) ∧ ∀ addr ∈ m'.writes, addr ∈ writes := by
  constructor
  · intro addr member
    refine (within.reads addr member).resolve_left ?_
    simp [noReads]
  · intro addr member
    refine (within.writes addr member).resolve_left ?_
    simp [noWrites]

-----------------------------------------------------------------------------------------
-- Loops
-----------------------------------------------------------------------------------------

/-- A forward copy of a number of bytes. -/
def copyBytes (m : TracedMemory) (src dest : Nat) : Nat → TracedMemory
  | 0 => m
  | len + 1 => (m.copy src dest).copyBytes (src + 1) (dest + 1) len

/-- A string is written with its terminator. -/
def storeString (m : TracedMemory) (dest : Nat) : List UInt8 → TracedMemory
  | [] => m.store dest 0
  | c :: rest => (m.store dest c).storeString (dest + 1) rest

/-- `strlen`, which looks at a bounded number of characters. -/
def strlen (m : TracedMemory) (addr : Nat) : Nat → Option (TracedMemory × Nat)
  | 0 => none
  | rounds + 1 =>
      if m.bytes addr = 0 then some (m.look addr, 0)
      else ((m.look addr).strlen (addr + 1) rounds).map (fun (m, len) => (m, len + 1))

/-- The bytes at an address, as a comparison of strings sees them. -/
def text (m : TracedMemory) (addr len : Nat) : List UInt8 :=
  (List.range len).map (fun i => m.bytes (addr + i))

theorem copyBytes_writes {src dest : Nat} {bytes : List UInt8} (holds : m.bytes.Holds src bytes)
    (apart : ByteMemory.Apart src bytes.length dest bytes.length)
    : m.bytes.Writes (m.copyBytes src dest bytes.length).bytes dest bytes
      ∧ m.Within (m.copyBytes src dest bytes.length) Set.univ
          {addr | dest ≤ addr ∧ addr < dest + bytes.length} := by
  induction bytes generalizing m src dest with
  | nil => exact ⟨ByteMemory.writes_nil _ _, .refl _ _ _⟩
  | cons byte rest ih =>
      obtain ⟨here, later⟩ := holds
      rw [List.length_cons] at apart ⊢
      have first : m.bytes.Writes (m.copy src dest).bytes dest [byte] :=
        here ▸ ByteMemory.writes_store _ _ _
      have kept : (m.copy src dest).bytes.Holds (src + 1) rest := by
        refine first.keeps ?_ later
        unfold ByteMemory.Apart at apart ⊢
        rw [List.length_singleton]
        omega
      have apartRest : ByteMemory.Apart (src + 1) rest.length (dest + 1) rest.length := by
        unfold ByteMemory.Apart at apart ⊢
        omega
      obtain ⟨writes, within⟩ := ih kept apartRest
      refine ⟨first.append writes, Within.trans ⟨fun _ _ => Or.inr trivial, ?_⟩
        (within.mono subset_rfl ?_)⟩
      · intro addr member
        rcases List.mem_append.mp member with before | now
        · exact Or.inl before
        · rw [List.mem_singleton.mp now]
          exact Or.inr ⟨le_rfl, by omega⟩
      · rintro addr ⟨above, below⟩
        exact ⟨by omega, by omega⟩

theorem storeString_writes (m : TracedMemory) (dest : Nat) (text : List UInt8)
    : m.bytes.Writes (m.storeString dest text).bytes dest (text ++ [0])
      ∧ m.Within (m.storeString dest text) Set.univ
          {addr | dest ≤ addr ∧ addr < dest + (text.length + 1)} := by
  have stored (m : TracedMemory) (dest : Nat) (byte : UInt8) (size : Nat)
      : m.Within (m.store dest byte) Set.univ {addr | dest ≤ addr ∧ addr < dest + (size + 1)} := by
    refine ⟨fun _ _ => Or.inr trivial, ?_⟩
    intro addr member
    rcases List.mem_append.mp member with before | now
    · exact Or.inl before
    · rw [List.mem_singleton.mp now]
      exact Or.inr ⟨le_rfl, by omega⟩
  induction text generalizing m dest with
  | nil => exact ⟨ByteMemory.writes_store _ _ _, stored m dest 0 0⟩
  | cons c rest ih =>
      obtain ⟨writes, within⟩ := ih (m.store dest c) (dest + 1)
      refine ⟨(ByteMemory.writes_store m.bytes dest c).append writes,
        (stored m dest c _).trans (within.mono subset_rfl ?_)⟩
      rw [List.length_cons]
      rintro addr ⟨above, below⟩
      exact ⟨by omega, by omega⟩

theorem strlen_string {addr rounds : Nat} {text : List UInt8}
    (holds : m.bytes.Holds addr (text ++ [0])) (plain : ∀ c ∈ text, c ≠ 0)
    (enough : text.length < rounds)
    : ∃ m', m.strlen addr rounds = some (m', text.length) ∧ m'.bytes = m.bytes
        ∧ m'.writes = m.writes := by
  induction rounds generalizing m addr text with
  | zero => omega
  | succ rounds ih =>
      cases text with
      | nil => exact ⟨m.look addr, if_pos holds.1, rfl, rfl⟩
      | cons c rest =>
          rw [List.length_cons] at enough ⊢
          have here : m.bytes addr ≠ 0 := by
            rw [show m.bytes addr = c from holds.1]
            exact plain c List.mem_cons_self
          have later (c : UInt8) (member : c ∈ rest) : c ≠ 0 :=
            plain c (List.mem_cons_of_mem _ member)
          obtain ⟨m', found, bytes, writes⟩ :=
            ih (m := m.look addr) holds.2 later (Nat.lt_of_succ_lt_succ enough)
          refine ⟨m', ?_, bytes, writes⟩
          rw [strlen, if_neg here, found]
          rfl

theorem text_eq {addr : Nat} {bytes : List UInt8} (holds : m.bytes.Holds addr bytes)
    : m.text addr bytes.length = bytes := by
  induction bytes generalizing addr with
  | nil => rfl
  | cons byte rest ih =>
      obtain ⟨here, later⟩ := holds
      unfold text at ih ⊢
      rw [List.length_cons, List.range_succ_eq_map, List.map_cons, List.map_map, Nat.add_zero, here]
      have tail := ih later
      simp only [Nat.add_assoc, Nat.add_comm 1] at tail
      exact congrArg (byte :: ·) tail

end TracedMemory
