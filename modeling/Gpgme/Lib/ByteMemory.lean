import Mathlib.Tactic

/-! A memory of bytes: byte strings at addresses, the effect of writing one, and the strings of C
in it, which end with a zero.
-/

/-- Every address holds a byte. -/
abbrev ByteMemory := Nat → UInt8

namespace ByteMemory

variable {mem mid mem' : ByteMemory}

-----------------------------------------------------------------------------------------
-- Byte strings
-----------------------------------------------------------------------------------------

/-- `*addr = byte;` -/
def store (mem : ByteMemory) (addr : Nat) (byte : UInt8) : ByteMemory :=
  fun other => if other = addr then byte else mem other

/-- The bytes stand one behind the other from an address on. -/
def Holds (mem : ByteMemory) : Nat → List UInt8 → Prop
  | _, [] => True
  | addr, byte :: rest => mem addr = byte ∧ mem.Holds (addr + 1) rest

/-- Two blocks of given sizes have no address in common. -/
def Apart (addr size other otherSize : Nat) : Prop := addr + size ≤ other ∨ other + otherSize ≤ addr

/-- Bytes that are not changed stay where they are, by induction on them. -/
theorem Holds.congr {addr : Nat} {bytes : List UInt8} (holds : mem.Holds addr bytes)
    (same : ∀ other, addr ≤ other → other < addr + bytes.length → mem' other = mem other)
    : mem'.Holds addr bytes := by
  induction bytes generalizing addr with
  | nil => trivial
  | cons byte rest ih =>
      obtain ⟨here, later⟩ := holds
      rw [List.length_cons] at same
      refine ⟨(same addr le_rfl (by omega)).trans here, ih later ?_⟩
      intro other above below
      exact same other (by omega) (by omega)

/-- A string consists of a first part and of what stands behind it, by induction on the former. -/
theorem holds_append {addr : Nat} {first second : List UInt8}
    : mem.Holds addr (first ++ second)
      ↔ mem.Holds addr first ∧ mem.Holds (addr + first.length) second := by
  induction first generalizing addr with
  | nil => simp [Holds]
  | cons byte rest ih =>
      simp only [List.cons_append, Holds, ih, List.length_cons, and_assoc]
      rw [Nat.add_right_comm, Nat.add_assoc]

-----------------------------------------------------------------------------------------
-- Writing
-----------------------------------------------------------------------------------------

/-- One memory comes from the other by writing the bytes to an address, and nothing else changes. -/
structure Writes (mem mem' : ByteMemory) (dest : Nat) (bytes : List UInt8) : Prop where
  holds : mem'.Holds dest bytes
  frame : ∀ addr, addr < dest ∨ dest + bytes.length ≤ addr → mem' addr = mem addr

/-- Nothing is written. -/
theorem writes_nil (mem : ByteMemory) (dest : Nat) : mem.Writes mem dest [] :=
  ⟨trivial, fun _ _ => rfl⟩

/-- One byte is written. -/
theorem writes_store (mem : ByteMemory) (dest : Nat) (byte : UInt8)
    : mem.Writes (mem.store dest byte) dest [byte] := by
  refine ⟨⟨if_pos rfl, trivial⟩, ?_⟩
  intro addr outside
  rw [List.length_singleton] at outside
  exact if_neg (by omega)

/-- What is written behind the first bytes leaves these alone. The bytes behind them that were
written at first are overwritten.
-/
theorem Writes.overwrite {dest : Nat} {first extra second : List UInt8}
    (one : mem.Writes mid dest (first ++ extra))
    (two : mid.Writes mem' (dest + first.length) second) (longer : extra.length ≤ second.length)
    : mem.Writes mem' dest (first ++ second) := by
  constructor
  · refine holds_append.mpr ⟨(holds_append.mp one.holds).1.congr ?_, two.holds⟩
    intro other _ below
    exact two.frame other (Or.inl below)
  · intro addr outside
    have frame := one.frame addr
    rw [List.length_append] at outside frame
    rw [two.frame addr (by omega), frame (by omega)]

/-- Two pieces are written one behind the other. -/
theorem Writes.append {dest : Nat} {first second : List UInt8}
    (one : mem.Writes mid dest first) (two : mid.Writes mem' (dest + first.length) second)
    : mem.Writes mem' dest (first ++ second) :=
  Writes.overwrite (show mem.Writes mid dest (first ++ []) by rwa [List.append_nil]) two
    (Nat.zero_le _)

/-- One more byte is written behind the others. -/
theorem Writes.store {dest : Nat} {bytes : List UInt8} (writes : mem.Writes mid dest bytes)
    (byte : UInt8)
    : mem.Writes (mid.store (dest + bytes.length) byte) dest (bytes ++ [byte]) :=
  writes.append (writes_store mid _ byte)

/-- A string outside of the block that is written stays. -/
theorem Writes.keeps {dest addr : Nat} {bytes kept : List UInt8} (writes : mem.Writes mem' dest bytes)
    (apart : Apart dest bytes.length addr kept.length) (holds : mem.Holds addr kept)
    : mem'.Holds addr kept := by
  refine holds.congr fun other above below => writes.frame other ?_
  unfold Apart at apart
  omega

/-- A string that is read from `src` on while its bytes are consumed, and fewer bytes are written
from `dest` on: what has not been read yet stays, whether the two blocks are apart or the place
that is written to is not ahead of the one that is read.
-/
theorem Writes.moves {src dest : Nat} {consumed rest written : List UInt8}
    (writes : mem.Writes mem' dest written) (holds : mem.Holds src (consumed ++ rest))
    (fewer : written.length ≤ consumed.length)
    (clear : dest ≤ src ∨ src + (consumed ++ rest).length ≤ dest)
    : mem'.Holds (src + consumed.length) rest
      ∧ (dest + written.length ≤ src + consumed.length
        ∨ src + consumed.length + rest.length ≤ dest + written.length) := by
  rw [List.length_append] at clear
  refine ⟨writes.keeps ?_ (holds_append.mp holds).2, by omega⟩
  unfold Apart
  omega

-----------------------------------------------------------------------------------------
-- C strings
-----------------------------------------------------------------------------------------

/-- A string that ends with the first zero. -/
structure CStringAt (mem : ByteMemory) where
  addr : Nat
  text : List UInt8
  holds : mem.Holds addr (text ++ [0])
  plain : ∀ c ∈ text, c ≠ 0

/-- The string that has been written with its terminator. -/
def Writes.string {dest : Nat} {text : List UInt8} (writes : mem.Writes mem' dest (text ++ [0]))
    (plain : ∀ c ∈ text, c ≠ 0)
    : CStringAt mem' where
  addr := dest
  text := text
  holds := writes.holds
  plain := plain

end ByteMemory
