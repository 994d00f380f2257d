import Gpgme.Keylist.Tracking

/-! The key listing handler reads only fields that the line has, apart from two checks that are
off by one, and neither its assertions nor its pointers fail.
-/

namespace Gpgme

open CString

/-- Memory in which reading a slot that was not filled ends the run. -/
def poisoned (buffer : Nat → UInt8) : Uninitialized where
  slot := fun _ => none
  buffer := buffer

/-- The record has not exactly one field less than is read from it: the compliance flags are in
field 18 of a key or subkey, and the data of a subpacket is in field 5.
-/
def FieldsSuffice (history : List Str) (line : Str) : Prop :=
  ((recordAt history line).startsKey ∨ recordAt history line = .sub
      ∨ recordAt history line = .ssb
    → (lineFields line).length ≠ 17)
  ∧ (recordAt history line = .spk → followsSig pointerRule history
    → (lineFields line).length ≠ 4)

/-- With the poisoned buffer exactly the lines with enough fields are covered. -/
theorem covered_poisoned_iff (buffer : Nat → UInt8) (history : List Str) (line : Str)
    : Covered (poisoned buffer) history line ↔ FieldsSuffice history line := by
  have compliance : CoversCompliance (Fields.ofLine (poisoned buffer) line)
      ↔ (lineFields line).length ≠ 17 := by
    simp [CoversCompliance, poisoned, Fields.count, Fields.ofLine]
  have subpacket : CoversSubpacket (Fields.ofLine (poisoned buffer) line)
      ↔ (lineFields line).length ≠ 4 := by
    simp [CoversSubpacket, poisoned, Fields.count, Fields.ofLine]
  constructor
  · intro covered
    exact ⟨fun type => compliance.mp (covered.compliance type),
      fun type signed => subpacket.mp (covered.subpacket type signed)⟩
  · rintro ⟨keys, spks⟩
    exact ⟨fun type => compliance.mpr (keys type),
      fun type signed => subpacket.mpr (spks type signed)⟩

/-- The call at the end of file cannot fail. -/
theorem keylistRun_eof (ctx : KeylistCtx) (memory : Uninitialized) (lines : List Str)
    : keylistRun ctx memory {} (lines.map some ++ [none])
      = (keylistRun ctx memory {} (lines.map some)).map KeylistData.finishKey := by
  rw [keylistRun_append]
  cases keylistRun ctx memory {} (lines.map some) <;> rfl

/-- No assertion fails and no pointer is null on any listing, whatever the slots hold that were
not filled; and none of these is read exactly when the records have the fields that are read
from them.
-/
theorem keylist_reads_parsed_iff (ctx : KeylistCtx) (lines : List Str)
    : (∀ memory : Uninitialized, (∀ index, (memory.slot index).isSome)
        → (keylistRun ctx memory {} (lines.map some ++ [none])).isSome)
      ∧ ∀ buffer,
          (keylistRun ctx (poisoned buffer) {} (lines.map some ++ [none])).isSome
          ↔ ∀ history line, HasRecord lines history line → FieldsSuffice history line := by
  constructor
  · intro memory readable
    rw [keylistRun_eof, Option.isSome_map, keylistRun_isSome_iff]
    intro history line _
    exact ⟨fun _ _ => readable 17, fun _ _ _ => readable 4⟩
  · intro buffer
    rw [keylistRun_eof, Option.isSome_map, keylistRun_isSome_iff]
    simp only [covered_poisoned_iff]

/-- A key record with 17 fields, of which the last one names the curve. -/
theorem keylist_reads_missing_compliance
    : (keylistRun {} (poisoned fun _ => 0) {}
        [some (str "pub:u:256:22:68697734D3E2C6F5:1446684800:::u:::scESC:::::ed25519"),
          none]).isSome = false := by
  decide

end Gpgme
