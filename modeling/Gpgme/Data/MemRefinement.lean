import Gpgme.Data.Mem
import Gpgme.Lib.Machine

/-! A memory data object refines a seekable array of bytes.
Borrowed and owned storage have the same view, so a caller cannot tell them apart.
-/

namespace Gpgme.Data

-----------------------------------------------------------------------------------------
-- Well-formed objects and their view
-----------------------------------------------------------------------------------------

/-- The position lies in the data, the data in the storage, and the storage is the block
of the recorded size.
-/
structure Mem.WellFormed (mem : Mem) : Prop where
  offsetNonneg : 0 ≤ mem.offset
  offsetLe : mem.offset ≤ mem.length
  lengthLe : mem.length ≤ mem.size
  sizeLt : mem.size < 2 ^ 63
  stored : (mem.source.getD []).length = mem.size

/-- The bytes that the object holds. -/
def Mem.contents (mem : Mem) : List UInt8 := (mem.source.getD []).take mem.length

/-- The contents are as long as the object says. -/
theorem Mem.WellFormed.length_contents {mem : Mem} (wf : mem.WellFormed)
    : mem.contents.length = mem.length := by
  simp only [contents, List.length_take, wf.stored]
  exact Nat.min_eq_left wf.lengthLe

/-- The abstract array that a well-formed object stands for. -/
def Mem.view (mem : Mem) (wf : mem.WellFormed) : SeekableArray UInt8 where
  contents := mem.contents
  pos := mem.offset.toNat
  bounded := by
    have := wf.offsetLe
    rw [wf.length_contents]
    omega

/-- `mem` is well formed and stands for `array`. -/
def Mem.Refines (mem : Mem) (array : SeekableArray UInt8) : Prop :=
  ∃ wf : mem.WellFormed, mem.view wf = array

/-- An object refines the array of its contents and its offset. -/
theorem Mem.refines_iff {mem : Mem} {array : SeekableArray UInt8}
    : mem.Refines array
      ↔ mem.WellFormed ∧ mem.contents = array.contents ∧ mem.offset = array.pos := by
  constructor
  · rintro ⟨wf, rfl⟩
    exact ⟨wf, rfl, (Int.toNat_of_nonneg wf.offsetNonneg).symm⟩
  · rintro ⟨wf, contents, offset⟩
    exact ⟨wf, SeekableArray.ext contents (by simp [Mem.view, offset])⟩

/-- Moving the position inside the data keeps the object well formed. -/
theorem Mem.WellFormed.move {mem : Mem} (wf : mem.WellFormed) {offset : Int}
    (low : 0 ≤ offset) (high : offset ≤ mem.length)
    : ({ mem with offset } : Mem).WellFormed :=
  ⟨low, high, wf.lengthLe, wf.sizeLt, wf.stored⟩

-----------------------------------------------------------------------------------------
-- Reading and seeking
-----------------------------------------------------------------------------------------

/-- Reading returns the next bytes and moves over them; it never leaves the storage. -/
theorem memRead_refines {mem : Mem} {array : SeekableArray UInt8}
    (refines : mem.Refines array) (size : Nat)
    : ∃ next,
        memRead mem size
          = some (((array.next size).length : Int), array.next size, next)
        ∧ next.Refines (array.read size)
        ∧ next.origBuffer = mem.origBuffer := by
  obtain ⟨wf, contents, offset⟩ := Mem.refines_iff.mp refines
  have ⟨_, offsetLe, lengthLe, sizeLt, stored⟩ := wf
  have length : array.contents.length = mem.length := by
    rw [← contents, wf.length_contents]
  have amt : CInt.toSize (mem.length - mem.offset) = mem.length - array.pos := by
    rw [offset, CInt.toSize_of_range (by omega) (by omega)]
    omega
  have count : (array.next size).length = min size (mem.length - array.pos) := by
    rw [array.length_next, length]
  by_cases atEnd : mem.length - array.pos = 0
  · refine ⟨mem, ?_, ?_, rfl⟩
    · have empty : array.next size = [] := List.eq_nil_of_length_eq_zero (by omega)
      simp [memRead, amt, atEnd, empty]
    · refine Mem.refines_iff.mpr ⟨wf, contents, ?_⟩
      simp only [SeekableArray.read, length]
      omega
  · have pick : (if size < mem.length - array.pos then size else mem.length - array.pos)
        = min size (mem.length - array.pos) := by
      split <;> omega
    cases found : mem.source with
    | none =>
        rw [found] at stored
        simp only [Option.getD_none, List.length_nil] at stored
        omega
    | some src =>
        rw [found] at stored
        simp only [Option.getD_some] at stored
        have inside : 0 ≤ mem.offset
            ∧ mem.offset + (min size (mem.length - array.pos) : Nat) ≤ src.length := by
          omega
        have bytes : (src.drop mem.offset.toNat).take (min size (mem.length - array.pos))
            = array.next size := by
          simp only [SeekableArray.next, ← contents, Mem.contents, found, Option.getD_some,
            offset, Int.toNat_natCast, List.drop_take, List.take_take]
        let moved := mem.offset + (min size (mem.length - array.pos) : Nat)
        have kept : CInt.toOff moved = moved := CInt.toOff_of_range (by omega) (by omega)
        refine ⟨{ mem with offset := moved }, ?_, ?_, rfl⟩
        · simp only [memRead, amt, atEnd, if_false, found, Option.bind_some, pick, bytes,
            if_pos inside, count]
          rw [CInt.toOff_of_range (by omega) (by omega), ← kept]
        · refine Mem.refines_iff.mpr ⟨wf.move (by omega) (by omega), contents, ?_⟩
          simp only [SeekableArray.read, length]
          omega

/-- The position that a seek asks for, when `whence` is one of the three bases. -/
def seekTarget (array : SeekableArray UInt8) (offset whence : Int) : Option Int :=
  if whence = seekSet then some offset
  else if whence = seekCur then some (array.pos + offset)
  else if whence = seekEnd then some (array.contents.length + offset)
  else none

/-- The answer of the abstract seek: the new position, or -1 for a refused one. -/
def seekAnswer (array : SeekableArray UInt8) (offset whence : Int) : Int :=
  match (seekTarget array offset whence).bind array.seek with
  | some moved => moved.pos
  | none => -1

def seekArray (array : SeekableArray UInt8) (offset whence : Int) : SeekableArray UInt8 :=
  ((seekTarget array offset whence).bind array.seek).getD array

/-- A seek to a known target answers and moves as the range of the target says. -/
theorem seek_of_target {mem : Mem} {array : SeekableArray UInt8}
    (refines : mem.Refines array) {offset whence target : Int}
    (asked : seekTarget array offset whence = some target)
    (decided
      : memSeek mem offset whence
        = if 0 ≤ target ∧ target ≤ mem.length then (target, { mem with offset := target })
          else (-1, mem))
    : ∃ next,
        memSeek mem offset whence = (seekAnswer array offset whence, next)
        ∧ next.Refines (seekArray array offset whence)
        ∧ next.origBuffer = mem.origBuffer := by
  obtain ⟨wf, contents, _⟩ := Mem.refines_iff.mp refines
  have length : array.contents.length = mem.length := by
    rw [← contents, wf.length_contents]
  by_cases inside : 0 ≤ target ∧ target ≤ mem.length
  · refine ⟨{ mem with offset := target }, ?_, ?_, rfl⟩
    · simp only [decided, if_pos inside, seekAnswer, asked, Option.bind_some,
        SeekableArray.seek, length, dif_pos inside, Int.toNat_of_nonneg inside.1]
    · have moved : seekArray array offset whence
          = ⟨array.contents, target.toNat, by omega⟩ := by
        simp [seekArray, asked, SeekableArray.seek, length, inside]
      rw [moved]
      exact Mem.refines_iff.mpr
        ⟨wf.move inside.1 inside.2, contents, (Int.toNat_of_nonneg inside.1).symm⟩
  · refine ⟨mem, ?_, ?_, rfl⟩
    · simp only [decided, if_neg inside, seekAnswer, asked, Option.bind_some,
        SeekableArray.seek, length, dif_neg inside]
    · simpa [seekArray, asked, SeekableArray.seek, length, inside] using refines

/-- Seeking succeeds exactly for targets in the array and leaves the object alone
otherwise. Witness: each mixed comparison decides the range of its target.
-/
theorem memSeek_refines {mem : Mem} {array : SeekableArray UInt8}
    (refines : mem.Refines array) {offset : Int} (whence : Int) (low : -2 ^ 63 < offset)
    (high : offset < 2 ^ 63)
    : ∃ next,
        memSeek mem offset whence = (seekAnswer array offset whence, next)
        ∧ next.Refines (seekArray array offset whence)
        ∧ next.origBuffer = mem.origBuffer := by
  obtain ⟨wf, contents, offsetEq⟩ := Mem.refines_iff.mp refines
  have ⟨nonneg, offsetLe, lengthLe, sizeLt, _⟩ := wf
  have length : array.contents.length = mem.length := by
    rw [← contents, wf.length_contents]
  by_cases set : whence = seekSet
  · have asked : seekTarget array offset whence = some offset := by simp [seekTarget, set]
    refine seek_of_target refines asked ?_
    simp only [memSeek, if_pos set]
    by_cases negative : offset < 0
    · rw [if_pos (Or.inl negative), if_neg (by omega)]
    · rw [CInt.toSize_of_range (by omega) (by omega)]
      split <;> split <;> first | rfl | omega
  by_cases cur : whence = seekCur
  · have asked : seekTarget array offset whence = some (mem.offset + offset) := by
      simp [seekTarget, cur, seekSet, seekCur, offsetEq]
    refine seek_of_target refines asked ?_
    simp only [memSeek, if_neg set, if_pos cur]
    have left : CInt.toSize (mem.length - mem.offset) = (mem.length - mem.offset).toNat :=
      CInt.toSize_of_range (by omega) (by omega)
    have back : CInt.toOff (-offset) = -offset := CInt.toOff_of_range (by omega) (by omega)
    by_cases refused : (0 < offset ∧ mem.length < mem.offset + offset)
        ∨ (offset < 0 ∧ mem.offset + offset < 0)
    · rw [if_pos, if_neg (by omega)]
      rcases refused with ⟨positive, beyond⟩ | ⟨negative, before⟩
      · left
        rw [left, CInt.toSize_of_range (by omega) (by omega)]
        omega
      · right
        omega
    · rw [if_neg, if_pos (by omega), CInt.toOff_of_range (by omega) (by omega)]
      rintro (⟨positive, beyond⟩ | ⟨negative, before⟩)
      · rw [left, CInt.toSize_of_range (by omega) (by omega)] at beyond
        omega
      · omega
  by_cases atEnd : whence = seekEnd
  · have asked : seekTarget array offset whence = some (mem.length + offset) := by
      simp [seekTarget, atEnd, seekSet, seekCur, seekEnd, length]
    refine seek_of_target refines asked ?_
    simp only [memSeek, if_neg set, if_neg cur, if_pos atEnd]
    have back : CInt.toOff (-offset) = -offset := CInt.toOff_of_range (by omega) (by omega)
    rw [back]
    by_cases positive : 0 < offset
    · rw [if_pos (Or.inl positive), if_neg (by omega)]
    · rw [CInt.toSize_of_range (by omega) (by omega)]
      by_cases before : mem.length + offset < 0
      · rw [if_pos (by omega), if_neg (by omega)]
      · rw [if_neg (by omega), if_pos (by omega), CInt.toOff_of_range (by omega) (by omega)]
  · refine ⟨mem, ?_, ?_, rfl⟩
    · simp [memSeek, seekAnswer, seekTarget, set, cur, atEnd]
    · simpa [seekArray, seekTarget, set, cur, atEnd] using refines

-----------------------------------------------------------------------------------------
-- Writing
-----------------------------------------------------------------------------------------

/-- A block has the size that was asked for. -/
theorem Alloc.malloc_length {alloc : Alloc} {size : Nat} {block : List UInt8}
    (granted : alloc.malloc size = some block)
    : block.length = size ∧ size < 2 ^ 63 := by
  obtain ⟨junk, found, rfl⟩ := Option.map_eq_some_iff.mp granted
  refine ⟨by simp, ?_⟩
  by_contra large
  simp [alloc.bounded size (by omega)] at found

/-- Enlarging a block keeps all of its bytes. -/
theorem Alloc.realloc_keeps {alloc : Alloc} {size : Nat} {old : Option (List UInt8)}
    {block : List UInt8} (granted : alloc.realloc old size = some block)
    (enlarged : (old.getD []).length ≤ size)
    : block.length = size ∧ size < 2 ^ 63
      ∧ block.take (old.getD []).length = old.getD [] := by
  obtain ⟨fresh, found, rfl⟩ := Option.map_eq_some_iff.mp granted
  obtain ⟨length, bound⟩ := malloc_length found
  rw [List.take_of_length_le enlarged]
  refine ⟨?_, bound, by simp⟩
  simp only [List.length_append, List.length_drop, length]
  omega

/-- The storage was copied or enlarged: the object still stands for the same array, keeps
the caller's buffer, and reads from its own block.
-/
structure Mem.Owns (mem : Mem) (array : SeekableArray UInt8) (next : Mem) : Prop where
  refines : next.Refines array
  origBuffer : next.origBuffer = mem.origBuffer
  source : next.source = next.buffer

/-- Replacing the storage by an own block with the same leading bytes. -/
theorem Mem.Refines.replaceBuffer {mem : Mem} {array : SeekableArray UInt8}
    (refines : mem.Refines array) {block : List UInt8} {size : Nat}
    (length : block.length = size) (bound : size < 2 ^ 63) (fits : mem.length ≤ size)
    (kept : block.take mem.length = mem.contents)
    : mem.Owns array { mem with buffer := some block, size } := by
  obtain ⟨wf, contents, offset⟩ := Mem.refines_iff.mp refines
  refine ⟨Mem.refines_iff.mpr ⟨⟨wf.offsetNonneg, wf.offsetLe, fits, bound, ?_⟩, ?_, offset⟩,
    rfl, rfl⟩
  · simpa [Mem.source] using length
  · simpa [Mem.contents, Mem.source, kept] using contents

/-- The delayed copy does not leave the borrowed buffer and preserves the array. -/
theorem copyOrigBuffer_owns (alloc : Alloc) {mem : Mem} {array : SeekableArray UInt8}
    (refines : mem.Refines array) {size : Nat} (small : size < 2 ^ 63)
    : copyOrigBuffer alloc mem size = some none
      ∨ ∃ next,
          copyOrigBuffer alloc mem size = some (some next) ∧ mem.Owns array next := by
  obtain ⟨wf, _, _⟩ := Mem.refines_iff.mp refines
  have ⟨nonneg, offsetLe, lengthLe, sizeLt, stored⟩ := wf
  cases own : mem.buffer with
  | some block =>
      refine Or.inr ⟨mem, by simp [copyOrigBuffer, own], refines, rfl, ?_⟩
      simp [Mem.source, own]
  | none =>
      cases borrowed : mem.origBuffer with
      | none =>
          refine Or.inr ⟨mem, by simp [copyOrigBuffer, own, borrowed], refines, rfl, ?_⟩
          simp [Mem.source, own, borrowed]
      | some orig =>
          simp only [copyOrigBuffer, own, borrowed]
          have wanted : CInt.toSize (mem.offset + size) = (mem.offset + size).toNat :=
            CInt.toSize_of_range (by omega) (by omega)
          rw [wanted]
          generalize chosen : (if mem.size < (mem.offset + size).toNat
            then (mem.offset + size).toNat else mem.size) = newSize
          have large : mem.size ≤ newSize := by
            rw [← chosen]
            split <;> omega
          simp only [Mem.source, own, borrowed, Option.none_or, Option.getD_some] at stored
          cases granted : alloc.malloc newSize with
          | none => exact Or.inl rfl
          | some newBuffer =>
              obtain ⟨length, bound⟩ := Alloc.malloc_length granted
              right
              refine ⟨{ mem with
                buffer := some (SeekableArray.overwrite newBuffer 0 (orig.take mem.length))
                size := newSize }, ?_, refines.replaceBuffer ?_ bound (by omega) ?_⟩
              · have copied : (orig.take mem.length).length = mem.length := by
                  simp
                  omega
                simp [memcpy, copied, length, borrowed, show mem.length ≤ orig.length by omega,
                  show mem.length ≤ newSize by omega]
              · rw [SeekableArray.length_overwrite _ (by omega)]
                simp
                omega
              · simp only [SeekableArray.overwrite, List.take_zero, List.nil_append]
                rw [List.take_append_of_le_length (by simp; omega), List.take_take]
                simp [Mem.contents, Mem.source, own, borrowed]

/-- Growing makes room for `size` bytes at the position and preserves the array. -/
theorem growBuffer_owns (alloc : Alloc) {mem : Mem} {array : SeekableArray UInt8}
    (refines : mem.Refines array) (owned : mem.source = mem.buffer) {size : Nat}
    (small : size < 2 ^ 63)
    : growBuffer alloc mem size = none
      ∨ ∃ next,
          growBuffer alloc mem size = some next
          ∧ mem.Owns array next
          ∧ mem.offset + size ≤ next.size := by
  obtain ⟨wf, _, _⟩ := Mem.refines_iff.mp refines
  have ⟨nonneg, offsetLe, lengthLe, sizeLt, stored⟩ := wf
  have unused : CInt.toSize (mem.size - mem.offset) = (mem.size - mem.offset).toNat :=
    CInt.toSize_of_range (by omega) (by omega)
  have wanted : CInt.toSize (mem.offset + size) = (mem.offset + size).toNat :=
    CInt.toSize_of_range (by omega) (by omega)
  simp only [growBuffer, unused, wanted]
  by_cases room : (mem.size - mem.offset).toNat < size
  · rw [if_pos room]
    generalize (if mem.size ≠ 0 then CInt.toSize (2 * mem.size) else initialAlloc) = doubled
    generalize chosen : (if doubled < (mem.offset + size).toNat
      then (mem.offset + size).toNat else doubled) = newSize
    have large : (mem.offset + size).toNat ≤ newSize := by
      rw [← chosen]
      split <;> omega
    -- Both requests are large enough to keep the data and to take the new bytes.
    have replaced {request : Nat} {block : List UInt8}
        (enough : (mem.offset + size).toNat ≤ request)
        (granted : alloc.realloc mem.buffer request = some block)
        : mem.Owns array { mem with buffer := some block, size := request } := by
      rw [owned] at stored
      obtain ⟨length, bound, kept⟩ := Alloc.realloc_keeps granted (by omega)
      refine refines.replaceBuffer length bound (by omega) ?_
      rw [Mem.contents, owned, ← kept, List.take_take, stored]
      congr 1
      omega
    cases greedy : alloc.realloc mem.buffer newSize with
    | some newBuffer => exact Or.inr ⟨_, rfl, replaced large greedy, by simp; omega⟩
    | none =>
        by_cases retry : (mem.offset + size).toNat < newSize
        · simp only [if_pos retry]
          cases modest : alloc.realloc mem.buffer (mem.offset + size).toNat with
          | none => exact Or.inl rfl
          | some newBuffer =>
              exact Or.inr ⟨_, rfl, replaced (Nat.le_refl _) modest, by simp⟩
        · simp [if_neg retry]
  · rw [if_neg room]
    exact Or.inr ⟨mem, rfl, ⟨refines, rfl, owned⟩, by omega⟩

/-- Copying the new bytes behind the position overwrites the array there. -/
theorem store_refines {mem : Mem} {array : SeekableArray UInt8}
    (refines : mem.Refines array) (owned : mem.source = mem.buffer) (items : List UInt8)
    (room : mem.offset + items.length ≤ mem.size)
    : ∃ stored,
        memcpy mem.buffer (CInt.toSize mem.offset) items = some stored
        ∧ ({ mem with
              buffer := stored
              offset := mem.offset + items.length
              length := max mem.length (mem.offset + items.length).toNat } : Mem).Refines
            (array.write items) := by
  obtain ⟨wf, contents, offset⟩ := Mem.refines_iff.mp refines
  have ⟨nonneg, offsetLe, lengthLe, sizeLt, stored⟩ := wf
  have start : CInt.toSize mem.offset = array.pos := by
    rw [offset, CInt.toSize_ofNat (by omega)]
  rw [owned] at stored
  cases own : mem.buffer with
  | none =>
      -- An object without storage has no room, so nothing is written.
      rw [own] at stored
      simp only [Option.getD_none, List.length_nil] at stored
      have empty : items = [] := List.eq_nil_of_length_eq_zero (by omega)
      subst empty
      have same : array.write [] = array := by
        refine SeekableArray.ext ?_ (by simp [SeekableArray.write])
        simp [SeekableArray.write, SeekableArray.overwrite]
      refine ⟨none, by simp [memcpy], ?_⟩
      rw [same, ← own]
      simpa [show max mem.length mem.offset.toNat = mem.length by omega] using refines
  | some block =>
      rw [own] at stored
      simp only [Option.getD_some] at stored
      have fits : array.pos + items.length ≤ block.length := by omega
      have length := SeekableArray.length_overwrite items
        (show array.pos ≤ block.length by omega)
      refine ⟨some (SeekableArray.overwrite block array.pos items), ?_, ?_⟩
      · simp [memcpy, start, fits]
      · have before : mem.contents = block.take mem.length := by
          simp [Mem.contents, owned, own]
        have cut : (mem.offset + items.length).toNat = array.pos + items.length := by
          omega
        have after : (array.write items).contents
            = SeekableArray.overwrite (block.take mem.length) array.pos items := by
          simp only [SeekableArray.write, ← contents, before]
        refine Mem.refines_iff.mpr ⟨?_, ?_, by simp [SeekableArray.write, offset]⟩
        · exact {
            offsetNonneg := show 0 ≤ mem.offset + items.length by omega
            offsetLe := show mem.offset + items.length
              ≤ (max mem.length (mem.offset + items.length).toNat : Nat) by omega
            lengthLe := show max mem.length (mem.offset + items.length).toNat ≤ mem.size by
              omega
            sizeLt
            stored := by
              simp only [Mem.source, Option.some_or, Option.getD_some, length]
              omega
          }
        · rw [after, ← SeekableArray.overwrite_take items (by omega) (by omega), ← cut]
          rfl

/-- The allocator grants every request that fits the address space. -/
def Alloc.Succeeds (alloc : Alloc) : Prop :=
  ∀ size < 2 ^ 63, (alloc.grant size).isSome

/-- Where allocation succeeds there is a block. -/
theorem Alloc.Succeeds.malloc {alloc : Alloc} (succeeds : alloc.Succeeds) {size : Nat}
    (small : size < 2 ^ 63)
    : ∃ block, alloc.malloc size = some block := by
  obtain ⟨junk, granted⟩ := Option.isSome_iff_exists.mp (succeeds size small)
  exact ⟨_, by rw [Alloc.malloc, granted, Option.map_some]⟩

/-- Where allocation succeeds a block can be enlarged. -/
theorem Alloc.Succeeds.realloc {alloc : Alloc} (succeeds : alloc.Succeeds)
    (old : Option (List UInt8)) {size : Nat} (small : size < 2 ^ 63)
    : ∃ block, alloc.realloc old size = some block := by
  obtain ⟨fresh, granted⟩ := succeeds.malloc small
  exact ⟨_, by rw [Alloc.realloc, granted, Option.map_some]⟩

/-- Where allocation succeeds the original buffer is copied. -/
theorem copyOrigBuffer_succeeds {alloc : Alloc} (succeeds : alloc.Succeeds) {mem : Mem}
    (wf : mem.WellFormed) {size : Nat} (small : mem.offset + size < 2 ^ 63)
    : copyOrigBuffer alloc mem size ≠ some none := by
  have ⟨nonneg, offsetLe, lengthLe, sizeLt, _⟩ := wf
  have wanted : CInt.toSize (mem.offset + size) = (mem.offset + size).toNat :=
    CInt.toSize_of_range (by omega) (by omega)
  unfold copyOrigBuffer
  split
  · rw [wanted]
    obtain ⟨block, granted⟩ := succeeds.malloc
      (show (if mem.size < (mem.offset + size).toNat then (mem.offset + size).toNat
        else mem.size) < 2 ^ 63 by split <;> omega)
    simp only [granted]
    split <;> simp
  · simp

/-- Where allocation succeeds the buffer grows. -/
theorem growBuffer_succeeds {alloc : Alloc} (succeeds : alloc.Succeeds) {mem : Mem}
    (wf : mem.WellFormed) {size : Nat} (small : mem.offset + size < 2 ^ 63)
    : growBuffer alloc mem size ≠ none := by
  have ⟨nonneg, offsetLe, lengthLe, sizeLt, _⟩ := wf
  have wanted : CInt.toSize (mem.offset + size) = (mem.offset + size).toNat :=
    CInt.toSize_of_range (by omega) (by omega)
  obtain ⟨block, granted⟩ := succeeds.realloc mem.buffer
    (show (mem.offset + size).toNat < 2 ^ 63 by omega)
  simp only [growBuffer, wanted]
  split
  · generalize (if mem.size ≠ 0 then CInt.toSize (2 * mem.size) else initialAlloc) = doubled
    by_cases modest : doubled < (mem.offset + size).toNat
    · simp [modest, granted]
    · simp only [modest, if_false]
      split
      · simp
      · next refused =>
        by_cases retry : (mem.offset + size).toNat < doubled
        · simp [retry, granted]
        · have same : doubled = (mem.offset + size).toNat := by omega
          rw [same, granted] at refused
          simp at refused
  · simp

/-- Writing overwrites the array at its position, or leaves it alone when an allocation
fails; with memory available it succeeds.
-/
theorem memWrite_refines (alloc : Alloc) {mem : Mem} {array : SeekableArray UInt8}
    (refines : mem.Refines array) {items : List UInt8} (small : items.length < 2 ^ 63)
    : ∃ ret next,
        memWrite alloc mem items = some (ret, next)
        ∧ next.origBuffer = mem.origBuffer
        ∧ ((ret = -1 ∧ next.Refines array)
          ∨ (ret = items.length ∧ next.Refines (array.write items)))
        ∧ (alloc.Succeeds → array.pos + items.length < 2 ^ 63 → ret = items.length) := by
  obtain ⟨wf, _, position⟩ := Mem.refines_iff.mp refines
  rcases copyOrigBuffer_owns alloc refines small with failed | ⟨copied, copy, owns⟩
  · refine ⟨-1, mem, by simp [memWrite, failed], rfl, Or.inl ⟨rfl, refines⟩, ?_⟩
    intro succeeds bound
    exact absurd failed (copyOrigBuffer_succeeds succeeds wf (by omega))
  obtain ⟨copiedWf, _, copiedPosition⟩ := Mem.refines_iff.mp owns.refines
  rcases growBuffer_owns alloc owns.refines owns.source small with failed | ⟨grown, grow, room⟩
  · refine ⟨-1, copied, by simp [memWrite, copy, failed], owns.origBuffer,
      Or.inl ⟨rfl, owns.refines⟩, ?_⟩
    intro succeeds bound
    exact absurd failed (growBuffer_succeeds succeeds copiedWf (by omega))
  obtain ⟨larger, space⟩ := room
  obtain ⟨grownWf, _, grownPosition⟩ := Mem.refines_iff.mp larger.refines
  have ⟨nonneg, offsetLe, lengthLe, sizeLt, _⟩ := grownWf
  obtain ⟨stored, store, written⟩ := store_refines larger.refines larger.source items (by omega)
  have count : CInt.toOff items.length = items.length :=
    CInt.toOff_of_range (by omega) (by omega)
  have moved : CInt.toOff (grown.offset + items.length) = grown.offset + items.length :=
    CInt.toOff_of_range (by omega) (by omega)
  have reached : CInt.toSize (grown.offset + items.length)
      = (grown.offset + items.length).toNat :=
    CInt.toSize_of_range (by omega) (by omega)
  have longest : (if grown.length < (grown.offset + items.length).toNat
      then (grown.offset + items.length).toNat else grown.length)
      = max grown.length (grown.offset + items.length).toNat := by
    split <;> omega
  refine ⟨items.length, _, ?_, ?_, Or.inr ⟨rfl, written⟩, fun _ _ => rfl⟩
  · simp only [memWrite, copy, grow, store, Option.map_some, moved, reached, count, longest]
  · exact larger.origBuffer.trans owns.origBuffer

-----------------------------------------------------------------------------------------
-- Whole runs
-----------------------------------------------------------------------------------------

/-- A call of one of the three operations, with the allocator it meets. -/
inductive MemOp where
  | read (size : Nat)
  | write (alloc : Alloc) (buffer : List UInt8)
  | seek (offset whence : Int)

/-- What a call returns: its value and, for a read, the bytes stored at the caller's. -/
abbrev MemAnswer := Int × List UInt8

def stepMem (mem : Mem) : MemOp → Option (MemAnswer × Mem)
  | .read size => (memRead mem size).map (fun (ret, bytes, next) => ((ret, bytes), next))
  | .write alloc buffer =>
      (memWrite alloc mem buffer).map (fun (ret, next) => ((ret, []), next))
  | .seek offset whence =>
      some (((memSeek mem offset whence).1, []), (memSeek mem offset whence).2)

/-- What the abstract array answers to the same calls, memory being available. -/
def stepArray (array : SeekableArray UInt8) : MemOp → MemAnswer × SeekableArray UInt8
  | .read size =>
      (((array.next size).length, array.next size), array.read size)
  | .write _ buffer => ((buffer.length, []), array.write buffer)
  | .seek offset whence =>
      ((seekAnswer array offset whence, []), seekArray array offset whence)

/-- Positions stay below the range of `off_t`, memory is available, and the offset of a
seek is negatable.
-/
def MemOp.Allowed (array : SeekableArray UInt8) : MemOp → Prop
  | .read _ => True
  | .write alloc buffer => alloc.Succeeds ∧ array.pos + buffer.length < 2 ^ 63
  | .seek offset _ => -2 ^ 63 < offset ∧ offset < 2 ^ 63

/-- The object stands for `array` while the caller's buffer still holds `orig`. -/
structure Mem.RefinesOver (orig : Option (List UInt8)) (mem : Mem)
    (array : SeekableArray UInt8)
    : Prop where
  refines : mem.Refines array
  origBuffer : mem.origBuffer = orig

/-- One call answers like the array and touches neither the invariant nor the caller's
buffer.
-/
theorem stepMem_simulates {orig : Option (List UInt8)} {mem : Mem}
    {array : SeekableArray UInt8} {op : MemOp} (related : mem.RefinesOver orig array)
    (allowed : op.Allowed array)
    : ∃ next,
        stepMem mem op = some ((stepArray array op).1, next)
        ∧ next.RefinesOver orig (stepArray array op).2 := by
  obtain ⟨refines, rfl⟩ := related
  cases op with
  | read size =>
      obtain ⟨next, read, kept, same⟩ := memRead_refines refines size
      exact ⟨next, by simp [stepMem, stepArray, read], kept, same⟩
  | write alloc buffer =>
      obtain ⟨succeeds, bound⟩ := allowed
      obtain ⟨ret, next, wrote, same, outcome, success⟩ :=
        memWrite_refines alloc refines (show buffer.length < 2 ^ 63 by omega)
      have full := success succeeds bound
      rcases outcome with ⟨failed, _⟩ | ⟨_, kept⟩
      · omega
      · exact ⟨next, by simp [stepMem, stepArray, wrote, full], kept, same⟩
  | seek offset whence =>
      obtain ⟨next, sought, kept, same⟩ := memSeek_refines refines whence allowed.1 allowed.2
      exact ⟨next, by simp [stepMem, stepArray, sought], kept, same⟩

/-- A new object holds the caller's bytes at position 0, borrowed or copied. -/
theorem newFromMem_refines {alloc : Alloc} {buffer : List UInt8} {copy : Bool} {mem : Mem}
    (small : buffer.length < 2 ^ 63) (created : newFromMem alloc buffer copy = some mem)
    : mem.RefinesOver (if copy then none else some buffer) (.start buffer) := by
  cases copy with
  | false =>
      simp only [newFromMem, Bool.false_eq_true, if_false, Option.some.injEq] at created
      subst created
      refine ⟨Mem.refines_iff.mpr ⟨⟨?_, ?_, ?_, small, ?_⟩, ?_, ?_⟩, rfl⟩ <;>
        simp [Mem.source, Mem.contents, SeekableArray.start]
  | true =>
      simp only [newFromMem, if_true] at created
      obtain ⟨bufcpy, granted, rfl⟩ := Option.map_eq_some_iff.mp created
      obtain ⟨length, _⟩ := Alloc.malloc_length granted
      have copied : SeekableArray.overwrite bufcpy 0 buffer = buffer := by
        simp [SeekableArray.overwrite, length]
      refine ⟨Mem.refines_iff.mpr ⟨⟨?_, ?_, ?_, small, ?_⟩, ?_, ?_⟩, rfl⟩ <;>
        simp [Mem.source, Mem.contents, SeekableArray.start, copied]

/-- Every sequence of reads, writes and seeks on an object made from `buffer` answers like
the abstract array that starts with these bytes, keeps `offset ≤ length ≤ size`, does not
depend on whether the buffer was copied, and never writes to the caller's buffer.
-/
theorem memObject_refines_seekableArray (borrow alloc : Alloc) (buffer : List UInt8)
    (ops : List MemOp) (small : buffer.length < 2 ^ 63) (succeeds : alloc.Succeeds)
    (allowed
      : Machine.AlongTotal stepArray (fun array op => op.Allowed array)
          (.start buffer) ops)
    : ∃ borrowed copied borrowedLast copiedLast,
        newFromMem borrow buffer false = some borrowed
        ∧ newFromMem alloc buffer true = some copied
        ∧ Machine.run stepMem borrowed ops
            = some ((Machine.runTotal stepArray (.start buffer) ops).1, borrowedLast)
        ∧ Machine.run stepMem copied ops
            = some ((Machine.runTotal stepArray (.start buffer) ops).1, copiedLast)
        ∧ borrowedLast.Refines (Machine.runTotal stepArray (.start buffer) ops).2
        ∧ copiedLast.Refines (Machine.runTotal stepArray (.start buffer) ops).2
        ∧ (0 ≤ borrowedLast.offset ∧ borrowedLast.offset ≤ borrowedLast.length
            ∧ borrowedLast.length ≤ borrowedLast.size)
        ∧ (0 ≤ copiedLast.offset ∧ copiedLast.offset ≤ copiedLast.length
            ∧ copiedLast.length ≤ copiedLast.size)
        ∧ borrowedLast.origBuffer = some buffer := by
  obtain ⟨block, granted⟩ := succeeds.malloc small
  have lend : newFromMem borrow buffer false
      = some { origBuffer := some buffer, size := buffer.length, length := buffer.length } :=
    rfl
  have copy : newFromMem alloc buffer true
      = some {
        buffer := some (SeekableArray.overwrite block 0 buffer)
        size := buffer.length
        length := buffer.length
      } := by
    simp [newFromMem, granted]
  obtain ⟨borrowedLast, borrowedRun, borrowedRefines, kept⟩ :=
    Machine.run_simulates stepMem_simulates (newFromMem_refines small lend) allowed
  obtain ⟨copiedLast, copiedRun, copiedRefines, _⟩ :=
    Machine.run_simulates stepMem_simulates (newFromMem_refines small copy) allowed
  obtain ⟨borrowedWf, _⟩ := id borrowedRefines
  obtain ⟨copiedWf, _⟩ := id copiedRefines
  exact ⟨_, _, borrowedLast, copiedLast, lend, copy, borrowedRun, copiedRun, borrowedRefines,
    copiedRefines, ⟨borrowedWf.offsetNonneg, borrowedWf.offsetLe, borrowedWf.lengthLe⟩,
    ⟨copiedWf.offsetNonneg, copiedWf.offsetLe, copiedWf.lengthLe⟩, kept⟩

/-- An allocator that grants all it can, with zeroed memory. -/
def Alloc.generous : Alloc where
  grant size := if size < 2 ^ 63 then some (fun _ => 0) else none
  bounded size large := if_neg (by omega)

/-- The allocator without failures succeeds. -/
theorem Alloc.generous_succeeds : generous.Succeeds := by
  intro size small
  simp only [generous, if_pos small, Option.isSome_some]

/-- A backward seek and a write that outgrows a borrowed three-byte buffer. -/
theorem memObject_refines_borrowed_abc
    : ∃ borrowed last,
        newFromMem .generous [97, 98, 99] false = some borrowed
        ∧ Machine.run stepMem borrowed
            [.seek (-1) seekEnd, .write .generous [120, 121], .seek 0 seekSet, .read 10]
          = some ([(2, []), (2, []), (0, []), (4, [97, 98, 120, 121])], last)
        ∧ last.origBuffer = some [97, 98, 99] := by
  obtain ⟨borrowed, _, last, _, lend, _, ran, _, _, _, _, _, kept⟩ :=
    memObject_refines_seekableArray .generous .generous [97, 98, 99]
      [.seek (-1) seekEnd, .write .generous [120, 121], .seek 0 seekSet, .read 10]
      (by decide) Alloc.generous_succeeds
      ⟨⟨by decide, by decide⟩, ⟨Alloc.generous_succeeds, by decide⟩, ⟨by decide, by decide⟩,
        trivial, trivial⟩
  exact ⟨borrowed, last, lend, ran, kept⟩

end Gpgme.Data
