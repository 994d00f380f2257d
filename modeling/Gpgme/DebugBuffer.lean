import Mathlib.Tactic
import Gpgme.Lib.CInt

/-! `_gpgme_debug_buffer` of `debug.c`, and its calls for the data that is read and written. -/

namespace Gpgme

-----------------------------------------------------------------------------------------
-- The function
-----------------------------------------------------------------------------------------

/-- The largest `int`. An index that goes on behind it is undefined. -/
def maxInt : Nat := 2147483647

/-- `TOHEX`, with small letters. -/
def toHexDigit (val : Nat) : UInt8 :=
  if val < 10 then UInt8.ofNat (val + 48) else UInt8.ofNat (val - 10 + 97)

/-- The local variables in a round for a line, where the cursors are positions in `str`. What is
stored is listed with its positions.
-/
structure DebugLine where
  idx : Nat
  strp : Nat := 0
  strp2 : Nat := 34
  stored : List (Nat × UInt8) := []
  reads : List Nat := []

/-- `*(strp++) = c;` -/
def DebugLine.put (line : DebugLine) (c : UInt8) : DebugLine :=
  { line with strp := line.strp + 1, stored := line.stored ++ [(line.strp, c)] }

/-- `*(strp2++) = c;` -/
def DebugLine.put2 (line : DebugLine) (c : UInt8) : DebugLine :=
  { line with strp2 := line.strp2 + 1, stored := line.stored ++ [(line.strp2, c)] }

/-- `val = buffer[idx++];`, which reads at the index and counts it. -/
def DebugLine.next (line : DebugLine) : Option DebugLine :=
  if line.idx = maxInt then none
  else some { line with idx := line.idx + 1, reads := line.reads ++ [line.idx] }

section

variable (isprint : UInt8 → Bool) (buffer : Nat → UInt8) (len : Nat)

/-- What a round stores for a byte, or for the lack of one. -/
def DebugLine.byte (line : DebugLine) : Option DebugLine :=
  if line.idx < len then
    let val := buffer line.idx
    line.next.map fun line =>
      ((line.put (toHexDigit (val.toNat / 16))).put (toHexDigit (val.toNat % 16))).put2
        (if isprint val then val else 46)
  else
    some ((line.put 32).put 32)

/-- A round of the inner loop, with the gap behind the eighth byte. -/
def DebugLine.column (line : DebugLine) (j : Nat) : Option DebugLine :=
  (line.byte isprint buffer len).map fun line => if j = 7 then line.put 32 else line

/-- The inner loop, with the number of rounds that are left. -/
def DebugLine.columns (line : DebugLine) : Nat → Option DebugLine
  | 0 => some line
  | left + 1 => do
      let line ← line.column isprint buffer len (16 - (left + 1))
      line.columns left

/-- The line that is printed, from an index on. -/
def debugLine (idx : Nat) : Option DebugLine := do
  let line ← DebugLine.columns isprint buffer len { idx } 16
  let line := line.put 32
  some { line with stored := line.stored ++ [(line.strp2, 0)] }

/-- The lines that the outer loop prints. -/
def debugLines : Nat → Nat → Option (List DebugLine)
  | 0, _ => none
  | rounds + 1, idx =>
      if idx < len then do
        let line ← debugLine isprint buffer len idx
        let lines ← debugLines rounds line.idx
        some (line :: lines)
      else
        some []

/-- `_gpgme_debug_buffer`, with tracing compiled in. -/
def debugBuffer (rounds : Nat) : Option (List DebugLine) := debugLines isprint buffer len rounds 0

end

-----------------------------------------------------------------------------------------
-- A line
-----------------------------------------------------------------------------------------

variable {isprint : UInt8 → Bool} {buffer : Nat → UInt8} {len limit : Nat} {line line' : DebugLine}

/-- The positions that have been stored are the ones behind the two cursors. -/
def DebugLine.Filled (line : DebugLine) : Prop :=
  ∀ pos, (∃ c, (pos, c) ∈ line.stored) ↔ pos < line.strp ∨ (34 ≤ pos ∧ pos < line.strp2)

/-- A byte is put into both columns within their bounds. -/
theorem DebugLine.Filled.put (filled : line.Filled) (c : UInt8) : (line.put c).Filled := by
  intro pos
  have before := filled pos
  simp only [DebugLine.put, List.mem_append, List.mem_singleton, Prod.mk.injEq, exists_or, before,
    exists_and_left, exists_eq, and_true]
  omega

/-- A hexadecimal pair is put into the second column within its bounds. -/
theorem DebugLine.Filled.put2 (filled : line.Filled) (low : 34 ≤ line.strp2) (c : UInt8)
    : (line.put2 c).Filled := by
  intro pos
  have before := filled pos
  simp only [DebugLine.put2, List.mem_append, List.mem_singleton, Prod.mk.injEq, exists_or, before,
    exists_and_left, exists_eq, and_true]
  omega

/-- What holds in front of a round of the inner loop. -/
structure DebugLine.Sound (len start j : Nat) (line : DebugLine) : Prop where
  filled : line.Filled
  cursor : line.strp = 2 * j + (if 7 < j then 1 else 0)
  low : 34 ≤ line.strp2
  cursor2 : line.strp2 ≤ 34 + j
  index : line.idx = min (start + j) len
  reads : ∀ pos ∈ line.reads, pos < len

/-- The gap behind the eighth byte. -/
theorem DebugLine.Sound.gap {start j : Nat} (filled : line.Filled) (low : 34 ≤ line.strp2)
    (cursor : line.strp = 2 * (j + 1) + (if 7 < j then 1 else 0))
    (cursor2 : line.strp2 ≤ 34 + (j + 1))
    (index : line.idx = min (start + (j + 1)) len) (reads : ∀ pos ∈ line.reads, pos < len)
    : (if j = 7 then line.put 32 else line).Sound len start (j + 1) := by
  by_cases eighth : j = 7
  · rw [if_pos eighth]
    refine ⟨filled.put 32, ?_, low, cursor2, index, reads⟩
    change line.strp + 1 = _
    rw [cursor, if_neg (by omega), if_pos (by omega)]
  · rw [if_neg eighth]
    refine ⟨filled, ?_, low, cursor2, index, reads⟩
    rw [cursor]
    split_ifs <;> omega

/-- A round goes on with the line, where the index cannot overflow. -/
theorem DebugLine.Sound.column (isprint : UInt8 → Bool) (buffer : Nat → UInt8) {start j : Nat}
    (sound : line.Sound len start j)
    (small : len ≤ maxInt)
    : ∃ line', line.column isprint buffer len j = some line' ∧ line'.Sound len start (j + 1) := by
  obtain ⟨filled, cursor, low, cursor2, index, reads⟩ := sound
  unfold DebugLine.column DebugLine.byte
  by_cases inside : line.idx < len
  · have next : line.next
        = some { line with idx := line.idx + 1, reads := line.reads ++ [line.idx] } :=
      if_neg (by omega)
    simp only [if_pos inside, next, Option.map_some]
    refine ⟨_, rfl, DebugLine.Sound.gap ?_ ?_ ?_ ?_ ?_ ?_⟩
    · have read : DebugLine.Filled
          { line with idx := line.idx + 1, reads := line.reads ++ [line.idx] } := filled
      exact ((read.put _).put _).put2 low _
    · change 34 ≤ line.strp2 + 1
      omega
    · change line.strp + 1 + 1 = _
      omega
    · change line.strp2 + 1 ≤ _
      omega
    · change line.idx + 1 = _
      omega
    · intro pos member
      rcases List.mem_append.mp member with member | member
      · exact reads pos member
      · rw [List.mem_singleton.mp member]
        exact inside
  · simp only [if_neg inside, Option.map_some]
    refine ⟨_, rfl, DebugLine.Sound.gap ((filled.put 32).put 32) low ?_ ?_ ?_ reads⟩
    · change line.strp + 1 + 1 = _
      omega
    · change line.strp2 ≤ _
      omega
    · change line.idx = _
      omega

/-- All rounds go on, by induction on the ones that are left. -/
theorem DebugLine.Sound.columns (isprint : UInt8 → Bool) (buffer : Nat → UInt8)
    {start left : Nat} (sound : line.Sound len start (16 - left))
    (small : len ≤ maxInt) (few : left ≤ 16)
    : ∃ line', line.columns isprint buffer len left = some line' ∧ line'.Sound len start 16 := by
  induction left generalizing line with
  | zero => exact ⟨line, rfl, sound⟩
  | succ left ih =>
      obtain ⟨next, stepped, later⟩ := sound.column isprint buffer small
      rw [show 16 - (left + 1) + 1 = 16 - left by omega] at later
      obtain ⟨last, run, final⟩ := ih later (by omega)
      refine ⟨last, ?_, final⟩
      rw [DebugLine.columns, stepped, Option.bind_eq_bind, Option.bind_some, run]

/-- What a line may do: its positions are in its buffer, all in front of the terminator are written,
and only positions of the data below a limit are read.
-/
structure DebugLine.Harmless (limit : Int) (line : DebugLine) : Prop where
  inside : ∀ entry ∈ line.stored, entry.1 ≤ 50
  written
    : ∃ stop, line.stored.getLast? = some (stop, 0) ∧ ∀ pos < stop, ∃ c, (pos, c) ∈ line.stored
  reads : ∀ pos ∈ line.reads, (pos : Int) < limit

/-- A line is printed, and the index moves on to the next one or to the end. -/
theorem debugLine_harmless (isprint : UInt8 → Bool) (buffer : Nat → UInt8) {start : Nat}
    (small : len ≤ maxInt) (first : start < len)
    : ∃ line, debugLine isprint buffer len start = some line
        ∧ line.Harmless len ∧ start < line.idx := by
  have initial : DebugLine.Sound len start (16 - 16) { idx := start } := by
    refine ⟨fun pos => ?_, rfl, le_rfl, le_rfl, by simp; omega, by simp⟩
    simp
  obtain ⟨last, run, sound⟩ :=
    initial.columns isprint buffer small le_rfl
  obtain ⟨filled, cursor, low, cursor2, index, reads⟩ := sound
  have blanks := filled.put 32
  have columns : last.strp = 33 := cursor
  refine ⟨_, by rw [debugLine, run]; rfl, ⟨?_, ⟨last.strp2, ?_, ?_⟩, ?_⟩, ?_⟩
  · rintro ⟨pos, c⟩ member
    rcases List.mem_append.mp member with member | member
    · have place := (blanks pos).mp ⟨c, member⟩
      change pos < last.strp + 1 ∨ (34 ≤ pos ∧ pos < last.strp2) at place
      omega
    · obtain ⟨rfl, -⟩ := Prod.mk.inj (List.mem_singleton.mp member)
      exact cursor2
  · exact List.getLast?_concat
  · intro pos below
    have place : pos < (last.put 32).strp ∨ (34 ≤ pos ∧ pos < (last.put 32).strp2) := by
      change pos < last.strp + 1 ∨ (34 ≤ pos ∧ pos < last.strp2)
      omega
    obtain ⟨c, member⟩ := (blanks pos).mpr place
    exact ⟨c, List.mem_append_left _ member⟩
  · exact fun pos member => Int.ofNat_lt.mpr (reads pos member)
  · change start < last.idx
    omega

-----------------------------------------------------------------------------------------
-- All lines
-----------------------------------------------------------------------------------------

/-- The call returns, and all its lines are harmless. -/
def TraceHarmless (isprint : UInt8 → Bool) (buffer : Nat → UInt8) (len : Nat) (limit : Int)
    : Prop :=
  ∃ rounds lines,
    debugBuffer isprint buffer len rounds = some lines ∧ ∀ line ∈ lines, line.Harmless limit

/-- The lines from an index on, by induction on the rounds. -/
theorem debugLines_harmless (isprint : UInt8 → Bool) (buffer : Nat → UInt8)
    {rounds start : Nat} (small : len ≤ maxInt)
    (enough : len - start < rounds)
    : ∃ lines, debugLines isprint buffer len rounds start = some lines
        ∧ ∀ line ∈ lines, line.Harmless len := by
  induction rounds generalizing start with
  | zero => exact absurd enough (Nat.not_lt_zero _)
  | succ rounds ih =>
      rw [debugLines]
      by_cases more : start < len
      · obtain ⟨line, printed, harmless, further⟩ :=
          debugLine_harmless isprint buffer small more
        obtain ⟨lines, run, others⟩ := ih (by omega : len - line.idx < rounds)
        rw [if_pos more, printed]
        refine ⟨line :: lines, ?_, List.forall_mem_cons.mpr ⟨harmless, others⟩⟩
        rw [Option.bind_eq_bind, Option.bind_some, run]
        rfl
      · rw [if_neg more]
        exact ⟨[], rfl, by simp⟩

/-- A trace of at most `INT_MAX` bytes is harmless. -/
theorem traceHarmless_of_small (isprint : UInt8 → Bool) (buffer : Nat → UInt8)
    (small : len ≤ maxInt) : TraceHarmless isprint buffer len len := by
  obtain ⟨lines, run, harmless⟩ := debugLines_harmless isprint buffer small
    (by omega : len - 0 < len + 1)
  exact ⟨len + 1, lines, run, harmless⟩

/-- One column keeps the index within an `int`. -/
theorem DebugLine.column_idx {j : Nat} (stepped : line.column isprint buffer len j = some line')
    (low : line.idx ≤ maxInt)
    : line'.idx ≤ maxInt := by
  obtain ⟨mid, inner, rfl⟩ := Option.map_eq_some_iff.mp stepped
  have moved : mid.idx ≤ maxInt := by
    unfold DebugLine.byte at inner
    by_cases inside : line.idx < len
    · rw [if_pos inside] at inner
      obtain ⟨next, read, rfl⟩ := Option.map_eq_some_iff.mp inner
      unfold DebugLine.next at read
      split at read
      · cases read
      · cases read
        change line.idx + 1 ≤ maxInt
        omega
    · rw [if_neg inside] at inner
      cases inner
      exact low
  split <;> exact moved

/-- All columns keep the index within an `int`. -/
theorem DebugLine.columns_idx {left : Nat} (run : line.columns isprint buffer len left = some line')
    (low : line.idx ≤ maxInt)
    : line'.idx ≤ maxInt := by
  induction left generalizing line with
  | zero =>
      cases run
      exact low
  | succ left ih =>
      obtain ⟨mid, stepped, later⟩ := Option.bind_eq_some_iff.mp run
      exact ih later (DebugLine.column_idx stepped low)

/-- In front of a larger length the index overflows, by induction on the rounds. -/
theorem debugLines_large {rounds start : Nat} (large : maxInt < len) (low : start ≤ maxInt)
    : debugLines isprint buffer len rounds start = none := by
  induction rounds generalizing start with
  | zero => rfl
  | succ rounds ih =>
      rw [debugLines, if_pos (by omega)]
      cases printed : debugLine isprint buffer len start with
      | none => rfl
      | some line =>
          have next : line.idx ≤ maxInt := by
            obtain ⟨last, run, same⟩ := Option.bind_eq_some_iff.mp printed
            cases same
            have lastLow : last.idx ≤ maxInt := DebugLine.columns_idx run low
            exact lastLow
          rw [Option.bind_eq_bind, Option.bind_some, ih next]
          rfl

-----------------------------------------------------------------------------------------
-- The calls
-----------------------------------------------------------------------------------------

/-- The length that `_gpgme_io_read` passes on: its result is an `int`, which becomes a `size_t`. -/
def readTraceLength (result : Int) : Nat := CInt.toSize (CInt.toInt result)

/-- Tracing is harmless for what is read exactly where the result is not negative as an `int`, and
for what is written exactly up to the largest `int`.
-/
theorem traceHarmless_iff (isprint : UInt8 → Bool) (buffer : Nat → UInt8) {result : Int}
    (low : -1 ≤ result) (count : Nat)
    : (TraceHarmless isprint buffer (readTraceLength result) (max result 0)
        ↔ 0 ≤ CInt.toInt result)
      ∧ (TraceHarmless isprint buffer count count ↔ count ≤ maxInt) := by
  have undefined : ∀ len limit, maxInt < len → ¬TraceHarmless isprint buffer len limit := by
    rintro len limit large ⟨rounds, lines, run, -⟩
    rw [debugBuffer, debugLines_large large (Nat.zero_le _)] at run
    cases run
  refine ⟨⟨fun harmless => ?_, fun positive => ?_⟩, ⟨fun harmless => ?_, traceHarmless_of_small isprint buffer⟩⟩
  · by_contra negative
    refine undefined _ _ ?_ harmless
    unfold readTraceLength CInt.toSize maxInt
    unfold CInt.toInt at negative ⊢
    omega
  · have length : (readTraceLength result : Int) = CInt.toInt result := by
      unfold readTraceLength CInt.toSize
      unfold CInt.toInt at positive ⊢
      omega
    have small : readTraceLength result ≤ maxInt := by
      unfold CInt.toInt at length
      unfold maxInt
      omega
    have limit : (readTraceLength result : Int) ≤ max result 0 := by
      rw [length]
      unfold CInt.toInt at positive ⊢
      omega
    obtain ⟨rounds, lines, run, harmless⟩ :=
      traceHarmless_of_small isprint buffer small
    refine ⟨rounds, lines, run, fun line member => ?_⟩
    obtain ⟨bound, written, reads⟩ := harmless line member
    exact ⟨bound, written, fun pos read => lt_of_lt_of_le (reads pos read) limit⟩
  · by_contra large
    exact undefined _ _ (Nat.lt_of_not_le large) harmless

/-- `isprint` in the C locale. -/
def isprintC (c : UInt8) : Bool := 32 ≤ c && c ≤ 126

/-- A read of three bytes and a write of twenty. -/
theorem short_trace_harmless
    : (-1 : Int) ≤ 3
      ∧ TraceHarmless isprintC (fun _ => 65) (readTraceLength 3) (max 3 0)
      ∧ TraceHarmless isprintC (fun _ => 65) 20 20 :=
  have both := traceHarmless_iff isprintC (fun _ => 65) (by decide : (-1 : Int) ≤ 3) 20
  ⟨by decide, both.1.mpr (by decide), both.2.mpr (by decide)⟩

/-- After an error of the read the first line already reads sixteen bytes, of which none is data,
and the call does not return before the index overflows.
-/
theorem failed_read_not_harmless
    : (debugLine isprintC (fun _ => 65) (readTraceLength (-1)) 0).map DebugLine.reads
        = some (List.range 16)
      ∧ ¬TraceHarmless isprintC (fun _ => 65) (readTraceLength (-1)) (max (-1) 0) := by
  refine ⟨by decide, ?_⟩
  rintro ⟨rounds, lines, run, -⟩
  rw [debugBuffer, debugLines_large (by decide) (Nat.zero_le _)] at run
  cases run

end Gpgme
