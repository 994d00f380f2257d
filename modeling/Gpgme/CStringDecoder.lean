import Gpgme.PercentString
import Gpgme.Lib.TracedMemory

/-! `_gpgme_decode_c_string` of `conversion.c` as a loop over a memory, with the addresses that it
accesses.
-/

namespace Gpgme

open ByteMemory CString

-----------------------------------------------------------------------------------------
-- The function
-----------------------------------------------------------------------------------------

/-- The variables of the loop of `_gpgme_decode_c_string`. -/
structure CDecoder where
  mem : TracedMemory
  src : Nat
  dest : Nat
  stopped : Bool := false

namespace CDecoder

variable (d : CDecoder)

/-- `src[offset]` -/
def peek (offset : Nat) : UInt8 := d.mem.bytes (d.src + offset)

/-- The condition or the switch reads `src[offset]`. -/
def look (offset : Nat) : CDecoder := { d with mem := d.mem.look (d.src + offset) }

/-- `*(dest++) = byte;` -/
def put (byte : UInt8) : CDecoder :=
  { d with mem := d.mem.store d.dest byte, dest := d.dest + 1 }

/-- `*(dest++) = *(src++);` -/
def copy : CDecoder :=
  { d with mem := d.mem.copy d.src d.dest, src := d.src + 1, dest := d.dest + 1 }

/-- `if (*src) *(dest++) = *(src++);` -/
def copyUnlessEnd : CDecoder :=
  let d := d.look 0
  if d.peek 0 = 0 then d else d.copy

/-- `src += count;` -/
def skip (count : Nat) : CDecoder := { d with src := d.src + count }

/-- `_gpgme_hextobyte (&src[2])`, which reads the second character only behind a digit. -/
def hexValue : CDecoder × Option Nat :=
  let d := d.look 2
  if digitValue (d.peek 2) < 16 then (d.look 3, hextobyte (d.peek 2) (d.peek 3)) else (d, none)

/-- The case `'x'` of the switch. -/
def hexEscape : CDecoder :=
  match d.hexValue with
  | (d, none) => d.copy.copy.copyUnlessEnd.copyUnlessEnd
  | (d, some value) =>
      if value = 0 then ((d.put 92).put 48).skip 4 else (d.put (UInt8.ofNat value)).skip 4

/-- The switch over `src[1]`. -/
def escape : CDecoder :=
  let d := d.look 1
  match decodeOne (d.peek 1) with
  | some result => (d.skip 2).put result
  | none => if d.peek 1 = 120 then d.hexEscape else d.copy.copy

/-- A round of the loop; the last one writes the terminator. -/
def round : CDecoder :=
  if d.stopped then d
  else
    let d := d.look 0
    if d.peek 0 = 0 then { d.put 0 with stopped := true }
    else if d.peek 0 ≠ 92 then d.copy
    else d.escape

/-- The loop after a number of rounds. -/
def run : Nat → CDecoder → CDecoder
  | 0, d => d
  | rounds + 1, d => run rounds d.round

end CDecoder

/-- `_gpgme_decode_c_string` at the start of its loop. -/
def decodeCStringStart (malloc : Nat → Option Nat) (mem : TracedMemory)
    (src : CStringAt mem.bytes) (destp len : Nat)
    : Except GpgError CDecoder :=
  match percentBuffer malloc destp len (src.text.length + 1) with
  | .error err => .error err
  | .ok dest => .ok { mem, src := src.addr, dest }

-----------------------------------------------------------------------------------------
-- What the decoder makes of a string
-----------------------------------------------------------------------------------------

/-- The parts of a string in the order in which it is read: an escape of a letter, one of a byte
in hexadecimal, a single character, or a backslash with the characters behind it that are no
escape.
-/
inductive CPart where
  | letter (e byte : UInt8)
  | hex (high low : UInt8) (value : Nat)
  | char (c : UInt8)
  | malformed (text : Str)
deriving DecidableEq

/-- How a part is written. -/
def CPart.source : CPart → Str
  | .letter e _ => [92, e]
  | .hex high low _ => [92, 120, high, low]
  | .char c => [c]
  | .malformed text => text

/-- What a part stands for; a binary zero is not representable. -/
def CPart.value : CPart → List UInt8
  | .letter _ byte => [byte]
  | .hex _ _ value => if value = 0 then [92, 48] else [UInt8.ofNat value]
  | .char c => [c]
  | .malformed text => text

/-- The parts of a string. -/
def cParts : Str → List CPart
  | [] => []
  | c :: rest =>
      if c ≠ 92 then .char c :: cParts rest
      else
        match rest with
        | [] => [.malformed [92]]
        | e :: rest =>
            match decodeOne e with
            | some byte => .letter e byte :: cParts rest
            | none =>
                if e ≠ 120 then .malformed [92, e] :: cParts rest
                else
                  match rest with
                  | [] => [.malformed [92, 120]]
                  | [high] => [.malformed [92, 120, high]]
                  | high :: low :: rest =>
                      match hextobyte high low with
                      | none => .malformed [92, 120, high, low] :: cParts rest
                      | some value => .hex high low value :: cParts rest

/-- The string with every escape replaced. -/
def unescapedText (s : Str) : Str := (cParts s).flatMap CPart.value

/-- The last part of the string is a backslash with nothing behind it. -/
def EndsInBackslash (s : Str) : Prop := .malformed [92] ∈ cParts s

instance (s : Str) : Decidable (EndsInBackslash s) :=
  inferInstanceAs (Decidable (_ ∈ cParts s))

/-- A character that is no backslash stands for itself. -/
theorem cParts_plain {c : UInt8} (plain : c ≠ 92) (rest : Str)
    : cParts (c :: rest) = .char c :: cParts rest :=
  (cParts.eq_def _).trans (if_pos plain)

/-- An escape of one letter. -/
theorem cParts_letter {e byte : UInt8} (valid : decodeOne e = some byte) (rest : Str)
    : cParts (92 :: e :: rest) = .letter e byte :: cParts rest := by
  rw [cParts.eq_def]
  simp [valid]

/-- A backslash in front of any other character is malformed. -/
theorem cParts_other {e : UInt8} (invalid : decodeOne e = none) (other : e ≠ 120) (rest : Str)
    : cParts (92 :: e :: rest) = .malformed [92, e] :: cParts rest := by
  rw [cParts.eq_def]
  simp [invalid, other]

/-- A hexadecimal escape that is cut off at the end is malformed. -/
theorem cParts_cut {rest : Str} (short : rest.length < 2)
    : cParts (92 :: 120 :: rest) = [.malformed (92 :: 120 :: rest)] := by
  match rest with
  | [] => rfl
  | [_] => rfl

/-- A hexadecimal escape without two digits is malformed. -/
theorem cParts_malformed {high low : UInt8} (invalid : hextobyte high low = none) (rest : Str)
    : cParts (92 :: 120 :: high :: low :: rest)
      = .malformed [92, 120, high, low] :: cParts rest := by
  simp [cParts, decodeOne, invalid]

/-- A hexadecimal escape with two digits. -/
theorem cParts_hex {high low : UInt8} {value : Nat} (valid : hextobyte high low = some value)
    (rest : Str)
    : cParts (92 :: 120 :: high :: low :: rest) = .hex high low value :: cParts rest := by
  simp [cParts, decodeOne, valid]

/-- The byte of a hexadecimal escape; a zero stays escaped. -/
theorem CPart.value_hex (high low : UInt8) (value : Nat)
    : (CPart.hex high low value).value = if value = 0 then [92, 48] else [UInt8.ofNat value] := rfl

/-- What a part stands for is never longer than the part. -/
theorem CPart.value_length_le (part : CPart) : part.value.length ≤ part.source.length := by
  cases part with
  | hex high low value =>
      rw [value_hex]
      split <;> simp [CPart.source]
  | _ => simp [CPart.value, CPart.source]

/-- The parts are those of the string. -/
theorem cParts_source (s : Str) : (cParts s).flatMap CPart.source = s := by
  fun_induction cParts s <;> simp_all [CPart.source]

/-- The string that key listings take from the decoder. -/
theorem decodeCString_eq (s : Str) : decodeCString s = unescapedText s := by
  unfold unescapedText
  fun_induction cParts s <;> rw [decodeCString.eq_def] <;> simp_all [CPart.value]
  case case9 value _ _ _ _ _ => cases value <;> simp

/-- Decoding makes no string longer. -/
theorem unescapedText_length_le (s : Str) : (unescapedText s).length ≤ s.length := by
  have shorter (parts : List CPart)
      : (parts.flatMap CPart.value).length ≤ (parts.flatMap CPart.source).length := by
    induction parts with
    | nil => exact le_rfl
    | cons part rest ih =>
        rw [List.flatMap_cons, List.flatMap_cons, List.length_append, List.length_append]
        exact Nat.add_le_add part.value_length_le ih
  calc (unescapedText s).length
      ≤ ((cParts s).flatMap CPart.source).length := shorter _
    _ = s.length := by rw [cParts_source]

/-- Two hexadecimal digits are a byte. -/
theorem hextobyte_lt {high low : UInt8} {value : Nat} (valid : hextobyte high low = some value)
    : value < 256 := by
  unfold hextobyte at valid
  split at valid
  · cases valid
    omega
  · cases valid

/-- The escapes of one letter stand for other bytes than the terminator. -/
theorem decodeOne_ne_zero {e byte : UInt8} (valid : decodeOne e = some byte) : byte ≠ 0 := by
  unfold decodeOne at valid
  split at valid <;> first | cases valid; decide | cases valid

/-- An escape is one of those that the decoder knows, and a single character starts none. -/
def CPart.Proper : CPart → Prop
  | .letter e byte => decodeOne e = some byte
  | .hex high low value => hextobyte high low = some value
  | .char c => c ≠ 92
  | .malformed text => text.head? = some 92

/-- All parts of a string are of their kinds. -/
theorem cParts_proper (s : Str) : ∀ part ∈ cParts s, part.Proper := by
  fun_induction cParts s <;> simp_all [CPart.Proper]

/-- What stands for a character that is not the terminator is none, either. -/
theorem CPart.value_plain {part : CPart} (proper : part.Proper) (plain : ∀ c ∈ part.source, c ≠ 0)
    : ∀ c ∈ part.value, c ≠ 0 := by
  cases part with
  | letter e byte =>
      intro c member
      rw [List.mem_singleton.mp member]
      exact decodeOne_ne_zero proper
  | hex high low value =>
      rw [value_hex]
      have small : value < 256 := hextobyte_lt proper
      by_cases zero : value = 0
      · rw [if_pos zero]
        simp
      · rw [if_neg zero]
        intro c member same
        rw [List.mem_singleton.mp member] at same
        have number := congrArg UInt8.toNat same
        rw [UInt8.toNat_ofNat', Nat.mod_eq_of_lt small] at number
        exact zero number
  | char c => exact plain
  | malformed text => exact plain

/-- No part stands for a terminator. -/
theorem unescapedText_plain {s : Str} (plain : ∀ c ∈ s, c ≠ 0)
    : ∀ c ∈ unescapedText s, c ≠ 0 := by
  intro c member
  obtain ⟨part, known, inside⟩ := List.mem_flatMap.mp member
  refine part.value_plain (cParts_proper s part known) ?_ c inside
  intro c member
  refine plain c ?_
  rw [← cParts_source s]
  exact List.mem_flatMap.mpr ⟨part, known, member⟩

/-- Every part has characters of its own. -/
theorem cParts_shorter {part : CPart} {s rest : Str} (split : s = part.source ++ rest)
    (parts : cParts s = part :: cParts rest)
    : rest.length < s.length := by
  have filled : part.source ≠ [] := by
    intro empty
    rw [empty, List.nil_append] at split
    rw [split] at parts
    exact absurd (congrArg List.length parts) (by simp)
  have positive := List.length_pos_iff.mpr filled
  rw [split, List.length_append]
  omega

-----------------------------------------------------------------------------------------
-- Rounds
-----------------------------------------------------------------------------------------

/-- The string that is decoded and the block that is written, which both have `size` bytes and the
terminator.
-/
structure DecodeArea where
  src : Nat
  dest : Nat
  size : Nat

namespace DecodeArea

/-- The string with its terminator. -/
def reads (area : DecodeArea) : Set Nat := {addr | area.src ≤ addr ∧ addr ≤ area.src + area.size}

/-- The block for the result. -/
def writes (area : DecodeArea) : Set Nat :=
  {addr | area.dest ≤ addr ∧ addr ≤ area.dest + area.size}

end DecodeArea

namespace CDecoder

variable {d mid next : CDecoder} {area : DecodeArea} {s rest rest' : Str} {written : List UInt8}

/-- The loop has the string in front of it, with room for the result. -/
structure Ready (area : DecodeArea) (d : CDecoder) (s : Str) : Prop where
  decodable : Decodable d.mem.bytes d.src d.dest s
  running : d.stopped = false
  source : area.src ≤ d.src ∧ d.src + s.length = area.src + area.size
  room : area.dest ≤ d.dest ∧ d.dest + s.length ≤ area.dest + area.size

/-- A part of the loop consumes the string up to `rest`, and writes something. -/
structure Decodes (area : DecodeArea) (d next : CDecoder) (rest : Str) (written : List UInt8) : Prop
    where
  ready : next.Ready area rest
  writes : d.mem.bytes.Writes next.mem.bytes d.dest written
  dest : next.dest = d.dest + written.length
  within : d.mem.Within next.mem area.reads area.writes

/-- Decoding one part and then another is decoding both. -/
theorem Decodes.trans {more : List UInt8} (first : Decodes area d mid rest written)
    (second : Decodes area mid next rest' more)
    : Decodes area d next rest' (written ++ more) where
  ready := second.ready
  writes := first.writes.append (first.dest ▸ second.writes)
  dest := by rw [second.dest, first.dest, List.length_append, Nat.add_assoc]
  within := first.within.trans second.within

/-- A position of the string, or that of its terminator, is read. -/
theorem Ready.look (ready : d.Ready area s) (offset : Nat) (inside : offset ≤ s.length)
    : Decodes area d (d.look offset) s [] where
  ready := ⟨ready.decodable, ready.running, ready.source, ready.room⟩
  writes := writes_nil _ _
  dest := rfl
  within := by
    obtain ⟨-, -, ⟨low, high⟩, -⟩ := ready
    refine ⟨?_, fun _ => Or.inl⟩
    intro addr member
    rcases List.mem_append.mp member with before | now
    · exact Or.inl before
    · rw [List.mem_singleton.mp now]
      exact Or.inr ⟨by omega, by omega⟩

/-- Characters are consumed and others written for them, all in the block. -/
theorem Ready.replace {consumed : Str} (ready : d.Ready area (consumed ++ rest))
    (fewer : written.length ≤ consumed.length) (src : next.src = d.src + consumed.length)
    (dest : next.dest = d.dest + written.length) (running : next.stopped = d.stopped)
    (writes : d.mem.bytes.Writes next.mem.bytes d.dest written)
    (reads : ∀ addr ∈ next.mem.reads, addr ∈ d.mem.reads ∨ addr ∈ area.reads)
    (stores
      : ∀ addr ∈ next.mem.writes,
          addr ∈ d.mem.writes ∨ d.dest ≤ addr ∧ addr < d.dest + written.length)
    : Decodes area d next rest written := by
  obtain ⟨decodable, notStopped, source, room⟩ := ready
  rw [List.length_append] at source room
  refine ⟨⟨?_, running.trans notStopped, ?_, ?_⟩, writes, dest, reads, ?_⟩
  · rw [src, dest]
    exact decodable.next writes fewer
  · omega
  · omega
  · intro addr member
    refine (stores addr member).imp_right ?_
    rintro ⟨above, below⟩
    exact ⟨by omega, by omega⟩

/-- A character is copied. -/
theorem Ready.copy {c : UInt8} (ready : d.Ready area (c :: rest))
    : Decodes area d d.copy rest [c] := by
  have inside : d.src ∈ area.reads := by
    obtain ⟨-, -, ⟨low, high⟩, -⟩ := ready
    exact ⟨low, by omega⟩
  have here : d.mem.bytes d.src = c := ready.decodable.holds.1
  refine Ready.replace (show d.Ready area ([c] ++ rest) from ready) le_rfl rfl rfl rfl ?_ ?_ ?_
  · exact here ▸ writes_store _ _ _
  · intro addr member
    rcases List.mem_append.mp member with before | now
    · exact Or.inl before
    · exact Or.inr (List.mem_singleton.mp now ▸ inside)
  · intro addr member
    rcases List.mem_append.mp member with before | now
    · exact Or.inl before
    · rw [List.mem_singleton.mp now]
      exact Or.inr ⟨le_rfl, Nat.lt_succ_self _⟩

/-- At the end of the string nothing is copied, else the next character. -/
theorem Ready.copyUnlessEnd (ready : d.Ready area s)
    : Decodes area d d.copyUnlessEnd s.tail s.head?.toList := by
  have looked := ready.look 0 (Nat.zero_le _)
  cases s with
  | nil =>
      have zero : (d.look 0).peek 0 = 0 := looked.ready.decodable.terminator
      simp only [CDecoder.copyUnlessEnd, zero, if_true]
      exact looked
  | cons c rest =>
      have notEnd : (d.look 0).peek 0 ≠ 0 := looked.ready.decodable.head.2
      simp only [CDecoder.copyUnlessEnd, notEnd, if_false]
      exact looked.trans looked.ready.copy

/-- The second character behind the `x` is only read where the first one is not the end. -/
theorem Ready.hexValue (ready : d.Ready area (92 :: 120 :: rest))
    : ∃ mid,
        d.hexValue = (mid, hextobyte (d.peek 2) (d.peek 3))
        ∧ Decodes area d mid (92 :: 120 :: rest) [] := by
  have looked := ready.look 2 (by simp)
  by_cases digit : digitValue (d.peek 2) < 16
  · have longer : 3 ≤ (92 :: 120 :: rest).length := by
      cases rest with
      | nil =>
          have zero : d.peek 2 = 0 := ready.decodable.holds.2.2.1
          rw [zero] at digit
          exact absurd digit (by decide)
      | cons high rest => simp
    exact ⟨_, if_pos digit, looked.trans (looked.ready.look 3 longer)⟩
  · have invalid : hextobyte (d.peek 2) (d.peek 3) = none := if_neg fun both => digit both.1
    rw [invalid]
    exact ⟨_, if_neg digit, looked⟩

/-- What is not a hexadecimal escape is copied, as far as the string goes. -/
theorem Ready.copyMalformed (ready : d.Ready area (92 :: 120 :: rest))
    : Decodes area d d.copy.copy.copyUnlessEnd.copyUnlessEnd rest.tail.tail
        (92 :: 120 :: (rest.head?.toList ++ rest.tail.head?.toList)) := by
  have first := ready.copy
  have second := first.ready.copy
  have third := second.ready.copyUnlessEnd
  exact first.trans (second.trans (third.trans third.ready.copyUnlessEnd))

/-- A hexadecimal escape is decoded as its part is. -/
theorem Ready.hexEscape (ready : d.Ready area (92 :: 120 :: rest))
    : ∃ part rest',
        92 :: 120 :: rest = part.source ++ rest'
        ∧ cParts (92 :: 120 :: rest) = part :: cParts rest'
        ∧ part ≠ .malformed [92]
        ∧ Decodes area d d.hexEscape rest' part.value := by
  obtain ⟨mid, valued, looked⟩ := ready.hexValue
  have copied := looked.trans looked.ready.copyMalformed
  unfold CDecoder.hexEscape
  rw [valued]
  rcases rest with _ | ⟨high, _ | ⟨low, rest⟩⟩
  · have zero : d.peek 2 = 0 := ready.decodable.holds.2.2.1
    rw [zero, (hextobyte_terminator _).1]
    exact ⟨.malformed [92, 120], [], rfl, cParts_cut (by simp), by simp, copied⟩
  · have zero : d.peek 3 = 0 := ready.decodable.holds.2.2.2.1
    rw [zero, (hextobyte_terminator _).2]
    exact ⟨.malformed [92, 120, high], [], rfl, cParts_cut (by simp), by simp, copied⟩
  · obtain ⟨-, -, first, second, -⟩ := ready.decodable.holds
    rw [show d.peek 2 = high from first, show d.peek 3 = low from second]
    cases valid : hextobyte high low with
    | none =>
        exact ⟨.malformed [92, 120, high, low], rest, rfl, cParts_malformed valid rest, by simp,
          copied⟩
    | some value =>
        refine ⟨.hex high low value, rest, rfl, cParts_hex valid rest, by simp, ?_⟩
        have ready' : mid.Ready area ([92, 120, high, low] ++ rest) := looked.ready
        suffices decoded
          : Decodes area mid
              (if value = 0 then ((mid.put 92).put 48).skip 4
                else (mid.put (UInt8.ofNat value)).skip 4)
              rest (CPart.hex high low value).value from
          looked.trans decoded
        rw [CPart.value_hex]
        by_cases zero : value = 0
        · rw [if_pos zero, if_pos zero]
          refine ready'.replace (by simp) rfl rfl rfl
            ((writes_store _ _ 92).append (writes_store _ _ 48)) (fun _ => Or.inl) ?_
          intro addr member
          simp only [skip, put, TracedMemory.store_writes, List.mem_append,
            List.mem_singleton] at member
          simp only [List.length_cons, List.length_nil]
          rcases member with (before | now) | now
          · exact Or.inl before
          · exact Or.inr (by omega)
          · exact Or.inr (by omega)
        · rw [if_neg zero, if_neg zero]
          refine ready'.replace (by simp) rfl rfl rfl (writes_store _ _ _) (fun _ => Or.inl) ?_
          intro addr member
          simp only [skip, put, TracedMemory.store_writes, List.mem_append,
            List.mem_singleton] at member
          refine member.imp_right ?_
          rintro rfl
          exact ⟨le_rfl, Nat.lt_succ_self _⟩

/-- An escape is decoded as its part is. -/
theorem Ready.escape {e : UInt8} (ready : d.Ready area (92 :: e :: rest))
    : ∃ part rest',
        92 :: e :: rest = part.source ++ rest'
        ∧ cParts (92 :: e :: rest) = part :: cParts rest'
        ∧ part ≠ .malformed [92]
        ∧ Decodes area d d.escape rest' part.value := by
  have looked := ready.look 1 (by simp)
  have here : (d.look 1).peek 1 = e := ready.decodable.holds.2.1
  unfold CDecoder.escape
  dsimp only
  rw [here]
  cases valid : decodeOne e with
  | some byte =>
      have ready' : (d.look 1).Ready area ([92, e] ++ rest) := looked.ready
      refine ⟨.letter e byte, rest, rfl, cParts_letter valid rest, by simp, looked.trans ?_⟩
      refine ready'.replace (by simp) rfl rfl rfl (writes_store _ _ _) (fun _ => Or.inl) ?_
      intro addr member
      simp only [skip, put, TracedMemory.store_writes, List.mem_append,
        List.mem_singleton] at member
      refine member.imp_right ?_
      rintro rfl
      exact ⟨le_rfl, Nat.lt_succ_self _⟩
  | none =>
      by_cases hex : e = 120
      · subst hex
        obtain ⟨part, rest', split, parts, whole, decoded⟩ := looked.ready.hexEscape
        exact ⟨part, rest', split, parts, whole, looked.trans decoded⟩
      · refine ⟨.malformed [92, e], rest, rfl, cParts_other valid hex rest, by simp, ?_⟩
        have first := looked.ready.copy
        simp only [hex, if_false]
        exact looked.trans (first.trans first.ready.copy)

/-- In front of the end a round copies a character or looks at what follows a backslash. -/
theorem round_eq (running : d.stopped = false) (notEnd : d.peek 0 ≠ 0)
    : d.round = if d.peek 0 ≠ 92 then (d.look 0).copy else (d.look 0).escape := by
  unfold round
  rw [if_neg (by simp [running])]
  exact if_neg notEnd

/-- A round consumes one part of the string, unless only a backslash is left. -/
theorem Ready.round (ready : d.Ready area s) (left : s ≠ []) (more : s ≠ [92])
    : ∃ part rest,
        s = part.source ++ rest
        ∧ cParts s = part :: cParts rest
        ∧ part ≠ .malformed [92]
        ∧ Decodes area d d.round rest part.value := by
  have looked := ready.look 0 (Nat.zero_le _)
  obtain ⟨c, rest, rfl⟩ := List.exists_cons_of_ne_nil left
  obtain ⟨here, notEnd⟩ := looked.ready.decodable.head
  rw [round_eq ready.running notEnd, show d.peek 0 = c from here]
  by_cases backslash : c = 92
  · subst backslash
    rw [if_neg (by simp)]
    obtain ⟨e, rest, rfl⟩ := List.exists_cons_of_ne_nil (l := rest) (by rintro rfl; exact more rfl)
    obtain ⟨part, rest', split, parts, whole, decoded⟩ := looked.ready.escape
    exact ⟨part, rest', split, parts, whole, looked.trans decoded⟩
  · rw [if_pos backslash]
    exact ⟨.char c, rest, rfl, cParts_plain backslash rest, by simp,
      looked.trans looked.ready.copy⟩

-----------------------------------------------------------------------------------------
-- Runs
-----------------------------------------------------------------------------------------

/-- A stopped decoder stays as it is. -/
theorem run_stopped (stopped : d.stopped = true) (rounds : Nat) : run rounds d = d := by
  induction rounds with
  | zero => rfl
  | succ rounds ih =>
      have same : d.round = d := if_pos stopped
      rw [run, same, ih]

/-- At the end of the string the terminator is written. -/
theorem Ready.stop (ready : d.Ready area [])
    : d.round.stopped = true
      ∧ d.mem.bytes.Writes d.round.mem.bytes d.dest [0]
      ∧ d.mem.Within d.round.mem area.reads area.writes := by
  have looked := ready.look 0 le_rfl
  have zero : (d.look 0).peek 0 = 0 := looked.ready.decodable.terminator
  have body : d.round = { (d.look 0).put 0 with stopped := true } := by
    unfold CDecoder.round
    rw [if_neg (by simp [ready.running])]
    exact if_pos zero
  rw [body]
  refine ⟨rfl, writes_store _ _ _, looked.within.trans ⟨fun _ => Or.inl, ?_⟩⟩
  intro addr member
  obtain ⟨low, high⟩ := ready.room
  rw [List.length_nil] at high
  rcases List.mem_append.mp member with before | now
  · exact Or.inl before
  · rw [List.mem_singleton.mp now]
    exact Or.inr ⟨low, high⟩

/-- Where the string does not end in a lone backslash, the loop ends with every escape replaced and
has stayed in the area all the time, by induction on the bound of its rounds.
-/
theorem Ready.run {rounds : Nat} (ready : d.Ready area s) (whole : ¬EndsInBackslash s)
    : d.mem.Within (CDecoder.run rounds d).mem area.reads area.writes
      ∧ (s.length < rounds
        → (CDecoder.run rounds d).stopped = true
          ∧ d.mem.bytes.Writes (CDecoder.run rounds d).mem.bytes d.dest
              (unescapedText s ++ [0])) := by
  induction rounds generalizing d s with
  | zero => exact ⟨.refl _ _ _, fun short => absurd short (Nat.not_lt_zero _)⟩
  | succ rounds ih =>
      by_cases left : s = []
      · subst left
        obtain ⟨stopped, writes, within⟩ := ready.stop
        rw [CDecoder.run, run_stopped stopped]
        exact ⟨within, fun _ => ⟨stopped, writes⟩⟩
      have more : s ≠ [92] := by
        rintro rfl
        exact whole (by decide)
      obtain ⟨part, rest, split, parts, -, decoded⟩ := ready.round left more
      have shorter := cParts_shorter split parts
      have wholeRest : ¬EndsInBackslash rest := by
        unfold EndsInBackslash at whole ⊢
        rw [parts, List.mem_cons, not_or] at whole
        exact whole.2
      obtain ⟨within, ends⟩ := ih decoded.ready wholeRest
      refine ⟨decoded.within.trans within, ?_⟩
      intro enough
      obtain ⟨stopped, writes⟩ := ends (by omega)
      have text : unescapedText s = part.value ++ unescapedText rest := by
        unfold unescapedText
        rw [parts, List.flatMap_cons]
      refine ⟨stopped, ?_⟩
      rw [text, List.append_assoc]
      exact decoded.writes.append (decoded.dest ▸ writes)

/-- Nothing takes back what has been read. -/
theorem escape_reads (d : CDecoder) : d.mem.reads ⊆ d.escape.mem.reads := by
  intro addr member
  have unlessEnd (d : CDecoder) (before : addr ∈ d.mem.reads)
      : addr ∈ d.copyUnlessEnd.mem.reads := by
    unfold copyUnlessEnd
    dsimp only
    split <;> simp [look, copy, before]
  have hexadecimal (d : CDecoder) (before : addr ∈ d.mem.reads)
      : addr ∈ d.hexEscape.mem.reads := by
    have valued : addr ∈ d.hexValue.1.mem.reads := by
      unfold hexValue
      dsimp only
      split <;> simp [look, before]
    unfold hexEscape
    cases found : d.hexValue with
    | mk next value =>
        rw [found] at valued
        cases value with
        | none => exact unlessEnd _ (unlessEnd _ (by simp [copy, valued]))
        | some value =>
            dsimp only
            split <;> simpa [skip, put] using valued
  unfold escape
  dsimp only
  split
  · simp [look, skip, put, member]
  · split
    · exact hexadecimal _ (by simp [look, member])
    · simp [look, copy, member]

/-- A round of a loop that runs on reads the next character. -/
theorem round_reads (running : d.stopped = false) : d.src ∈ d.round.mem.reads := by
  have looked : d.src ∈ (d.look 0).mem.reads := by simp [look]
  unfold round
  rw [if_neg (by simp [running])]
  dsimp only
  split
  · exact looked
  · split
    · simp [copy, looked]
    · exact escape_reads _ looked

/-- Behind a lone backslash the loop copies the terminator, too, and reads on behind it. -/
theorem Ready.leave (ready : d.Ready area [92])
    : area.src + area.size + 1 ∈ (CDecoder.run 2 d).mem.reads := by
  have looked := ready.look 0 (Nat.zero_le _)
  obtain ⟨here, notEnd⟩ := looked.ready.decodable.head
  have zero : d.peek 1 = 0 := ready.decodable.holds.2.1
  have body : d.round = ((d.look 0).look 1).copy.copy := by
    rw [round_eq ready.running notEnd, show d.peek 0 = 92 from here, if_neg (by simp)]
    unfold CDecoder.escape
    dsimp only
    rw [show ((d.look 0).look 1).peek 1 = 0 from zero]
    rfl
  have place : d.round.src = area.src + area.size + 1 := by
    rw [body, ← ready.source.2]
    rfl
  have running : d.round.stopped = false := by
    rw [body]
    exact ready.running
  rw [← place]
  exact round_reads running

/-- A string that ends in a lone backslash makes the loop read behind its terminator, by induction
on the length of what is left.
-/
theorem Ready.runLeaves {size : Nat} (ready : d.Ready area s) (short : s.length ≤ size)
    (lone : EndsInBackslash s)
    : ∃ rounds, area.src + area.size + 1 ∈ (CDecoder.run rounds d).mem.reads := by
  induction size generalizing d s with
  | zero =>
      obtain rfl := List.length_eq_zero_iff.mp (Nat.le_zero.mp short)
      exact absurd lone (by decide)
  | succ size ih =>
      by_cases last : s = [92]
      · subst last
        exact ⟨2, ready.leave⟩
      have left : s ≠ [] := by
        rintro rfl
        exact absurd lone (by decide)
      obtain ⟨part, rest, split, parts, notLone, decoded⟩ := ready.round left last
      have shorter := cParts_shorter split parts
      have loneRest : EndsInBackslash rest := by
        unfold EndsInBackslash at lone ⊢
        rw [parts, List.mem_cons] at lone
        exact lone.resolve_left notLone.symm
      obtain ⟨rounds, reads⟩ := ih decoded.ready (by omega) loneRest
      exact ⟨rounds + 1, reads⟩

/-- All the time the loop reads no byte outside of the string and its terminator, and writes none
outside of as many bytes of the block; it ends, and leaves the string with every escape replaced.
-/
structure StaysInside (d : CDecoder) (text : Str) : Prop where
  reads
    : ∀ rounds, ∀ addr ∈ (CDecoder.run rounds d).mem.reads,
        d.src ≤ addr ∧ addr ≤ d.src + text.length
  writes
    : ∀ rounds, ∀ addr ∈ (CDecoder.run rounds d).mem.writes,
        d.dest ≤ addr ∧ addr ≤ d.dest + text.length
  result
    : ∃ rounds,
        (CDecoder.run rounds d).stopped = true
        ∧ d.mem.bytes.Writes (CDecoder.run rounds d).mem.bytes d.dest (unescapedText text ++ [0])

/-- The loop is ready where the function starts. -/
theorem ready_start (mem : TracedMemory) (src : CStringAt mem.bytes) {dest : Nat}
    (suits : Suits src dest)
    : Ready ⟨src.addr, dest, src.text.length⟩ { mem, src := src.addr, dest } src.text := by
  refine ⟨⟨src.holds, src.plain, ?_⟩, rfl, ⟨le_rfl, rfl⟩, ⟨le_rfl, le_rfl⟩⟩
  unfold Suits Apart at suits
  rw [List.length_append, List.length_singleton]
  dsimp only
  omega

/-- The loop stays inside of a string unless this ends in a lone backslash. -/
theorem staysInside_iff {mem : ByteMemory} (src : CStringAt mem) {dest : Nat}
    (suits : Suits src dest)
    : StaysInside { mem := { bytes := mem }, src := src.addr, dest } src.text
      ↔ ¬EndsInBackslash src.text := by
  have ready := ready_start { bytes := mem } src suits
  constructor
  · intro inside lone
    obtain ⟨rounds, read⟩ := ready.runLeaves le_rfl lone
    have bound := (inside.reads rounds _ read).2
    dsimp only at bound
    omega
  · intro whole
    refine ⟨?_, ?_, src.text.length + 1, (ready.run whole).2 (Nat.lt_succ_self _)⟩
    · intro rounds
      exact ((ready.run whole).1.all rfl rfl).1
    · intro rounds
      exact ((ready.run whole).1.all rfl rfl).2

end CDecoder

end Gpgme
