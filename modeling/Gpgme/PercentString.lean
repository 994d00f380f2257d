import Gpgme.Conversion
import Gpgme.Lib.ByteMemory

/-! `_gpgme_decode_percent_string` and `_gpgme_encode_percent_string` of `conversion.c` as loops
over a memory, in which the result may be written over the string that is decoded.
-/

namespace Gpgme

open ByteMemory

-----------------------------------------------------------------------------------------
-- The functions
-----------------------------------------------------------------------------------------

/-- The buffer for `size` bytes: `*DESTP` with a length that the caller gives, or a new block. -/
def percentBuffer (malloc : Nat → Option Nat) (destp len size : Nat) : Except GpgError Nat :=
  if len ≠ 0 then
    if len < size then .error (gpgError ErrCode.internal) else .ok destp
  else
    match malloc size with
    | none => .error (gpgError ErrCode.enomem)
    | some block => .ok block

/-- The memory behind a conversion, its result and the number of bytes that it wrote. -/
structure Converted where
  mem : ByteMemory
  dest : Nat
  count : Nat

/-- `*(dest++) = *(src++)`, without the steps of the pointers. -/
def copyByte (mem : ByteMemory) (src dest : Nat) : ByteMemory := mem.store dest (mem src)

/-- The loop of `_gpgme_decode_percent_string`, with the end of what it writes. -/
def decodeLoop (binary : Bool) : Nat → ByteMemory → Nat → Nat → Option (ByteMemory × Nat)
  | 0, _, _, _ => none
  | rounds + 1, mem, src, dest =>
      if mem src = 0 then some (mem.store dest 0, dest + 1)
      else if mem src ≠ 37 then
        decodeLoop binary rounds (copyByte mem src dest) (src + 1) (dest + 1)
      else
        match hextobyte (mem (src + 1)) (mem (src + 2)) with
        | none =>
            let mem := copyByte mem src dest
            if mem (src + 1) = 0 then decodeLoop binary rounds mem (src + 1) (dest + 1)
            else
              let mem := copyByte mem (src + 1) (dest + 1)
              if mem (src + 2) = 0 then decodeLoop binary rounds mem (src + 2) (dest + 2)
              else
                let mem := copyByte mem (src + 2) (dest + 2)
                decodeLoop binary rounds mem (src + 3) (dest + 3)
        | some value =>
            if value = 0 ∧ ¬ binary then
              let mem := (mem.store dest 92).store (dest + 1) 48
              decodeLoop binary rounds mem (src + 3) (dest + 2)
            else
              decodeLoop binary rounds (mem.store dest (UInt8.ofNat value)) (src + 3) (dest + 1)

/-- `_gpgme_decode_percent_string`; each round consumes a character of the string. -/
def decodePercentMemory (malloc : Nat → Option Nat) (mem : ByteMemory) (src : CStringAt mem)
    (destp len : Nat) (binary : Bool)
    : Option (Except GpgError Converted) :=
  match percentBuffer malloc destp len (src.text.length + 1) with
  | .error err => some (.error err)
  | .ok dest =>
      (decodeLoop binary (src.text.length + 1) mem src.addr dest).map
        (fun (mem, last) => .ok { mem, dest, count := last - dest })

/-- The characters that are escaped: `+`, the quote, `%`, and all up to the blank. -/
def isEscaped (c : UInt8) : Bool := c == 43 || c == 34 || c == 37 || c ≤ 32

/-- The size of the escaped string that is computed beforehand, with the terminator. -/
def escapedSize : Str → Nat
  | [] => 1
  | c :: rest => (if isEscaped c then 3 else 1) + escapedSize rest

/-- A digit that `%02X` prints. -/
def upperHexDigit (value : Nat) : UInt8 := UInt8.ofNat (if value < 10 then 48 + value else 55 + value)

/-- `snprintf (dest, 4, "%%%02X", c)`, which writes a terminator, too. -/
def printEscape (mem : ByteMemory) (dest : Nat) (c : UInt8) : ByteMemory :=
  (((mem.store dest 37).store (dest + 1) (upperHexDigit (c.toNat / 16))).store (dest + 2)
    (upperHexDigit (c.toNat % 16))).store (dest + 3) 0

/-- The loop of `_gpgme_encode_percent_string`. -/
def encodeLoop : Nat → ByteMemory → Nat → Nat → Option (ByteMemory × Nat)
  | 0, _, _, _ => none
  | rounds + 1, mem, src, dest =>
      if mem src = 0 then some (mem.store dest 0, dest + 1)
      else if isEscaped (mem src) then
        encodeLoop rounds (printEscape mem dest (mem src)) (src + 1) (dest + 3)
      else
        encodeLoop rounds (copyByte mem src dest) (src + 1) (dest + 1)

/-- `_gpgme_encode_percent_string`. -/
def encodePercentMemory (malloc : Nat → Option Nat) (mem : ByteMemory) (src : CStringAt mem)
    (destp len : Nat)
    : Option (Except GpgError Converted) :=
  match percentBuffer malloc destp len (escapedSize src.text) with
  | .error err => some (.error err)
  | .ok dest =>
      (encodeLoop (src.text.length + 1) mem src.addr dest).map
        (fun (mem, last) => .ok { mem, dest, count := last - dest })

-----------------------------------------------------------------------------------------
-- What the decoder makes of a string
-----------------------------------------------------------------------------------------

/-- The string that the decoder leaves. -/
def decodedText (binary : Bool) (s : Str) : List UInt8 :=
  if binary then decodePercentBinary s else decodePercentString s

/-- What stands for an escaped byte. -/
def unescaped (binary : Bool) (value : Nat) : List UInt8 :=
  if value = 0 ∧ ¬ binary then [92, 48] else [UInt8.ofNat value]

/-- The empty string. -/
@[simp]
theorem decodedText_nil (binary : Bool) : decodedText binary [] = [] := by
  cases binary <;> rfl

/-- A character other than a percent sign stands for itself. -/
theorem decodedText_plain (binary : Bool) {c : UInt8} (plain : c ≠ 37) (rest : Str)
    : decodedText binary (c :: rest) = c :: decodedText binary rest := by
  cases binary with
  | false => exact (decodePercentString.eq_def _).trans (if_pos plain)
  | true => exact (decodePercentBinary.eq_def _).trans (if_pos plain)

/-- An escape that is cut off stands for itself. -/
theorem decodedText_cut (binary : Bool) {rest : Str} (short : rest.length < 2)
    : decodedText binary (37 :: rest) = 37 :: rest := by
  match rest with
  | [] => cases binary <;> rfl
  | [high] => cases binary <;> rfl

/-- A percent sign without two digits stands for itself. -/
theorem decodedText_invalid (binary : Bool) {high low : UInt8} (invalid : hextobyte high low = none)
    (rest : Str)
    : decodedText binary (37 :: high :: low :: rest)
      = 37 :: high :: low :: decodedText binary rest := by
  cases binary <;> simp [decodedText, decodePercentString, decodePercentBinary, invalid]

/-- A percent sign with two digits is a byte. -/
theorem decodedText_escape (binary : Bool) {high low : UInt8} {value : Nat}
    (valid : hextobyte high low = some value) (rest : Str)
    : decodedText binary (37 :: high :: low :: rest)
      = unescaped binary value ++ decodedText binary rest := by
  cases value <;> cases binary <;>
    simp [decodedText, decodePercentString, decodePercentBinary, unescaped, valid]

/-- Two characters of which one is the terminator are no escape. -/
theorem hextobyte_terminator (high : UInt8) : hextobyte 0 high = none ∧ hextobyte high 0 = none := by
  have zero : CString.digitValue 0 = 255 := by decide
  constructor <;> simp [hextobyte, zero]

-----------------------------------------------------------------------------------------
-- The decoder
-----------------------------------------------------------------------------------------

/-- The loop has the string that starts at `src` in front of it, and may write from `dest` on. -/
structure Decodable (mem : ByteMemory) (src dest : Nat) (s : Str) : Prop where
  holds : mem.Holds src (s ++ [0])
  plain : ∀ c ∈ s, c ≠ 0
  clear : dest ≤ src ∨ src + (s ++ [0]).length ≤ dest

section Decoder

variable {mem mem' : ByteMemory} {src dest : Nat}

/-- A round that consumes characters leaves the rest of the string to the next one. -/
theorem Decodable.next {consumed rest : Str} {written : List UInt8}
    (ready : Decodable mem src dest (consumed ++ rest)) (writes : mem.Writes mem' dest written)
    (fewer : written.length ≤ consumed.length)
    : Decodable mem' (src + consumed.length) (dest + written.length) rest := by
  obtain ⟨holds, plain, clear⟩ := ready
  rw [List.append_assoc] at holds clear
  obtain ⟨holds', clear'⟩ := writes.moves holds fewer clear
  exact ⟨holds', fun c member => plain c (List.mem_append_right _ member), clear'⟩

/-- A round of the loop consumes characters and writes what they stand for. -/
structure DecodeRound (binary : Bool) (mem : ByteMemory) (src dest : Nat) (s consumed rest : Str)
    (written : List UInt8) (mid : ByteMemory)
    : Prop where
  split : s = consumed ++ rest
  progress : consumed ≠ []
  fewer : written.length ≤ consumed.length
  writes : mem.Writes mid dest written
  text : decodedText binary s = written ++ decodedText binary rest
  round : ∀ rounds,
    decodeLoop binary (rounds + 1) mem src dest
      = decodeLoop binary rounds mid (src + consumed.length) (dest + written.length)

/-- A byte is copied, and the rest of the string stays. -/
theorem Decodable.copyByte {c : UInt8} {rest : Str} (ready : Decodable mem src dest (c :: rest))
    : mem.Writes (Gpgme.copyByte mem src dest) dest [c]
      ∧ Decodable (Gpgme.copyByte mem src dest) (src + 1) (dest + 1) rest := by
  have here : mem src = c := ready.holds.1
  have writes : mem.Writes (Gpgme.copyByte mem src dest) dest [c] := here ▸ writes_store mem dest _
  exact ⟨writes, Decodable.next (show Decodable mem src dest ([c] ++ rest) from ready) writes le_rfl⟩

/-- The first character of what is left is the one that the loop looks at. -/
theorem Decodable.head {c : UInt8} {rest : Str} (ready : Decodable mem src dest (c :: rest))
    : mem src = c ∧ mem src ≠ 0 :=
  ⟨ready.holds.1, ready.holds.1 ▸ ready.plain c List.mem_cons_self⟩

/-- At the end of the string stands the terminator. -/
theorem Decodable.terminator (ready : Decodable mem src dest []) : mem src = 0 := ready.holds.1

/-- What is left of a string has a round, and which one it is depends on its first characters. -/
theorem Decodable.round {s : Str} (binary : Bool) (ready : Decodable mem src dest s) (left : s ≠ [])
    : ∃ consumed rest written mid,
        DecodeRound binary mem src dest s consumed rest written mid := by
  match s, left, ready with
  | c :: rest, _, ready =>
      obtain ⟨here, notEnd⟩ := ready.head
      obtain ⟨first, second⟩ := ready.copyByte
      by_cases percent : c = 37
      · subst percent
        match rest, ready, second with
        | [], ready, second =>
            have next : mem (src + 1) = 0 := ready.holds.2.1
            refine ⟨[37], [], [37], _, rfl, by simp, le_rfl, first, ?_, ?_⟩
            · simp [decodedText_cut]
            · intro rounds
              simp [decodeLoop, here, next, second.terminator, hextobyte_terminator]
        | [high], ready, second =>
            have next : mem (src + 2) = 0 := ready.holds.2.2.1
            obtain ⟨copied, third⟩ := second.copyByte
            refine ⟨[37, high], [], [37, high], _, rfl, by simp, le_rfl, first.append copied, ?_, ?_⟩
            · simp [decodedText_cut]
            · intro rounds
              simp [decodeLoop, here, next, second.head.2, third.terminator, hextobyte_terminator]
        | high :: low :: rest, ready, second =>
            obtain ⟨-, high', low', -⟩ := ready.holds
            cases valid : hextobyte high low with
            | none =>
                obtain ⟨copied, third⟩ := second.copyByte
                obtain ⟨copied', -⟩ := third.copyByte
                refine ⟨[37, high, low], rest, [37, high, low], _, rfl, by simp, le_rfl,
                  (first.append copied).append copied', decodedText_invalid binary valid rest, ?_⟩
                intro rounds
                simp [decodeLoop, here, high', low', valid, second.head.2, third.head.2]
            | some value =>
                by_cases zero : value = 0 ∧ ¬ binary
                · refine ⟨[37, high, low], rest, [92, 48], _, rfl, by simp, by simp,
                    (writes_store mem dest 92).append (writes_store _ (dest + 1) 48), ?_, ?_⟩
                  · rw [decodedText_escape binary valid, unescaped, if_pos zero]
                  · intro rounds
                    simp [decodeLoop, here, high', low', valid, zero]
                · refine ⟨[37, high, low], rest, [UInt8.ofNat value], _, rfl, by simp, by simp,
                    writes_store mem dest _, ?_, ?_⟩
                  · rw [decodedText_escape binary valid, unescaped, if_neg zero]
                  · intro rounds
                    simp only [decodeLoop, here, high', low', valid, if_neg zero]
                    simp
      · refine ⟨[c], rest, [c], _, rfl, by simp, le_rfl, first,
          decodedText_plain binary percent rest, ?_⟩
        intro rounds
        rw [decodeLoop, if_neg notEnd, if_pos (by rw [here]; exact percent)]
        rfl

/-- The loop ends, by induction on the bound of its rounds; the string and its terminator are as
the decoder defines them.
-/
theorem decodeLoop_writes (binary : Bool) {rounds : Nat} {s : Str} (enough : s.length < rounds)
    (ready : Decodable mem src dest s)
    : ∃ mem',
        decodeLoop binary rounds mem src dest
          = some (mem', dest + (decodedText binary s).length + 1)
        ∧ mem.Writes mem' dest (decodedText binary s ++ [0]) := by
  induction rounds generalizing mem src dest s with
  | zero => omega
  | succ rounds ih =>
      rcases eq_or_ne s [] with rfl | left
      · refine ⟨mem.store dest 0, ?_, ?_⟩
        · simp [decodeLoop, ready.terminator]
        · rw [decodedText_nil]
          exact writes_store mem dest 0
      · obtain ⟨consumed, rest, written, mid, round⟩ := ready.round binary left
        have progress := List.length_pos_iff.mpr round.progress
        have shorter : rest.length < rounds := by
          rw [round.split, List.length_append] at enough
          omega
        have later := Decodable.next (round.split ▸ ready) round.writes round.fewer
        obtain ⟨mem', ran, behind⟩ := ih shorter later
        rw [round.round, ran, round.text, List.append_assoc, List.length_append]
        exact ⟨mem', by rw [Nat.add_assoc dest], round.writes.append behind⟩

end Decoder

-----------------------------------------------------------------------------------------
-- The encoder
-----------------------------------------------------------------------------------------

/-- What the encoder writes for a character. -/
def escapedChar (c : UInt8) : List UInt8 :=
  if isEscaped c then [37, upperHexDigit (c.toNat / 16), upperHexDigit (c.toNat % 16)] else [c]

/-- The string that the encoder leaves. -/
def escapedText (s : Str) : Str := s.flatMap escapedChar

/-- The size that is computed beforehand is that of the string and its terminator. -/
theorem escapedSize_eq (s : Str) : escapedSize s = (escapedText s).length + 1 := by
  induction s with
  | nil => rfl
  | cons c rest ih =>
      have split : escapedText (c :: rest) = escapedChar c ++ escapedText rest := List.flatMap_cons
      rw [escapedSize, ih, split, List.length_append, escapedChar]
      split <;> simp <;> omega

/-- A digit is none of the characters that are escaped, and the decoder reads its value. -/
theorem upperHexDigit_spec {value : Nat} (small : value < 16)
    : isEscaped (upperHexDigit value) = false
      ∧ CString.digitValue (upperHexDigit value) = value := by
  interval_cases value <;> decide

/-- The two digits of a byte are read back. -/
theorem hextobyte_upperHexDigit (c : UInt8)
    : hextobyte (upperHexDigit (c.toNat / 16)) (upperHexDigit (c.toNat % 16)) = some c.toNat := by
  have below := c.toNat_lt
  have high := (upperHexDigit_spec (show c.toNat / 16 < 16 by omega)).2
  have low := (upperHexDigit_spec (show c.toNat % 16 < 16 by omega)).2
  unfold hextobyte
  rw [high, low, if_pos (by omega)]
  congr 1
  omega

/-- The encoded string has none of the characters that are escaped, but for the percent sign. -/
theorem escapedText_plain {s : Str} {c : UInt8} (member : c ∈ escapedText s)
    : c ≠ 43 ∧ c ≠ 34 ∧ 32 < c := by
  have unescaped {c : UInt8} (clean : isEscaped c = false) : c ≠ 43 ∧ c ≠ 34 ∧ 32 < c := by
    simp only [isEscaped, Bool.or_eq_false_iff, beq_eq_false_iff_ne, ne_eq,
      decide_eq_false_iff_not, UInt8.not_le] at clean
    exact ⟨clean.1.1.1, clean.1.1.2, clean.2⟩
  obtain ⟨source, _, member⟩ := List.mem_flatMap.mp member
  have below := source.toNat_lt
  unfold escapedChar at member
  split at member
  · simp only [List.mem_cons, List.not_mem_nil, or_false] at member
    rcases member with rfl | rfl | rfl
    · decide
    · exact unescaped (upperHexDigit_spec (by omega)).1
    · exact unescaped (upperHexDigit_spec (by omega)).1
  · next clean =>
      obtain rfl := List.mem_singleton.mp member
      exact unescaped (by simpa using clean)

/-- Decoding undoes the encoding of a string without zeros. -/
theorem decodedText_escapedText (binary : Bool) {s : Str} (plain : ∀ c ∈ s, c ≠ 0)
    : decodedText binary (escapedText s) = s := by
  induction s with
  | nil => exact decodedText_nil binary
  | cons c rest ih =>
      have nonzero : c.toNat ≠ 0 := by
        intro zero
        exact plain c List.mem_cons_self (UInt8.toNat_inj.mp zero)
      have later := ih fun other member => plain other (List.mem_cons_of_mem _ member)
      rw [escapedText, List.flatMap_cons, ← escapedText]
      unfold escapedChar
      split
      · rw [List.cons_append, List.cons_append, List.singleton_append,
          decodedText_escape binary (hextobyte_upperHexDigit c), later, unescaped,
          if_neg (fun zero => nonzero zero.1)]
        simp
      · next clean =>
          have percent : c ≠ 37 := by
            rintro rfl
            exact clean (by decide)
          rw [List.singleton_append, decodedText_plain binary percent, later]

/-- The loop ends, by induction on the string; a buffer of the computed size that is apart from
the string is written to, and nothing else.
-/
theorem encodeLoop_writes {mem : ByteMemory} {src dest rounds : Nat} {s : Str}
    (enough : s.length < rounds) (holds : mem.Holds src (s ++ [0])) (plain : ∀ c ∈ s, c ≠ 0)
    (apart : Apart dest (escapedSize s) src (s.length + 1))
    : ∃ mem',
        encodeLoop rounds mem src dest = some (mem', dest + escapedSize s)
        ∧ mem.Writes mem' dest (escapedText s ++ [0]) := by
  induction s generalizing mem src dest rounds with
  | nil =>
      obtain ⟨rounds, rfl⟩ := Nat.exists_eq_succ_of_ne_zero (Nat.ne_zero_of_lt enough)
      have ends : mem src = 0 := holds.1
      refine ⟨mem.store dest 0, ?_, writes_store mem dest 0⟩
      simp [encodeLoop, ends, escapedSize]
  | cons c rest ih =>
      obtain ⟨rounds, rfl⟩ := Nat.exists_eq_succ_of_ne_zero (Nat.ne_zero_of_lt enough)
      obtain ⟨here, later⟩ := holds
      have notEnd : mem src ≠ 0 := here ▸ plain c List.mem_cons_self
      have plain' : ∀ other ∈ rest, other ≠ 0 :=
        fun other member => plain other (List.mem_cons_of_mem _ member)
      have positive := escapedSize_eq rest
      have shorter : rest.length < rounds := Nat.lt_of_succ_lt_succ enough
      simp only [List.length_cons, Apart, escapedSize] at apart
      rw [encodeLoop, if_neg notEnd, here, escapedText, List.flatMap_cons,
        ← escapedText, escapedSize, escapedChar, List.append_assoc]
      by_cases escaped : isEscaped c = true
      · rw [if_pos escaped] at apart
        rw [if_pos escaped, if_pos escaped, if_pos escaped]
        have printed : mem.Writes (printEscape mem dest c) dest
            ([37, upperHexDigit (c.toNat / 16), upperHexDigit (c.toNat % 16)] ++ [0]) :=
          (((writes_store mem dest 37).store _).store _).store 0
        have kept := printed.keeps (by simp [Apart]; omega) later
        have apart' : Apart (dest + 3) (escapedSize rest) (src + 1) (rest.length + 1) := by
          unfold Apart
          omega
        obtain ⟨mem', ran, behind⟩ := ih shorter kept plain' apart'
        exact ⟨mem', by rw [ran, Nat.add_assoc], printed.overwrite behind (by simp)⟩
      · rw [if_neg escaped] at apart
        rw [if_neg escaped, if_neg escaped, if_neg escaped]
        have copied : mem.Writes (copyByte mem src dest) dest [c] :=
          here ▸ writes_store mem dest _
        have kept := copied.keeps (by simp [Apart]; omega) later
        have apart' : Apart (dest + 1) (escapedSize rest) (src + 1) (rest.length + 1) := by
          unfold Apart
          omega
        obtain ⟨mem', ran, behind⟩ := ih shorter kept plain' apart'
        exact ⟨mem', by rw [ran, Nat.add_assoc], copied.append behind⟩

-----------------------------------------------------------------------------------------
-- The functions
-----------------------------------------------------------------------------------------

/-- Decoding never makes a string longer, by induction on its length. -/
theorem decodedText_length_le (binary : Bool) (s : Str)
    : (decodedText binary s).length ≤ s.length := by
  induction count : s.length using Nat.strong_induction_on generalizing s with
  | _ count ih =>
      subst count
      match s with
      | [] => simp
      | c :: rest =>
          by_cases percent : c = 37
          · subst percent
            match rest with
            | [] => simp [decodedText_cut]
            | [high] => simp [decodedText_cut]
            | high :: low :: rest =>
                have later := ih rest.length (by simp; omega) rest rfl
                cases valid : hextobyte high low with
                | none =>
                    rw [decodedText_invalid binary valid]
                    simp only [List.length_cons]
                    omega
                | some value =>
                    have short : (unescaped binary value).length ≤ 2 := by
                      unfold unescaped
                      split <;> simp
                    rw [decodedText_escape binary valid, List.length_append]
                    simp only [List.length_cons]
                    omega
          · have later := ih rest.length (by simp) rest rfl
            rw [decodedText_plain binary percent]
            simpa using later

/-- A block that the string is decoded into: its own place, or one that is apart from it. -/
def Suits {mem : ByteMemory} (src : CStringAt mem) (dest : Nat) : Prop :=
  dest = src.addr ∨ Apart dest (src.text.length + 1) src.addr (src.text.length + 1)

/-- `_gpgme_decode_percent_string` for a block that it is given or that it allocates. -/
theorem decodePercentMemory_writes {mem : ByteMemory} {src : CStringAt mem} {dest : Nat}
    {malloc : Nat → Option Nat} {destp len : Nat} (binary : Bool)
    (buffer : percentBuffer malloc destp len (src.text.length + 1) = .ok dest)
    (suits : Suits src dest)
    : ∃ mem',
        decodePercentMemory malloc mem src destp len binary
          = some (.ok ⟨mem', dest, (decodedText binary src.text).length + 1⟩)
        ∧ mem.Writes mem' dest (decodedText binary src.text ++ [0]) := by
  have ready : Decodable mem src.addr dest src.text := by
    refine ⟨src.holds, src.plain, ?_⟩
    unfold Suits Apart at suits
    rw [List.length_append, List.length_singleton]
    omega
  obtain ⟨mem', ran, writes⟩ := decodeLoop_writes binary (Nat.lt_succ_self _) ready
  refine ⟨mem', ?_, writes⟩
  simp only [decodePercentMemory, buffer, ran, Option.map_some]
  rw [Nat.add_assoc, Nat.add_sub_cancel_left]

/-- `_gpgme_encode_percent_string` for a block that it is given or that it allocates. -/
theorem encodePercentMemory_writes {mem : ByteMemory} {src : CStringAt mem} {dest : Nat}
    {malloc : Nat → Option Nat} {destp len : Nat}
    (buffer : percentBuffer malloc destp len (escapedSize src.text) = .ok dest)
    (apart : Apart dest (escapedSize src.text) src.addr (src.text.length + 1))
    : ∃ mem',
        encodePercentMemory malloc mem src destp len
          = some (.ok ⟨mem', dest, escapedSize src.text⟩)
        ∧ mem.Writes mem' dest (escapedText src.text ++ [0]) := by
  obtain ⟨mem', ran, writes⟩ :=
    encodeLoop_writes (Nat.lt_succ_self _) src.holds src.plain apart
  refine ⟨mem', ?_, writes⟩
  simp only [encodePercentMemory, buffer, ran, Option.map_some]
  rw [Nat.add_sub_cancel_left]

/-- What the encoder leaves, decoded with either setting, is the string again. The encoded text
has no plus, no quote and nothing up to the blank, and its size is the computed one. The decoder
never writes more than the size of the string that it decodes, and in place it does the same as in
a separate block.
-/
theorem percentStrings (mem : ByteMemory) (src : CStringAt mem)
    : (∀ malloc destp len dest,
        percentBuffer malloc destp len (escapedSize src.text) = .ok dest
        → Apart dest (escapedSize src.text) src.addr (src.text.length + 1)
        → ∃ mem', ∃ encoded : CStringAt mem',
            encodePercentMemory malloc mem src destp len
              = some (.ok ⟨mem', dest, escapedSize src.text⟩)
            ∧ mem.Writes mem' dest (encoded.text ++ [0])
            ∧ escapedSize src.text = encoded.text.length + 1
            ∧ encoded.addr = dest
            ∧ (∀ c ∈ encoded.text, c ≠ 43 ∧ c ≠ 34 ∧ 32 < c)
            ∧ ∀ malloc destp len dest binary,
                percentBuffer malloc destp len (encoded.text.length + 1) = .ok dest
                → Suits encoded dest
                → ∃ mem'',
                    decodePercentMemory malloc mem' encoded destp len binary
                      = some (.ok ⟨mem'', dest, src.text.length + 1⟩)
                    ∧ mem'.Writes mem'' dest (src.text ++ [0]))
      ∧ ∀ binary, ∃ bytes : List UInt8,
          bytes.length ≤ src.text.length + 1
          ∧ ∀ malloc destp len dest,
              percentBuffer malloc destp len (src.text.length + 1) = .ok dest
              → Suits src dest
              → ∃ mem',
                  decodePercentMemory malloc mem src destp len binary
                    = some (.ok ⟨mem', dest, bytes.length⟩)
                  ∧ mem.Writes mem' dest bytes := by
  constructor
  · intro malloc destp len dest buffer apart
    obtain ⟨mem', ran, writes⟩ := encodePercentMemory_writes buffer apart
    have plain : ∀ c ∈ escapedText src.text, c ≠ 0 := by
      rintro c member rfl
      exact absurd (escapedText_plain member).2.2 (by decide)
    refine ⟨mem', writes.string plain, ran, writes, escapedSize_eq _, rfl,
      fun c member => escapedText_plain member, ?_⟩
    intro malloc destp len dest binary buffer suits
    have decoded := decodePercentMemory_writes binary buffer suits
    rwa [show (writes.string plain).text = escapedText src.text from rfl,
      decodedText_escapedText binary src.plain] at decoded
  · intro binary
    refine ⟨decodedText binary src.text ++ [0], ?_, ?_⟩
    · have shorter := decodedText_length_le binary src.text
      rw [List.length_append]
      simpa using shorter
    · intro malloc destp len dest buffer suits
      rw [List.length_append]
      exact decodePercentMemory_writes binary buffer suits

/-- A memory that holds "a+" at address 0. -/
def plusMemory : ByteMemory := fun addr => if addr = 0 then 97 else if addr = 1 then 43 else 0

def plusString : CStringAt plusMemory where
  addr := 0
  text := [97, 43]
  holds := ⟨rfl, rfl, rfl, trivial⟩
  plain := by simp

/-- The string is encoded into a new block, and the result is decoded in its own place. -/
theorem percentStrings_plus
    : ∃ mem', ∃ encoded : CStringAt mem',
        encodePercentMemory (fun _ => some 8) plusMemory plusString 0 0
          = some (.ok ⟨mem', 8, 5⟩)
        ∧ ∃ mem'',
            decodePercentMemory (fun _ => none) mem' encoded 8 (encoded.text.length + 1) false
              = some (.ok ⟨mem'', 8, 3⟩) := by
  obtain ⟨mem', encoded, ran, _, _, place, _, decodes⟩ :=
    (percentStrings plusMemory plusString).1 (fun _ => some 8) 0 0 8 rfl (Or.inr (by decide))
  have buffer : percentBuffer (fun _ => none) 8 (encoded.text.length + 1) (encoded.text.length + 1)
      = .ok 8 := by
    simp [percentBuffer]
  obtain ⟨mem'', ran', _⟩ := decodes _ _ _ _ false buffer (Or.inl place.symm)
  exact ⟨mem', encoded, ran, mem'', ran'⟩

end Gpgme
