import Mathlib.Tactic

/-! Words of bytes in a line with a blank between two of them. A percent sign and two digits stand
for a byte in a word, and a plus sign stands for a blank.
-/

namespace PercentWords

/-- The value of a hexadecimal digit. -/
def hexDigit (c : UInt8) : Option Nat :=
  if 48 ≤ c ∧ c ≤ 57 then some (c.toNat - 48)
  else if 65 ≤ c ∧ c ≤ 70 then some (c.toNat - 55)
  else if 97 ≤ c ∧ c ≤ 102 then some (c.toNat - 87)
  else none

/-- Percent-plus decoding; an escape without its digits is left as it is. -/
def decode : List UInt8 → List UInt8
  | [] => []
  | 43 :: s => 32 :: decode s
  | 37 :: high :: low :: s =>
      match hexDigit high, hexDigit low with
      | some x, some y => UInt8.ofNat (16 * x + y) :: decode s
      | _, _ => 37 :: decode (high :: low :: s)
  | c :: s => c :: decode s

/-- A byte that does not start an escape stands for itself. -/
theorem decode_literal {c : UInt8} (noPlus : c ≠ 43) (noPercent : c ≠ 37) (s : List UInt8)
    : decode (c :: s) = c :: decode s := by
  rw [decode]
  · exact fun same => noPlus same
  · intro high low s same
    exact fun _ => noPercent same

/-- How the bytes of a word are written so that decoding gives them back and no blank stands for
itself.
-/
structure Encoding where
  encode : UInt8 → List UInt8
  decodes : ∀ c rest, decode (encode c ++ rest) = c :: decode rest
  noBlank : ∀ c, 32 ∉ encode c

namespace Encoding

variable (encoding : Encoding)

def word (s : List UInt8) : List UInt8 := s.flatMap encoding.encode

/-- Decoding gives a word back, by induction on it. -/
theorem decode_word (s : List UInt8) : decode (encoding.word s) = s := by
  induction s with
  | nil => rfl
  | cons c s ih =>
      rw [word, List.flatMap_cons, encoding.decodes]
      exact congrArg (c :: ·) ih

/-- No word contains a blank. -/
theorem blank_notMem_word (s : List UInt8) : 32 ∉ encoding.word s := by
  intro member
  obtain ⟨c, -, blank⟩ := List.mem_flatMap.mp member
  exact encoding.noBlank c blank

/-- The line of some words. -/
def line (words : List (List UInt8)) : List UInt8 :=
  List.intercalate [32] (words.map encoding.word)

/-- A line is split into its words. -/
theorem words_line {words : List (List UInt8)} (some : words ≠ [])
    : ((encoding.line words).splitOn 32).map decode = words := by
  have separate : ∀ text ∈ words.map encoding.word, 32 ∉ text := by
    intro text member
    obtain ⟨s, -, rfl⟩ := List.mem_map.mp member
    exact encoding.blank_notMem_word s
  have written : words.map encoding.word ≠ [] := by
    rw [ne_eq, List.map_eq_nil_iff]
    exact some
  rw [line, List.splitOn_intercalate 32 separate written, List.map_map]
  calc
    words.map (decode ∘ encoding.word) = words.map id :=
      List.map_congr_left (fun s _ => encoding.decode_word s)
    _ = words := List.map_id words

end Encoding

end PercentWords
