import Mathlib.Tactic

/-! Base64 without line breaks: three bytes become four characters, and the last characters are
padded.
-/

/-- A character of the alphabet, or the padding. -/
def Base64.IsCharacter (c : UInt8) : Prop :=
  (65 ≤ c ∧ c ≤ 90) ∨ (97 ≤ c ∧ c ≤ 122) ∨ (48 ≤ c ∧ c ≤ 57) ∨ c = 43 ∨ c = 47 ∨ c = 61

instance (c : UInt8) : Decidable (Base64.IsCharacter c) :=
  inferInstanceAs (Decidable (_ ∨ _))

/-- An encoder and a decoder, with what they promise. -/
structure Base64 where
  encode : List UInt8 → List UInt8
  decode : List UInt8 → List UInt8
  decode_encode : ∀ bytes, decode (encode bytes) = bytes
  length_encode : ∀ bytes, (encode bytes).length = 4 * ((bytes.length + 2) / 3)
  isCharacter_encode : ∀ bytes, ∀ c ∈ encode bytes, Base64.IsCharacter c

namespace Base64

/-- The character of a value below 64. -/
def character (value : Nat) : UInt8 :=
  if value < 26 then UInt8.ofNat (65 + value)
  else if value < 52 then UInt8.ofNat (97 + (value - 26))
  else if value < 62 then UInt8.ofNat (48 + (value - 52))
  else if value = 62 then 43
  else 47

/-- The value of a character. -/
def valueOf (c : UInt8) : Nat :=
  if 65 ≤ c ∧ c ≤ 90 then c.toNat - 65
  else if 97 ≤ c ∧ c ≤ 122 then c.toNat - 97 + 26
  else if 48 ≤ c ∧ c ≤ 57 then c.toNat - 48 + 52
  else if c = 43 then 62
  else 63

def pad : UInt8 := 61

def encodeBytes : List UInt8 → List UInt8
  | [] => []
  | [a] => [character (a.toNat / 4), character (a.toNat % 4 * 16), pad, pad]
  | [a, b] =>
      [character (a.toNat / 4), character (a.toNat % 4 * 16 + b.toNat / 16),
        character (b.toNat % 16 * 4), pad]
  | a :: b :: c :: rest =>
      character (a.toNat / 4)
      :: character (a.toNat % 4 * 16 + b.toNat / 16)
      :: character (b.toNat % 16 * 4 + c.toNat / 64)
      :: character (c.toNat % 64)
      :: encodeBytes rest

def decodeBytes : List UInt8 → List UInt8
  | w :: x :: y :: z :: rest =>
      let a := UInt8.ofNat (valueOf w * 4 + valueOf x / 16)
      let b := UInt8.ofNat (valueOf x % 16 * 16 + valueOf y / 4)
      let c := UInt8.ofNat (valueOf y % 4 * 64 + valueOf z)
      if y = pad then [a] else if z = pad then [a, b] else a :: b :: c :: decodeBytes rest
  | _ => []

theorem character_spec
    : ∀ value < 64,
        valueOf (character value) = value
        ∧ character value ≠ pad
        ∧ IsCharacter (character value) := by
  decide +kernel

theorem valueOf_character {value : Nat} (small : value < 64)
    : valueOf (character value) = value :=
  (character_spec value small).1

theorem character_ne_pad {value : Nat} (small : value < 64) : character value ≠ pad :=
  (character_spec value small).2.1

theorem isCharacter_character {value : Nat} (small : value < 64)
    : IsCharacter (character value) :=
  (character_spec value small).2.2

theorem isCharacter_pad : IsCharacter pad := by decide

theorem ofNat_eq (byte : UInt8) {value : Nat} (same : value = byte.toNat)
    : UInt8.ofNat value = byte := by
  rw [same, UInt8.ofNat_toNat]

theorem decodeBytes_encodeBytes (bytes : List UInt8) : decodeBytes (encodeBytes bytes) = bytes := by
  induction bytes using encodeBytes.induct with
  | case1 => rfl
  | case2 a =>
      have below := a.toNat_lt
      simp only [encodeBytes, decodeBytes, if_pos]
      rw [valueOf_character (by omega), valueOf_character (by omega), ofNat_eq a (by omega)]
  | case3 a b =>
      have below := a.toNat_lt
      have below' := b.toNat_lt
      simp only [encodeBytes, decodeBytes, if_pos]
      rw [if_neg (character_ne_pad (by omega))]
      rw [valueOf_character (by omega), valueOf_character (by omega),
        valueOf_character (by omega), ofNat_eq a (by omega), ofNat_eq b (by omega)]
  | case4 a b c rest ih =>
      have below := a.toNat_lt
      have below' := b.toNat_lt
      have below'' := c.toNat_lt
      simp only [encodeBytes, decodeBytes]
      rw [if_neg (character_ne_pad (by omega)), if_neg (character_ne_pad (by omega))]
      rw [valueOf_character (by omega), valueOf_character (by omega),
        valueOf_character (by omega), valueOf_character (by omega), ofNat_eq a (by omega),
        ofNat_eq b (by omega), ofNat_eq c (by omega), ih]

theorem length_encodeBytes (bytes : List UInt8)
    : (encodeBytes bytes).length = 4 * ((bytes.length + 2) / 3) := by
  induction bytes using encodeBytes.induct with
  | case1 => rfl
  | case2 a => simp [encodeBytes]
  | case3 a b => simp [encodeBytes]
  | case4 a b c rest ih =>
      simp only [encodeBytes, List.length_cons, ih]
      omega

theorem isCharacter_encodeBytes (bytes : List UInt8)
    : ∀ c ∈ encodeBytes bytes, IsCharacter c := by
  induction bytes using encodeBytes.induct with
  | case1 => simp [encodeBytes]
  | case2 a =>
      have below := a.toNat_lt
      simp only [encodeBytes, List.forall_mem_cons]
      exact ⟨isCharacter_character (by omega), isCharacter_character (by omega), isCharacter_pad,
        isCharacter_pad, by simp⟩
  | case3 a b =>
      have below := a.toNat_lt
      have below' := b.toNat_lt
      simp only [encodeBytes, List.forall_mem_cons]
      exact ⟨isCharacter_character (by omega), isCharacter_character (by omega),
        isCharacter_character (by omega), isCharacter_pad, by simp⟩
  | case4 a b c rest ih =>
      have below := a.toNat_lt
      have below' := b.toNat_lt
      have below'' := c.toNat_lt
      simp only [encodeBytes, List.forall_mem_cons]
      exact ⟨isCharacter_character (by omega), isCharacter_character (by omega),
        isCharacter_character (by omega), isCharacter_character (by omega), ih⟩

/-- The codec with the usual alphabet. -/
def standard : Base64 where
  encode := encodeBytes
  decode := decodeBytes
  decode_encode := decodeBytes_encodeBytes
  length_encode := length_encodeBytes
  isCharacter_encode := isCharacter_encodeBytes

theorem encode_nil (codec : Base64) : codec.encode [] = [] :=
  List.eq_nil_of_length_eq_zero (codec.length_encode [])

end Base64
