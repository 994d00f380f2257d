import Gpgme.Data.Packets

/-! `parsetlv.c`, the BER headers that it reads, and encodings that it has to read. -/

namespace Gpgme

-----------------------------------------------------------------------------------------
-- The function
-----------------------------------------------------------------------------------------

/-- `tlvinfo_t`. -/
structure TlvInfo where
  cls : Nat
  tag : Int
  isCons : Bool
  isNdef : Bool
  length : Nat
  nhdr : Nat
deriving DecidableEq

/-- The octets of a tag in the long form, which end with the first one below 128. -/
def longTag : List UInt8 → Nat → Nat → Option (Nat × List UInt8 × Nat)
  | [], _, _ => none
  | c :: buf, tag, nhdr =>
      let tag := tag * 128 % 2 ^ 64 + c.toNat % 128
      if c < 128 then some (tag, buf, nhdr + 1) else longTag buf tag (nhdr + 1)

/-- The octets of a length in the long form. There are at most eight, so nothing is shifted out. -/
def longLength : Nat → Nat → List UInt8 → Option (Nat × List UInt8)
  | 0, len, buf => some (len, buf)
  | _ + 1, _, [] => none
  | count + 1, len, c :: buf => longLength count (len * 256 + c.toNat) buf

/-- The tag, what follows it and the number of octets so far. -/
def tagOctets (c : UInt8) (buf : List UInt8) : Option (Nat × List UInt8 × Nat) :=
  if c.toNat % 32 = 31 then longTag buf 0 1 else some (c.toNat % 32, buf, 1)

/-- The end of the function for an object whose tag has been read. -/
def lengthOctets (ti : TlvInfo) : List UInt8 → Option (TlvInfo × List UInt8)
  | [] => none
  | c :: buf =>
      let ti := { ti with nhdr := ti.nhdr + 1 }
      if c < 128 then some ({ ti with length := c.toNat }, buf)
      else if c = 128 then some ({ ti with isNdef := true }, buf)
      else if c = 255 then none
      else
        let count := c.toNat % 128
        if 8 < count then none
        else
          (longLength count 0 buf).map fun (len, buf) =>
            ({ ti with length := len, nhdr := ti.nhdr + count }, buf)

/-- `_gpgme_parse_tlv`. The buffer is the list of the bytes up to its end, so that its size is their
number. There is no result where the source returns -1.
-/
def parseTlv : List UInt8 → Option (TlvInfo × List UInt8)
  | [] => none
  | c :: buf =>
      (tagOctets c buf).bind fun (tag, buf, nhdr) =>
        lengthOctets
          {
            cls := c.toNat / 64
            tag := CInt.toInt tag
            isCons := c.toNat / 32 % 2 = 1
            isNdef := false
            length := 0
            nhdr
          }
          buf

-----------------------------------------------------------------------------------------
-- Encodings
-----------------------------------------------------------------------------------------

/-- How the length of an encoding is given. The long form may have leading zeros. -/
inductive LengthForm where
  | short
  | long (count : Nat)
  | indefinite
deriving DecidableEq

namespace LengthForm

/-- The contents for which a form can be used; only a constructed encoding has an end of its own. -/
def Fits (form : LengthForm) (identifier : UInt8) (length : Nat) : Prop :=
  match form with
  | short => length < 128
  | long count => 1 ≤ count ∧ count ≤ 126 ∧ length < 256 ^ count
  | indefinite => identifier.toNat / 32 % 2 = 1

def octets (form : LengthForm) (length : Nat) : List UInt8 :=
  match form with
  | short => [UInt8.ofNat length]
  | long count => UInt8.ofNat (128 + count) :: bigEndian count length
  | indefinite => [128]

/-- The end-of-contents octets. -/
def ending : LengthForm → List UInt8
  | indefinite => [0, 0]
  | _ => []

/-- The number of length octets that are counted by the first one. -/
def count : LengthForm → Nat
  | long count => count
  | _ => 0

/-- The length that is reported for the contents. -/
def reported (form : LengthForm) (length : Nat) : Nat :=
  match form with
  | indefinite => 0
  | _ => length

end LengthForm

/-- A BER encoding with a tag in the short form. -/
structure BerValue where
  identifier : UInt8
  form : LengthForm
  content : List UInt8
  lowTag : identifier.toNat % 32 ≠ 31
  fits : form.Fits identifier content.length

namespace BerValue

def header (value : BerValue) : List UInt8 :=
  value.identifier :: value.form.octets value.content.length

def encoding (value : BerValue) : List UInt8 :=
  value.header ++ value.content ++ value.form.ending

/-- What is read of the header. -/
def info (value : BerValue) : TlvInfo where
  cls := value.identifier.toNat / 64
  tag := value.identifier.toNat % 32
  isCons := value.identifier.toNat / 32 % 2 = 1
  isNdef := value.form = .indefinite
  length := value.form.reported value.content.length
  nhdr := value.header.length

end BerValue

-----------------------------------------------------------------------------------------
-- Headers are read back
-----------------------------------------------------------------------------------------

/-- Length octets are read back, by induction on their number. -/
theorem longLength_bigEndian (count len n : Nat) (tail : List UInt8)
    : longLength count len (bigEndian count n ++ tail)
      = some (len * 256 ^ count + n % 256 ^ count, tail) := by
  induction count generalizing len with
  | zero => simp [longLength, bigEndian, Nat.mod_one]
  | succ count ih =>
      have digit : (UInt8.ofNat (n / 256 ^ count)).toNat = n / 256 ^ count % 256 :=
        UInt8.toNat_ofNat'
      have value
          : (len * 256 + n / 256 ^ count % 256) * 256 ^ count + n % 256 ^ count
            = len * 256 ^ (count + 1) + n % 256 ^ (count + 1) := by
        rw [Nat.mod_pow_succ]
        ring
      rw [bigEndian, List.cons_append, longLength, ih, digit, value]

/-- The first length octet of the long form. -/
theorem longForm_first {count : Nat} (bound : count ≤ 126)
    : (UInt8.ofNat (128 + count)).toNat = 128 + count
      ∧ ¬UInt8.ofNat (128 + count) < 128
      ∧ UInt8.ofNat (128 + count) ≠ 255 := by
  have value : (UInt8.ofNat (128 + count)).toNat = 128 + count :=
    UInt8.toNat_ofNat_of_lt' (by change _ < 256; omega)
  refine ⟨value, ?_, fun same => ?_⟩
  · rw [UInt8.lt_iff_toNat_lt, value]
    change ¬_ < 128
    omega
  · rw [same] at value
    change 255 = _ at value
    omega

/-- The long form is not taken for the indefinite one. -/
theorem longForm_ne_indefinite {count : Nat} (bound : count ≤ 126) (positive : 1 ≤ count)
    : UInt8.ofNat (128 + count) ≠ 128 := by
  intro same
  have value := (longForm_first bound).1
  rw [same] at value
  change 128 = _ at value
  omega

namespace BerValue

/-- The tag of a value is read. -/
theorem parseTlv_identifier (value : BerValue) (buf : List UInt8)
    : parseTlv (value.identifier :: buf)
      = lengthOctets
          {
            cls := value.identifier.toNat / 64
            tag := value.identifier.toNat % 32
            isCons := value.identifier.toNat / 32 % 2 = 1
            isNdef := false
            length := 0
            nhdr := 1
          }
          buf := by
  have tag : CInt.toInt ((value.identifier.toNat % 32 : Nat) : Int)
      = value.identifier.toNat % 32 := by
    rw [CInt.toInt_of_range (by omega) (by omega)]
    rfl
  rw [parseTlv, tagOctets, if_neg value.lowTag, Option.bind_some]
  dsimp only
  rw [tag]

/-- A header has a tag, a length octet and those that this one announces. -/
theorem length_header (value : BerValue) : value.header.length = 2 + value.form.count := by
  obtain ⟨identifier, form, content, lowTag, fits⟩ := value
  cases form with
  | short | indefinite => rfl
  | long count =>
      dsimp only [header, LengthForm.octets, LengthForm.count]
      rw [List.length_cons, List.length_cons, length_bigEndian]
      omega

/-- A header with at most eight length octets is read, whatever is behind it. -/
theorem parseTlv_header {value : BerValue} (few : value.form.count ≤ 8) (tail : List UInt8)
    : parseTlv (value.header ++ tail) = some (value.info, tail) := by
  obtain ⟨identifier, form, content, lowTag, fits⟩ := value
  have read := parseTlv_identifier ⟨identifier, form, content, lowTag, fits⟩
  unfold header info
  dsimp only at few read ⊢
  rw [List.cons_append, read]
  cases form with
  | short =>
      have bound : content.length < 128 := fits
      have value : (UInt8.ofNat content.length).toNat = content.length :=
        UInt8.toNat_ofNat_of_lt' (by change _ < 256; omega)
      have small : UInt8.ofNat content.length < 128 := by
        rw [UInt8.lt_iff_toNat_lt, value]
        exact bound
      dsimp only [LengthForm.octets, LengthForm.reported, List.cons_append, List.nil_append]
      rw [lengthOctets, if_pos small, value]
      rfl
  | long count =>
      have range : 1 ≤ count ∧ count ≤ 126 ∧ content.length < 256 ^ count := fits
      obtain ⟨positive, -, room⟩ := range
      have few : count ≤ 8 := few
      obtain ⟨first, large, notReserved⟩ := longForm_first (by omega : count ≤ 126)
      have counted : (128 + count) % 128 = count := by omega
      have total := length_header ⟨identifier, .long count, content, lowTag, fits⟩
      dsimp only [LengthForm.octets, LengthForm.reported, List.cons_append]
      rw [lengthOctets, if_neg large, if_neg (longForm_ne_indefinite (by omega) positive),
        if_neg notReserved]
      dsimp only
      rw [first, counted, if_neg (by omega), longLength_bigEndian, Nat.mod_eq_of_lt room,
        Nat.zero_mul, Nat.zero_add, total]
      rfl
  | indefinite => rfl

/-- More than eight length octets are refused, wherever the rest is cut. -/
theorem parseTlv_long {value : BerValue} (many : 8 < value.form.count) (tail : List UInt8)
    {cut : Nat} (first : 2 ≤ cut)
    : parseTlv ((value.header ++ tail).take cut) = none := by
  obtain ⟨identifier, form, content, lowTag, fits⟩ := value
  have many : 8 < form.count := many
  have identified := parseTlv_identifier ⟨identifier, form, content, lowTag, fits⟩
  cases form with
  | short => exact absurd many (Nat.not_lt_zero 8)
  | indefinite => exact absurd many (Nat.not_lt_zero 8)
  | long count =>
      have range : 1 ≤ count ∧ count ≤ 126 ∧ content.length < 256 ^ count := fits
      obtain ⟨positive, bound, -⟩ := range
      have many : 8 < count := many
      obtain ⟨value, large, notReserved⟩ := longForm_first bound
      obtain ⟨cut, rfl⟩ : ∃ less, cut = less + 2 := ⟨cut - 2, by omega⟩
      have counted : (128 + count) % 128 = count := by omega
      dsimp only [header, LengthForm.octets]
      rw [List.cons_append, List.take_succ_cons, identified, List.cons_append,
        List.take_succ_cons, lengthOctets, if_neg large,
        if_neg (longForm_ne_indefinite bound positive), if_neg notReserved]
      dsimp only
      rw [value, counted, if_pos many]

end BerValue

end Gpgme
