import Mathlib.Data.List.GetD
import Gpgme.Keylist.Key
import Gpgme.PercentString

/-! Notation subpackets: what `_gpgme_parse_notation` takes from the decoded data of a record
and what it takes from behind it.
-/

namespace Gpgme

open CString

-----------------------------------------------------------------------------------------
-- The decoded data
-----------------------------------------------------------------------------------------

/-- The allocated buffer behind the decoder: the decoded bytes, a terminator, and what the
memory held before.
-/
def subpacketBuffer (memory : Nat → UInt8) (decoded : List UInt8) (pos : Nat) : UInt8 :=
  if pos = decoded.length then 0 else decoded.getD pos (memory pos)

/-- The size of a notation subpacket according to its inner lengths. -/
def notationSize (buffer : Nat → UInt8) : Nat := 8 + getWord buffer 4 + getWord buffer 6

/-- The bytes of a notation, without those of a policy URL. -/
structure SigNotation.UsesDecoded (entry : SigNotation) (decoded name value : List UInt8)
    : Prop where
  hasName : entry.name = some name
  hasValue : entry.value = some value
  fits : 8 + name.length + value.length ≤ decoded.length
  nameBytes : name = (decoded.drop 8).take name.length
  valueBytes : value = (decoded.drop (8 + name.length)).take value.length

/-- A human-readable notation whose inner lengths fit the announced length, but not the decoded
data. A missing byte of a length counts as zero.
-/
structure OverreadsData (type len : Int) (data : Str) : Prop where
  isNotation : type = 20
  large : 8 ≤ len
  announced : len ≤ data.length
  readable : 128 ≤ (decodePercentBinary data).getD 0 0
  accepted : (notationSize fun pos => (decodePercentBinary data).getD pos 0) ≤ len
  missing
    : (decodePercentBinary data).length
      < notationSize fun pos => (decodePercentBinary data).getD pos 0

-----------------------------------------------------------------------------------------
-- Reading the buffer
-----------------------------------------------------------------------------------------

section Buffer

variable {memory : Nat → UInt8} {decoded : List UInt8}

/-- The buffer holds the decoded bytes. -/
theorem subpacketBuffer_inside {pos : Nat} (inside : pos < decoded.length)
    : subpacketBuffer memory decoded pos = decoded.getD pos 0 := by
  rw [subpacketBuffer, if_neg (by omega), List.getD_eq_getElem _ _ inside,
    List.getD_eq_getElem _ _ inside]

/-- The memory behind the data can only add to a length. -/
theorem getD_le_subpacketBuffer (memory : Nat → UInt8) (decoded : List UInt8) (pos : Nat)
    : (decoded.getD pos 0).toNat ≤ (subpacketBuffer memory decoded pos).toNat := by
  rcases Nat.lt_or_ge pos decoded.length with inside | outside
  · rw [subpacketBuffer_inside inside]
  · rw [List.getD_eq_default _ _ outside]
    exact Nat.zero_le _

/-- A terminator is not the flag of a human-readable notation. -/
theorem readable_inside (readable : 128 ≤ subpacketBuffer memory decoded 0)
    : 128 ≤ decoded.getD 0 0 := by
  cases decoded with
  | nil => exact absurd readable (by simp [subpacketBuffer])
  | cons first rest =>
      rwa [subpacketBuffer_inside (by simp)] at readable

/-- Larger bytes make a larger size. -/
theorem notationSize_mono {small large : Nat → UInt8}
    (below : ∀ pos, (small pos).toNat ≤ (large pos).toNat)
    : notationSize small ≤ notationSize large := by
  have four := below 4
  have five := below 5
  have six := below 6
  have seven := below 7
  unfold notationSize getWord
  simp only [Nat.reduceAdd]
  omega

/-- The data decides about the lengths as soon as it has both. -/
theorem notationSize_eq (memory : Nat → UInt8) (long : 8 ≤ decoded.length)
    : notationSize (subpacketBuffer memory decoded)
      = notationSize fun pos => decoded.getD pos 0 := by
  unfold notationSize getWord
  rw [subpacketBuffer_inside (by omega), subpacketBuffer_inside (by omega),
    subpacketBuffer_inside (by omega), subpacketBuffer_inside (by omega)]

/-- The bytes of the buffer that are decoded data. -/
theorem map_subpacketBuffer (memory : Nat → UInt8) {start count : Nat} (inside : start + count ≤ decoded.length)
    : (List.range count).map (fun i => subpacketBuffer memory decoded (start + i))
      = (decoded.drop start).take count := by
  refine List.ext_getElem ?_ ?_
  · simp
    omega
  · intro i left right
    have below : start + i < decoded.length := by
      simp only [List.length_map, List.length_range] at left
      omega
    rw [List.getElem_map, List.getElem_range, subpacketBuffer_inside below,
      List.getD_eq_getElem _ _ below, List.getElem_take, List.getElem_drop]

end Buffer

-----------------------------------------------------------------------------------------
-- What the parser accepts
-----------------------------------------------------------------------------------------

/-- The notation in a buffer. -/
def notationOf (buffer : Nat → UInt8) (critical : Bool) : SigNotation :=
  let value := (List.range (getWord buffer 6)).map fun i => buffer (8 + getWord buffer 4 + i)
  { name := some ((List.range (getWord buffer 4)).map fun i => buffer (8 + i))
    value := some value
    valueLen := value.length
    critical
    humanReadable := true
    flagCritical := critical
    flagHumanReadable := true }

/-- A notation is accepted by its announced length and the lengths in the buffer. -/
theorem parseSigNotation_iff {memory : Nat → UInt8} {pkflags len : Int} {data : Str}
    {entry : SigNotation}
    : parseSigNotation memory 20 pkflags len data = .ok (some entry)
      ↔ CInt.toSize len ≤ data.length
        ∧ 8 ≤ len
        ∧ notationSize (subpacketBuffer memory (decodePercentBinary data)) ≤ len.toNat
        ∧ 128 ≤ subpacketBuffer memory (decodePercentBinary data) 0
        ∧ entry
          = notationOf (subpacketBuffer memory (decodePercentBinary data))
              (pkflags / 2 % 2 == 1) := by
  have created {made : Except GpgError SigNotation}
      : made.map some = .ok (some entry) ↔ made = .ok entry := by
    cases made <;> simp [Except.map]
  let buffer := subpacketBuffer memory (decodePercentBinary data)
  let found := notationOf buffer (pkflags / 2 % 2 == 1)
  change
    (if (20 : Int) ≠ 20 ∧ (20 : Int) ≠ 26 then _
    else if CInt.toSize len > data.length then .error _
    else if (20 : Int) = 20 ∧ len < 8 then .error _
    else if (20 : Int) = 20 then
      if notationSize buffer > len.toNat then .error _
      else
        (sigNotationCreate found.name found.value found.critical (128 ≤ buffer 0)).map some
    else _) = _ ↔ _ ∧ _ ∧ notationSize buffer ≤ _ ∧ 128 ≤ buffer 0 ∧ _ = found
  rw [if_neg (by simp)]
  by_cases long : CInt.toSize len > data.length
  · rw [if_pos long]
    simp [Nat.not_le.mpr long]
  rw [if_neg long]
  by_cases short : len < 8
  · rw [if_pos ⟨rfl, short⟩]
    simp [Int.not_le.mpr short]
  rw [if_neg fun both => short both.2, if_pos rfl]
  by_cases large : notationSize buffer > len.toNat
  · rw [if_pos large]
    simp [Nat.not_le.mpr large]
  rw [if_neg large, created, and_iff_right (not_lt.mp long), and_iff_right (not_lt.mp short),
    and_iff_right (not_lt.mp large)]
  by_cases readable : 128 ≤ buffer 0
  · have made
        : sigNotationCreate found.name found.value found.critical (decide (128 ≤ buffer 0))
          = .ok found := by
      simp [sigNotationCreate, readable, found, notationOf]
    rw [made]
    simp [readable, eq_comm]
  · simp [sigNotationCreate, readable, found, notationOf]

/-- A notation that ends inside of the decoded data consists of its bytes. -/
theorem notationOf_usesDecoded {memory : Nat → UInt8} {decoded : List UInt8} {critical : Bool}
    (fits : notationSize (subpacketBuffer memory decoded) ≤ decoded.length)
    : ∃ name value,
        (notationOf (subpacketBuffer memory decoded) critical).UsesDecoded decoded name value := by
  unfold notationOf notationSize at *
  generalize getWord (subpacketBuffer memory decoded) 4 = nameLen at *
  generalize getWord (subpacketBuffer memory decoded) 6 = valueLen at *
  have nameBytes : _ = (decoded.drop 8).take nameLen :=
    map_subpacketBuffer memory (by omega)
  have valueBytes : _ = (decoded.drop (8 + nameLen)).take valueLen :=
    map_subpacketBuffer memory fits
  have nameLength : ((decoded.drop 8).take nameLen).length = nameLen := by
    rw [List.length_take, List.length_drop]
    omega
  have valueLength : ((decoded.drop (8 + nameLen)).take valueLen).length = valueLen := by
    rw [List.length_take, List.length_drop]
    omega
  refine ⟨_, _, congrArg some nameBytes, congrArg some valueBytes, ?_, ?_, ?_⟩
  · rw [nameLength, valueLength]
    exact fits
  · rw [nameLength]
  · rw [nameLength, valueLength]

/-- A notation uses decoded data only, whatever the memory held behind it, exactly if the inner
lengths of the record do not point behind the data.
-/
theorem usesDecoded_iff (pkflags : Int) {type len : Int} (isInt : len < 2 ^ 31) (data : Str)
    : (∀ memory entry,
        parseSigNotation memory type pkflags len data = .ok (some entry)
        → type = 20
        → ∃ name value, entry.UsesDecoded (decodePercentBinary data) name value)
      ↔ ¬OverreadsData type len data := by
  have size (large : 8 ≤ len) : CInt.toSize len = len.toNat :=
    CInt.toSize_of_range (by omega) (by omega)
  generalize decoding : decodePercentBinary data = decoded
  constructor
  · rintro inside ⟨rfl, large, announced, readable, accepted, missing⟩
    rw [decoding] at readable accepted missing
    have zeros : subpacketBuffer (fun _ => 0) decoded = fun pos => decoded.getD pos 0 := by
      funext pos
      unfold subpacketBuffer
      split
      · next last => rw [last, List.getD_eq_default _ _ (Nat.le_refl _)]
      · rfl
    have parsed
        : parseSigNotation (fun _ => 0) 20 pkflags len data
          = .ok (some (notationOf (fun pos => decoded.getD pos 0) (pkflags / 2 % 2 == 1))) := by
      refine parseSigNotation_iff.mpr ?_
      rw [decoding, zeros]
      exact ⟨by rw [size large]; omega, large, by omega, readable, rfl⟩
    obtain ⟨name, value, hasName, hasValue, fits, -, -⟩ := inside _ _ parsed rfl
    cases hasName
    cases hasValue
    simp only [List.length_map, List.length_range] at fits
    unfold notationSize at missing
    omega
  · intro contained memory entry parsed isNotation
    cases isNotation
    obtain ⟨announced, large, accepted, readable, rfl⟩ := parseSigNotation_iff.mp parsed
    rw [decoding] at accepted readable
    have fits : notationSize (subpacketBuffer memory decoded) ≤ decoded.length := by
      by_contra missing
      refine contained ⟨rfl, large, by rw [size large] at announced; omega, ?_, ?_, ?_⟩ <;>
        rw [decoding]
      · exact readable_inside readable
      · have below := notationSize_mono (getD_le_subpacketBuffer memory decoded)
        omega
      · rcases Nat.lt_or_ge decoded.length 8 with short | long
        · unfold notationSize
          omega
        · rw [← notationSize_eq memory long]
          omega
    rw [decoding]
    exact notationOf_usesDecoded fits

-----------------------------------------------------------------------------------------
-- The encoding
-----------------------------------------------------------------------------------------

/-- A number of two octets. -/
def wordBytes (n : Nat) : List UInt8 := [UInt8.ofNat (n / 256), UInt8.ofNat (n % 256)]

/-- The octets of a human-readable notation. -/
def notationSubpacket (name value : List UInt8) : List UInt8 :=
  [128, 0, 0, 0] ++ wordBytes name.length ++ wordBytes value.length ++ name ++ value

/-- The octets in a record: the percent sign is escaped, and what else the writer escapes. -/
def escapeOctets (also : UInt8 → Bool) (octets : List UInt8) : Str :=
  octets.flatMap fun c =>
    if c = 37 ∨ also c = true then
      [37, upperHexDigit (c.toNat / 16), upperHexDigit (c.toNat % 16)]
    else
      [c]

/-- The notation that is written as a subpacket. -/
def readableNotation (name value : List UInt8) (critical : Bool) : SigNotation :=
  { name := some name
    value := some value
    valueLen := value.length
    critical
    humanReadable := true
    flagCritical := critical
    flagHumanReadable := true }

/-- Decoding undoes the escapes, by induction on the octets. -/
theorem decodePercentBinary_escapeOctets (also : UInt8 → Bool) (octets : List UInt8)
    : decodePercentBinary (escapeOctets also octets) = octets := by
  induction octets with
  | nil => rfl
  | cons c rest ih =>
      unfold escapeOctets at ih ⊢
      rw [List.flatMap_cons]
      split
      · rw [List.cons_append, List.cons_append, List.cons_append, decodePercentBinary.eq_def]
        simp [hextobyte_upperHexDigit, ih]
      · next plain =>
          rw [List.singleton_append, decodePercentBinary.eq_def]
          simp [not_or.mp plain, ih]

/-- Two bytes are read as the word that they make. -/
theorem getWord_wordBytes {buffer : Nat → UInt8} {pos n : Nat} (small : n ≤ 65535)
    (high : buffer pos = UInt8.ofNat (n / 256)) (low : buffer (pos + 1) = UInt8.ofNat (n % 256))
    : getWord buffer pos = n := by
  unfold getWord
  rw [high, low, UInt8.toNat_ofNat', UInt8.toNat_ofNat']
  omega

/-- A record with the true length of its data gives back the notation. -/
theorem parseSigNotation_subpacket {name value : List UInt8} (nameSmall : name.length ≤ 65535)
    (valueSmall : value.length ≤ 65535) {data : Str}
    (decodes : decodePercentBinary data = notationSubpacket name value)
    (memory : Nat → UInt8) (pkflags : Int)
    : parseSigNotation memory 20 pkflags (notationSubpacket name value).length data
      = .ok (some (readableNotation name value (pkflags / 2 % 2 == 1))) := by
  refine parseSigNotation_iff.mpr ?_
  rw [decodes]
  have total : (notationSubpacket name value).length = 8 + name.length + value.length := by
    simp [notationSubpacket, wordBytes]
    omega
  have shorter : (notationSubpacket name value).length ≤ data.length :=
    decodes ▸ decodedText_length_le true data
  have size
      : CInt.toSize (notationSubpacket name value).length
        = (notationSubpacket name value).length :=
    CInt.toSize_ofNat (by omega)
  have octet {pos : Nat} {c : UInt8} (here : (notationSubpacket name value)[pos]? = some c)
      : subpacketBuffer memory (notationSubpacket name value) pos = c := by
    rw [subpacketBuffer_inside (List.getElem?_eq_some_iff.mp here).1, List.getD_eq_getElem?_getD,
      here, Option.getD_some]
  have nameLen
      : getWord (subpacketBuffer memory (notationSubpacket name value)) 4 = name.length :=
    getWord_wordBytes nameSmall (octet rfl) (octet rfl)
  have valueLen
      : getWord (subpacketBuffer memory (notationSubpacket name value)) 6 = value.length :=
    getWord_wordBytes valueSmall (octet rfl) (octet rfl)
  have nameBytes : (notationSubpacket name value).drop 8 = name ++ value := rfl
  have valueBytes : (notationSubpacket name value).drop (8 + name.length) = value := by
    rw [← List.drop_drop, nameBytes, List.drop_left]
  refine ⟨by omega, by omega, ?_, ?_, ?_⟩
  · rw [notationSize, nameLen, valueLen]
    omega
  · rw [octet rfl]
    exact UInt8.le_refl 128
  · unfold notationOf readableNotation
    rw [nameLen, valueLen, map_subpacketBuffer memory (by omega), map_subpacketBuffer memory (by omega),
      nameBytes, valueBytes, List.take_left, List.take_length]


-----------------------------------------------------------------------------------------
-- Records
-----------------------------------------------------------------------------------------

/-- A subpacket record gives a notation from its decoded data only, exactly if the inner lengths
do not point behind that data; what is written with its true length is read back.
-/
theorem subpacket_notation_iff {type pkflags len : Int} (isInt : len < 2 ^ 31) (data : Str)
    : ((∀ memory entry,
          parseSigNotation memory type pkflags len data = .ok (some entry)
          → type = 20
          → ∃ name value, entry.UsesDecoded (decodePercentBinary data) name value)
        ∧ ∀ also name value memory pkflags,
          name.length ≤ 65535
          → value.length ≤ 65535
          → parseSigNotation memory 20 pkflags (notationSubpacket name value).length
              (escapeOctets also (notationSubpacket name value))
            = .ok (some (readableNotation name value (pkflags / 2 % 2 == 1))))
      ↔ ¬OverreadsData type len data := by
  rw [← usesDecoded_iff pkflags isInt data]
  refine and_iff_left ?_
  intro also name value memory pkflags nameSmall valueSmall
  exact parseSigNotation_subpacket nameSmall valueSmall
    (decodePercentBinary_escapeOctets also _) memory pkflags

/-- The octets of a notation that announces a name of four bytes and ends in front of it. -/
def missingName : List UInt8 := [128, 0, 0, 0, 0, 4, 0, 0]

/-- The octets of a notation with a name of one byte. -/
def wholeName : List UInt8 := [128, 0, 0, 0, 0, 1, 0, 0, 97]

/-- With a length that only the escaped text has, a name is taken from the memory behind the
data.
-/
theorem missing_name_read
    : (escapeOctets (fun _ => true) missingName) = str "%80%00%00%00%00%04%00%00"
      ∧ parseSigNotation (fun _ => 65) 20 0 12 (escapeOctets (fun _ => true) missingName)
        = .ok (some (readableNotation [0, 65, 65, 65] [] false))
      ∧ ¬((∀ memory entry,
            parseSigNotation memory 20 0 12 (escapeOctets (fun _ => true) missingName)
              = .ok (some entry)
            → (20 : Int) = 20
            → ∃ name value,
                entry.UsesDecoded
                  (decodePercentBinary (escapeOctets (fun _ => true) missingName)) name value)
          ∧ ∀ also name value memory pkflags,
            name.length ≤ 65535
            → value.length ≤ 65535
            → parseSigNotation memory 20 pkflags (notationSubpacket name value).length
                (escapeOctets also (notationSubpacket name value))
              = .ok (some (readableNotation name value (pkflags / 2 % 2 == 1)))) := by
  have decoded := decodePercentBinary_escapeOctets (fun _ => true) missingName
  have text : escapeOctets (fun _ => true) missingName = str "%80%00%00%00%00%04%00%00" := by
    decide
  have size : CInt.toSize 12 = 12 := CInt.toSize_of_range (by omega) (by omega)
  have parsed
      : parseSigNotation (fun _ => 65) 20 0 12 (escapeOctets (fun _ => true) missingName)
        = .ok (some (readableNotation [0, 65, 65, 65] [] false)) := by
    refine parseSigNotation_iff.mpr ?_
    rw [size, decoded]
    exact ⟨by decide, by omega, by decide, by decide, rfl⟩
  refine ⟨text, parsed, ?_⟩
  rintro ⟨inside, -⟩
  obtain ⟨name, value, hasName, hasValue, fits, -, -⟩ := inside _ _ parsed rfl
  cases hasName
  cases hasValue
  rw [decoded] at fits
  revert fits
  decide

/-- A record with its true length is read from its data. -/
theorem whole_notation_read
    : (∀ memory entry,
          parseSigNotation memory 20 2 9 (escapeOctets (fun _ => true) wholeName)
            = .ok (some entry)
          → (20 : Int) = 20
          → ∃ name value,
              entry.UsesDecoded
                (decodePercentBinary (escapeOctets (fun _ => true) wholeName)) name value)
        ∧ ∀ also name value memory pkflags,
          name.length ≤ 65535
          → value.length ≤ 65535
          → parseSigNotation memory 20 pkflags (notationSubpacket name value).length
              (escapeOctets also (notationSubpacket name value))
            = .ok (some (readableNotation name value (pkflags / 2 % 2 == 1))) := by
  refine (subpacket_notation_iff (by norm_num) _).mpr ?_
  rintro ⟨-, -, -, -, accepted, missing⟩
  rw [decodePercentBinary_escapeOctets] at accepted missing
  have nine : wholeName.length = 9 := rfl
  rw [nine] at missing
  omega

end Gpgme
