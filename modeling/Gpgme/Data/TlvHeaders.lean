import Gpgme.Data.Tlv
import Gpgme.Lib.ByteMemory

/-! `_gpgme_parse_tlv` on a buffer in memory, and the numbers that the octets of a header encode. -/

namespace Gpgme

-----------------------------------------------------------------------------------------
-- The function in memory
-----------------------------------------------------------------------------------------

/-- The local variables of the function, with the addresses that it has read. -/
structure TlvInput where
  buf : Nat
  length : Nat
  nhdr : Nat
  reads : List Nat

/-- `if (!length) return -1; c = *buf++; length--; ++ti->nhdr;`. Where the function returns -1, the
addresses that it has read are left.
-/
def TlvInput.octet (mem : ByteMemory) (input : TlvInput) : Except (List Nat) (UInt8 × TlvInput) :=
  match input.length with
  | 0 => .error input.reads
  | length + 1 =>
      .ok
        (mem input.buf,
          {
            buf := input.buf + 1
            length
            nhdr := input.nhdr + 1
            reads := input.reads ++ [input.buf]
          })

/-- The loop for a tag in the long form. Every round reads an octet, so that the length bounds their
number.
-/
def longTagAt (mem : ByteMemory) : Nat → Nat → TlvInput → Except (List Nat) (Nat × TlvInput)
  | 0, _, input => .error input.reads
  | rounds + 1, tag, input => do
      let (c, input) ← input.octet mem
      let tag := tag * 128 % 2 ^ 64 + c.toNat % 128
      if c < 128 then .ok (tag, input) else longTagAt mem rounds tag input

/-- The loop for a length in the long form. -/
def longLengthAt (mem : ByteMemory)
    : Nat → Nat → TlvInput → Except (List Nat) (Nat × TlvInput)
  | 0, len, input => .ok (len, input)
  | count + 1, len, input => do
      let (c, input) ← input.octet mem
      longLengthAt mem count (len * 256 % 2 ^ 64 + c.toNat) input

def tagOctetsAt (mem : ByteMemory) (c : UInt8) (input : TlvInput)
    : Except (List Nat) (Nat × TlvInput) :=
  if c.toNat % 32 = 31 then longTagAt mem (input.length + 1) 0 input
  else .ok (c.toNat % 32, input)

/-- The end of the function, behind the tag. -/
def lengthOctetsAt (mem : ByteMemory) (ti : TlvInfo) (input : TlvInput)
    : Except (List Nat) (TlvInfo × TlvInput) := do
  let (c, input) ← input.octet mem
  if c < 128 then .ok ({ ti with length := c.toNat, nhdr := input.nhdr }, input)
  else if c = 128 then .ok ({ ti with isNdef := true, nhdr := input.nhdr }, input)
  else if c = 255 then .error input.reads
  else
    let count := c.toNat % 128
    if 8 < count then .error input.reads
    else do
      let (len, input) ← longLengthAt mem count 0 input
      .ok ({ ti with length := len, nhdr := input.nhdr }, input)

def headerAt (mem : ByteMemory) (input : TlvInput) : Except (List Nat) (TlvInfo × TlvInput) := do
  let (c, input) ← input.octet mem
  let (tag, input) ← tagOctetsAt mem c input
  lengthOctetsAt mem
    {
      cls := c.toNat / 64
      tag := CInt.toInt tag
      isCons := c.toNat / 32 % 2 = 1
      isNdef := false
      length := 0
      nhdr := input.nhdr
    }
    input

/-- What a call leaves: the object where 0 is returned, `*buffer` and `*size`, and the addresses
that were read.
-/
structure TlvOutcome where
  result : Option TlvInfo
  buffer : Nat
  size : Nat
  reads : List Nat

/-- `_gpgme_parse_tlv`. -/
def parseTlvAt (mem : ByteMemory) (buffer size : Nat) : TlvOutcome :=
  match headerAt mem { buf := buffer, length := size, nhdr := 0, reads := [] } with
  | .error reads => { result := none, buffer, size, reads }
  | .ok (ti, input) =>
      { result := some ti, buffer := input.buf, size := input.length, reads := input.reads }

-----------------------------------------------------------------------------------------
-- Reading within the buffer
-----------------------------------------------------------------------------------------

variable {mem : ByteMemory} {buffer size : Nat} {input : TlvInput} {α : Type}

/-- The bytes of a block. -/
def blockBytes (mem : ByteMemory) : Nat → Nat → List UInt8
  | _, 0 => []
  | addr, size + 1 => mem addr :: blockBytes mem (addr + 1) size

/-- The addresses lie in the buffer. -/
def InBuffer (buffer size : Nat) (reads : List Nat) : Prop :=
  ∀ addr ∈ reads, buffer ≤ addr ∧ addr < buffer + size

/-- The variables stand for a place in the buffer, and nothing outside of it has been read. -/
structure Reading (buffer size : Nat) (input : TlvInput) : Prop where
  place : input.buf = buffer + input.nhdr
  left : input.nhdr + input.length = size
  inside : InBuffer buffer size input.reads

def TlvInput.rest (mem : ByteMemory) (input : TlvInput) : List UInt8 :=
  blockBytes mem input.buf input.length

/-- A part of the function agrees with one that reads a list of the bytes and counts them. -/
def Agrees (mem : ByteMemory) (buffer size : Nat) (read : Except (List Nat) (α × TlvInput))
    (listed : Option (α × List UInt8 × Nat))
    : Prop :=
  match read with
  | .error reads => listed = none ∧ InBuffer buffer size reads
  | .ok (value, input) =>
      listed = some (value, input.rest mem, input.nhdr) ∧ Reading buffer size input

/-- Readings that agree are composed to readings that agree. -/
theorem Agrees.bind {β : Type} {read : Except (List Nat) (α × TlvInput)}
    {listed : Option (α × List UInt8 × Nat)}
    {next : α × TlvInput → Except (List Nat) (β × TlvInput)}
    {nextListed : α × List UInt8 × Nat → Option (β × List UInt8 × Nat)}
    (agrees : Agrees mem buffer size read listed)
    (later : ∀ value input, listed = some (value, input.rest mem, input.nhdr) →
      Reading buffer size input →
        Agrees mem buffer size (next (value, input))
          (nextListed (value, input.rest mem, input.nhdr)))
    : Agrees mem buffer size (read >>= next) (listed.bind nextListed) := by
  cases read with
  | error reads => exact ⟨by rw [agrees.1]; rfl, agrees.2⟩
  | ok pair =>
      obtain ⟨value, input⟩ := pair
      rw [agrees.1]
      exact later value input agrees.1 agrees.2

/-- The first octet of a list and what follows it. -/
def firstOctet (buf : List UInt8) (nhdr : Nat) : Option (UInt8 × List UInt8 × Nat) :=
  match buf with
  | [] => none
  | c :: buf => some (c, buf, nhdr + 1)

/-- Reading one octet agrees with taking it from the list. -/
theorem octet_agrees (reading : Reading buffer size input)
    : Agrees mem buffer size (input.octet mem) (firstOctet (input.rest mem) input.nhdr) := by
  obtain ⟨buf, length, nhdr, reads⟩ := input
  cases length with
  | zero => exact ⟨rfl, reading.inside⟩
  | succ length =>
      refine ⟨rfl, ?_, ?_, ?_⟩
      · have place := reading.place
        dsimp only at place ⊢
        omega
      · have left := reading.left
        dsimp only at left ⊢
        omega
      · intro addr member
        rcases List.mem_append.mp member with member | member
        · exact reading.inside addr member
        · have place := reading.place
          have left := reading.left
          rw [List.mem_singleton.mp member]
          dsimp only at place left ⊢
          omega

/-- One octet is counted. -/
theorem firstOctet_count {buf rest : List UInt8} {c : UInt8} {nhdr nhdr' : Nat}
    (first : firstOctet buf nhdr = some (c, rest, nhdr'))
    : nhdr' = nhdr + 1 := by
  unfold firstOctet at first
  split at first
  · cases first
  · cases first
    rfl

/-- A tag in the long form is read from memory as from the list, by induction on the rounds. -/
theorem longTagAt_agrees {rounds : Nat} (reading : Reading buffer size input)
    (enough : input.length < rounds) (tag : Nat)
    : Agrees mem buffer size (longTagAt mem rounds tag input)
        (longTag (input.rest mem) tag input.nhdr) := by
  induction rounds generalizing input tag with
  | zero => omega
  | succ rounds ih =>
      have listed : longTag (input.rest mem) tag input.nhdr
          = (firstOctet (input.rest mem) input.nhdr).bind fun (c, buf, nhdr) =>
              if c < 128 then some (tag * 128 % 2 ^ 64 + c.toNat % 128, buf, nhdr)
              else longTag buf (tag * 128 % 2 ^ 64 + c.toNat % 128) nhdr := by
        cases input.rest mem <;> rfl
      rw [listed, longTagAt]
      refine (octet_agrees reading).bind fun c next first readingNext => ?_
      dsimp only
      have shorter : next.length < rounds := by
        have counted := firstOctet_count first
        have left := reading.left
        have leftNext := readingNext.left
        omega
      by_cases small : c < 128
      · rw [if_pos small, if_pos small]
        exact ⟨rfl, readingNext⟩
      · rw [if_neg small, if_neg small]
        exact ih readingNext shorter _

/-- Reading the tag agrees with taking it from the list. -/
theorem tagOctetsAt_agrees (reading : Reading buffer size input) (c : UInt8)
    (first : input.nhdr = 1)
    : Agrees mem buffer size (tagOctetsAt mem c input) (tagOctets c (input.rest mem)) := by
  unfold tagOctetsAt tagOctets
  by_cases long : c.toNat % 32 = 31
  · rw [if_pos long, if_pos long]
    have listed
        : Agrees mem buffer size (longTagAt mem (input.length + 1) 0 input)
            (longTag (input.rest mem) 0 input.nhdr) :=
      longTagAt_agrees reading (Nat.lt_succ_self input.length) 0
    rwa [first] at listed
  · rw [if_neg long, if_neg long]
    exact ⟨by rw [first], reading⟩

/-- At most eight octets of a length are read as they are from the list, by induction on their
number: nothing is shifted out.
-/
theorem longLengthAt_agrees (reading : Reading buffer size input) {count done len : Nat}
    (few : done + count ≤ 8) (small : len < 256 ^ done)
    : Agrees mem buffer size (longLengthAt mem count len input)
        ((longLength count len (input.rest mem)).map fun (len, buf) =>
          (len, buf, input.nhdr + count)) := by
  induction count generalizing input done len with
  | zero => exact ⟨rfl, reading⟩
  | succ count ih =>
      have room : len * 256 < 2 ^ 64 := by
        have most : 256 ^ done ≤ 256 ^ 7 := Nat.pow_le_pow_right (by decide) (by omega)
        omega
      have listed : ((longLength (count + 1) len (input.rest mem)).map fun (len, buf) =>
            (len, buf, input.nhdr + (count + 1)))
          = (firstOctet (input.rest mem) input.nhdr).bind fun (c, buf, nhdr) =>
              (longLength count (len * 256 + c.toNat) buf).map fun (len, buf) =>
                (len, buf, nhdr + count) := by
        cases input.rest mem with
        | nil => rfl
        | cons c buf =>
            have total : input.nhdr + 1 + count = input.nhdr + (count + 1) := by omega
            simp only [longLength, firstOctet, Option.bind_some, total]
      rw [listed, longLengthAt]
      refine (octet_agrees reading).bind fun c next _ readingNext => ?_
      dsimp only
      rw [Nat.mod_eq_of_lt room]
      refine ih readingNext (by omega : done + 1 + count ≤ 8) ?_
      have byte : c.toNat < 256 := c.toNat_lt
      calc
        len * 256 + c.toNat < len * 256 + 256 := Nat.add_lt_add_left byte _
        _ = (len + 1) * 256 := (Nat.succ_mul len 256).symm
        _ ≤ 256 ^ done * 256 := Nat.mul_le_mul_right 256 small
        _ = 256 ^ (done + 1) := (Nat.pow_succ 256 done).symm

/-- The octets of a length, in the same form. -/
theorem lengthOctets_eq (ti : TlvInfo) (buf : List UInt8)
    : ((lengthOctets ti buf).map fun (ti, buf) => (ti, buf, ti.nhdr))
      = (firstOctet buf ti.nhdr).bind fun (c, buf, nhdr) =>
          if c < 128 then some ({ ti with length := c.toNat, nhdr }, buf, nhdr)
          else if c = 128 then some ({ ti with isNdef := true, nhdr }, buf, nhdr)
          else if c = 255 then none
          else if 8 < c.toNat % 128 then none
          else
            ((longLength (c.toNat % 128) 0 buf).map fun (len, buf) =>
                (len, buf, nhdr + c.toNat % 128)).bind fun (len, buf, nhdr) =>
              some ({ ti with length := len, nhdr }, buf, nhdr) := by
  cases buf with
  | nil => rfl
  | cons c buf =>
      rw [lengthOctets, firstOctet, Option.bind_some]
      dsimp only
      split_ifs
      · rfl
      · rfl
      · rfl
      · rfl
      · cases longLength (c.toNat % 128) 0 buf <;> rfl

/-- Reading the length agrees with taking it from the list. -/
theorem lengthOctetsAt_agrees (reading : Reading buffer size input) (ti : TlvInfo)
    (counted : ti.nhdr = input.nhdr)
    : Agrees mem buffer size (lengthOctetsAt mem ti input)
        ((lengthOctets ti (input.rest mem)).map fun (ti, buf) => (ti, buf, ti.nhdr)) := by
  rw [lengthOctets_eq, lengthOctetsAt, counted]
  refine (octet_agrees reading).bind fun c next _ readingNext => ?_
  dsimp only
  by_cases short : c < 128
  · rw [if_pos short, if_pos short]
    exact ⟨rfl, readingNext⟩
  rw [if_neg short, if_neg short]
  by_cases indefinite : c = 128
  · rw [if_pos indefinite, if_pos indefinite]
    exact ⟨rfl, readingNext⟩
  rw [if_neg indefinite, if_neg indefinite]
  by_cases reserved : c = 255
  · rw [if_pos reserved, if_pos reserved]
    exact ⟨rfl, readingNext.inside⟩
  rw [if_neg reserved, if_neg reserved]
  by_cases many : 8 < c.toNat % 128
  · rw [if_pos many, if_pos many]
    exact ⟨rfl, readingNext.inside⟩
  rw [if_neg many, if_neg many]
  have octets := @longLengthAt_agrees mem _ _ _ readingNext _ 0 _
    (by omega : 0 + c.toNat % 128 ≤ 8) (by decide : 0 < 256 ^ 0)
  exact octets.bind fun len last _ readingLast => ⟨rfl, readingLast⟩

/-- The function in memory computes what the one on the list of the bytes computes. -/
theorem headerAt_agrees (mem : ByteMemory) (buffer size : Nat)
    : Agrees mem buffer size
        (headerAt mem { buf := buffer, length := size, nhdr := 0, reads := [] })
        ((parseTlv (blockBytes mem buffer size)).map fun (ti, buf) => (ti, buf, ti.nhdr)) := by
  have start : Reading buffer size { buf := buffer, length := size, nhdr := 0, reads := [] } :=
    ⟨rfl, Nat.zero_add size, fun _ member => absurd member List.not_mem_nil⟩
  have listed : ((parseTlv (blockBytes mem buffer size)).map fun (ti, buf) => (ti, buf, ti.nhdr))
      = (firstOctet (blockBytes mem buffer size) 0).bind fun (c, buf, _) =>
          (tagOctets c buf).bind fun (tag, buf, nhdr) =>
            (lengthOctets
                {
                  cls := c.toNat / 64
                  tag := CInt.toInt tag
                  isCons := c.toNat / 32 % 2 = 1
                  isNdef := false
                  length := 0
                  nhdr
                }
                buf).map fun (ti, buf) => (ti, buf, ti.nhdr) := by
    cases blockBytes mem buffer size with
    | nil => rfl
    | cons c buf =>
        rw [parseTlv, Option.map_bind]
        rfl
  rw [listed, headerAt]
  refine (octet_agrees start).bind fun c next first readingNext => ?_
  dsimp only
  refine (tagOctetsAt_agrees readingNext c (firstOctet_count first)).bind
    fun tag behind _ readingBehind => ?_
  exact lengthOctetsAt_agrees readingBehind _ rfl

/-- Where the function succeeds it returns what is parsed of the list of the bytes and moves behind
it, where it fails it moves nothing, and it reads nothing outside of the buffer.
-/
theorem parseTlvAt_spec (mem : ByteMemory) (buffer size : Nat)
    : InBuffer buffer size (parseTlvAt mem buffer size).reads
      ∧ match (parseTlvAt mem buffer size).result with
        | none =>
            parseTlv (blockBytes mem buffer size) = none
            ∧ (parseTlvAt mem buffer size).buffer = buffer
            ∧ (parseTlvAt mem buffer size).size = size
        | some ti =>
            parseTlv (blockBytes mem buffer size)
              = some (ti, blockBytes mem (parseTlvAt mem buffer size).buffer
                  (parseTlvAt mem buffer size).size)
            ∧ (parseTlvAt mem buffer size).buffer = buffer + ti.nhdr
            ∧ (parseTlvAt mem buffer size).size + ti.nhdr = size := by
  have agrees := headerAt_agrees mem buffer size
  unfold parseTlvAt
  cases read : headerAt mem { buf := buffer, length := size, nhdr := 0, reads := [] } with
  | error reads =>
      rw [read] at agrees
      exact ⟨agrees.2, Option.map_eq_none_iff.mp agrees.1, rfl, rfl⟩
  | ok pair =>
      obtain ⟨ti, input⟩ := pair
      rw [read] at agrees
      obtain ⟨listed, reading⟩ := agrees
      obtain ⟨⟨ti', buf⟩, parsed, same⟩ := Option.map_eq_some_iff.mp listed
      obtain ⟨rfl, rest⟩ := Prod.mk.inj same
      obtain ⟨rfl, counted⟩ := Prod.mk.inj rest
      have left := reading.left
      refine ⟨reading.inside, parsed, ?_, ?_⟩
      · dsimp only at counted ⊢
        rw [counted, reading.place]
      · dsimp only at counted ⊢
        omega

-----------------------------------------------------------------------------------------
-- What a header encodes
-----------------------------------------------------------------------------------------

/-- The number that goes on from a value with more digits, each the low part of an octet. -/
def octetNumber (base : Nat) (value : Nat) (octets : List UInt8) : Nat :=
  octets.foldl (fun value c => value * base + c.toNat % base) value

/-- The octets of a tag in the long form: all but the last have the high bit. -/
def LongTagForm (octets : List UInt8) : Prop :=
  ∃ front last, octets = front ++ [last] ∧ (∀ c ∈ front, ¬c < 128) ∧ last < 128

/-- A BER header, with its octets of any number. -/
structure TlvHeader where
  identifier : UInt8
  tagOctets : List UInt8
  lengthOctet : UInt8
  lengthOctets : List UInt8
  tagForm : if identifier.toNat % 32 = 31 then LongTagForm tagOctets else tagOctets = []
  notReserved : lengthOctet ≠ 255
  lengthForm
    : lengthOctets.length = if lengthOctet < 128 then 0 else lengthOctet.toNat % 128

namespace TlvHeader

def octets (header : TlvHeader) : List UInt8 :=
  header.identifier :: header.tagOctets ++ header.lengthOctet :: header.lengthOctets

/-- The tag, without a bound. -/
def tag (header : TlvHeader) : Nat :=
  if header.identifier.toNat % 32 = 31 then octetNumber 128 0 header.tagOctets
  else header.identifier.toNat % 32

/-- The length, which an indefinite one leaves at 0. -/
def length (header : TlvHeader) : Nat :=
  if header.lengthOctet < 128 then header.lengthOctet.toNat
  else octetNumber 256 0 header.lengthOctets

/-- The object has the values of the header. -/
structure Describes (header : TlvHeader) (ti : TlvInfo) : Prop where
  cls : ti.cls = header.identifier.toNat / 64
  tag : ti.tag = header.tag
  isCons : ti.isCons = true ↔ header.identifier.toNat / 32 % 2 = 1
  isNdef : ti.isNdef = true ↔ header.lengthOctet = 128
  length : ti.length = header.length
  nhdr : ti.nhdr = header.octets.length

/-- What the function makes of the header. -/
def info (header : TlvHeader) : TlvInfo where
  cls := header.identifier.toNat / 64
  tag := CInt.toInt (header.tag % 2 ^ 64 : Nat)
  isCons := header.identifier.toNat / 32 % 2 = 1
  isNdef := header.lengthOctet = 128
  length := header.length
  nhdr := header.octets.length

/-- The result describes the header exactly when the tag is below 2^31. -/
theorem info_describes_iff (header : TlvHeader)
    : header.Describes header.info ↔ header.tag < 2 ^ 31 := by
  constructor
  · intro describes
    have tag : CInt.toInt (header.tag % 2 ^ 64 : Nat) = (header.tag : Int) := describes.tag
    unfold CInt.toInt at tag
    omega
  · intro small
    refine ⟨rfl, ?_, decide_eq_true_iff, decide_eq_true_iff, rfl, rfl⟩
    change CInt.toInt (header.tag % 2 ^ 64 : Nat) = (header.tag : Int)
    unfold CInt.toInt
    omega

end TlvHeader

/-- The tag of the function is the one of the octets, but for the wrap-around, by induction on all
octets but the last.
-/
theorem longTag_form {front : List UInt8} {last : UInt8} (high : ∀ c ∈ front, ¬c < 128)
    (low : last < 128) (tail : List UInt8) (value nhdr : Nat)
    : longTag (front ++ [last] ++ tail) (value % 2 ^ 64) nhdr
      = some (octetNumber 128 value (front ++ [last]) % 2 ^ 64, tail,
          nhdr + (front ++ [last]).length) := by
  have step : ∀ c : UInt8, value % 2 ^ 64 * 128 % 2 ^ 64 + c.toNat % 128
      = (value * 128 + c.toNat % 128) % 2 ^ 64 := by
    intro c
    omega
  induction front generalizing value nhdr with
  | nil =>
      rw [List.nil_append, List.singleton_append, longTag, if_pos low, step]
      rfl
  | cons c front ih =>
      obtain ⟨highHere, high⟩ := List.forall_mem_cons.mp high
      have later := ih high (value * 128 + c.toNat % 128) (nhdr + 1) (by intro c; omega)
      rw [List.cons_append, List.cons_append, longTag, if_neg highHere, step, later]
      simp only [octetNumber, List.foldl_cons, List.length_cons, Nat.add_assoc, Nat.add_comm 1]

/-- The octets of a length are read as the number that they make. -/
theorem longLength_octets (octets tail : List UInt8) (value : Nat)
    : longLength octets.length value (octets ++ tail)
      = some (octetNumber 256 value octets, tail) := by
  induction octets generalizing value with
  | nil => rfl
  | cons c octets ih =>
      have byte : c.toNat % 256 = c.toNat := Nat.mod_eq_of_lt c.toNat_lt
      rw [List.length_cons, List.cons_append, longLength, ih, octetNumber, octetNumber,
        List.foldl_cons, byte]

/-- What is read of a tag in the long form, by induction on the octets. -/
theorem form_of_longTag {buf rest : List UInt8} {tag tag' nhdr nhdr' : Nat}
    (read : longTag buf tag nhdr = some (tag', rest, nhdr'))
    : ∃ octets, LongTagForm octets ∧ buf = octets ++ rest := by
  induction buf generalizing tag nhdr with
  | nil => cases read
  | cons c buf ih =>
      rw [longTag] at read
      by_cases low : c < 128
      · rw [if_pos low] at read
        cases read
        exact ⟨[c], ⟨[], c, rfl, by simp, low⟩, rfl⟩
      · rw [if_neg low] at read
        obtain ⟨_, ⟨front, last, rfl, high, ends⟩, whole⟩ := ih read
        refine ⟨c :: (front ++ [last]), ⟨c :: front, last, rfl, ?_, ends⟩, by rw [whole]; rfl⟩
        exact List.forall_mem_cons.mpr ⟨low, high⟩

/-- A length is read from as many octets as were announced. -/
theorem octets_of_longLength {buf rest : List UInt8} {count len len' : Nat}
    (read : longLength count len buf = some (len', rest))
    : ∃ octets, octets.length = count ∧ buf = octets ++ rest := by
  induction count generalizing buf len with
  | zero =>
      cases read
      exact ⟨[], rfl, rfl⟩
  | succ count ih =>
      cases buf with
      | nil => cases read
      | cons c buf =>
          obtain ⟨octets, rfl, whole⟩ := ih read
          exact ⟨c :: octets, rfl, by rw [whole]; rfl⟩

/-- What is read of a length. -/
theorem octets_of_lengthOctets {buf rest : List UInt8} {ti ti' : TlvInfo}
    (read : lengthOctets ti buf = some (ti', rest))
    : ∃ (first : UInt8) (octets : List UInt8),
        buf = first :: (octets ++ rest)
        ∧ first ≠ 255
        ∧ octets.length = (if first < 128 then 0 else first.toNat % 128)
        ∧ octets.length ≤ 8 := by
  cases buf with
  | nil => cases read
  | cons first buf =>
      rw [lengthOctets] at read
      dsimp only at read
      by_cases short : first < 128
      · rw [if_pos short] at read
        cases read
        refine ⟨first, [], rfl, ?_, by rw [if_pos short]; rfl, Nat.zero_le 8⟩
        rintro rfl
        exact absurd short (by decide)
      rw [if_neg short] at read
      by_cases indefinite : first = 128
      · rw [if_pos indefinite] at read
        cases read
        subst indefinite
        exact ⟨128, [], rfl, by decide, rfl, Nat.zero_le 8⟩
      rw [if_neg indefinite] at read
      by_cases reserved : first = 255
      · rw [if_pos reserved] at read
        cases read
      rw [if_neg reserved] at read
      by_cases many : 8 < first.toNat % 128
      · rw [if_pos many] at read
        cases read
      rw [if_neg many] at read
      obtain ⟨⟨len, behind⟩, counted, same⟩ := Option.map_eq_some_iff.mp read
      obtain ⟨-, rfl⟩ := Prod.mk.inj same
      obtain ⟨octets, length, whole⟩ := octets_of_longLength counted
      refine ⟨first, octets, by rw [whole], reserved, ?_, by omega⟩
      rw [if_neg short, length]

/-- The long form shows where it ends, by induction on one of two tags at the same place. -/
theorem LongTagForm.unique {octets other tail rest : List UInt8} (form : LongTagForm octets)
    (form' : LongTagForm other) (same : octets ++ tail = other ++ rest)
    : octets = other := by
  obtain ⟨front, last, rfl, high, low⟩ := form
  obtain ⟨front', last', rfl, high', low'⟩ := form'
  induction front generalizing front' with
  | nil =>
      cases front' with
      | nil => rw [(List.cons.inj same).1]
      | cons c front' => exact absurd ((List.cons.inj same).1 ▸ low) (high' c List.mem_cons_self)
  | cons c front ih =>
      cases front' with
      | nil =>
          obtain ⟨rfl, -⟩ := List.cons.inj same
          exact absurd low' (high c List.mem_cons_self)
      | cons c' front' =>
          obtain ⟨rfl, later⟩ := List.cons.inj same
          rw [List.cons_append, List.cons_append,
            ih (List.forall_mem_cons.mp high).2 front' later (List.forall_mem_cons.mp high').2]

namespace TlvHeader

/-- The octets of a tag are read as the tag. -/
theorem tagOctets_read (header : TlvHeader) (tail : List UInt8)
    : Gpgme.tagOctets header.identifier (header.tagOctets ++ tail)
      = some (header.tag % 2 ^ 64, tail, 1 + header.tagOctets.length) := by
  have form := header.tagForm
  unfold Gpgme.tagOctets tag
  by_cases long : header.identifier.toNat % 32 = 31
  · rw [if_pos long] at form
    obtain ⟨front, last, octets, high, low⟩ := form
    rw [if_pos long, if_pos long, octets]
    exact longTag_form high low tail 0 1
  · rw [if_neg long] at form
    have small : header.identifier.toNat % 32 % 2 ^ 64 = header.identifier.toNat % 32 := by omega
    rw [if_neg long, if_neg long, form, small]
    rfl

/-- The octets of a length are read as the length. -/
theorem lengthOctets_read {header : TlvHeader} (few : header.lengthOctets.length ≤ 8)
    (tail : List UInt8) {ti : TlvInfo} (definite : ti.isNdef = false) (empty : ti.length = 0)
    : Gpgme.lengthOctets ti (header.lengthOctet :: (header.lengthOctets ++ tail))
      = some
          ({ ti with
              isNdef := header.lengthOctet = 128
              length := header.length
              nhdr := ti.nhdr + 1 + header.lengthOctets.length },
            tail) := by
  have form := header.lengthForm
  obtain ⟨cls, tag, isCons, isNdef, tiLength, nhdr⟩ := ti
  dsimp only at definite empty
  subst definite empty
  rw [Gpgme.lengthOctets, length]
  dsimp only
  by_cases short : header.lengthOctet < 128
  · rw [if_pos short, List.length_eq_zero_iff] at form
    have definite : header.lengthOctet ≠ 128 := by
      intro same
      rw [same] at short
      exact absurd short (by decide)
    rw [if_pos short, if_pos short, form]
    simp [definite]
  rw [if_neg short] at form ⊢
  rw [if_neg short]
  by_cases indefinite : header.lengthOctet = 128
  · rw [indefinite] at form
    rw [if_pos indefinite, List.length_eq_zero_iff.mp form]
    simp [indefinite, octetNumber]
  · rw [if_neg indefinite, if_neg header.notReserved, ← form,
      if_neg (Nat.not_lt.mpr few), longLength_octets]
    simp [indefinite]

/-- The function reads every header with at most eight length octets. -/
theorem parseTlv_octets {header : TlvHeader} (few : header.lengthOctets.length ≤ 8)
    (tail : List UInt8)
    : parseTlv (header.octets ++ tail) = some (header.info, tail) := by
  have count : header.octets.length
      = 1 + header.tagOctets.length + 1 + header.lengthOctets.length := by
    simp only [octets, List.length_cons, List.length_append, List.cons_append]
    omega
  rw [octets, List.append_assoc, List.cons_append, List.cons_append, parseTlv, tagOctets_read,
    Option.bind_some]
  dsimp only
  rw [lengthOctets_read few tail rfl rfl, info, count]

/-- What the function reads is a header with at most eight length octets. -/
theorem of_parseTlv {bytes rest : List UInt8} {ti : TlvInfo}
    (parsed : parseTlv bytes = some (ti, rest))
    : ∃ header : TlvHeader,
        bytes = header.octets ++ rest ∧ header.lengthOctets.length ≤ 8 := by
  cases bytes with
  | nil => cases parsed
  | cons identifier buf =>
      rw [parseTlv] at parsed
      obtain ⟨⟨tag, behind, nhdr⟩, tagged, parsed⟩ := Option.bind_eq_some_iff.mp parsed
      obtain ⟨tagOctets, tagForm, whole⟩ : ∃ octets : List UInt8,
          (if identifier.toNat % 32 = 31 then LongTagForm octets else octets = [])
          ∧ buf = octets ++ behind := by
        unfold Gpgme.tagOctets at tagged
        by_cases long : identifier.toNat % 32 = 31
        · rw [if_pos long] at tagged
          obtain ⟨octets, form, whole⟩ := form_of_longTag tagged
          exact ⟨octets, by rwa [if_pos long], whole⟩
        · rw [if_neg long] at tagged
          cases tagged
          exact ⟨[], by rw [if_neg long], rfl⟩
      obtain ⟨lengthOctet, lengthOctets, rfl, notReserved, lengthForm, few⟩ :=
        octets_of_lengthOctets parsed
      refine ⟨⟨identifier, tagOctets, lengthOctet, lengthOctets, tagForm, notReserved, lengthForm⟩,
        ?_, few⟩
      rw [whole, octets, List.append_assoc]
      rfl

/-- Bytes start with one header at most, as far as its tag goes. -/
theorem tag_unique {header other : TlvHeader} {tail rest : List UInt8}
    (same : header.octets ++ tail = other.octets ++ rest)
    : header.tag = other.tag := by
  unfold octets at same
  rw [List.cons_append, List.cons_append, List.cons_append, List.cons_append, List.append_assoc,
    List.append_assoc] at same
  obtain ⟨identifier, same⟩ := List.cons.inj same
  have form := header.tagForm
  have form' := other.tagForm
  unfold tag
  rw [identifier] at form ⊢
  by_cases long : other.identifier.toNat % 32 = 31
  · rw [if_pos long] at form form'
    rw [if_pos long, if_pos long, form.unique form' same]
  · rw [if_neg long, if_neg long]

end TlvHeader

-----------------------------------------------------------------------------------------
-- When the numbers are exact
-----------------------------------------------------------------------------------------

/-- The promise for a buffer: nothing outside of it is read, a failure moves nothing, and a success
returns the numbers of the header at the start of the buffer and moves behind it.
-/
structure ParsedExactly (mem : ByteMemory) (buffer size : Nat) : Prop where
  inside : InBuffer buffer size (parseTlvAt mem buffer size).reads
  failed : (parseTlvAt mem buffer size).result = none →
    (parseTlvAt mem buffer size).buffer = buffer ∧ (parseTlvAt mem buffer size).size = size
  parsed : ∀ ti, (parseTlvAt mem buffer size).result = some ti →
    ∃ header : TlvHeader,
      blockBytes mem buffer size
        = header.octets ++ blockBytes mem (parseTlvAt mem buffer size).buffer
            (parseTlvAt mem buffer size).size
      ∧ header.Describes ti
      ∧ (parseTlvAt mem buffer size).buffer = buffer + ti.nhdr
      ∧ (parseTlvAt mem buffer size).size + ti.nhdr = size

/-- The numbers are exact where the buffer does not start with a header whose tag is too large for
an `int`. Headers with more than eight length octets are refused.
-/
theorem parsedExactly_iff (mem : ByteMemory) (buffer size : Nat)
    : ParsedExactly mem buffer size
      ↔ ∀ (header : TlvHeader) (rest : List UInt8),
          blockBytes mem buffer size = header.octets ++ rest → header.lengthOctets.length ≤ 8 →
            header.tag < 2 ^ 31 := by
  obtain ⟨inside, outcome⟩ := parseTlvAt_spec mem buffer size
  constructor
  · intro exact' header rest whole few
    have parsed := TlvHeader.parseTlv_octets few rest
    rw [← whole] at parsed
    cases result : (parseTlvAt mem buffer size).result with
    | none =>
        rw [result] at outcome
        rw [parsed] at outcome
        cases outcome.1
    | some ti =>
        rw [result] at outcome
        rw [parsed] at outcome
        obtain ⟨same, -⟩ := Prod.mk.inj (Option.some.inj outcome.1)
        obtain ⟨other, whole', describes, -, -⟩ := exact'.parsed ti result
        have unique := TlvHeader.tag_unique (whole.symm.trans whole')
        have tag : ti.tag = other.tag := describes.tag
        rw [← same, ← unique] at tag
        change CInt.toInt (header.tag % 2 ^ 64 : Nat) = (header.tag : Int) at tag
        unfold CInt.toInt at tag
        omega
  · intro small
    refine ⟨inside, fun none => ?_, fun ti some => ?_⟩
    · rw [none] at outcome
      exact outcome.2
    · rw [some] at outcome
      obtain ⟨parsed, place, left⟩ := outcome
      obtain ⟨header, whole, few⟩ := TlvHeader.of_parseTlv parsed
      have read := TlvHeader.parseTlv_octets few
        (blockBytes mem (parseTlvAt mem buffer size).buffer (parseTlvAt mem buffer size).size)
      rw [← whole, parsed] at read
      obtain ⟨rfl, -⟩ := Prod.mk.inj (Option.some.inj read)
      exact ⟨header, whole, header.info_describes_iff.mpr (small header _ whole few), place, left⟩

/-- A header of seven octets with the tag 2^31. -/
def largeTagMemory : ByteMemory := fun addr => [31, 136, 128, 128, 128, 0, 0].getD addr 0

/-- The tag is returned as a negative number. -/
theorem large_tag_not_exact : ¬ParsedExactly largeTagMemory 0 7 := by
  intro exact'
  have result : (parseTlvAt largeTagMemory 0 7).result
      = some ⟨0, -2147483648, false, false, 0, 7⟩ := by decide
  obtain ⟨header, -, describes, -⟩ := exact'.parsed _ result
  have tag : (-2147483648 : Int) = header.tag := describes.tag
  omega

end Gpgme
