import Mathlib.Tactic.Ring
import Gpgme.Error
import Gpgme.Lib.CString

/-! The packets of `data-identify.c`: `next_openpgp_packet` and the images that it reads. -/

namespace Gpgme

-----------------------------------------------------------------------------------------
-- The function
-----------------------------------------------------------------------------------------

/-- The packet types that are accepted. -/
def allowedPacket (pkttype : Nat) : Bool :=
  (1 ≤ pkttype && pkttype ≤ 14) || (16 ≤ pkttype && pkttype ≤ 19)

/-- What is read of a header: the type and the length of the packet, and the position and the number
of bytes behind it. A position is the list of the bytes up to the end of the buffer; the source
counts how many of them may be read.
-/
structure PacketHeader where
  pkttype : Nat
  pktlen : Nat
  buf : List UInt8
  len : Nat

/-- The loop over length bytes. Without a byte there is no value. -/
def readLength : Nat → Nat → List UInt8 → Nat → Option (Nat × List UInt8 × Nat)
  | 0, pktlen, buf, len => some (pktlen, buf, len)
  | _ + 1, _, [], _ => none
  | lenbytes + 1, pktlen, c :: buf, len =>
      readLength lenbytes (pktlen * 256 + c.toNat) buf (len - 1)

/-- A header whose length has been read. -/
def lengthRead (pkttype : Nat) (read : Option (Nat × List UInt8 × Nat))
    : Option (Except GpgError PacketHeader) :=
  read.map fun (pktlen, buf, len) => .ok { pkttype, pktlen, buf, len }

/-- The length bytes of a header of the new style. -/
def newHeader (ctb : UInt8) (buf : List UInt8) (len : Nat)
    : Option (Except GpgError PacketHeader) :=
  let pkttype := ctb.toNat % 64
  if len = 0 then some (.error (gpgError ErrCode.invPacket))
  else
    match buf with
    | [] => none
    | c :: buf =>
        let len := len - 1
        if c < 192 then some (.ok { pkttype, pktlen := c.toNat, buf, len })
        else if c < 224 then
          if len = 0 then some (.error (gpgError ErrCode.invPacket))
          else
            match buf with
            | [] => none
            | d :: buf =>
                let pktlen := (c.toNat - 192) * 256 + (d.toNat + 192)
                some (.ok { pkttype, pktlen, buf, len := len - 1 })
        else if c = 255 then
          if len < 4 then some (.error (gpgError ErrCode.invPacket))
          else lengthRead pkttype (readLength 4 0 buf len)
        else
          -- Partial length encoding.
          some (.ok { pkttype, pktlen := 0, buf, len })

/-- The length bytes of a header of the old style. -/
def oldHeader (ctb : UInt8) (buf : List UInt8) (len : Nat)
    : Option (Except GpgError PacketHeader) :=
  let lenbytes := if ctb.toNat % 4 = 3 then 0 else 2 ^ (ctb.toNat % 4)
  if len < lenbytes then some (.error (gpgError ErrCode.invPacket))
  else lengthRead (ctb.toNat / 4 % 16) (readLength lenbytes 0 buf len)

/-- What follows the tag of a packet. Bit 6 of the tag tells the styles apart. -/
def packetHeader (ctb : UInt8) (buf : List UInt8) (len : Nat)
    : Option (Except GpgError PacketHeader) :=
  if ctb.toNat / 64 % 2 = 1 then newHeader ctb buf len else oldHeader ctb buf len

/-- The start of a PNG file. -/
def pngStart : List UInt8 := [137, 80, 78, 71]

/-- What is stored at the arguments of the function, if something is stored, and its value. The
position is a null pointer behind the last packet.
-/
structure NextPacket where
  err : GpgError
  bufptr : Option (List UInt8)
  buflen : Nat
  pkttype : Option Nat := none
  ntotal : Option Nat := none
deriving DecidableEq

/-- The end of the function for a header that has been read. -/
def packetOfHeader (bufptr : List UInt8) (buflen : Nat) (header : PacketHeader) : NextPacket :=
  if !allowedPacket header.pkttype then
    { err := gpgError ErrCode.unexpected, bufptr := some bufptr, buflen }
  else if header.len < header.pktlen then
    { err := gpgError ErrCode.truncated, bufptr := none, buflen,
      pkttype := some header.pkttype, ntotal := some 0 }
  else
    let buflen := header.len - header.pktlen
    { err := 0,
      bufptr := if buflen = 0 then none else some (header.buf.drop header.pktlen),
      buflen,
      pkttype := some header.pkttype,
      ntotal := some (bufptr.length - header.buf.length + header.pktlen) }

/-- `next_openpgp_packet`. There is no result if the buffer is left. -/
def nextOpenpgpPacket (bufptr : List UInt8) (buflen : Nat) : Option NextPacket :=
  if buflen = 0 then
    some { err := gpgError ErrCode.noData, bufptr := some bufptr, buflen }
  else if 4 ≤ buflen ∧ bufptr.length < 4 then none
  else if 4 ≤ buflen ∧ bufptr.take 4 = pngStart then
    some { err := gpgError ErrCode.invPacket, bufptr := some bufptr, buflen }
  else
    match bufptr with
    | [] => none
    | ctb :: buf =>
        if ctb < 128 then
          some { err := gpgError ErrCode.invPacket, bufptr := some bufptr, buflen }
        else
          (packetHeader ctb buf (buflen - 1)).map fun
            | .error err => { err, bufptr := some bufptr, buflen }
            | .ok header => packetOfHeader bufptr buflen header

/-- Calls up to the end of a buffer: the types and the total sizes of its packets, if the end is
reached with just so many calls and without an error.
-/
def openpgpPackets : Nat → List UInt8 → Nat → Option (List (Nat × Nat))
  | 0, _, _ => none
  | calls + 1, bufptr, buflen => do
      let next ← nextOpenpgpPacket bufptr buflen
      guard (next.err = 0)
      let entry := (← next.pkttype, ← next.ntotal)
      match next.bufptr with
      | none => if calls = 0 then some [entry] else none
      | some bufptr => (openpgpPackets calls bufptr next.buflen).map (entry :: ·)

-----------------------------------------------------------------------------------------
-- The images of packets
-----------------------------------------------------------------------------------------

/-- How the length of a packet is encoded. -/
inductive LengthFormat where
  | old1
  | old2
  | old4
  | new1
  | new2
  | new5
deriving DecidableEq

/-- A number in so many bytes, the highest one first. -/
def bigEndian : Nat → Nat → List UInt8
  | 0, _ => []
  | count + 1, n => UInt8.ofNat (n / 256 ^ count) :: bigEndian count n

namespace LengthFormat

/-- The lengths that a header can have; the old ones have only four bits for the type. -/
def Fits (format : LengthFormat) (type length : Nat) : Prop :=
  match format with
  | old1 => type < 16 ∧ length < 256
  | old2 => type < 16 ∧ length < 256 ^ 2
  | old4 => type < 16 ∧ length < 256 ^ 4
  | new1 => length < 192
  | new2 => 192 ≤ length ∧ length < 8384
  | new5 => length < 256 ^ 4

/-- The tag of a packet. -/
def ctb (format : LengthFormat) (type : Nat) : UInt8 :=
  match format with
  | old1 => UInt8.ofNat (128 + type * 4)
  | old2 => UInt8.ofNat (128 + type * 4 + 1)
  | old4 => UInt8.ofNat (128 + type * 4 + 2)
  | _ => UInt8.ofNat (192 + type)

/-- The length bytes behind the tag. -/
def lengthBytes (format : LengthFormat) (length : Nat) : List UInt8 :=
  match format with
  | old1 => bigEndian 1 length
  | old2 => bigEndian 2 length
  | old4 => bigEndian 4 length
  | new1 => bigEndian 1 length
  | new2 => bigEndian 2 (length - 192 + 192 * 256)
  | new5 => 255 :: bigEndian 4 length

end LengthFormat

/-- A packet of an accepted type with a header of definite length. -/
structure Packet where
  type : Nat
  format : LengthFormat
  body : List UInt8
  allowed : allowedPacket type = true
  fits : format.Fits type body.length

namespace Packet

def header (packet : Packet) : List UInt8 :=
  packet.format.ctb packet.type :: packet.format.lengthBytes packet.body.length

def image (packet : Packet) : List UInt8 := packet.header ++ packet.body

/-- The image is not mistaken for a PNG file. -/
def NotPng (packet : Packet) : Prop := ¬pngStart <+: packet.image

end Packet

-----------------------------------------------------------------------------------------
-- Headers are read back
-----------------------------------------------------------------------------------------

theorem length_bigEndian (count n : Nat) : (bigEndian count n).length = count := by
  induction count with
  | zero => rfl
  | succ count ih => rw [bigEndian, List.length_cons, ih]

theorem readLength_bigEndian (count pktlen n : Nat) (tail : List UInt8) (len : Nat)
    : readLength count pktlen (bigEndian count n ++ tail) len
      = some (pktlen * 256 ^ count + n % 256 ^ count, tail, len - count) := by
  induction count generalizing pktlen len with
  | zero => simp [readLength, bigEndian, Nat.mod_one]
  | succ count ih =>
      have digit : (UInt8.ofNat (n / 256 ^ count)).toNat = n / 256 ^ count % 256 :=
        UInt8.toNat_ofNat'
      have value
          : (pktlen * 256 + n / 256 ^ count % 256) * 256 ^ count + n % 256 ^ count
            = pktlen * 256 ^ (count + 1) + n % 256 ^ (count + 1) := by
        rw [Nat.mod_pow_succ]
        ring
      rw [bigEndian, List.cons_append, readLength, ih, digit, value, Nat.sub_sub, Nat.add_comm 1]

theorem allowedPacket_lt {pkttype : Nat} (allowed : allowedPacket pkttype = true)
    : 1 ≤ pkttype ∧ pkttype < 20 := by
  simp only [allowedPacket, Bool.or_eq_true, Bool.and_eq_true, decide_eq_true_eq] at allowed
  omega

theorem oldHeader_read {type lenbytes : Nat} (small : type < 16) {shift : Nat} (few : shift < 3)
    (bytes : lenbytes = 2 ^ shift) {n : Nat} (fits : n < 256 ^ lenbytes) (tail : List UInt8)
    : oldHeader (UInt8.ofNat (128 + type * 4 + shift)) (bigEndian lenbytes n ++ tail)
        (bigEndian lenbytes n ++ tail).length
      = some (.ok { pkttype := type, pktlen := n, buf := tail, len := tail.length }) := by
  have ctb : (UInt8.ofNat (128 + type * 4 + shift)).toNat = 128 + type * 4 + shift :=
    UInt8.toNat_ofNat_of_lt' (by change _ < 256; omega)
  have count : (128 + type * 4 + shift) % 4 = shift := by omega
  have pkttype : (128 + type * 4 + shift) / 4 % 16 = type := by omega
  unfold oldHeader
  rw [ctb, count, pkttype, if_neg (by omega : ¬shift = 3), ← bytes, List.length_append,
    length_bigEndian]
  dsimp only
  rw [if_neg (by omega), readLength_bigEndian, Nat.mod_eq_of_lt fits]
  simp [lengthRead]

namespace Packet

theorem ctb_old {type shift : Nat} (small : type < 16) (few : shift < 3)
    : ¬UInt8.ofNat (128 + type * 4 + shift) < 128
      ∧ (UInt8.ofNat (128 + type * 4 + shift)).toNat / 64 % 2 = 0 := by
  have ctb : (UInt8.ofNat (128 + type * 4 + shift)).toNat = 128 + type * 4 + shift :=
    UInt8.toNat_ofNat_of_lt' (by change _ < 256; omega)
  refine ⟨?_, by omega⟩
  rw [UInt8.lt_iff_toNat_lt, ctb]
  change ¬_ < 128
  omega

theorem ctb_new {type : Nat} (small : type < 20)
    : ¬UInt8.ofNat (192 + type) < 128
      ∧ (UInt8.ofNat (192 + type)).toNat / 64 % 2 = 1
      ∧ (UInt8.ofNat (192 + type)).toNat % 64 = type := by
  have ctb : (UInt8.ofNat (192 + type)).toNat = 192 + type :=
    UInt8.toNat_ofNat_of_lt' (by change _ < 256; omega)
  refine ⟨?_, by omega, by omega⟩
  rw [UInt8.lt_iff_toNat_lt, ctb]
  change ¬_ < 128
  omega

theorem packetHeader_read {format : LengthFormat} {type n : Nat} (bound : type < 20)
    (fits : format.Fits type n) (tail : List UInt8)
    : ¬format.ctb type < 128
      ∧ packetHeader (format.ctb type) (format.lengthBytes n ++ tail)
          (format.lengthBytes n ++ tail).length
        = some (.ok { pkttype := type, pktlen := n, buf := tail, len := tail.length }) := by
  unfold packetHeader
  cases format with
  | old1 =>
      obtain ⟨positive, style⟩ := ctb_old fits.1 (by omega : 0 < 3)
      refine ⟨positive, ?_⟩
      rw [LengthFormat.ctb, if_neg (by rw [← Nat.add_zero (128 + type * 4), style]; omega)]
      exact oldHeader_read fits.1 (by omega : 0 < 3) rfl (by simpa using fits.2) tail
  | old2 =>
      obtain ⟨positive, style⟩ := ctb_old fits.1 (by omega : 1 < 3)
      refine ⟨positive, ?_⟩
      rw [LengthFormat.ctb, if_neg (by rw [style]; omega)]
      exact oldHeader_read fits.1 (by omega : 1 < 3) rfl fits.2 tail
  | old4 =>
      obtain ⟨positive, style⟩ := ctb_old fits.1 (by omega : 2 < 3)
      refine ⟨positive, ?_⟩
      rw [LengthFormat.ctb, if_neg (by rw [style]; omega)]
      exact oldHeader_read fits.1 (by omega : 2 < 3) rfl fits.2 tail
  | new1 =>
      obtain ⟨positive, style, low⟩ := ctb_new bound
      refine ⟨positive, ?_⟩
      have fits : n < 192 := fits
      have byte : (UInt8.ofNat (n / 256 ^ 0)).toNat = n := by
        rw [UInt8.toNat_ofNat', Nat.pow_zero, Nat.div_one]
        omega
      have short : UInt8.ofNat (n / 256 ^ 0) < 192 := by
        rw [UInt8.lt_iff_toNat_lt, byte]
        exact fits
      have tag : LengthFormat.new1.ctb type = UInt8.ofNat (192 + type) := rfl
      have bytes : LengthFormat.new1.lengthBytes n = [UInt8.ofNat (n / 256 ^ 0)] := rfl
      rw [tag, if_pos style, bytes]
      unfold newHeader
      rw [low]
      dsimp only [List.cons_append, List.nil_append, List.length_cons]
      rw [if_neg (by omega), if_pos short, byte]
      rfl
  | new2 =>
      obtain ⟨positive, style, low⟩ := ctb_new bound
      refine ⟨positive, ?_⟩
      obtain ⟨least, most⟩ : 192 ≤ n ∧ n < 8384 := fits
      have high : (UInt8.ofNat ((n - 192 + 192 * 256) / 256 ^ 1)).toNat
          = (n - 192) / 256 + 192 := by
        rw [UInt8.toNat_ofNat', Nat.pow_one]
        omega
      have byte : (UInt8.ofNat ((n - 192 + 192 * 256) / 256 ^ 0)).toNat = (n - 192) % 256 := by
        rw [UInt8.toNat_ofNat', Nat.pow_zero, Nat.div_one]
        omega
      have large : ¬UInt8.ofNat ((n - 192 + 192 * 256) / 256 ^ 1) < 192 := by
        rw [UInt8.lt_iff_toNat_lt, high]
        exact Nat.not_lt.mpr (Nat.le_add_left _ _)
      have short : UInt8.ofNat ((n - 192 + 192 * 256) / 256 ^ 1) < 224 := by
        rw [UInt8.lt_iff_toNat_lt, high]
        change _ < 224
        omega
      have tag : LengthFormat.new2.ctb type = UInt8.ofNat (192 + type) := rfl
      have bytes
          : LengthFormat.new2.lengthBytes n
            = [UInt8.ofNat ((n - 192 + 192 * 256) / 256 ^ 1),
              UInt8.ofNat ((n - 192 + 192 * 256) / 256 ^ 0)] := rfl
      rw [tag, if_pos style, bytes]
      unfold newHeader
      rw [low]
      dsimp only [List.cons_append, List.nil_append, List.length_cons]
      rw [if_neg (by omega), if_neg large, if_pos short, if_neg (by omega), high, byte]
      have value : ((n - 192) / 256 + 192 - 192) * 256 + ((n - 192) % 256 + 192) = n := by omega
      rw [value]
      rfl
  | new5 =>
      obtain ⟨positive, style, low⟩ := ctb_new bound
      refine ⟨positive, ?_⟩
      have tag : LengthFormat.new5.ctb type = UInt8.ofNat (192 + type) := rfl
      have bytes : LengthFormat.new5.lengthBytes n = 255 :: bigEndian 4 n := rfl
      rw [tag, if_pos style, bytes]
      unfold newHeader
      rw [low]
      dsimp only [List.cons_append, List.length_cons]
      rw [if_neg (by omega), if_neg (by decide), if_neg (by decide), if_pos rfl,
        List.length_append, length_bigEndian, if_neg (by omega), readLength_bigEndian,
        Nat.mod_eq_of_lt fits]
      simp [lengthRead]

theorem ctb_png {format : LengthFormat} {type : Nat} (bound : type < 20)
    {n : Nat} (fits : format.Fits type n) (tag : format.ctb type = 137)
    : format = .old2 := by
  have value := congrArg UInt8.toNat tag
  have byte (k : Nat) : (UInt8.ofNat k).toNat = k % 256 := UInt8.toNat_ofNat'
  have png : (137 : UInt8).toNat = 137 := rfl
  cases format with
  | old1 =>
      have small := fits.1
      simp only [LengthFormat.ctb, byte, png] at value
      omega
  | old2 => rfl
  | old4 =>
      have small := fits.1
      simp only [LengthFormat.ctb, byte, png] at value
      omega
  | new1 | new2 | new5 =>
      simp only [LengthFormat.ctb, byte, png] at value
      omega

theorem NotPng.behind {packet : Packet} (notPng : packet.NotPng) (more : List UInt8)
    : ¬pngStart <+: packet.image ++ more := by
  intro starts
  by_cases long : 4 ≤ packet.image.length
  · exact notPng (List.prefix_of_prefix_length_le starts (List.prefix_append _ _) long)
  · obtain ⟨type, format, body, allowed, fits⟩ := packet
    obtain ⟨behind, split⟩ := starts
    unfold image header at split long
    dsimp only at split long
    rw [List.cons_append, List.cons_append] at split
    obtain ⟨tag, split⟩ := List.cons.inj split
    obtain rfl := ctb_png (allowedPacket_lt allowed).2 fits tag.symm
    have byte (k : Nat) : (UInt8.ofNat k).toNat = k % 256 := UInt8.toNat_ofNat'
    obtain ⟨high, -⟩ := List.cons.inj split
    have high := congrArg UInt8.toNat high
    rw [byte, Nat.pow_one] at high
    have eighty : (80 : UInt8).toNat = 80 := rfl
    have large : 4 ≤ body.length := by omega
    simp only [List.length_append, List.length_cons] at long
    omega

theorem length_header_pos (packet : Packet) : 0 < packet.header.length := Nat.succ_pos _

/-- What is read of the header when some bytes are behind it. -/
def readHeader (packet : Packet) (tail : List UInt8) : PacketHeader where
  pkttype := packet.type
  pktlen := packet.body.length
  buf := tail
  len := tail.length

theorem next_header {packet : Packet} (notPng : packet.NotPng) {tail more : List UInt8}
    (cut : packet.header ++ tail <+: packet.image ++ more)
    : nextOpenpgpPacket (packet.header ++ tail) (packet.header ++ tail).length
      = some (packetOfHeader (packet.header ++ tail) (packet.header ++ tail).length
          (packet.readHeader tail)) := by
  have noPng : (packet.header ++ tail).take 4 ≠ pngStart := fun starts =>
    notPng.behind more ((starts ▸ List.take_prefix 4 _).trans cut)
  have positive := packet.length_header_pos
  obtain ⟨tag, read⟩ := packetHeader_read (allowedPacket_lt packet.allowed).2 packet.fits tail
  have split
      : packet.header ++ tail
        = packet.format.ctb packet.type
          :: (packet.format.lengthBytes packet.body.length ++ tail) := rfl
  rw [split] at noPng ⊢
  unfold nextOpenpgpPacket
  rw [if_neg (by simp), if_neg (by omega), if_neg fun png => noPng png.2]
  dsimp only
  rw [if_neg tag, List.length_cons, Nat.add_sub_cancel, read]
  rfl

theorem length_image (packet : Packet)
    : packet.image.length = packet.header.length + packet.body.length := List.length_append

theorem next_truncated {packet : Packet} (notPng : packet.NotPng) {tail more : List UInt8}
    (cut : packet.header ++ tail <+: packet.image ++ more)
    (short : tail.length < packet.body.length)
    : nextOpenpgpPacket (packet.header ++ tail) (packet.header ++ tail).length
      = some { err := gpgError ErrCode.truncated, bufptr := none,
               buflen := (packet.header ++ tail).length, pkttype := some packet.type,
               ntotal := some 0 } := by
  have accepted : ¬(!allowedPacket (packet.readHeader tail).pkttype) = true := by
    simp [readHeader, packet.allowed]
  have truncated : (packet.readHeader tail).len < (packet.readHeader tail).pktlen := short
  rw [next_header notPng cut, packetOfHeader, if_neg accepted, if_pos truncated]
  rfl

theorem next_whole {packet : Packet} (notPng : packet.NotPng) (rest : List UInt8)
    : nextOpenpgpPacket (packet.image ++ rest) (packet.image ++ rest).length
      = some { err := 0, bufptr := if rest = [] then none else some rest, buflen := rest.length,
               pkttype := some packet.type, ntotal := some packet.image.length } := by
  have split : packet.image ++ rest = packet.header ++ (packet.body ++ rest) :=
    List.append_assoc ..
  have read := @next_header packet notPng (packet.body ++ rest) rest (split ▸ List.prefix_rfl)
  have accepted : ¬(!allowedPacket (packet.readHeader (packet.body ++ rest)).pkttype) = true := by
    simp [readHeader, packet.allowed]
  have whole
      : ¬(packet.readHeader (packet.body ++ rest)).len
        < (packet.readHeader (packet.body ++ rest)).pktlen := by
    simp [readHeader]
  rw [split, read, packetOfHeader, if_neg accepted, if_neg whole, length_image]
  simp [readHeader]

end Packet

/-- Packets one after the other. -/
def packetImages (packets : List Packet) : List UInt8 := packets.flatMap Packet.image

theorem image_ne_nil (packet : Packet) : packet.image ≠ [] := List.cons_ne_nil _ _

theorem openpgpPackets_images {packet : Packet} {packets : List Packet}
    (notPng : ∀ p ∈ packet :: packets, p.NotPng)
    : openpgpPackets (packet :: packets).length (packetImages (packet :: packets))
        (packetImages (packet :: packets)).length
      = some ((packet :: packets).map fun p => (p.type, p.image.length)) := by
  induction packets generalizing packet with
  | nil =>
      have next := Packet.next_whole (notPng packet List.mem_cons_self) []
      have images : packetImages [packet] = packet.image ++ [] := List.flatMap_cons
      rw [images, List.length_singleton, openpgpPackets, next]
      simp [guard]
  | cons second rest ih =>
      have next := Packet.next_whole (notPng packet List.mem_cons_self)
        (packetImages (second :: rest))
      have images
          : packetImages (packet :: second :: rest)
            = packet.image ++ packetImages (second :: rest) := List.flatMap_cons
      have later := ih fun p member => notPng p (List.mem_cons_of_mem _ member)
      have more : packetImages (second :: rest) ≠ [] := by
        rw [packetImages, List.flatMap_cons]
        exact List.append_ne_nil_of_left_ne_nil (image_ne_nil second) _
      rw [images, List.length_cons, openpgpPackets, next]
      simp only [guard, if_true, Option.bind_eq_bind, Option.bind_some, if_neg more]
      rw [later]
      rfl

-----------------------------------------------------------------------------------------
-- Any buffer
-----------------------------------------------------------------------------------------

/-- The type that the tag of a packet tells: the low six bits in the new style, four of them in the
old one.
-/
def tagType (ctb : UInt8) : Nat :=
  if ctb.toNat / 64 % 2 = 1 then ctb.toNat % 64 else ctb.toNat / 4 % 16

/-- What a call does with its arguments, for a buffer of so many bytes. -/
structure NextPacket.Sound (image : List UInt8) (next : NextPacket) : Prop where
  consumed
    : next.err = 0 →
      ∃ ctb ntotal,
        image.head? = some ctb
        ∧ next.pkttype = some (tagType ctb)
        ∧ next.ntotal = some ntotal
        ∧ 1 ≤ ntotal
        ∧ ntotal + next.buflen = image.length
        ∧ next.bufptr = if next.buflen = 0 then none else some (image.drop ntotal)
  truncated
    : next.err = gpgError ErrCode.truncated →
      next.bufptr = none
      ∧ ∃ ctb, image.head? = some ctb ∧ next.pkttype = some (tagType ctb)

theorem readLength_front {count : Nat} (pktlen : Nat) {buf : List UInt8}
    (enough : count ≤ buf.length)
    : ∃ pktlen', readLength count pktlen buf buf.length
        = some (pktlen', buf.drop count, (buf.drop count).length) := by
  induction count generalizing pktlen buf with
  | zero => exact ⟨pktlen, rfl⟩
  | succ count ih =>
      cases buf with
      | nil => cases enough
      | cons c buf =>
          rw [readLength, List.length_cons, Nat.add_sub_cancel, List.drop_succ_cons]
          exact ih _ (Nat.le_of_succ_le_succ enough)

/-- A header is an error, or it is read from the front of the buffer. -/
inductive HeaderRead (pkttype : Nat) (buf : List UInt8)
    : Option (Except GpgError PacketHeader) → Prop where
  | failed : HeaderRead pkttype buf (some (.error (gpgError ErrCode.invPacket)))
  | read (pktlen : Nat) {count : Nat} (fits : count ≤ buf.length)
    : HeaderRead pkttype buf
        (some (.ok ⟨pkttype, pktlen, buf.drop count, (buf.drop count).length⟩))

theorem lengthRead_front {count : Nat} (pkttype : Nat) {buf : List UInt8}
    (enough : count ≤ buf.length)
    : HeaderRead pkttype buf (lengthRead pkttype (readLength count 0 buf buf.length)) := by
  obtain ⟨pktlen, read⟩ := readLength_front 0 enough
  rw [read]
  exact .read pktlen enough

theorem newHeader_front (ctb : UInt8) (buf : List UInt8)
    : HeaderRead (ctb.toNat % 64) buf (newHeader ctb buf buf.length) := by
  unfold newHeader
  cases buf with
  | nil => exact .failed
  | cons c buf =>
      rw [if_neg (by simp)]
      dsimp only
      rw [List.length_cons, Nat.add_sub_cancel]
      have one : 1 ≤ (c :: buf).length := Nat.succ_le_succ (Nat.zero_le _)
      split_ifs with short two five few
      · exact @HeaderRead.read _ _ _ 1 one
      · exact .failed
      · cases buf with
        | nil => exact absurd rfl five
        | cons d buf =>
            exact @HeaderRead.read _ _ _ 2 (Nat.succ_le_succ (Nat.succ_le_succ (Nat.zero_le _)))
      · exact .failed
      · obtain ⟨pktlen, read⟩ := readLength_front 0 (Nat.not_lt.mp ‹¬buf.length < 4›)
        rw [read]
        exact @HeaderRead.read _ _ _ 5 (by rw [List.length_cons]; omega)
      · exact @HeaderRead.read _ _ _ 1 one

theorem packetHeader_front (ctb : UInt8) (buf : List UInt8)
    : HeaderRead (tagType ctb) buf (packetHeader ctb buf buf.length) := by
  unfold packetHeader oldHeader tagType
  split
  · exact newHeader_front ctb buf
  · generalize (if ctb.toNat % 4 = 3 then 0 else 2 ^ (ctb.toNat % 4)) = lenbytes
    by_cases few : buf.length < lenbytes
    · rw [if_pos few]
      exact .failed
    · rw [if_neg few]
      exact lengthRead_front _ (Nat.not_lt.mp few)

theorem nextOpenpgpPacket_sound (image : List UInt8)
    : ∃ next, nextOpenpgpPacket image image.length = some next ∧ next.Sound image := by
  have failed {code : Nat} (other : gpgError code ≠ 0 ∧ gpgError code ≠ gpgError ErrCode.truncated)
      : NextPacket.Sound image
          { err := gpgError code, bufptr := some image, buflen := image.length } :=
    ⟨fun accepted => absurd accepted other.1, fun cut => absurd cut other.2⟩
  have nonzero : gpgError ErrCode.truncated ≠ 0 := by decide
  unfold nextOpenpgpPacket
  by_cases empty : image.length = 0
  · rw [if_pos empty]
    exact ⟨_, rfl, failed (by decide)⟩
  rw [if_neg empty, if_neg (by omega)]
  by_cases png : 4 ≤ image.length ∧ image.take 4 = pngStart
  · rw [if_pos png]
    exact ⟨_, rfl, failed (by decide)⟩
  rw [if_neg png]
  cases image with
  | nil => exact absurd rfl empty
  | cons ctb buf =>
      dsimp only
      by_cases tag : ctb < 128
      · rw [if_pos tag]
        exact ⟨_, rfl, failed (by decide)⟩
      rw [if_neg tag, List.length_cons, Nat.add_sub_cancel]
      have front := packetHeader_front ctb buf
      generalize packetHeader ctb buf buf.length = read at front ⊢
      cases front with
      | failed => exact ⟨_, rfl, failed (by decide)⟩
      | @read pktlen count fits =>
          refine ⟨_, rfl, ?_⟩
          dsimp only [packetOfHeader]
          by_cases allowed : (!allowedPacket (tagType ctb)) = true
          · rw [if_pos allowed]
            exact failed (by decide)
          rw [if_neg allowed]
          by_cases short : (buf.drop count).length < pktlen
          · rw [if_pos short]
            exact ⟨fun accepted => absurd accepted nonzero, fun _ => ⟨rfl, ctb, rfl, rfl⟩⟩
          · rw [if_neg short]
            refine ⟨fun _ => ⟨ctb, _, rfl, rfl, rfl, ?_, ?_, ?_⟩, fun cut => ?_⟩
            · rw [List.length_cons, List.length_drop]
              omega
            · change (ctb :: buf).length - (buf.drop count).length + pktlen
                + ((buf.drop count).length - pktlen) = (ctb :: buf).length
              rw [List.length_cons]
              rw [List.length_drop] at short ⊢
              omega
            · have total : (ctb :: buf).length - (buf.drop count).length = count + 1 := by
                rw [List.length_cons, List.length_drop]
                omega
              rw [total, List.drop_drop, Nat.add_right_comm, List.drop_succ_cons]
            · exact absurd cut.symm nonzero

/-- What is behind the buffer stays behind what has been read of it. -/
def PacketHeader.behind (more : List UInt8) (header : PacketHeader) : PacketHeader :=
  { header with buf := header.buf ++ more }

def NextPacket.behind (more : List UInt8) (next : NextPacket) : NextPacket :=
  { next with bufptr := next.bufptr.map (· ++ more) }

theorem readLength_behind {count : Nat} (pktlen : Nat) {buf : List UInt8}
    (enough : count ≤ buf.length) (more : List UInt8)
    : readLength count pktlen (buf ++ more) buf.length
      = (readLength count pktlen buf buf.length).map fun (pktlen, buf, len) =>
          (pktlen, buf ++ more, len) := by
  induction count generalizing pktlen buf with
  | zero => rfl
  | succ count ih =>
      cases buf with
      | nil => cases enough
      | cons c buf =>
          rw [List.cons_append, readLength, readLength, List.length_cons, Nat.add_sub_cancel]
          exact ih _ (Nat.le_of_succ_le_succ enough)

theorem lengthRead_behind {count : Nat} (pkttype : Nat) {buf : List UInt8}
    (enough : count ≤ buf.length) (more : List UInt8)
    : lengthRead pkttype (readLength count 0 (buf ++ more) buf.length)
      = (lengthRead pkttype (readLength count 0 buf buf.length)).map
          (Except.map (PacketHeader.behind more)) := by
  rw [readLength_behind 0 enough]
  cases readLength count 0 buf buf.length <;> rfl

theorem newHeader_behind (ctb : UInt8) (buf more : List UInt8)
    : newHeader ctb (buf ++ more) buf.length
      = (newHeader ctb buf buf.length).map (Except.map (PacketHeader.behind more)) := by
  unfold newHeader
  cases buf with
  | nil => rfl
  | cons c buf =>
      rw [if_neg (by simp), if_neg (by simp)]
      dsimp only [List.cons_append]
      rw [List.length_cons, Nat.add_sub_cancel]
      split_ifs with short two five full few
      · rfl
      · rfl
      · cases buf with
        | nil => exact absurd rfl five
        | cons d buf => rfl
      · rfl
      · exact lengthRead_behind _ (Nat.not_lt.mp few) more
      · rfl

theorem packetHeader_behind (ctb : UInt8) (buf more : List UInt8)
    : packetHeader ctb (buf ++ more) buf.length
      = (packetHeader ctb buf buf.length).map (Except.map (PacketHeader.behind more)) := by
  unfold packetHeader oldHeader
  split
  · exact newHeader_behind ctb buf more
  · generalize (if ctb.toNat % 4 = 3 then 0 else 2 ^ (ctb.toNat % 4)) = lenbytes
    by_cases few : buf.length < lenbytes
    · rw [if_pos few, if_pos few]
      rfl
    · rw [if_neg few, if_neg few]
      exact lengthRead_behind _ (Nat.not_lt.mp few) more

theorem nextOpenpgpPacket_behind (image more : List UInt8)
    : nextOpenpgpPacket (image ++ more) image.length
      = (nextOpenpgpPacket image image.length).map (NextPacket.behind more) := by
  unfold nextOpenpgpPacket
  by_cases empty : image.length = 0
  · rw [if_pos empty, if_pos empty]
    rfl
  have start : 4 ≤ image.length → (image ++ more).take 4 = image.take 4 := fun long =>
    List.take_append_of_le_length long
  have inside : ¬(4 ≤ image.length ∧ (image ++ more).length < 4) := by
    rw [List.length_append]
    omega
  have inside' : ¬(4 ≤ image.length ∧ image.length < 4) := by omega
  rw [if_neg empty, if_neg empty, if_neg inside, if_neg inside']
  by_cases png : 4 ≤ image.length ∧ image.take 4 = pngStart
  · rw [if_pos png, if_pos ⟨png.1, (start png.1).trans png.2⟩]
    rfl
  rw [if_neg png, if_neg fun behind => png ⟨behind.1, (start behind.1).symm.trans behind.2⟩]
  cases image with
  | nil => exact absurd rfl empty
  | cons ctb buf =>
      dsimp only [List.cons_append]
      by_cases tag : ctb < 128
      · rw [if_pos tag, if_pos tag]
        rfl
      rw [if_neg tag, if_neg tag, List.length_cons, Nat.add_sub_cancel, packetHeader_behind]
      have front := packetHeader_front ctb buf
      generalize packetHeader ctb buf buf.length = read at front ⊢
      cases front with
      | failed => rfl
      | @read pktlen count fits =>
          dsimp only [Option.map_some, Except.map, packetOfHeader, PacketHeader.behind]
          by_cases allowed : (!allowedPacket (tagType ctb)) = true
          · rw [if_pos allowed, if_pos allowed]
            rfl
          rw [if_neg allowed, if_neg allowed]
          by_cases short : (buf.drop count).length < pktlen
          · rw [if_pos short, if_pos short]
            rfl
          have enough : pktlen ≤ (buf.drop count).length := Nat.not_lt.mp short
          have total
              : (ctb :: (buf ++ more)).length - (buf.drop count ++ more).length
                = (ctb :: buf).length - (buf.drop count).length := by
            simp only [List.length_cons, List.length_append]
            omega
          rw [if_neg short, if_neg short, total, List.drop_append_of_le_length enough]
          by_cases ended : (buf.drop count).length - pktlen = 0
          · rw [if_pos ended, if_pos ended]
            rfl
          · rw [if_neg ended, if_neg ended]
            rfl

/-- Packets are framed: the calls give exactly the types and sizes of the packets in some data, and
whatever the data are, a call stays inside of them and gets on. A packet that is cut behind its
header has its type stored.
-/
theorem openpgp_packets_framed
    : (∀ packets : List Packet,
        packets ≠ []
        → (∀ packet ∈ packets, packet.NotPng)
        → openpgpPackets packets.length (packetImages packets) (packetImages packets).length
          = some (packets.map fun packet => (packet.type, packet.image.length)))
      ∧ (∀ image, ∃ next,
        nextOpenpgpPacket image image.length = some next ∧ next.Sound image)
      ∧ ∀ (packet : Packet) (tail : List UInt8),
        packet.NotPng
        → packet.header ++ tail <+: packet.image
        → tail.length < packet.body.length
        → nextOpenpgpPacket (packet.header ++ tail) (packet.header ++ tail).length
          = some { err := gpgError ErrCode.truncated, bufptr := none,
                   buflen := (packet.header ++ tail).length, pkttype := some packet.type,
                   ntotal := some 0 } := by
  refine ⟨fun packets some notPng => ?_, nextOpenpgpPacket_sound, fun packet tail notPng cut short =>
    Packet.next_truncated notPng (cut.trans (List.prefix_append _ [])) short⟩
  cases packets with
  | nil => exact absurd rfl some
  | cons packet packets => exact openpgpPackets_images notPng

/-- A marker with an old header and an empty signature with a new one. -/
def markerPacket : Packet where
  type := 10
  format := .old1
  body := [80, 71, 80]
  allowed := rfl
  fits := ⟨by decide, by decide⟩

def emptySignature : Packet where
  type := 2
  format := .new1
  body := []
  allowed := rfl
  fits := Nat.zero_lt_succ _

theorem two_packets_framed
    : openpgpPackets 2 [168, 3, 80, 71, 80, 194, 0] 7 = some [(10, 5), (2, 2)] :=
  openpgp_packets_framed.1 [markerPacket, emptySignature] (List.cons_ne_nil _ _) (by
    intro packet member
    rcases List.mem_cons.mp member with rfl | member
    · unfold Packet.NotPng
      decide
    · rw [List.mem_singleton.mp member]
      unfold Packet.NotPng
      decide)

end Gpgme
