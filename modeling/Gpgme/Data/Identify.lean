import Gpgme.Data.ArmorDecoder
import Gpgme.Data.PgpDetection
import Gpgme.Data.Tlv
import Gpgme.Data.Transfers

/-! `basic_detection` and `gpgme_data_identify` of `data-identify.c`. -/

namespace Gpgme

open CString (str startsWith)

-----------------------------------------------------------------------------------------
-- ASN.1 objects
-----------------------------------------------------------------------------------------

def classUniversal : Nat := 0
def classContext : Nat := 2
def tagInteger : Int := 2
def tagObjectId : Int := 6
def tagSequence : Int := 16

/-- The object has a universal tag. -/
def TlvInfo.isUniversal (ti : TlvInfo) (tag : Int) (isCons : Bool) : Bool :=
  ti.cls == classUniversal && ti.tag == tag && ti.isCons == isCons

def idData : List UInt8 := [42, 134, 72, 134, 247, 13, 1, 7, 1]
def idSignedData : List UInt8 := [42, 134, 72, 134, 247, 13, 1, 7, 2]
def idEnvelopedData : List UInt8 := [42, 134, 72, 134, 247, 13, 1, 7, 3]
def idDigestedData : List UInt8 := [42, 134, 72, 134, 247, 13, 1, 7, 5]
def idEncryptedData : List UInt8 := [42, 134, 72, 134, 247, 13, 1, 7, 6]
def idAuthData : List UInt8 := [42, 134, 72, 134, 247, 13, 1, 9, 16, 1, 2]

/-- The test for an object identifier that has just been read. -/
def cmsDetection (maybeP12 : Bool) (ti : TlvInfo) (s : List UInt8) : Option DataType :=
  if ti.isUniversal tagObjectId false ∧ ti.length ≠ 0 ∧ ti.length ≤ s.length then
    if ti.length = 9 then
      if s.take 9 = idData then some (if maybeP12 then .pkcs12 else .cmsOther)
      else if s.take 9 = idSignedData then some (if maybeP12 then .pkcs12 else .cmsSigned)
      else if s.take 9 = idEnvelopedData then some .cmsEncrypted
      else if s.take 9 = idDigestedData then some .cmsOther
      else if s.take 9 = idEncryptedData then some .cmsOther
      else none
    else if ti.length = 11 then
      if s.take 11 = idAuthData then some .cmsOther else none
    else none
  else none

/-- The test for a certificate behind the header of what may be its body. -/
def certificateDetection (s : List UInt8) : Option DataType :=
  match parseTlv s with
  | none => none
  | some (ti, s) =>
      if ¬(ti.cls = classContext ∧ ti.tag = 0 ∧ ti.isCons ∧ ti.length = 3
          ∧ ti.length ≤ s.length) then
        none
      else
        match parseTlv s with
        | none => none
        | some (ti, s) =>
            if ti.isUniversal tagInteger false ∧ ti.length = 1
                ∧ (s.head? = some 1 ∨ s.head? = some 2) then
              some .x509Cert
            else none

/-- The test behind the version of what may be a PKCS#12 object. -/
def pkcs12Detection (s : List UInt8) : Option DataType :=
  match parseTlv s with
  | none => none
  | some (ti, s) =>
      if ¬ti.isUniversal tagSequence true then none
      else
        match parseTlv s with
        | none => none
        | some (ti, s) => cmsDetection true ti s

/-- The first part of `basic_detection`, without a result where it goes to `try_pgp`. The pointer
and the number of the bytes behind it, which move together, are the list of these bytes.
-/
def asn1Detection (s : List UInt8) : Option DataType :=
  match parseTlv s with
  | none => none
  | some (ti, s) =>
      if ¬ti.isUniversal tagSequence true then none
      else
        match parseTlv s with
        | none => none
        | some (ti, s) =>
            if ti.isUniversal tagSequence true ∧ ti.length ≤ s.length then certificateDetection s
            else if ti.isUniversal tagInteger false ∧ ti.length = 1 ∧ s.head? = some 3 then
              pkcs12Detection s.tail
            else cmsDetection false ti s

-----------------------------------------------------------------------------------------
-- Armored data
-----------------------------------------------------------------------------------------

/-- The start of the next line, unless a string ends before. -/
def nextLine (s : Str) : Option Str :=
  match s.dropWhile (· != 10) with
  | [] => none
  | _ :: rest => some rest

/-- The loop over the lines of a string: what follows the first mark of an armor. Each round
consumes at least one byte.
-/
def armorTitle : Nat → Str → Option Str
  | 0, _ => none
  | _ + 1, [] => none
  | rounds + 1, c :: s =>
      if startsWith (c :: s) beginMark then some ((c :: s).drop 11)
      else
        match nextLine (c :: s) with
        | none => none
        | some s => armorTitle rounds s

/-- The type for the title of an armor, unless the armor has to be inspected. -/
def titleType (title : Str) : Option DataType :=
  if startsWith title (str "SIGNED ") then some .cmsSigned
  else if startsWith title (str "ENCRYPTED ") then some .cmsEncrypted
  else if startsWith title pgpMark then
    let title := title.drop 4
    if startsWith title (str "SIGNATURE") then some .pgpSignature
    else if startsWith title (str "SIGNED MESSAGE") then some .pgpSigned
    else if startsWith title (str "PUBLIC KEY BLOCK") then some .pgpKey
    else if startsWith title (str "PRIVATE KEY BLOCK") then some .pgpKey
    else if startsWith title (str "SECRET KEY BLOCK") then some .pgpKey
    else if startsWith title (str "ARMORED FILE") then some .unknown
    else none
  else if startsWith title (str "CERTIFICATE") then some .x509Cert
  else if startsWith title (str "PKCS12") then some .pkcs12
  else some .cmsOther

/-- The string at the start of a buffer. -/
def nulString (buffer : List UInt8) : Str := buffer.takeWhile (· != 0)

/-- `inspect_pgp_message`; `memory` is whether the decoder gets its title. -/
def inspectPgpMessage (memory : Bool) (string : List UInt8) : Option DataType :=
  let state := b64decStart memory (some [])
  if state.lasterr ≠ 0 then some .invalid
  else
    (b64decProc state string (nulString string).length).bind fun decoded =>
      if decoded.err ≠ 0 then some .unknown
      else
        let nbytes := decoded.nbytes.getD 0
        pgpBinaryDetection (decoded.buffer.set nbytes 0) nbytes

/-- The second part of `basic_detection`, for a buffer with a final nul. -/
def tryPgp (memory : Bool) (data : List UInt8) (datalen : Nat) : Option DataType :=
  if 128 ≤ data.headD 0 then pgpBinaryDetection data datalen
  else
    match armorTitle (datalen + 1) (nulString data) with
    | none => some .unknown
    | some title =>
        match titleType title with
        | some type => some type
        | none => inspectPgpMessage memory data

/-- `basic_detection`. A final nul is appended to the data. -/
def basicDetection (memory : Bool) (data : List UInt8) : Option DataType :=
  if data.length < 24 then some .unknown
  else
    match asn1Detection data with
    | some type => some type
    | none => tryPgp memory (data ++ [0]) data.length

-----------------------------------------------------------------------------------------
-- Data objects
-----------------------------------------------------------------------------------------

namespace Data

/-- The most bytes that are read. -/
def sampleSize : Nat := 2047

/-- `gpgme_data_identify`; `sample` is whether the buffer for the sample can be allocated. -/
def gpgmeDataIdentify {σ : Type} (cbs : DataCbs σ) (rounds : Nat) (sample memory : Bool)
    (dh : DataObject σ)
    : Option (DataType × DataObject σ) :=
  (gpgmeDataSeek cbs dh 0 seekCur).bind fun (off, dh) =>
    if off.ret = -1 ∨ ¬sample then some (.invalid, dh)
    else
      (gpgmeDataRead cbs rounds dh sampleSize).bind fun (n, dh) =>
        if n.ret < 0 then some (.invalid, dh)
        else
          (basicDetection memory (n.bytes.take n.ret.toNat)).bind fun result =>
            (gpgmeDataSeek cbs dh off.ret seekSet).map fun (_, dh) => (result, dh)

/-- Any object that has its whole content in front of it. -/
def DataObject.HoldsMem (dh : DataObject Mem) (content : List UInt8) : Prop :=
  dh.state.Refines (SeekableArray.start content) ∧ dh.pending = [] ∧ dh.blankout = false

/-- Data in memory are identified by their first bytes, and are left at their start. -/
theorem gpgmeDataIdentify_mem {dh : DataObject Mem} {content : List UInt8}
    (holds : dh.HoldsMem content) (alloc : Alloc) (rounds : Nat) (memory : Bool)
    : (gpgmeDataIdentify (memCbs alloc) (rounds + 1) true memory dh).map Prod.fst
      = basicDetection memory (content.take sampleSize) := by
  obtain ⟨refines, pending, plain⟩ := holds
  have small : sampleSize < 2 ^ 31 := by decide
  have bound := (SeekableArray.start content).bounded
  obtain ⟨next, sought, kept, -⟩ := memSeek_refines refines seekCur
    (by decide : (-2 ^ 63 : Int) < 0) (by decide)
  have answer : seekAnswer (SeekableArray.start content) 0 seekCur = 0 := by
    simp [seekAnswer, seekTarget, seekSet, seekCur, SeekableArray.seek, SeekableArray.start]
  have stays : seekArray (SeekableArray.start content) 0 seekCur = SeekableArray.start content := by
    simp [seekArray, seekTarget, seekSet, seekCur, SeekableArray.seek, SeekableArray.start]
  rw [answer] at sought
  rw [stays] at kept
  have seek
      : gpgmeDataSeek (memCbs alloc) dh 0 seekCur
        = some ({ ret := 0, errno := .einval }, { dh with state := next }) := by
    have zero : CInt.toOff 0 = 0 := rfl
    simp only [gpgmeDataSeek, memCbs, pending, if_true, List.length_nil, Int.natCast_zero,
      Int.sub_zero, zero, sought, Option.map_some]
    simp [traceSysres, CInt.toInt]
  obtain ⟨moved, read, behind, -⟩ := memRead_refines kept sampleSize
  have sample : (SeekableArray.start content).next sampleSize = content.take sampleSize := by
    simp [SeekableArray.next, SeekableArray.start]
  rw [sample] at read
  have short : (content.take sampleSize).length ≤ sampleSize := List.length_take_le _ _
  have taken
      : gpgmeDataRead (memCbs alloc) (rounds + 1) { dh with state := next } sampleSize
        = some ({ ret := (content.take sampleSize).length, bytes := content.take sampleSize },
            { dh with
              state := moved
              delivered := dh.delivered ++ content.take sampleSize }) := by
    simp only [gpgmeDataRead, memCbs, plain, retry, read, Option.map_some]
    rw [if_neg (by simp), if_neg (by omega), Option.map_some,
      traceSysres_of_range (by dsimp only; omega) (by dsimp only; omega)]
  unfold gpgmeDataIdentify
  rw [seek, Option.bind_some]
  dsimp only
  rw [if_neg (by simp), taken, Option.bind_some]
  dsimp only
  rw [if_neg (by omega), Int.toNat_natCast, List.take_of_length_le (Nat.le_refl _)]
  cases basicDetection memory (content.take sampleSize) with
  | none => rfl
  | some type => rfl

end Data

end Gpgme
