import Gpgme.Data.Identify

/-! Certificates, CMS objects and PKCS#12 objects, whose types are found in the first bytes. -/

namespace Gpgme

open Data (sampleSize)

-----------------------------------------------------------------------------------------
-- Objects
-----------------------------------------------------------------------------------------

/-- The contents of a CMS object. -/
inductive CmsContent where
  | data
  | signedData
  | envelopedData
  | digestedData
  | encryptedData
  | authData
deriving DecidableEq

namespace CmsContent

def oid : CmsContent → List UInt8
  | data => idData
  | signedData => idSignedData
  | envelopedData => idEnvelopedData
  | digestedData => idDigestedData
  | encryptedData => idEncryptedData
  | authData => idAuthData

def type : CmsContent → DataType
  | signedData => .cmsSigned
  | envelopedData => .cmsEncrypted
  | _ => .cmsOther

end CmsContent

/-- A certificate of version 2 or 3. Only its beginning matters: `rest` is what follows in each
sequence.
-/
structure Certificate where
  version : BerValue
  explicit : BerValue
  tbs : BerValue
  whole : BerValue
  tbsRest : List UInt8
  rest : List UInt8
  isVersion : version.identifier = 2 ∧ (version.content = [1] ∨ version.content = [2])
  isExplicit : explicit.identifier = 160 ∧ explicit.content = version.encoding
  isTbs : tbs.identifier = 48 ∧ tbs.content = explicit.encoding ++ tbsRest
  isWhole : whole.identifier = 48 ∧ whole.content = tbs.encoding ++ rest

/-- A CMS object. -/
structure ContentInfo where
  content : CmsContent
  contentType : BerValue
  whole : BerValue
  rest : List UInt8
  isContentType : contentType.identifier = 6 ∧ contentType.content = content.oid
  isWhole : whole.identifier = 48 ∧ whole.content = contentType.encoding ++ rest

/-- A PKCS#12 object: data, or signed data, behind a version. -/
structure Pkcs12 where
  version : BerValue
  authSafe : ContentInfo
  whole : BerValue
  rest : List UInt8
  isVersion : version.identifier = 2 ∧ version.content = [3]
  isAuthSafe : authSafe.content = .data ∨ authSafe.content = .signedData
  isWhole
    : whole.identifier = 48 ∧ whole.content = version.encoding ++ (authSafe.whole.encoding ++ rest)

inductive Asn1Object where
  | certificate (object : Certificate)
  | cms (object : ContentInfo)
  | pkcs12 (object : Pkcs12)

namespace Asn1Object

def encoding : Asn1Object → List UInt8
  | certificate object => object.whole.encoding
  | cms object => object.whole.encoding
  | pkcs12 object => object.whole.encoding

def type : Asn1Object → DataType
  | certificate _ => .x509Cert
  | cms object => object.content.type
  | pkcs12 _ => .pkcs12

end Asn1Object

-----------------------------------------------------------------------------------------
-- Headers in a sample
-----------------------------------------------------------------------------------------

namespace BerValue

theorem parseTlv_cut {value : BerValue} (few : value.form.count ≤ 8) (more : List UInt8) {cut : Nat}
    (room : 10 ≤ cut)
    : parseTlv ((value.encoding ++ more).take cut)
      = some (value.info,
          (value.content ++ (value.form.ending ++ more)).take (cut - value.header.length)) := by
  have short := length_header value
  rw [encoding, List.append_assoc, List.append_assoc, List.take_append,
    List.take_of_length_le (by omega), parseTlv_header few]

theorem parseTlv_cut_long {value : BerValue} (many : ¬value.form.count ≤ 8) (more : List UInt8)
    {cut : Nat} (room : 10 ≤ cut)
    : parseTlv ((value.encoding ++ more).take cut) = none := by
  rw [encoding, List.append_assoc, List.append_assoc]
  exact parseTlv_long (by omega) _ (by omega)

theorem reported_primitive {value : BerValue} (primitive : value.identifier.toNat / 32 % 2 = 0)
    : value.info.length = value.content.length := by
  obtain ⟨identifier, form, content, lowTag, fits⟩ := value
  cases form with
  | short | long => rfl
  | indefinite =>
      have constructed : identifier.toNat / 32 % 2 = 1 := fits
      exact absurd (constructed.symm.trans primitive) (by decide)

theorem reported_le (value : BerValue) : value.info.length ≤ value.content.length := by
  obtain ⟨identifier, form, content, lowTag, fits⟩ := value
  cases form with
  | short | long => exact Nat.le_refl _
  | indefinite => exact Nat.zero_le _

theorem isUniversal_info {value : BerValue} {identifier : UInt8}
    (same : value.identifier = identifier) (tag : Int) (isCons : Bool)
    : value.info.isUniversal tag isCons
      = (identifier.toNat / 64 == classUniversal && (identifier.toNat % 32 : Int) == tag
        && decide (identifier.toNat / 32 % 2 = 1) == isCons) := by
  subst same
  rfl

end BerValue

theorem cmsDetection_content {content : CmsContent} {maybeP12 : Bool}
    (allowed : maybeP12 = true → content = .data ∨ content = .signedData) {ti : TlvInfo}
    (isOid : ti.isUniversal tagObjectId false = true) (length : ti.length = content.oid.length)
    {s : List UInt8} (starts : content.oid <+: s)
    : cmsDetection maybeP12 ti s = some (if maybeP12 then .pkcs12 else content.type) := by
  obtain ⟨rest, rfl⟩ := starts
  have long : ti.length ≤ (content.oid ++ rest).length := by
    rw [length, List.length_append]
    exact Nat.le_add_right _ _
  have some_ : ti.length ≠ 0 := by
    rw [length]
    cases content <;> decide
  have plain (other : (content == .data || content == .signedData) = false) : maybeP12 = false := by
    cases maybeP12 with
    | false => rfl
    | true => rcases allowed rfl with rfl | rfl <;> cases other
  have nine (octets : content.oid.length = 9) : ti.length = 9 := length.trans octets
  rw [cmsDetection, if_pos ⟨isOid, some_, long⟩]
  clear long some_
  cases content with
  | data =>
      have front : (CmsContent.data.oid ++ rest).take 9 = idData := List.take_left' rfl
      rw [if_pos (nine rfl), if_pos front]
      rfl
  | signedData =>
      have front : (CmsContent.signedData.oid ++ rest).take 9 = idSignedData := List.take_left' rfl
      rw [if_pos (nine rfl), front, if_neg (by decide), if_pos rfl]
      rfl
  | envelopedData =>
      have front : (CmsContent.envelopedData.oid ++ rest).take 9 = idEnvelopedData :=
        List.take_left' rfl
      rw [if_pos (nine rfl), front, if_neg (by decide), if_neg (by decide), if_pos rfl, plain rfl]
      rfl
  | digestedData =>
      have front : (CmsContent.digestedData.oid ++ rest).take 9 = idDigestedData :=
        List.take_left' rfl
      rw [if_pos (nine rfl), front, if_neg (by decide), if_neg (by decide), if_neg (by decide),
        if_pos rfl, plain rfl]
      rfl
  | encryptedData =>
      have front : (CmsContent.encryptedData.oid ++ rest).take 9 = idEncryptedData :=
        List.take_left' rfl
      rw [if_pos (nine rfl), front, if_neg (by decide), if_neg (by decide), if_neg (by decide),
        if_neg (by decide), if_pos rfl, plain rfl]
      rfl
  | authData =>
      have front : (CmsContent.authData.oid ++ rest).take 11 = idAuthData := List.take_left' rfl
      have eleven : ti.length = 11 := length
      rw [if_neg (by omega), if_pos eleven, if_pos front, plain rfl]
      rfl

-----------------------------------------------------------------------------------------
-- What is detected
-----------------------------------------------------------------------------------------

/-- The headers of a certificate as far as they are tested: no length has too many octets, the
version has the shortest definite form, and the body ends in the sample.
-/
structure Certificate.Probed (object : Certificate) : Prop where
  whole : object.whole.form.count ≤ 8
  tbs : object.tbs.form.count ≤ 8
  explicit : object.explicit.form.count ≤ 8
  definite : object.explicit.form ≠ .indefinite
  version : object.version.form = .short
  sampled
    : object.whole.header.length + object.tbs.header.length + object.tbs.info.length ≤ sampleSize

def ContentInfo.Probed (object : ContentInfo) : Prop :=
  object.whole.form.count ≤ 8 ∧ object.contentType.form.count ≤ 8

def Pkcs12.Probed (object : Pkcs12) : Prop :=
  object.whole.form.count ≤ 8 ∧ object.version.form.count ≤ 8 ∧ object.authSafe.Probed

theorem asn1Detection_whole {whole : BerValue} (isSequence : whole.identifier = 48)
    (few : whole.form.count ≤ 8)
    : asn1Detection (whole.encoding.take sampleSize)
      = match parseTlv ((whole.content ++ whole.form.ending).take
          (sampleSize - whole.header.length)) with
        | none => none
        | some (ti, s) =>
            if ti.isUniversal tagSequence true ∧ ti.length ≤ s.length then certificateDetection s
            else if ti.isUniversal tagInteger false ∧ ti.length = 1 ∧ s.head? = some 3 then
              pkcs12Detection s.tail
            else cmsDetection false ti s := by
  have read := BerValue.parseTlv_cut few [] (by decide : 10 ≤ sampleSize)
  have sequence : whole.info.isUniversal tagSequence true = true := by
    rw [BerValue.isUniversal_info isSequence]
    decide
  rw [List.append_nil, List.append_nil] at read
  unfold asn1Detection
  rw [read]
  dsimp only
  exact if_neg (not_not.mpr sequence)

theorem asn1Detection_long {whole : BerValue} (many : ¬whole.form.count ≤ 8)
    : asn1Detection (whole.encoding.take sampleSize) = none := by
  have read := BerValue.parseTlv_cut_long many [] (by decide : 10 ≤ sampleSize)
  rw [List.append_nil] at read
  rw [asn1Detection, read]

theorem BerValue.length_number {value : BerValue} (isInteger : value.identifier = 2) {byte : UInt8}
    (content : value.content = [byte])
    : value.encoding = value.header ++ [byte]
      ∧ value.info.length = 1
      ∧ value.encoding.length = 3 + value.form.count
      ∧ (value.form.count = 0 → value.form = .short) := by
  have primitive : value.identifier.toNat / 32 % 2 = 0 := by
    rw [isInteger]
    rfl
  obtain ⟨ending, shortest⟩
      : value.form.ending = [] ∧ (value.form.count = 0 → value.form = .short) := by
    obtain ⟨identifier, form, content, lowTag, fits⟩ := value
    cases form with
    | short => exact ⟨rfl, fun _ => rfl⟩
    | long count =>
        have positive : 1 ≤ count := fits.1
        exact ⟨rfl, fun zero => absurd zero (by change count ≠ 0; omega)⟩
    | indefinite =>
        have constructed : identifier.toNat / 32 % 2 = 1 := fits
        exact absurd (constructed.symm.trans primitive) (by decide)
  have encoding : value.encoding = value.header ++ [byte] := by
    rw [BerValue.encoding, ending, content, List.append_nil]
  refine ⟨encoding, ?_, ?_, shortest⟩
  · rw [reported_primitive primitive, content, List.length_singleton]
  · rw [encoding, List.length_append, length_header, List.length_singleton]
    omega

theorem BerValue.parseTlv_number {value : BerValue} (isInteger : value.identifier = 2)
    {byte : UInt8} (content : value.content = [byte]) (few : value.form.count ≤ 8)
    (more : List UInt8) {cut : Nat} (room : 11 ≤ cut)
    : parseTlv ((value.encoding ++ more).take cut)
        = some (value.info, byte :: more.take (cut - value.encoding.length))
      ∧ value.info.isUniversal tagInteger false = true
      ∧ value.info.length = 1 := by
  obtain ⟨encoding, length, total, -⟩ := length_number isInteger content
  have header := length_header value
  have integer : value.info.isUniversal tagInteger false = true := by
    rw [isUniversal_info isInteger]
    decide
  refine ⟨?_, integer, length⟩
  rw [encoding, List.append_assoc, List.take_append, List.take_of_length_le (by omega),
    parseTlv_header few, List.singleton_append]
  obtain ⟨left, kept⟩ : ∃ left, cut - value.header.length = left + 1 :=
    ⟨cut - value.header.length - 1, by omega⟩
  rw [kept, List.take_succ_cons]
  have behind : left = cut - value.encoding.length := by omega
  rw [behind, encoding]

theorem Certificate.detection_version (object : Certificate) (more : List UInt8) {cut : Nat}
    (room : 21 ≤ cut)
    : certificateDetection ((object.explicit.encoding ++ more).take cut)
      = if object.explicit.form.count ≤ 8 ∧ object.explicit.form ≠ .indefinite
            ∧ object.version.form = .short then
          some .x509Cert
        else none := by
  obtain ⟨isInteger, number⟩ := object.isVersion
  obtain ⟨isContext, content⟩ := object.isExplicit
  obtain ⟨byte, value, known⟩
      : ∃ byte, object.version.content = [byte] ∧ (byte = 1 ∨ byte = 2) := by
    rcases number with one | two
    · exact ⟨1, one, .inl rfl⟩
    · exact ⟨2, two, .inr rfl⟩
  obtain ⟨-, -, total, shortest⟩ := BerValue.length_number isInteger value
  have length : object.explicit.info.length
      = if object.explicit.form = .indefinite then 0 else 3 + object.version.form.count := by
    rw [← total, ← content]
    cases form : object.explicit.form with
    | short | long | indefinite => simp [BerValue.info, form, LengthForm.reported]
  unfold certificateDetection
  by_cases few : object.explicit.form.count ≤ 8
  · rw [BerValue.parseTlv_cut few more (by omega)]
    dsimp only
    have header := BerValue.length_header object.explicit
    have tag
        : object.explicit.info.cls = classContext
          ∧ object.explicit.info.tag = 0
          ∧ object.explicit.info.isCons = true := by
      simp only [BerValue.info, isContext]
      decide
    by_cases expected
        : object.explicit.form ≠ .indefinite ∧ object.version.form = .short
    · have three : object.explicit.info.length = 3 := by
        rw [length, if_neg expected.1, expected.2]
        rfl
      have few' : object.version.form.count ≤ 8 := by
        rw [expected.2]
        exact Nat.zero_le 8
      have held
          : object.explicit.info.length
            ≤ ((object.explicit.content ++ (object.explicit.form.ending ++ more)).take
              (cut - object.explicit.header.length)).length := by
        rw [three, content, List.length_take, List.length_append, total]
        omega
      obtain ⟨read, integer, one⟩ := BerValue.parseTlv_number isInteger value few'
        (object.explicit.form.ending ++ more)
        (by omega : 11 ≤ cut - object.explicit.header.length)
      have first
          : (byte :: (object.explicit.form.ending ++ more).take
              (cut - object.explicit.header.length - object.version.encoding.length)).head? = some 1
            ∨ (byte :: (object.explicit.form.ending ++ more).take
              (cut - object.explicit.header.length - object.version.encoding.length)).head?
              = some 2 := by
        rcases known with rfl | rfl
        · exact .inl rfl
        · exact .inr rfl
      rw [if_neg (not_not.mpr ⟨tag.1, tag.2.1, tag.2.2, three, held⟩), content, read]
      dsimp only
      rw [if_pos ⟨integer, one, first⟩, if_pos ⟨few, expected⟩]
    · have other : object.explicit.info.length ≠ 3 := by
        rw [length]
        by_cases indefinite : object.explicit.form = .indefinite
        · rw [if_pos indefinite]
          decide
        · rw [if_neg indefinite]
          intro three
          exact expected ⟨indefinite, shortest (by omega)⟩
      rw [if_pos fun checked => other checked.2.2.2.1, if_neg fun probed => expected probed.2]
  · rw [BerValue.parseTlv_cut_long few more (by omega), if_neg fun probed => few probed.1]

theorem Certificate.asn1Detection_sample (object : Certificate)
    : (object.Probed → asn1Detection (object.whole.encoding.take sampleSize) = some .x509Cert)
      ∧ (¬object.Probed → asn1Detection (object.whole.encoding.take sampleSize) = none) := by
  obtain ⟨isTbs, tbs⟩ := object.isTbs
  obtain ⟨isWhole, whole⟩ := object.isWhole
  have size : sampleSize = 2047 := rfl
  by_cases few : object.whole.form.count ≤ 8
  · have header := BerValue.length_header object.whole
    rw [asn1Detection_whole isWhole few, whole, List.append_assoc]
    by_cases few' : object.tbs.form.count ≤ 8
    · have header' := BerValue.length_header object.tbs
      rw [BerValue.parseTlv_cut few' _ (by omega)]
      dsimp only
      have universal (tag : Int) (isCons : Bool) :=
        BerValue.isUniversal_info isTbs tag isCons
      have sequence : object.tbs.info.isUniversal tagSequence true = true := by
        rw [universal]
        decide
      have integer : object.tbs.info.isUniversal tagInteger false ≠ true := by
        rw [universal]
        decide
      have objectId : object.tbs.info.isUniversal tagObjectId false ≠ true := by
        rw [universal]
        decide
      have reported := BerValue.reported_le object.tbs
      have held
          : object.tbs.info.length
              ≤ ((object.tbs.content ++ (object.tbs.form.ending ++ (object.rest
                ++ object.whole.form.ending))).take
                (sampleSize - object.whole.header.length - object.tbs.header.length)).length
            ↔ object.whole.header.length + object.tbs.header.length + object.tbs.info.length
              ≤ sampleSize := by
        rw [List.length_take, List.length_append]
        omega
      by_cases sampled
          : object.whole.header.length + object.tbs.header.length + object.tbs.info.length
            ≤ sampleSize
      · rw [if_pos ⟨sequence, held.mpr sampled⟩, tbs, List.append_assoc,
          object.detection_version _ (by omega)]
        refine ⟨fun probed => if_pos ⟨probed.explicit, probed.definite, probed.version⟩,
          fun missed => if_neg fun expected => ?_⟩
        exact missed ⟨few, few', expected.1, expected.2.1, expected.2.2, sampled⟩
      · rw [if_neg fun nested => sampled (held.mp nested.2),
          if_neg fun checked => integer checked.1, cmsDetection,
          if_neg fun checked => objectId checked.1]
        exact ⟨fun probed => absurd probed.sampled sampled, fun _ => rfl⟩
    · rw [BerValue.parseTlv_cut_long few' _ (by omega)]
      exact ⟨fun probed => absurd probed.tbs few', fun _ => rfl⟩
  · rw [asn1Detection_long few]
    exact ⟨fun probed => absurd probed.whole few, fun _ => rfl⟩

theorem ContentInfo.parseTlv_contentType (object : ContentInfo)
    (few : object.contentType.form.count ≤ 8) (more : List UInt8) {cut : Nat} (room : 21 ≤ cut)
    {maybeP12 : Bool}
    (allowed : maybeP12 = true → object.content = .data ∨ object.content = .signedData)
    : ∃ s,
        parseTlv ((object.contentType.encoding ++ more).take cut)
          = some (object.contentType.info, s)
        ∧ cmsDetection maybeP12 object.contentType.info s
          = some (if maybeP12 then .pkcs12 else object.content.type) := by
  obtain ⟨isOid, content⟩ := object.isContentType
  have header := BerValue.length_header object.contentType
  refine ⟨_, BerValue.parseTlv_cut few more (by omega), cmsDetection_content allowed ?_ ?_ ?_⟩
  · rw [BerValue.isUniversal_info isOid]
    decide
  · rw [BerValue.reported_primitive (by rw [isOid]; rfl), content]
  · have short : object.content.oid.length ≤ 11 := by cases object.content <;> decide
    rw [content, List.take_append, List.take_of_length_le (by omega)]
    exact List.prefix_append _ _

theorem ContentInfo.asn1Detection_sample (object : ContentInfo)
    : (object.Probed
        → asn1Detection (object.whole.encoding.take sampleSize) = some object.content.type)
      ∧ (¬object.Probed → asn1Detection (object.whole.encoding.take sampleSize) = none) := by
  obtain ⟨isOid, -⟩ := object.isContentType
  obtain ⟨isWhole, whole⟩ := object.isWhole
  have size : sampleSize = 2047 := rfl
  by_cases few : object.whole.form.count ≤ 8
  · have header := BerValue.length_header object.whole
    rw [asn1Detection_whole isWhole few, whole, List.append_assoc]
    by_cases few' : object.contentType.form.count ≤ 8
    · obtain ⟨s, read, detected⟩ := object.parseTlv_contentType few'
        (object.rest ++ object.whole.form.ending)
        (by omega : 21 ≤ sampleSize - object.whole.header.length)
        (fun impossible : false = true => absurd impossible Bool.false_ne_true)
      have universal (tag : Int) (isCons : Bool) :=
        BerValue.isUniversal_info isOid tag isCons
      have sequence : object.contentType.info.isUniversal tagSequence true ≠ true := by
        rw [universal]
        decide
      have integer : object.contentType.info.isUniversal tagInteger false ≠ true := by
        rw [universal]
        decide
      rw [read]
      dsimp only
      rw [if_neg fun checked => sequence checked.1, if_neg fun checked => integer checked.1,
        detected]
      exact ⟨fun _ => rfl, fun missed => absurd ⟨few, few'⟩ missed⟩
    · rw [BerValue.parseTlv_cut_long few' _ (by omega)]
      exact ⟨fun probed => absurd probed.2 few', fun _ => rfl⟩
  · rw [asn1Detection_long few]
    exact ⟨fun probed => absurd probed.1 few, fun _ => rfl⟩

theorem ContentInfo.pkcs12Detection_sample (object : ContentInfo)
    (allowed : object.content = .data ∨ object.content = .signedData) (more : List UInt8)
    {cut : Nat} (room : 31 ≤ cut)
    : (object.Probed
        → pkcs12Detection ((object.whole.encoding ++ more).take cut) = some .pkcs12)
      ∧ (¬object.Probed
        → pkcs12Detection ((object.whole.encoding ++ more).take cut) = none) := by
  obtain ⟨isWhole, whole⟩ := object.isWhole
  unfold pkcs12Detection
  by_cases few : object.whole.form.count ≤ 8
  · have header := BerValue.length_header object.whole
    have sequence : object.whole.info.isUniversal tagSequence true = true := by
      rw [BerValue.isUniversal_info isWhole]
      decide
    rw [BerValue.parseTlv_cut few more (by omega)]
    dsimp only
    rw [if_neg (not_not.mpr sequence), whole, List.append_assoc]
    by_cases few' : object.contentType.form.count ≤ 8
    · obtain ⟨s, read, detected⟩ := object.parseTlv_contentType few'
        (object.rest ++ (object.whole.form.ending ++ more))
        (by omega : 21 ≤ cut - object.whole.header.length) (fun _ : true = true => allowed)
      rw [read]
      dsimp only
      rw [detected]
      exact ⟨fun _ => rfl, fun missed => absurd ⟨few, few'⟩ missed⟩
    · rw [BerValue.parseTlv_cut_long few' _ (by omega)]
      exact ⟨fun probed => absurd probed.2 few', fun _ => rfl⟩
  · rw [BerValue.parseTlv_cut_long few more (by omega)]
    exact ⟨fun probed => absurd probed.1 few, fun _ => rfl⟩

theorem Pkcs12.asn1Detection_sample (object : Pkcs12)
    : (object.Probed → asn1Detection (object.whole.encoding.take sampleSize) = some .pkcs12)
      ∧ (¬object.Probed → asn1Detection (object.whole.encoding.take sampleSize) = none) := by
  obtain ⟨isInteger, three⟩ := object.isVersion
  obtain ⟨isWhole, whole⟩ := object.isWhole
  have size : sampleSize = 2047 := rfl
  by_cases few : object.whole.form.count ≤ 8
  · have header := BerValue.length_header object.whole
    rw [asn1Detection_whole isWhole few, whole, List.append_assoc]
    by_cases few' : object.version.form.count ≤ 8
    · obtain ⟨-, -, total, -⟩ := BerValue.length_number isInteger three
      obtain ⟨read, integer, one⟩ := BerValue.parseTlv_number isInteger three few'
        (object.authSafe.whole.encoding ++ object.rest ++ object.whole.form.ending)
        (by omega : 11 ≤ sampleSize - object.whole.header.length)
      have sequence : object.version.info.isUniversal tagSequence true ≠ true := by
        rw [BerValue.isUniversal_info isInteger]
        decide
      obtain ⟨found, missed⟩ := object.authSafe.pkcs12Detection_sample object.isAuthSafe
        (object.rest ++ object.whole.form.ending)
        (by omega : 31 ≤ sampleSize - object.whole.header.length - object.version.encoding.length)
      rw [read]
      dsimp only
      rw [if_neg fun checked => sequence checked.1, if_pos ⟨integer, one, rfl⟩, List.tail_cons,
        List.append_assoc]
      exact ⟨fun probed => found probed.2.2,
        fun unprobed => missed fun probed => unprobed ⟨few, few', probed⟩⟩
    · rw [BerValue.parseTlv_cut_long few' _ (by omega)]
      exact ⟨fun probed => absurd probed.2.1 few', fun _ => rfl⟩
  · rw [asn1Detection_long few]
    exact ⟨fun probed => absurd probed.1 few, fun _ => rfl⟩

-----------------------------------------------------------------------------------------
-- What is detected of other data
-----------------------------------------------------------------------------------------

/-- The types that OpenPGP data can have, and the failures. -/
def DataType.isOther : DataType → Bool
  | .cmsSigned | .cmsEncrypted | .cmsOther | .x509Cert | .pkcs12 => false
  | _ => true

theorem packetVerdict_other {anypacket allsignatures : Bool} {pkttype : Nat} {type : DataType}
    (decided : packetVerdict anypacket allsignatures pkttype = .decided type)
    : type.isOther = true := by
  unfold packetVerdict at decided
  split at decided
  · cases decided
  · dsimp only at decided
    split at decided
    · cases decided
    · split_ifs at decided
      all_goals
        cases decided
        rfl
    · cases decided
      rfl
    · cases decided
      rfl
    · cases decided
      rfl
    · cases decided
      rfl
    · cases decided
      rfl
    · cases decided
      rfl
    · cases decided
      rfl
    · cases decided
      split <;> rfl
    · cases decided
      rfl

theorem pgpLoop_other {rounds : Nat} {image : List UInt8} {imagelen : Nat}
    {anypacket allsignatures : Bool} {type : DataType}
    (found : pgpLoop rounds image imagelen anypacket allsignatures = some type)
    : type.isOther = true := by
  have ended {allsignatures : Bool} {type : DataType}
      (found : some (endVerdict allsignatures) = some type)
      : type.isOther = true := by
    cases found
    cases allsignatures <;> rfl
  induction rounds generalizing image imagelen anypacket allsignatures with
  | zero => cases found
  | succ rounds ih =>
      rw [pgpLoop] at found
      split at found
      · cases found
      · split at found
        · exact ended found
        · split at found
          · next decided =>
              cases found
              exact packetVerdict_other decided
          · split at found
            · split at found
              · exact ih found
              · exact ended found
            · exact ended found

theorem inspectPgpMessage_other {memory : Bool} {string : List UInt8} {type : DataType}
    (found : inspectPgpMessage memory string = some type)
    : type.isOther = true := by
  unfold inspectPgpMessage at found
  dsimp only at found
  split at found
  · cases found
    rfl
  · obtain ⟨decoded, -, found⟩ := Option.bind_eq_some_iff.mp found
    split at found
    · cases found
      rfl
    · exact pgpLoop_other found

/-- The title of the first armor in front of the first zero byte is that of some type. -/
def MarkedAs (sample : List UInt8) (type : DataType) : Prop :=
  ∃ title,
    armorTitle (sample.length + 1) (nulString (sample ++ [0])) = some title
    ∧ titleType title = some type

theorem tryPgp_marked {sample : List UInt8} (ascii : sample.headD 0 < 128) (memory : Bool)
    {type : DataType} (asn1 : type.isOther = false)
    : tryPgp memory (sample ++ [0]) sample.length = some type ↔ MarkedAs sample type := by
  have head : ¬128 ≤ (sample ++ [0]).headD 0 := by
    cases sample with
    | nil => decide
    | cons c sample => exact UInt8.not_le.mpr ascii
  rw [tryPgp, if_neg head]
  cases found : armorTitle (sample.length + 1) (nulString (sample ++ [0])) with
  | none =>
      refine ⟨fun unknown => ?_, ?_⟩
      · cases unknown
        cases asn1
      · rintro ⟨title, marked, -⟩
        rw [found] at marked
        cases marked
  | some title =>
      dsimp only
      cases known : titleType title with
      | some marked =>
          refine ⟨fun same => ⟨title, found, known.trans same⟩, ?_⟩
          rintro ⟨other, found', known'⟩
          obtain rfl := Option.some.inj (found.symm.trans found')
          exact known.symm.trans known'
      | none =>
          refine ⟨fun inspected => ?_, ?_⟩
          · rw [inspectPgpMessage_other inspected] at asn1
            cases asn1
          · rintro ⟨other, found', known'⟩
            obtain rfl := Option.some.inj (found.symm.trans found')
            rw [known] at known'
            cases known'

-----------------------------------------------------------------------------------------
-- The type of an object
-----------------------------------------------------------------------------------------

namespace Asn1Object

def Probed : Asn1Object → Prop
  | certificate object => object.Probed
  | cms object => object.Probed
  | pkcs12 object => object.Probed

theorem asn1Detection_sample (object : Asn1Object)
    : (object.Probed → asn1Detection (object.encoding.take sampleSize) = some object.type)
      ∧ (¬object.Probed → asn1Detection (object.encoding.take sampleSize) = none) := by
  cases object with
  | certificate object => exact object.asn1Detection_sample
  | cms object => exact object.asn1Detection_sample
  | pkcs12 object => exact object.asn1Detection_sample

theorem isOther_type (object : Asn1Object) : object.type.isOther = false := by
  cases object with
  | certificate | pkcs12 => rfl
  | cms object =>
      change object.content.type.isOther = false
      cases object.content <;> rfl

theorem head_encoding (object : Asn1Object) : (object.encoding.take sampleSize).headD 0 = 48 := by
  have first {whole : BerValue} (isSequence : whole.identifier = 48)
      : (whole.encoding.take sampleSize).headD 0 = 48 := by
    rw [← isSequence]
    rfl
  cases object with
  | certificate object => exact first object.isWhole.1
  | cms object => exact first object.isWhole.1
  | pkcs12 object => exact first object.isWhole.1

theorem basicDetection_iff (object : Asn1Object) (long : 24 ≤ object.encoding.length)
    (memory : Bool)
    : basicDetection memory (object.encoding.take sampleSize) = some object.type
      ↔ object.Probed ∨ MarkedAs (object.encoding.take sampleSize) object.type := by
  have size : sampleSize = 2047 := rfl
  have enough : ¬(object.encoding.take sampleSize).length < 24 := by
    rw [List.length_take]
    omega
  have ascii : (object.encoding.take sampleSize).headD 0 < 128 := by
    rw [object.head_encoding]
    decide
  obtain ⟨found, missed⟩ := object.asn1Detection_sample
  rw [basicDetection, if_neg enough]
  by_cases probed : object.Probed
  · rw [found probed]
    exact ⟨fun _ => .inl probed, fun _ => rfl⟩
  · rw [missed probed]
    dsimp only
    rw [tryPgp_marked ascii memory object.isOther_type]
    exact ⟨.inr, fun either => either.resolve_left probed⟩

end Asn1Object

/-- An object in memory is identified just when its first headers are of a form that is tested and,
for a certificate, its body ends in the sample; or when an armor in the sample names its type.
-/
theorem asn1_type_identified_iff (object : Asn1Object) (long : 24 ≤ object.encoding.length)
    {dh : Data.DataObject Data.Mem} (holds : dh.HoldsMem object.encoding) (alloc : Data.Alloc)
    (rounds : Nat) (memory : Bool)
    : (Data.gpgmeDataIdentify (Data.memCbs alloc) (rounds + 1) true memory dh).map Prod.fst
        = some object.type
      ↔ object.Probed ∨ MarkedAs (object.encoding.take sampleSize) object.type := by
  rw [Data.gpgmeDataIdentify_mem holds]
  exact object.basicDetection_iff long memory

-----------------------------------------------------------------------------------------
-- A small certificate and a long one
-----------------------------------------------------------------------------------------

theorem BerValue.length_encoding (value : BerValue)
    : value.encoding.length
      = 2 + value.form.count + value.content.length + value.form.ending.length := by
  rw [encoding, List.length_append, List.length_append, length_header]

namespace Data

/-- A new object over some memory of the caller. -/
def memObject (content : List UInt8) : DataObject Mem where
  state := { origBuffer := some content, size := content.length, length := content.length }

theorem memObject_holds {content : List UInt8} (small : content.length < 2 ^ 63)
    : (memObject content).HoldsMem content :=
  ⟨(@newFromMem_refines .generous content false _ small rfl).refines, rfl, rfl⟩

end Data

/-- The fields of a certificate from its serial number to its key. -/
def certificateFields : List UInt8 :=
  [2, 1, 1, 48, 5, 6, 3, 43, 101, 112, 48, 0, 48, 30, 23, 13] ++ CString.str "250101000000Z"
    ++ [23, 13] ++ CString.str "350101000000Z"
    ++ [48, 0, 48, 42, 48, 5, 6, 3, 43, 101, 112, 3, 33, 0] ++ List.replicate 32 7

/-- The signature of a certificate. -/
def certificateSignature : List UInt8 :=
  [48, 5, 6, 3, 43, 101, 112, 3, 65, 0] ++ List.replicate 64 7

/-- A comment of 2000 characters as an extension. -/
def commentExtension : List UInt8 :=
  [163, 130, 7, 235, 48, 130, 7, 231, 48, 130, 7, 227, 6, 9, 96, 134, 72, 1, 134, 248, 66, 1, 13, 4,
    130, 7, 212, 22, 130, 7, 208]
    ++ List.replicate 2000 97

def versionThree : BerValue where
  identifier := 2
  form := .short
  content := [2]
  lowTag := by decide
  fits := by
    change 1 < 128
    decide

def explicitVersion : BerValue where
  identifier := 160
  form := .short
  content := versionThree.encoding
  lowTag := by decide
  fits := by
    change 3 < 128
    decide

theorem length_certificateFields : certificateFields.length = 90 := by decide

theorem length_certificateSignature : certificateSignature.length = 74 := by decide

theorem length_explicitVersion : explicitVersion.encoding.length = 5 := by decide

def smallTbs : BerValue where
  identifier := 48
  form := .short
  content := explicitVersion.encoding ++ certificateFields
  lowTag := by decide
  fits := by
    change _ < 128
    rw [List.length_append, length_explicitVersion, length_certificateFields]
    decide

theorem length_smallTbs : smallTbs.encoding.length = 97 := by
  have content : smallTbs.content = explicitVersion.encoding ++ certificateFields := rfl
  have form : smallTbs.form = .short := rfl
  rw [BerValue.length_encoding, content, form, List.length_append, length_explicitVersion,
    length_certificateFields]
  rfl

def smallWhole : BerValue where
  identifier := 48
  form := .long 1
  content := smallTbs.encoding ++ certificateSignature
  lowTag := by decide
  fits := by
    refine ⟨by decide, by decide, ?_⟩
    rw [List.length_append, length_smallTbs, length_certificateSignature]
    decide

theorem length_smallWhole : smallWhole.encoding.length = 174 := by
  have content : smallWhole.content = smallTbs.encoding ++ certificateSignature := rfl
  have form : smallWhole.form = .long 1 := rfl
  rw [BerValue.length_encoding, content, form, List.length_append, length_smallTbs,
    length_certificateSignature]
  rfl

/-- A certificate without extensions. -/
def smallCertificate : Certificate where
  version := versionThree
  explicit := explicitVersion
  tbs := smallTbs
  whole := smallWhole
  tbsRest := certificateFields
  rest := certificateSignature
  isVersion := ⟨rfl, .inr rfl⟩
  isExplicit := ⟨rfl, rfl⟩
  isTbs := ⟨rfl, rfl⟩
  isWhole := ⟨rfl, rfl⟩

theorem small_certificate_identified
    : (Data.gpgmeDataIdentify (Data.memCbs .generous) 1 true true
        (Data.memObject (Asn1Object.certificate smallCertificate).encoding)).map Prod.fst
      = some .x509Cert := by
  have length : (Asn1Object.certificate smallCertificate).encoding.length = 174 := length_smallWhole
  have probed : smallCertificate.Probed := by
    refine ⟨by decide, by decide, by decide, by decide, rfl, ?_⟩
    rw [BerValue.length_header, BerValue.length_header]
    exact Nat.le_trans (Nat.add_le_add_left (BerValue.reported_le _) _) (by decide)
  exact (asn1_type_identified_iff (.certificate smallCertificate) (by rw [length]; decide)
    (Data.memObject_holds (by rw [length]; decide)) .generous 0 true).mpr (.inl probed)

theorem length_longContent
    : (explicitVersion.encoding ++ (certificateFields ++ commentExtension)).length = 2126 := by
  rw [List.length_append, List.length_append, length_explicitVersion, length_certificateFields,
    commentExtension, List.length_append, List.length_replicate]
  rfl

def longTbs : BerValue where
  identifier := 48
  form := .long 2
  content := explicitVersion.encoding ++ (certificateFields ++ commentExtension)
  lowTag := by decide
  fits := by
    refine ⟨by decide, by decide, ?_⟩
    rw [length_longContent]
    decide

theorem length_longTbs : longTbs.encoding.length = 2130 := by
  have content
      : longTbs.content
        = explicitVersion.encoding ++ (certificateFields ++ commentExtension) := rfl
  have form : longTbs.form = .long 2 := rfl
  rw [BerValue.length_encoding, content, form, length_longContent]
  rfl

def longWhole : BerValue where
  identifier := 48
  form := .long 2
  content := longTbs.encoding ++ certificateSignature
  lowTag := by decide
  fits := by
    refine ⟨by decide, by decide, ?_⟩
    rw [List.length_append, length_longTbs, length_certificateSignature]
    decide

theorem length_longWhole : longWhole.encoding.length = 2208 := by
  have content : longWhole.content = longTbs.encoding ++ certificateSignature := rfl
  have form : longWhole.form = .long 2 := rfl
  rw [BerValue.length_encoding, content, form, List.length_append, length_longTbs,
    length_certificateSignature]
  rfl

def longCertificate : Certificate where
  version := versionThree
  explicit := explicitVersion
  tbs := longTbs
  whole := longWhole
  tbsRest := certificateFields ++ commentExtension
  rest := certificateSignature
  isVersion := ⟨rfl, .inr rfl⟩
  isExplicit := ⟨rfl, rfl⟩
  isTbs := ⟨rfl, rfl⟩
  isWhole := ⟨rfl, rfl⟩

/-- The certificate up to its first zero byte. -/
def longStart : List UInt8 :=
  [48, 130, 8, 156, 48, 130, 8, 78, 160, 3, 2, 1, 2, 2, 1, 1, 48, 5, 6, 3, 43, 101, 112, 48]

theorem longCertificate_start
    : ∃ more, longWhole.encoding.take sampleSize = longStart ++ 0 :: more := by
  have tbs : longTbs.header = [48, 130, 8, 78] := by
    change _ :: _ :: bigEndian 2 (explicitVersion.encoding
      ++ (certificateFields ++ commentExtension)).length = _
    rw [length_longContent]
    rfl
  have whole : longWhole.header = [48, 130, 8, 156] := by
    change _ :: _ :: bigEndian 2 (longTbs.encoding ++ certificateSignature).length = _
    rw [List.length_append, length_longTbs]
    rfl
  obtain ⟨fields, start⟩ : ∃ fields, certificateFields
      = [2, 1, 1, 48, 5, 6, 3, 43, 101, 112, 48] ++ 0 :: fields := ⟨_, rfl⟩
  have split
      : longWhole.encoding
        = longStart ++ 0 :: (fields ++ commentExtension ++ certificateSignature) := by
    have inner : longTbs.encoding = [48, 130, 8, 78] ++ ([160, 3, 2, 1, 2]
        ++ (certificateFields ++ commentExtension)) ++ [] := by
      rw [BerValue.encoding, tbs]
      rfl
    have outer : longWhole.encoding = [48, 130, 8, 156]
        ++ (longTbs.encoding ++ certificateSignature) ++ [] := by
      rw [BerValue.encoding, whole]
      rfl
    rw [outer, inner, start]
    simp only [List.append_nil, List.append_assoc, List.cons_append, List.nil_append]
    rfl
  have size : sampleSize = longStart.length + (2022 + 1) := rfl
  refine ⟨(fields ++ commentExtension ++ certificateSignature).take 2022, ?_⟩
  rw [split, size, List.take_length_add_append, List.take_succ_cons]

/-- The certificate is longer than the sample, and is not known. -/
theorem long_certificate_unknown
    : (Data.gpgmeDataIdentify (Data.memCbs .generous) 1 true true
        (Data.memObject (Asn1Object.certificate longCertificate).encoding)).map Prod.fst
      ≠ some (Asn1Object.certificate longCertificate).type := by
  have length : (Asn1Object.certificate longCertificate).encoding.length = 2208 :=
    length_longWhole
  have body : longTbs.info.length = 2126 := length_longContent
  have tooLong : ¬longCertificate.Probed := by
    intro probed
    have sampled := probed.sampled
    dsimp only [longCertificate] at sampled
    rw [BerValue.length_header, BerValue.length_header, body] at sampled
    exact absurd sampled (by decide)
  obtain ⟨more, start⟩ := longCertificate_start
  have unmarked : ¬MarkedAs (longWhole.encoding.take sampleSize) .x509Cert := by
    rintro ⟨title, found, -⟩
    have string : nulString (longStart ++ 0 :: more ++ [0]) = longStart := by
      rw [nulString, List.append_assoc, List.takeWhile_append_of_pos (by decide)]
      exact List.append_nil longStart
    rw [start, string] at found
    cases found
  rw [Data.gpgmeDataIdentify_mem (Data.memObject_holds (by rw [length]; decide))]
  intro identified
  rcases (Asn1Object.basicDetection_iff _ (by rw [length]; decide) true).mp identified with
    probed | marked
  · exact tooLong probed
  · exact unmarked marked

end Gpgme
