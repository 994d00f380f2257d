import Gpgme.Data.Identify

/-! The type of OpenPGP data is the same when they are armored. -/

namespace Gpgme

open CString (str startsWith)

-----------------------------------------------------------------------------------------
-- Armored messages
-----------------------------------------------------------------------------------------

/-- Printable ASCII, TAB and CR: the bytes of a line of text. -/
def isTextByte (c : UInt8) : Bool := (32 ≤ c && c ≤ 126) || c == 9 || c == 13

def messageTitle : Str := str "PGP MESSAGE-----"
def endLine : Str := str "-----END PGP MESSAGE-----"

/-- A "PGP MESSAGE" armor of some bytes: their encoding with line breaks anywhere, and a checksum or
none.
-/
structure MessageArmor (bytes : List UInt8) where
  beginEnd : Str
  headers : List Str
  blank : Str
  body : Str
  checksum : Str
  ending : Str
  beginEnd_spacing : ∀ c ∈ beginEnd, isSpacing c = true
  headers_filled
    : ∀ header ∈ headers, 0 ∉ header ∧ 10 ∉ header ∧ ∃ c ∈ header, isSpacing c = false
  blank_spacing : ∀ c ∈ blank, isSpacing c = true
  body_encoded : body.filter (fun c => !isWhite c) = Base64.encodeBytes bytes
  checksum_pad
    : checksum = []
      ∨ ∃ sum, checksum = 61 :: sum ∧ ∀ c ∈ sum, Base64.IsCharacter c ∨ isWhite c = true
  ending_white : ∀ c ∈ ending, isWhite c = true

namespace MessageArmor

/-- What follows the data. -/
def closing {bytes : List UInt8} (armor : MessageArmor bytes) : Str :=
  armor.checksum ++ endLine ++ armor.ending

/-- What follows the title in the begin line. -/
def behindTitle {bytes : List UInt8} (armor : MessageArmor bytes) : Str :=
  armor.beginEnd ++ [10] ++ armor.headers.flatMap (· ++ [10]) ++ (armor.blank ++ [10])
    ++ armor.body ++ armor.closing

def text {bytes : List UInt8} (armor : MessageArmor bytes) : Str :=
  beginMark ++ (messageTitle ++ armor.behindTitle)

end MessageArmor

/-- Lines in front of an armor, none of which is a begin line. -/
structure LeadingLines where
  lines : List Str
  plain : ∀ line ∈ lines, ∀ c ∈ line, isTextByte c = true
  other : ∀ line ∈ lines, ¬beginMark <+: line

def LeadingLines.text (leading : LeadingLines) : Str := leading.lines.flatMap (· ++ [10])

-----------------------------------------------------------------------------------------
-- The test for ASN.1
-----------------------------------------------------------------------------------------

/-- What is read of the length does not change the tag. -/
theorem lengthOctets_keeps {ti ti' : TlvInfo} {buf s : List UInt8}
    (read : lengthOctets ti buf = some (ti', s))
    : ti'.cls = ti.cls ∧ ti'.tag = ti.tag ∧ ti'.isCons = ti.isCons := by
  cases buf with
  | nil => cases read
  | cons c buf =>
      rw [lengthOctets] at read
      dsimp only at read
      split_ifs at read
      · cases read
        exact ⟨rfl, rfl, rfl⟩
      · cases read
        exact ⟨rfl, rfl, rfl⟩
      · obtain ⟨pair, -, same⟩ := Option.map_eq_some_iff.mp read
        cases same
        exact ⟨rfl, rfl, rfl⟩

/-- The class of a tag is in its first octet. -/
theorem parseTlv_class {c : UInt8} {buf s : List UInt8} {ti : TlvInfo}
    (read : parseTlv (c :: buf) = some (ti, s))
    : ti.cls = c.toNat / 64 ∧ ti.isCons = decide (c.toNat / 32 % 2 = 1) := by
  rw [parseTlv] at read
  obtain ⟨⟨tag, rest, nhdr⟩, -, read⟩ := Option.bind_eq_some_iff.mp read
  obtain ⟨cls, -, isCons⟩ := lengthOctets_keeps read
  exact ⟨cls, isCons⟩

/-- In text a tag has at most one more octet, and a length only one. -/
theorem parseTlv_text {a b : UInt8} {rest s : List UInt8} {ti : TlvInfo} (small : b < 128)
    (read : parseTlv (a :: b :: rest) = some (ti, s))
    : (a.toNat % 32 ≠ 31 ∧ ti.tag = a.toNat % 32 ∧ s = rest) ∨ ti.tag = b.toNat := by
  have value : b.toNat < 128 := UInt8.lt_iff_toNat_lt.mp small
  have inRange {n : Nat} (few : n < 128) : CInt.toInt n = n :=
    CInt.toInt_of_range (by omega) (by omega)
  rw [parseTlv, tagOctets] at read
  by_cases long : a.toNat % 32 = 31
  · rw [if_pos long, longTag] at read
    dsimp only at read
    rw [if_pos small, Option.bind_some] at read
    obtain ⟨-, tag, -⟩ := lengthOctets_keeps read
    have low : 0 * 128 % 2 ^ 64 + b.toNat % 128 = b.toNat := by omega
    dsimp only at tag
    rw [low, inRange value] at tag
    exact .inr tag
  · rw [if_neg long, Option.bind_some] at read
    dsimp only at read
    rw [lengthOctets, if_pos small] at read
    cases read
    exact .inl ⟨long, inRange (by omega), rfl⟩

/-- The bytes of text are no tags of numbers and identifiers. -/
theorem text_toNat {c : UInt8} (text : isTextByte c = true ∨ c = 10)
    : c < 128 ∧ c.toNat ≠ 2 ∧ c.toNat ≠ 6 ∧ c.toNat ≠ 16 := by
  have codes : (32 ≤ c.toNat ∧ c.toNat ≤ 126) ∨ c.toNat = 9 ∨ c.toNat = 13 ∨ c.toNat = 10 := by
    rcases text with text | rfl
    · simp only [isTextByte, Bool.or_eq_true, Bool.and_eq_true, decide_eq_true_eq,
        beq_iff_eq] at text
      rcases text with (⟨low, high⟩ | rfl) | rfl
      · exact .inl ⟨UInt8.le_iff_toNat_le.mp low, UInt8.le_iff_toNat_le.mp high⟩
      · exact .inr (.inl rfl)
      · exact .inr (.inr (.inl rfl))
    · exact .inr (.inr (.inr rfl))
  refine ⟨UInt8.lt_iff_toNat_lt.mpr ?_, by omega, by omega, by omega⟩
  change c.toNat < 128
  omega

/-- No text is taken for a certificate behind the first two headers. -/
theorem certificateDetection_text {s : List UInt8} (text : ∀ c ∈ s.take 1, c < 128)
    : certificateDetection s = none := by
  cases s with
  | nil => rfl
  | cons c s =>
      have small : c.toNat < 128 := UInt8.lt_iff_toNat_lt.mp (text c List.mem_cons_self)
      unfold certificateDetection
      cases read : parseTlv (c :: s) with
      | none => rfl
      | some result =>
          obtain ⟨ti, rest⟩ := result
          have cls := (parseTlv_class read).1
          have other : ti.cls ≠ classContext := by
            rw [cls]
            change c.toNat / 64 ≠ 2
            omega
          exact if_pos fun checked => other checked.1

/-- Text has no primitive encoding with the tag of a number or of an identifier. -/
theorem primitive_text {c d : UInt8} {rest s : List UInt8} {ti : TlvInfo} (small : d < 128)
    (read : parseTlv (c :: d :: rest) = some (ti, s)) {number : Nat} (low : number < 31)
    (differs : c.toNat ≠ number ∧ d.toNat ≠ number)
    : ti.isUniversal number false ≠ true := by
  intro checked
  simp only [TlvInfo.isUniversal, Bool.and_eq_true, beq_iff_eq] at checked
  obtain ⟨⟨universal, tag⟩, plain⟩ := checked
  obtain ⟨cls, isCons⟩ := parseTlv_class read
  have zero : c.toNat / 64 = 0 := by
    rw [← cls]
    exact universal
  have primitive : ¬c.toNat / 32 % 2 = 1 := by
    rw [isCons] at plain
    exact of_decide_eq_false plain
  rcases parseTlv_text small read with ⟨-, short, -⟩ | long
  · exact differs.1 (by omega)
  · exact differs.2 (by omega)

/-- Nor a sequence whose header is not a zero and one more character. -/
theorem sequence_text {a b : UInt8} {rest s : List UInt8} {ti : TlvInfo}
    (text : isTextByte b = true ∨ b = 10) (read : parseTlv (a :: b :: rest) = some (ti, s))
    (sequence : ti.isUniversal tagSequence true = true)
    : s = rest := by
  simp only [TlvInfo.isUniversal, Bool.and_eq_true, beq_iff_eq] at sequence
  have tag : ti.tag = 16 := sequence.1.2
  obtain ⟨small, -, -, other⟩ := text_toNat text
  rcases parseTlv_text small read with ⟨-, -, same⟩ | long
  · exact same
  · exact absurd (by omega) other

/-- Text is not taken for an ASN.1 object. -/
theorem asn1Detection_text {a b c d e : UInt8} (rest : List UInt8)
    (text : ∀ byte ∈ [a, b, c, d, e], isTextByte byte = true ∨ byte = 10)
    : asn1Detection (a :: b :: c :: d :: e :: rest) = none := by
  obtain ⟨-, integerC, objectIdC, -⟩ := text_toNat (text c (by simp))
  obtain ⟨smallD, integerD, objectIdD, -⟩ := text_toNat (text d (by simp))
  obtain ⟨smallE, -⟩ := text_toNat (text e (by simp))
  unfold asn1Detection
  cases first : parseTlv (a :: b :: c :: d :: e :: rest) with
  | none => rfl
  | some result =>
      obtain ⟨ti, s⟩ := result
      dsimp only
      by_cases sequence : ti.isUniversal tagSequence true = true
      · obtain rfl := sequence_text (text b (by simp)) first sequence
        rw [if_neg (not_not.mpr sequence)]
        cases second : parseTlv (c :: d :: e :: rest) with
        | none => rfl
        | some result =>
            obtain ⟨ti, s⟩ := result
            dsimp only
            have integer : ti.isUniversal tagInteger false ≠ true :=
              @primitive_text _ _ _ _ _ smallD second 2 (by omega) ⟨integerC, integerD⟩
            have objectId : ti.isUniversal tagObjectId false ≠ true :=
              @primitive_text _ _ _ _ _ smallD second 6 (by omega) ⟨objectIdC, objectIdD⟩
            by_cases nested : ti.isUniversal tagSequence true = true ∧ ti.length ≤ s.length
            · obtain rfl := sequence_text (text d (by simp)) second nested.1
              rw [if_pos nested]
              refine certificateDetection_text fun byte member => ?_
              rw [List.take_succ_cons, List.take_zero, List.mem_singleton] at member
              rw [member]
              exact smallE
            · rw [if_neg nested, if_neg fun checked => integer checked.1, cmsDetection,
                if_neg fun checked => objectId checked.1]
      · rw [if_pos sequence]

-----------------------------------------------------------------------------------------
-- The lines of the text
-----------------------------------------------------------------------------------------

/-- A text starts with its prefixes. -/
theorem startsWith_iff {s start : Str} : startsWith s start = true ↔ start <+: s := by
  rw [startsWith, beq_iff_eq]
  exact ⟨fun same => List.prefix_iff_eq_take.mpr same.symm,
    fun starts => (List.prefix_iff_eq_take.mp starts).symm⟩

/-- The mark of an armor is on one line. -/
theorem lineFeed_notMem_mark : 10 ∉ beginMark := by decide

/-- A mark lies in one line. -/
theorem mark_line {line : Str} (rest : Str) (starts : beginMark <+: line ++ 10 :: rest)
    : beginMark <+: line := by
  by_cases long : beginMark.length ≤ line.length
  · exact List.prefix_of_prefix_length_le starts (List.prefix_append _ _) long
  · have within : line ++ [10] <+: beginMark := by
      refine List.prefix_of_prefix_length_le ?_ starts ?_
      · exact ⟨rest, by simp⟩
      · rw [List.length_append, List.length_singleton]
        omega
    exact absurd (within.subset (List.mem_append_right _ (List.mem_singleton_self _)))
      lineFeed_notMem_mark

/-- The next line starts behind a line feed. -/
theorem nextLine_line {line : Str} (plain : 10 ∉ line) (rest : Str)
    : nextLine (line ++ 10 :: rest) = some rest := by
  have skipped : (line ++ 10 :: rest).dropWhile (· != 10) = 10 :: rest := by
    rw [List.dropWhile_append_of_pos]
    · rfl
    · intro c member
      simpa using fun same : c = 10 => plain (same ▸ member)
  rw [nextLine, skipped]

/-- The scan passes the lines in front of the armor. -/
theorem armorTitle_lines {lines : List Str} (plain : ∀ line ∈ lines, 10 ∉ line)
    (other : ∀ line ∈ lines, ¬beginMark <+: line) (rounds : Nat) (rest : Str)
    : armorTitle (rounds + lines.length) (lines.flatMap (· ++ [10]) ++ rest)
      = armorTitle rounds rest := by
  induction lines with
  | nil => rfl
  | cons line lines ih =>
      have split
          : (line :: lines).flatMap (· ++ [10]) ++ rest
            = line ++ 10 :: (lines.flatMap (· ++ [10]) ++ rest) := by simp
      have differs
          : ¬startsWith (line ++ 10 :: (lines.flatMap (· ++ [10]) ++ rest)) beginMark = true :=
        fun starts => other line List.mem_cons_self (mark_line _ (startsWith_iff.mp starts))
      have next := nextLine_line (plain line List.mem_cons_self)
        (lines.flatMap (· ++ [10]) ++ rest)
      have filled : line ++ 10 :: (lines.flatMap (· ++ [10]) ++ rest) ≠ [] := by simp
      rw [split, List.length_cons, ← Nat.add_assoc]
      generalize line ++ 10 :: (lines.flatMap (· ++ [10]) ++ rest) = text at differs next filled
      cases text with
      | nil => exact absurd rfl filled
      | cons c text =>
          rw [armorTitle, if_neg differs, next]
          exact ih (fun line member => plain line (List.mem_cons_of_mem _ member))
            (fun line member => other line (List.mem_cons_of_mem _ member))

/-- A message is inspected. -/
theorem titleType_message (rest : Str) : titleType (messageTitle ++ rest) = none := rfl

/-- Behind the mark stands the title. -/
theorem armorTitle_mark (rounds : Nat) (rest : Str)
    : armorTitle (rounds + 1) (beginMark ++ rest) = some rest := rfl

-----------------------------------------------------------------------------------------
-- The bytes of the text
-----------------------------------------------------------------------------------------

/-- White space between words is neither the end of a text nor of a line. -/
theorem isSpacing_codes {c : UInt8} (spacing : isSpacing c = true) : c ≠ 0 ∧ c ≠ 10 := by
  have codes : c = 32 ∨ c = 13 ∨ c = 9 := by simpa [isSpacing, or_assoc] using spacing
  rcases codes with rfl | rfl | rfl <;> decide

/-- White space in the data is neither the end of a text nor a dash. -/
theorem isWhite_codes {c : UInt8} (white : isWhite c = true) : c ≠ 0 ∧ c ≠ 45 := by
  have codes : c = 10 ∨ c = 32 ∨ c = 13 ∨ c = 9 := by simpa [isWhite, or_assoc] using white
  rcases codes with rfl | rfl | rfl | rfl <;> decide

/-- The body consists of the alphabet and white space. -/
theorem MessageArmor.mem_body {bytes : List UInt8} (armor : MessageArmor bytes) {c : UInt8}
    (member : c ∈ armor.body)
    : Base64.IsCharacter c ∨ isWhite c = true := by
  by_cases white : isWhite c = true
  · exact .inr white
  · have kept : c ∈ armor.body.filter (fun c => !isWhite c) :=
      List.mem_filter.mpr ⟨member, by simp [white]⟩
    rw [armor.body_encoded] at kept
    exact .inl (Base64.isCharacter_encodeBytes bytes c kept)

/-- Encoded data has neither the end of a text nor a dash. -/
theorem encoded_codes {c : UInt8} (encoded : Base64.IsCharacter c ∨ isWhite c = true)
    : c ≠ 0 ∧ c ≠ 45 := by
  rcases encoded with character | white
  · refine ⟨?_, ?_⟩
    · rintro rfl
      exact absurd character (by decide)
    · rintro rfl
      exact absurd character (by decide)
  · exact isWhite_codes white

/-- A line of text has neither the end of a text nor of a line. -/
theorem text_plain {line : Str} (plain : ∀ c ∈ line, isTextByte c = true) : 0 ∉ line ∧ 10 ∉ line :=
  ⟨fun member => absurd (plain 0 member) (by decide),
    fun member => absurd (plain 10 member) (by decide)⟩

/-- Lines without a byte make a text without it. -/
theorem notMem_lines {byte : UInt8} (other : byte ≠ 10) {lines : List Str}
    (plain : ∀ line ∈ lines, byte ∉ line)
    : byte ∉ lines.flatMap (· ++ [10]) := by
  intro member
  obtain ⟨line, found, member⟩ := List.mem_flatMap.mp member
  rcases List.mem_append.mp member with member | member
  · exact plain line found member
  · exact other (List.mem_singleton.mp member)

/-- There is no nul in the text. -/
theorem MessageArmor.nul_notMem {bytes : List UInt8} (leading : LeadingLines)
    (armor : MessageArmor bytes)
    : 0 ∉ leading.text ++ armor.text := by
  have lines : 0 ∉ leading.text := notMem_lines (by decide) fun line member =>
    (text_plain (leading.plain line member)).1
  have headers : 0 ∉ armor.headers.flatMap (· ++ [10]) := notMem_lines (by decide)
    fun line member => (armor.headers_filled line member).1
  have beginEnd : 0 ∉ armor.beginEnd := fun member =>
    (isSpacing_codes (armor.beginEnd_spacing 0 member)).1 rfl
  have blank : 0 ∉ armor.blank := fun member =>
    (isSpacing_codes (armor.blank_spacing 0 member)).1 rfl
  have body : 0 ∉ armor.body := fun member => (encoded_codes (armor.mem_body member)).1 rfl
  have ending : 0 ∉ armor.ending := fun member =>
    (isWhite_codes (armor.ending_white 0 member)).1 rfl
  have checksum : 0 ∉ armor.checksum := by
    rcases armor.checksum_pad with none | ⟨sum, some, characters⟩
    · rw [none]
      exact List.not_mem_nil
    · rw [some, List.mem_cons, not_or]
      exact ⟨by decide, fun member => (encoded_codes (characters 0 member)).1 rfl⟩
  have marks : 0 ∉ beginMark ∧ 0 ∉ messageTitle ∧ 0 ∉ endLine := by decide
  unfold text behindTitle closing
  simp only [List.mem_append, List.mem_singleton, not_or]
  exact ⟨lines, marks.1, marks.2.1,
    ⟨⟨⟨⟨beginEnd, by decide⟩, headers⟩, blank, by decide⟩, body⟩, ⟨checksum, marks.2.2⟩, ending⟩

/-- A padding or a dash is behind the data. -/
theorem MessageArmor.closing_start {bytes : List UInt8} (armor : MessageArmor bytes)
    : ∃ c rest, (c = 45 ∨ c = 61) ∧ armor.closing = c :: rest := by
  rcases armor.checksum_pad with none | ⟨sum, some, -⟩
  · refine ⟨45, endLine.tail ++ armor.ending, .inl rfl, ?_⟩
    rw [closing, none]
    rfl
  · refine ⟨61, sum ++ endLine ++ armor.ending, .inr rfl, ?_⟩
    rw [closing, some]
    rfl

/-- The decoder stores the bytes, for it stops at the same line as the scan. -/
theorem MessageArmor.decodeRun_text {bytes : List UInt8} (leading : LeadingLines)
    (armor : MessageArmor bytes)
    : (decodeRun (waiting .sInit 0) (leading.text ++ armor.text)).1 = bytes := by
  obtain ⟨start, line, before⟩ := other_lines
    (fun line member => (text_plain (leading.plain line member)).2) leading.other (.inl rfl)
  obtain ⟨c, rest, ends, closing⟩ := armor.closing_start
  have title : messageTitle = pgpMark ++ str "MESSAGE-----" := rfl
  have noLineFeed : 10 ∉ str "MESSAGE-----" ++ armor.beginEnd := by
    rw [List.mem_append, not_or]
    exact ⟨by decide, fun member => (isSpacing_codes (armor.beginEnd_spacing 10 member)).2 rfl⟩
  have split
      : armor.text
        = (beginMark ++ pgpMark) ++ ((str "MESSAGE-----" ++ armor.beginEnd ++ [10])
          ++ (armor.headers.flatMap (· ++ [10]) ++ (armor.blank ++ [10]
            ++ (armor.body ++ c :: rest)))) := by
    rw [text, behindTitle, title, closing]
    simp only [List.append_assoc]
  have inData : (waiting .sB640 3).InData := ⟨.inl rfl, rfl, rfl⟩
  have noDash : 45 ∉ armor.body := fun member => (encoded_codes (armor.mem_body member)).2 rfl
  obtain ⟨idx, radbuf, state, encoded⟩ := decodeRun_encode bytes inData rfl
  rw [LeadingLines.text, split, decodeRun_silent before, decodeRun_silent (begin_mark line),
    decodeRun_silent (rest_line noLineFeed),
    decodeRun_silent (header_lines fun line member => (armor.headers_filled line member).2),
    decodeRun_silent (blank_line armor.blank_spacing), decodeRun_append,
    decodeRun_filter inData noDash, armor.body_encoded, encoded]
  dsimp only
  rw [decodeRun_end (inData.behind (by rcases state with rfl | rfl <;> simp) radbuf) state ends,
    List.append_nil]

-----------------------------------------------------------------------------------------
-- The detection
-----------------------------------------------------------------------------------------

/-- The string in a buffer with a final nul. -/
theorem nulString_append {text : Str} (plain : 0 ∉ text) : nulString (text ++ [0]) = text := by
  have kept : ∀ c ∈ text, (c != 0) = true := fun c member => by
    simpa using fun same : c = 0 => plain (same ▸ member)
  rw [nulString, List.takeWhile_append_of_pos kept]
  exact List.append_nil text

/-- An armored message is inspected as its bytes are. -/
theorem inspectPgpMessage_text {text : Str} (plain : 0 ∉ text) {bytes : List UInt8}
    (decoded : (decodeRun (waiting .sInit 0) text).1 = bytes)
    : inspectPgpMessage true (text ++ [0]) = pgpBinaryDetection bytes bytes.length := by
  obtain ⟨junk, loop, -⟩ := b64Loop_run [] [] text [0] (waiting .sInit 0)
  have start : b64decStart true (some []) = waiting .sInit 0 := rfl
  have clean : (waiting .sInit 0).lasterr = 0 := rfl
  have goes : ¬(waiting .sInit 0).stopSeen = true := Bool.false_ne_true
  simp only [List.nil_append, List.length_nil, Nat.zero_add] at loop
  rw [decoded] at loop
  have stored
      : ((bytes ++ junk ++ [0]).set bytes.length 0)
        = bytes ++ (junk ++ [0]).set 0 0 := by
    rw [List.append_assoc, List.set_append_right _ _ (Nat.le_refl _), Nat.sub_self]
  unfold inspectPgpMessage
  rw [start, nulString_append plain]
  dsimp only
  rw [if_neg (not_not.mpr clean), b64decProc, if_neg (not_not.mpr clean), if_neg goes, loop,
    Option.map_some, Option.bind_some]
  dsimp only
  rw [if_neg (by decide), Option.getD_some, stored, pgpBinaryDetection_behind]

/-- The first bytes of the text. -/
theorem MessageArmor.text_start {bytes : List UInt8} (leading : LeadingLines)
    (armor : MessageArmor bytes)
    : ∃ start rest,
        leading.text ++ armor.text = start ++ rest
        ∧ 24 ≤ start.length
        ∧ ∀ c ∈ start, isTextByte c = true ∨ c = 10 := by
  refine ⟨leading.text ++ (beginMark ++ messageTitle), armor.behindTitle, ?_, ?_,
    fun c member => ?_⟩
  · rw [text]
    simp only [List.append_assoc]
  · rw [List.length_append]
    exact Nat.le_add_left_of_le (by decide)
  · rcases List.mem_append.mp member with member | member
    · obtain ⟨line, found, member⟩ := List.mem_flatMap.mp member
      rcases List.mem_append.mp member with member | member
      · exact .inl (leading.plain line found c member)
      · exact .inr (List.mem_singleton.mp member)
    · have marks : ∀ c ∈ beginMark ++ messageTitle, isTextByte c = true := by decide
      exact .inl (marks c member)

/-- The scan finds the title of the message. -/
theorem MessageArmor.armorTitle_text {bytes : List UInt8} (leading : LeadingLines)
    (armor : MessageArmor bytes)
    : armorTitle ((leading.text ++ armor.text).length + 1) (leading.text ++ armor.text)
      = some (messageTitle ++ armor.behindTitle) := by
  have size (lines : List Str) : lines.length ≤ (lines.flatMap (· ++ [10])).length := by
    induction lines with
    | nil => exact Nat.le_refl 0
    | cons line lines ih =>
        rw [List.flatMap_cons, List.length_append, List.length_append, List.length_singleton,
          List.length_cons]
        omega
  have few := size leading.lines
  obtain ⟨rounds, enough⟩
      : ∃ rounds, (leading.text ++ armor.text).length + 1 = rounds + 1 + leading.lines.length :=
    ⟨(leading.text ++ armor.text).length - leading.lines.length, by
      rw [List.length_append, LeadingLines.text]
      omega⟩
  rw [enough, LeadingLines.text,
    armorTitle_lines (fun line member => (text_plain (leading.plain line member)).2)
      leading.other, text, armorTitle_mark]

/-- Armored and binary detection agree: behind any lines of text the message is found, and its type
is that of the bytes.
-/
theorem armored_type_agrees (bytes : List UInt8) (leading : LeadingLines)
    (armor : MessageArmor bytes)
    : basicDetection true (leading.text ++ armor.text)
      = pgpBinaryDetection bytes bytes.length := by
  obtain ⟨start, rest, split, long, ascii⟩ := armor.text_start leading
  obtain ⟨a, b, c, d, e, start, rfl⟩ : ∃ a b c d e more, start = a :: b :: c :: d :: e :: more := by
    match start, long with
    | a :: b :: c :: d :: e :: more, _ => exact ⟨a, b, c, d, e, more, rfl⟩
  have first := ascii a List.mem_cons_self
  have plain := armor.nul_notMem leading
  have noObject : asn1Detection (leading.text ++ armor.text) = none := by
    rw [split]
    refine asn1Detection_text _ fun byte member => ascii byte ?_
    exact (List.prefix_append [a, b, c, d, e] start).subset member
  have head : ¬128 ≤ (leading.text ++ armor.text ++ [0]).headD 0 := by
    rw [split]
    exact UInt8.not_le.mpr (text_toNat first).1
  have short : ¬(leading.text ++ armor.text).length < 24 := by
    rw [split, List.length_append]
    omega
  rw [basicDetection, if_neg short, noObject]
  dsimp only
  rw [tryPgp, if_neg head, nulString_append plain, armor.armorTitle_text leading]
  dsimp only
  rw [titleType_message]
  exact inspectPgpMessage_text plain (armor.decodeRun_text leading)

/-- A marker and a signature with empty bodies, in two lines. -/
def markedArmor : MessageArmor [168, 3, 80, 71, 80, 194, 0] where
  beginEnd := [13]
  headers := [str "Comment: a test"]
  blank := [13]
  body := str "qANQR1DC\nAA==\n"
  checksum := str "=zb9R\n"
  ending := [10]
  beginEnd_spacing := by decide
  headers_filled := by decide
  blank_spacing := by decide
  body_encoded := by decide
  checksum_pad := .inr ⟨str "zb9R\n", rfl, by decide⟩
  ending_white := by decide

example : basicDetection true markedArmor.text = some .pgpSignature := by decide +kernel

end Gpgme
