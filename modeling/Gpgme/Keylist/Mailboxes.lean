import Gpgme.Keylist.UserIdSplitting

/-! The mail address of a user ID, as the scanner of the user ID and the search for angle brackets
find it.
-/

namespace Gpgme

open CString Nesting

-----------------------------------------------------------------------------------------
-- Angle brackets
-----------------------------------------------------------------------------------------

/-- The text up to the next closing angle bracket, if there is one. -/
def upToClose (behind : Str) : Option Str :=
  if 62 ∈ behind then some (behind.takeWhile (· != 62)) else none

/-- The text in the first angle brackets. -/
def firstBracketed (s : Str) : Option Str := upToClose (s.dropWhile (· != 60)).tail

/-- The text behind the first opening angle bracket that no comment surrounds; `depth` is the
number of open parentheses.
-/
def behindOuterBracket : Nat → Str → Option Str
  | _, [] => none
  | 0, c :: rest =>
      if c = 60 then some rest
      else if c = 40 then behindOuterBracket 1 rest
      else behindOuterBracket 0 rest
  | depth + 1, c :: rest =>
      if c = 40 then behindOuterBracket (depth + 2) rest
      else if c = 41 then behindOuterBracket depth rest
      else behindOuterBracket (depth + 1) rest

/-- The text in the first angle brackets outside of comments. -/
def outerBracketed (s : Str) : Option Str := (behindOuterBracket 0 s).bind upToClose

/-- A character that occurs stands behind the text that is free of it. -/
theorem exists_behind_takeWhile {c : UInt8} {s : Str} (member : c ∈ s)
    : ∃ more, s = s.takeWhile (· != c) ++ c :: more := by
  induction s with
  | nil => cases member
  | cons first rest ih =>
      by_cases here : first = c
      · exact ⟨rest, by simp [here]⟩
      · obtain ⟨more, split⟩ := ih ((List.mem_cons.mp member).resolve_left (Ne.symm here))
        refine ⟨more, ?_⟩
        rw [List.takeWhile_cons_of_pos (by simpa using here), List.cons_append, ← split]

-----------------------------------------------------------------------------------------
-- The email part of the scanner
-----------------------------------------------------------------------------------------

/-- The end of the name changes nothing else. -/
theorem UserIdParser.endName_fields (parser : UserIdParser)
    : parser.endName.email = parser.email
      ∧ parser.endName.inComment = parser.inComment
      ∧ parser.endName.inEmail = parser.inEmail := by
  unfold UserIdParser.endName
  split <;> exact ⟨rfl, rfl, rfl⟩

/-- Only blanks are lost at the end of a part. -/
theorem mem_setUserIdPart {part : Str} {c : UInt8} (member : c ∈ part)
    (visible : isBlank c = false)
    : c ∈ setUserIdPart part := by
  unfold setUserIdPart List.rdropWhile
  have whole := List.takeWhile_append_dropWhile (p := isBlank) (l := part.reverse)
  rw [← List.mem_reverse, ← whole, List.mem_append] at member
  rcases member with blanks | kept
  · rw [List.mem_takeWhile_imp blanks] at visible
    cases visible
  · exact List.mem_reverse.mpr kept

/-- An email part that was stored stays. -/
theorem foldl_email_kept (s : Str) {parser : UserIdParser} {email : Str}
    (stored : parser.email = some email)
    : (s.foldl UserIdParser.step parser).email = some email := by
  induction s generalizing parser with
  | nil => exact stored
  | cons c rest ih =>
      refine ih ?_
      unfold UserIdParser.step
      split_ifs <;> simp [UserIdParser.endName_fields, stored]

/-- A character that does not open the email part. -/
theorem UserIdParser.step_outside {parser : UserIdParser} {c : UInt8}
    (outside : parser.inEmail = 0) (first : parser.email = none)
    (other : parser.inComment = 0 → c ≠ 60) (rest : Str)
    : (parser.step c).inEmail = 0
      ∧ (parser.step c).email = none
      ∧ behindOuterBracket parser.inComment (c :: rest)
        = behindOuterBracket (parser.step c).inComment rest := by
  cases depth : parser.inComment with
  | zero =>
      have notOpening := other depth
      unfold UserIdParser.step
      split_ifs <;> simp_all [behindOuterBracket, UserIdParser.endName_fields]
  | succ depth =>
      unfold UserIdParser.step
      split_ifs <;> simp_all [behindOuterBracket]

/-- In front of the outer angle bracket no email part is stored, by induction on the string with
the parentheses that are open.
-/
theorem foldl_outer (s : Str) (parser : UserIdParser) (outside : parser.inEmail = 0)
    (first : parser.email = none)
    : (behindOuterBracket parser.inComment s = none
        ∧ (s.foldl UserIdParser.step parser).email = none)
      ∨ ∃ rest opened,
          behindOuterBracket parser.inComment s = some rest
          ∧ opened.inEmail = 1
          ∧ opened.part = []
          ∧ opened.email = none
          ∧ s.foldl UserIdParser.step parser = rest.foldl UserIdParser.step opened := by
  induction s generalizing parser with
  | nil => exact .inl ⟨by cases parser.inComment <;> rfl, first⟩
  | cons c rest ih =>
      by_cases opens : parser.inComment = 0 ∧ c = 60
      · obtain ⟨depth, opens⟩ := opens
        right
        refine ⟨rest, { parser.endName with inEmail := 1, part := [] }, ?_, rfl, rfl, ?_, ?_⟩
        · simp [behindOuterBracket, depth, opens]
        · exact parser.endName_fields.1.trans first
        · rw [List.foldl_cons]
          simp [UserIdParser.step, outside, depth, opens]
      · obtain ⟨outside', first', same⟩ :=
          parser.step_outside outside first (fun depth is => opens ⟨depth, is⟩) rest
        rw [same, List.foldl_cons]
        exact ih (parser.step c) outside' first'

section Email

variable {parser : UserIdParser}

/-- Without a closing bracket the email part does not end. -/
theorem foldl_unclosed {s : Str} (inside : parser.inEmail ≠ 0) (unset : parser.email = none)
    (unclosed : 62 ∉ s)
    : (s.foldl UserIdParser.step parser).email = none := by
  induction s generalizing parser with
  | nil => exact unset
  | cons c rest ih =>
      obtain ⟨other, behind⟩ := not_or.mp (mt List.mem_cons.mpr unclosed)
      refine ih ?_ ?_ behind <;> unfold UserIdParser.step <;> split_ifs <;> simp_all

/-- An email part with another opening bracket inside keeps it, whether or not it is stored. -/
theorem foldl_nested (s : Str) (inside : parser.inEmail ≠ 0) (unset : parser.email = none)
    (nested : 60 ∈ parser.part)
    : (s.foldl UserIdParser.step parser).email = none
      ∨ ∃ email, (s.foldl UserIdParser.step parser).email = some email ∧ 60 ∈ email := by
  induction s generalizing parser with
  | nil => exact .inl unset
  | cons c rest ih =>
      rw [List.foldl_cons]
      by_cases closes : c = 62 ∧ parser.inEmail = 1
      · obtain ⟨rfl, depth⟩ := closes
        right
        have stored : (parser.step 62).email = some (setUserIdPart parser.part) := by
          simp [UserIdParser.step, depth, unset]
        exact ⟨_, foldl_email_kept rest stored, mem_setUserIdPart nested (by decide)⟩
      · refine ih ?_ ?_ ?_
        · unfold UserIdParser.step
          split_ifs <;> simp_all
          omega
        · unfold UserIdParser.step
          split_ifs <;> simp_all
        · unfold UserIdParser.step
          split_ifs <;> simp_all

/-- The text in front of the closing bracket is the email part. -/
theorem foldl_closed {t : Str} (inside : parser.inEmail = 1) (unset : parser.email = none)
    (plain : 60 ∉ t) (unclosed : 62 ∉ t) (more : Str)
    : ((t ++ 62 :: more).foldl UserIdParser.step parser).email
      = some (setUserIdPart (parser.part ++ t)) := by
  induction t generalizing parser with
  | nil =>
      refine foldl_email_kept more ?_
      simp [UserIdParser.step, inside, unset]
  | cons c rest ih =>
      obtain ⟨notOpening, plain⟩ := not_or.mp (mt List.mem_cons.mpr plain)
      obtain ⟨notClosing, unclosed⟩ := not_or.mp (mt List.mem_cons.mpr unclosed)
      have stepped : parser.step c = { parser with part := parser.part ++ [c] } := by
        simp [UserIdParser.step, inside, Ne.symm notOpening, Ne.symm notClosing]
      have read : ({ parser with part := parser.part ++ [c] } : UserIdParser).inEmail = 1 := inside
      rw [List.cons_append, List.foldl_cons, stepped, ih read unset plain unclosed]
      simp

/-- An opening bracket that is read inside of the email part is in its text. -/
theorem foldl_opened {t : Str} (inside : parser.inEmail ≠ 0) (unset : parser.email = none)
    (nested : 60 ∈ t) (unclosed : 62 ∉ t) (more : Str)
    : ((t ++ more).foldl UserIdParser.step parser).email = none
      ∨ ∃ email,
          ((t ++ more).foldl UserIdParser.step parser).email = some email ∧ 60 ∈ email := by
  induction t generalizing parser with
  | nil => cases nested
  | cons c rest ih =>
      obtain ⟨notClosing, unclosed⟩ := not_or.mp (mt List.mem_cons.mpr unclosed)
      have stepped
          : (parser.step c).inEmail ≠ 0
            ∧ (parser.step c).email = none
            ∧ (parser.step c).part = parser.part ++ [c] := by
        unfold UserIdParser.step
        split_ifs <;> simp_all
      obtain ⟨inside', unset', part⟩ := stepped
      rw [List.cons_append, List.foldl_cons]
      rcases List.mem_cons.mp nested with here | later
      · exact foldl_nested (rest ++ more) inside' unset' (by simp [part, here])
      · exact ih inside' unset' later unclosed

end Email

/-- The email part of a user ID. -/
def emailPart (uid : Str) : Str := (parseUserId uid).2.1

/-- The email part is what the parser has collected. -/
theorem emailPart_eq (uid : Str)
    : emailPart uid = ((uid.foldl UserIdParser.step {}).email).getD [] := by
  unfold emailPart parseUserId
  exact congrArg (Option.getD · []) (UserIdParser.endName_fields _).1

/-- The email part is the text in the outer brackets, unless that has an opening bracket, too, or
there is none.
-/
theorem emailPart_cases (uid : Str)
    : (∃ t, outerBracketed uid = some t ∧ 60 ∉ t ∧ emailPart uid = setUserIdPart t)
      ∨ ((∀ t, outerBracketed uid = some t → 60 ∈ t)
        ∧ (emailPart uid = [] ∨ 60 ∈ emailPart uid)) := by
  rw [emailPart_eq]
  rcases foldl_outer uid {} rfl rfl with
    ⟨none, unset⟩ | ⟨rest, opened, found, inside, part, unset, same⟩
  · right
    rw [unset]
    refine ⟨?_, .inl rfl⟩
    intro t outer
    unfold outerBracketed at outer
    rw [none] at outer
    cases outer
  · have outer : outerBracketed uid = upToClose rest := by
      unfold outerBracketed
      rw [found]
      rfl
    rw [outer, same]
    unfold upToClose
    by_cases closed : 62 ∈ rest
    · rw [if_pos closed]
      have unclosed : 62 ∉ rest.takeWhile (· != 62) := by
        intro member
        simpa using List.mem_takeWhile_imp member
      obtain ⟨more, split⟩ := exists_behind_takeWhile closed
      generalize rest.takeWhile (· != 62) = t at *
      subst split
      by_cases nested : 60 ∈ t
      · right
        refine ⟨fun t' same => Option.some.inj same ▸ nested, ?_⟩
        rcases foldl_opened (by simp [inside]) unset nested unclosed (62 :: more) with
          none | ⟨email, stored, opening⟩
        · exact .inl (by rw [none]; rfl)
        · exact .inr (by rw [stored]; exact opening)
      · left
        refine ⟨t, rfl, nested, ?_⟩
        rw [foldl_closed inside unset nested unclosed more, part]
        rfl
    · right
      rw [if_neg closed, foldl_unclosed (by simp [inside]) unset closed]
      exact ⟨by simp, .inl rfl⟩

-----------------------------------------------------------------------------------------
-- Mailboxes
-----------------------------------------------------------------------------------------

/-- A character that can stand in a valid mailbox is no delimiter of a user ID. -/
structure MailboxChar (c : UInt8) : Prop where
  visible : ¬c ≤ 32
  noBracket : c ≠ 60
  noClose : c ≠ 62
  noParenthesis : c ≠ 40

instance (c : UInt8) : Decidable (MailboxChar c) :=
  decidable_of_iff (¬c ≤ 32 ∧ c ≠ 60 ∧ c ≠ 62 ∧ c ≠ 40)
    ⟨fun ⟨visible, noBracket, noClose, noParenthesis⟩ =>
      ⟨visible, noBracket, noClose, noParenthesis⟩,
    fun ⟨visible, noBracket, noClose, noParenthesis⟩ =>
      ⟨visible, noBracket, noClose, noParenthesis⟩⟩

/-- Bytes beyond ASCII may stand in a mailbox. -/
theorem mailboxChar_of_high {c : UInt8} (high : 128 ≤ c) : MailboxChar c := by
  have bound := UInt8.le_iff_toNat_le.mp high
  refine ⟨?_, ?_, ?_, ?_⟩
  · intro low
    have below := UInt8.le_iff_toNat_le.mp low
    exact absurd (bound.trans below) (by decide)
  · rintro rfl
    exact absurd bound (by decide)
  · rintro rfl
    exact absurd bound (by decide)
  · rintro rfl
    exact absurd bound (by decide)

/-- The valid characters may stand in a mailbox. -/
theorem validChars_mailbox : ∀ c ∈ validEmailChars ++ validLocalChars, MailboxChar c := by decide

/-- What the check for invalid characters passes, by induction on the text. -/
theorem mailboxChars {s : Str} (atSeen : Bool) (valid : hasInvalidEmailChars atSeen s = false)
    : ∀ c ∈ s, MailboxChar c := by
  induction s generalizing atSeen with
  | nil => simp
  | cons c rest ih =>
      unfold hasInvalidEmailChars at valid
      split_ifs at valid with high isAt localPart domain
      · exact List.forall_mem_cons.mpr ⟨mailboxChar_of_high high, ih _ valid⟩
      · exact List.forall_mem_cons.mpr ⟨isAt ▸ (by decide), ih _ valid⟩
      · refine List.forall_mem_cons.mpr ⟨validChars_mailbox c ?_, ih _ valid⟩
        rw [List.mem_append]
        cases atSeen
        · by_cases inBoth : c ∈ validEmailChars
          · exact .inl inBoth
          · exact .inr (by simpa [inBoth] using localPart)
        · exact .inl (by simpa using domain)

/-- What is true of a valid mailbox. -/
structure ValidMailbox (s : Str) : Prop where
  filled : s ≠ []
  chars : ∀ c ∈ s, MailboxChar c
  oneAt : countChr s 64 = 1
  localPart : s.head? ≠ some 64
  domain : s.getLast? ≠ some 64
  noDot : s.getLast? ≠ some 46
  noDotdot : hasDotdot s = false

/-- A mailbox that passes the check is valid. -/
theorem validMailbox_of {s : Str} (valid : isValidMailbox s = true) : ValidMailbox s := by
  unfold isValidMailbox at valid
  simp only [Bool.and_eq_true, bne_iff_ne, beq_iff_eq, Bool.not_eq_true'] at valid
  obtain ⟨⟨⟨⟨⟨⟨filled, chars⟩, oneAt⟩, localPart⟩, domain⟩, noDot⟩, noDotdot⟩ := valid
  exact ⟨filled, mailboxChars false chars, oneAt, localPart, domain, noDot, noDotdot⟩

/-- An opening bracket makes a mailbox invalid. -/
theorem isValidMailbox_bracket {s : Str} (bracket : s = [] ∨ 60 ∈ s)
    : isValidMailbox s = false := by
  by_contra valid
  have mailbox := validMailbox_of (Bool.not_eq_false _ ▸ valid)
  rcases bracket with rfl | bracket
  · exact mailbox.filled rfl
  · exact (mailbox.chars 60 bracket).noBracket rfl

/-- The loose checks of an address in angle brackets. -/
def looselyValid (result : Str) : Bool :=
  !(countChr result 64 ≠ 1 || result.head? == some 64 || result.getLast? == some 64
    || result.getLast? == some 46 || stringHasCtrlOrSpace result || hasDotdotAfterAt result)

/-- The end of a string without two dots has none either. -/
theorem hasDotdot_suffix {s t : Str} (suffix : t <:+ s) (free : hasDotdot s = false)
    : hasDotdot t = false := by
  obtain ⟨front, rfl⟩ := suffix
  induction front with
  | nil => exact free
  | cons c rest ih =>
      rw [List.cons_append, hasDotdot, Bool.or_eq_false_iff] at free
      exact ih free.2

/-- A valid mailbox passes the loose checks. -/
theorem ValidMailbox.loose {s : Str} (mailbox : ValidMailbox s) : looselyValid s = true := by
  have visible : stringHasCtrlOrSpace s = false := by
    unfold stringHasCtrlOrSpace
    rw [List.any_eq_false]
    intro c member
    simpa using (mailbox.chars c member).visible
  have noDotdot : hasDotdotAfterAt s = false :=
    hasDotdot_suffix ((List.tail_suffix _).trans (List.dropWhile_suffix _)) mailbox.noDotdot
  simp [looselyValid, mailbox.oneAt, mailbox.localPart, mailbox.domain, mailbox.noDot, visible,
    noDotdot]

-----------------------------------------------------------------------------------------
-- Letters
-----------------------------------------------------------------------------------------

/-- One character of `ascii_strlwr`. -/
def asciiLower (c : UInt8) : UInt8 := if 65 ≤ c ∧ c ≤ 90 then c ||| 32 else c

/-- Letters are changed one by one. -/
theorem asciiStrlwr_eq (s : Str) : asciiStrlwr s = s.map asciiLower := rfl

/-- The lower-case letters are letters. -/
theorem letters_lower
    : ∀ n < 26, 97 ≤ UInt8.ofNat (65 + n) ||| 32 ∧ UInt8.ofNat (65 + n) ||| 32 ≤ 122 := by
  decide

/-- A letter becomes a small letter. -/
theorem lower_letter {c : UInt8} (low : 65 ≤ c) (high : c ≤ 90) : 97 ≤ c ||| 32 ∧ c ||| 32 ≤ 122 := by
  have low' : 65 ≤ c.toNat := UInt8.le_iff_toNat_le.mp low
  have high' : c.toNat ≤ 90 := UInt8.le_iff_toNat_le.mp high
  have letter := letters_lower (c.toNat - 65) (by omega)
  rwa [Nat.add_sub_cancel' low', UInt8.ofNat_toNat] at letter

/-- Only a capital letter changes, and it does not become a character that is no letter. -/
theorem asciiLower_eq_iff {c other : UInt8} (small : other < 65)
    : asciiLower c = other ↔ c = other := by
  unfold asciiLower
  split
  · next letter =>
      obtain ⟨low, -⟩ := lower_letter letter.1 letter.2
      refine iff_of_false ?_ ?_
      · rintro rfl
        exact absurd (UInt8.lt_of_le_of_lt low small) (by decide)
      · rintro rfl
        exact absurd (UInt8.lt_of_le_of_lt letter.1 small) (UInt8.lt_irrefl _)
  · exact Iff.rfl

/-- A character is a control character or a blank after the change if it was one before. -/
theorem asciiLower_le_iff {c : UInt8} : asciiLower c ≤ 32 ↔ c ≤ 32 := by
  unfold asciiLower
  split
  · next letter =>
      obtain ⟨low, -⟩ := lower_letter letter.1 letter.2
      refine iff_of_false ?_ ?_
      · intro below
        exact absurd (UInt8.le_trans low below) (by decide)
      · intro below
        exact absurd (UInt8.le_trans letter.1 below) (by decide)
  · exact Iff.rfl

/-- A text has no capital letters exactly if it is its own small form. -/
theorem asciiStrlwr_eq_self_iff (s : Str) : asciiStrlwr s = s ↔ ∀ c ∈ s, ¬(65 ≤ c ∧ c ≤ 90) := by
  have pointwise : s.map asciiLower = s ↔ ∀ c ∈ s, asciiLower c = c := by
    rw [← List.map_inj_left, List.map_id']
  rw [asciiStrlwr_eq, pointwise]
  refine forall₂_congr fun c _ => ?_
  unfold asciiLower
  split
  · next letter =>
      obtain ⟨low, -⟩ := lower_letter letter.1 letter.2
      refine iff_of_false ?_ (not_not.mpr letter)
      intro same
      rw [same] at low
      exact absurd (UInt8.le_trans low letter.2) (by decide)
  · next letter => exact iff_of_true rfl letter

/-- The change keeps the number of at signs. -/
theorem countChr_lower (s : Str) : countChr (asciiStrlwr s) 64 = countChr s 64 := by
  unfold countChr
  rw [asciiStrlwr_eq, List.count_eq_countP, List.countP_map, List.count_eq_countP]
  refine List.countP_congr fun c _ => ?_
  simp [asciiLower_eq_iff]

/-- The change keeps a first character that is no letter. -/
theorem head?_lower (s : Str) {other : UInt8} (small : other < 65)
    : ((asciiStrlwr s).head? == some other) = (s.head? == some other) := by
  rw [asciiStrlwr_eq, List.head?_map]
  cases s.head? <;> simp [asciiLower_eq_iff small]

/-- The change keeps a last character that is no letter. -/
theorem getLast?_lower (s : Str) {other : UInt8} (small : other < 65)
    : ((asciiStrlwr s).getLast? == some other) = (s.getLast? == some other) := by
  rw [asciiStrlwr_eq, List.getLast?_map]
  cases s.getLast? <;> simp [asciiLower_eq_iff small]

/-- The change keeps two dots. -/
theorem hasDotdot_lower (s : Str) : hasDotdot (asciiStrlwr s) = hasDotdot s := by
  induction s with
  | nil => rfl
  | cons c rest ih =>
      have dot : (asciiLower c == 46) = (c == 46) := by
        simp [asciiLower_eq_iff]
      have cons : asciiStrlwr (c :: rest) = asciiLower c :: asciiStrlwr rest := rfl
      rw [cons, hasDotdot, dot, head?_lower rest (by decide), ih, hasDotdot]

/-- The change keeps the loose check. -/
theorem looselyValid_lower (s : Str) : looselyValid (asciiStrlwr s) = looselyValid s := by
  have visible : stringHasCtrlOrSpace (asciiStrlwr s) = stringHasCtrlOrSpace s := by
    unfold stringHasCtrlOrSpace
    rw [asciiStrlwr_eq, List.any_map]
    congr 1
    funext c
    simp [asciiLower_le_iff]
  have behind : (asciiStrlwr s).dropWhile (· != 64) = asciiStrlwr (s.dropWhile (· != 64)) := by
    rw [asciiStrlwr_eq, List.dropWhile_map, asciiStrlwr_eq]
    congr 2
    funext c
    simp [bne, asciiLower_eq_iff]
  have dotdot : hasDotdotAfterAt (asciiStrlwr s) = hasDotdotAfterAt s := by
    unfold hasDotdotAfterAt
    rw [behind, ← hasDotdot_lower (s.dropWhile (· != 64)).tail, asciiStrlwr_eq, asciiStrlwr_eq,
      List.map_tail]
  unfold looselyValid
  rw [countChr_lower, head?_lower s (by decide), getLast?_lower s (by decide),
    getLast?_lower s (by decide), visible, dotdot]

-----------------------------------------------------------------------------------------
-- The address
-----------------------------------------------------------------------------------------

/-- With an angle bracket the address is the text in the first ones, if that is loosely valid. -/
theorem mailboxFromUserid_bracket {uid : Str} (bracket : 60 ∈ uid)
    : mailboxFromUserid uid
      = (firstBracketed uid).bind fun raw =>
          if raw ≠ [] ∧ looselyValid raw = true then some (asciiStrlwr raw) else none := by
  obtain ⟨behind, split⟩ := exists_behind_takeWhile bracket
  have dropped : uid.dropWhile (· != 60) = 60 :: behind :=
    List.append_cancel_left (List.takeWhile_append_dropWhile.trans split)
  unfold mailboxFromUserid firstBracketed upToClose
  rw [dropped, List.tail_cons]
  by_cases closed : 62 ∈ behind
  · have shorter : behind.takeWhile (· != 62) ≠ behind := by
      intro same
      have reached := List.takeWhile_eq_self_iff.mp same 62 closed
      simp at reached
    rw [if_pos closed]
    dsimp only [Option.bind_some]
    generalize behind.takeWhile (· != 62) = raw at *
    by_cases empty : raw = []
    · simp [empty]
    · rw [if_neg (not_or.mpr ⟨shorter, empty⟩)]
      unfold looselyValid
      generalize (countChr raw 64 ≠ 1 || raw.head? == some 64 || raw.getLast? == some 64
        || raw.getLast? == some 46 || stringHasCtrlOrSpace raw || hasDotdotAfterAt raw : Bool)
        = failed
      cases failed <;> simp [empty]
  · have whole : behind.takeWhile (· != 62) = behind := by
      rw [List.takeWhile_eq_self_iff]
      intro c member
      simpa using fun same : c = 62 => closed (same ▸ member)
    simp [whole, closed]

/-- Something behind an outer bracket needs a bracket. -/
theorem behindOuterBracket_bracket {depth : Nat} {s behind : Str}
    (found : behindOuterBracket depth s = some behind)
    : 60 ∈ s := by
  fun_induction behindOuterBracket depth s with
  | case1 => cases found
  | case2 => exact List.mem_cons_self
  | case3 rest _ ih => exact List.mem_cons_of_mem _ (ih found)
  | case4 c rest _ _ ih => exact List.mem_cons_of_mem _ (ih found)
  | case5 depth rest ih => exact List.mem_cons_of_mem _ (ih found)
  | case6 depth rest _ ih => exact List.mem_cons_of_mem _ (ih found)
  | case7 depth c rest _ _ ih => exact List.mem_cons_of_mem _ (ih found)

/-- An outer bracket is a bracket. -/
theorem outerBracketed_bracket {s t : Str} (outer : outerBracketed s = some t) : 60 ∈ s := by
  obtain ⟨behind, found, -⟩ := Option.bind_eq_some_iff.mp outer
  exact behindOuterBracket_bracket found

/-- The address of a user ID with angle brackets is a valid mailbox exactly if the text in the
first ones is, up to the case of its letters.
-/
theorem mailboxFromUserid_eq_iff {uid email : Str} (bracket : 60 ∈ uid)
    (valid : isValidMailbox email = true)
    : mailboxFromUserid uid = some (asciiStrlwr email)
      ↔ ∃ raw, firstBracketed uid = some raw ∧ asciiStrlwr raw = asciiStrlwr email := by
  have mailbox := validMailbox_of valid
  rw [mailboxFromUserid_bracket bracket, Option.bind_eq_some_iff]
  refine exists_congr fun raw => and_congr_right fun _ => ?_
  constructor
  · intro made
    split_ifs at made
    exact Option.some.inj made
  · intro same
    have filled : raw ≠ [] := by
      rintro rfl
      exact mailbox.filled (List.map_eq_nil_iff.mp same.symm)
    have loose : looselyValid raw = true := by
      rw [← looselyValid_lower, same, looselyValid_lower]
      exact mailbox.loose
    rw [if_pos ⟨filled, loose⟩, same]

/-- A valid mailbox is a name without an email part. -/
theorem parseUserId_mailbox {uid : Str} (mailbox : ValidMailbox uid)
    : parseUserId uid = (uid, [], []) := by
  have visible {c : UInt8} (member : c ∈ uid) : isBlank c = false := by
    have above := (mailbox.chars c member).visible
    unfold isBlank
    rw [Bool.or_eq_false_iff, beq_eq_false_iff_ne, beq_eq_false_iff_ne]
    refine ⟨?_, ?_⟩ <;> rintro rfl <;> exact above (by decide)
  have usual : UsualName uid := by
    refine ⟨mailbox.filled, ?_, ?_, ?_⟩
    · intro c member
      exact ⟨(mailbox.chars c member).noBracket, (mailbox.chars c member).noParenthesis⟩
    · intro c first
      exact visible (List.mem_of_mem_head? first)
    · intro c last
      exact visible (List.mem_of_getLast? last)
  have parsed := parseUserId_usual usual none none (by simp) (by simp)
  simpa [usualUserId] using parsed

/-- A user ID that is a mailbox is its own address. -/
theorem mailboxFromUserid_mailbox {uid : Str} (valid : isValidMailbox uid = true)
    : mailboxFromUserid uid = some (asciiStrlwr uid) := by
  have noBracket : uid.dropWhile (· != 60) = [] := by
    rw [List.dropWhile_eq_nil_iff]
    intro c member
    simpa using ((validMailbox_of valid).chars c member).noBracket
  unfold mailboxFromUserid
  rw [noBracket, if_pos valid]

/-- The two ways to the address meet: the brackets outside of comments hold what the first ones
hold, and a user ID that is nothing but a mailbox is in small letters.
-/
structure OneMailbox (uid : Str) : Prop where
  bracketed
    : ∀ t,
        outerBracketed uid = some t
        → isValidMailbox (setUserIdPart t) = true
        → ∃ raw,
            firstBracketed uid = some raw ∧ asciiStrlwr raw = asciiStrlwr (setUserIdPart t)
  small : isValidMailbox uid = true → ∀ c ∈ uid, ¬(65 ≤ c ∧ c ≤ 90)

/-- The address is the email part exactly when the outer brackets have the same address as the
first.
-/
theorem email_address_iff (uid : Str)
    : (isValidMailbox (emailPart uid) = true →
        mailboxFromUserid uid = some (asciiStrlwr (emailPart uid)))
      ↔ ∀ t,
          outerBracketed uid = some t
          → isValidMailbox (setUserIdPart t) = true
          → ∃ raw,
              firstBracketed uid = some raw
              ∧ asciiStrlwr raw = asciiStrlwr (setUserIdPart t) := by
  rcases emailPart_cases uid with ⟨t, outer, plain, email⟩ | ⟨nested, invalid⟩
  · rw [email]
    constructor
    · intro same t' outer' valid
      cases outer.symm.trans outer'
      exact (mailboxFromUserid_eq_iff (outerBracketed_bracket outer) valid).mp (same valid)
    · intro bracketed valid
      exact (mailboxFromUserid_eq_iff (outerBracketed_bracket outer) valid).mpr
        (bracketed t outer valid)
  · refine iff_of_true ?_ ?_
    · intro valid
      rw [isValidMailbox_bracket invalid] at valid
      cases valid
    · intro t outer valid
      rw [isValidMailbox_bracket (.inr (mem_setUserIdPart (nested t outer) (by decide)))] at valid
      cases valid

/-- The address of an OpenPGP user ID is its email part in small letters, and a user ID that is
nothing but a mailbox has no name, exactly if both look at the same text.
-/
theorem mailbox_views_agree_iff (addr : Nat) (src : Str) (convert : Bool)
    : ((isValidMailbox (emailPart (newUserId addr .openpgp src convert).uid) = true →
          (newUserId addr .openpgp src convert).address
            = some (asciiStrlwr (emailPart (newUserId addr .openpgp src convert).uid)))
        ∧ (isValidMailbox (newUserId addr .openpgp src convert).uid = true →
          (newUserId addr .openpgp src convert).name = []
          ∧ (newUserId addr .openpgp src convert).address
            = some (newUserId addr .openpgp src convert).email))
      ↔ OneMailbox (newUserId addr .openpgp src convert).uid := by
  obtain ⟨uid, stored⟩ : ∃ uid, uid = (if convert then decodeCString src else src) := ⟨_, rfl⟩
  have made
      : (newUserId addr .openpgp src convert).uid = uid
        ∧ (newUserId addr .openpgp src convert).address = mailboxFromUserid uid := by
    unfold newUserId
    rw [← stored]
    dsimp only
    split_ifs <;> exact ⟨rfl, rfl⟩
  rw [made.1, made.2, email_address_iff]
  have whole (valid : isValidMailbox uid = true)
      : ((newUserId addr .openpgp src convert).name = []
          ∧ mailboxFromUserid uid = some (newUserId addr .openpgp src convert).email)
        ↔ ∀ c ∈ uid, ¬(65 ≤ c ∧ c ≤ 90) := by
    have mailbox := validMailbox_of valid
    rw [← asciiStrlwr_eq_self_iff]
    unfold newUserId userIdParts
    rw [← stored]
    simp only [reduceCtorEq, if_false, parseUserId_mailbox mailbox,
      mailboxFromUserid_mailbox valid, true_and, Option.some_inj]
    by_cases same : asciiStrlwr uid = uid
    · simp [same]
    · simp [same, mailbox.filled]
  constructor
  · rintro ⟨bracketed, alone⟩
    exact ⟨bracketed, fun valid => (whole valid).mp (alone valid)⟩
  · rintro ⟨bracketed, small⟩
    exact ⟨bracketed, fun valid => (whole valid).mpr (small valid)⟩

/-- A user ID with a mailbox in its comment, and one that is a mailbox with a capital letter. -/
theorem views_disagree
    : (newUserId 0 .openpgp (str "(<a@b>) <c@d>") false).email = str "c@d"
      ∧ (newUserId 0 .openpgp (str "(<a@b>) <c@d>") false).address = some (str "a@b")
      ∧ (newUserId 0 .openpgp (str "A@b") false).name = str "A@b"
      ∧ (newUserId 0 .openpgp (str "A@b") false).email = []
      ∧ ¬∀ src,
          (isValidMailbox (emailPart (newUserId 0 .openpgp src false).uid) = true →
            (newUserId 0 .openpgp src false).address
              = some (asciiStrlwr (emailPart (newUserId 0 .openpgp src false).uid)))
          ∧ (isValidMailbox (newUserId 0 .openpgp src false).uid = true →
            (newUserId 0 .openpgp src false).name = []
            ∧ (newUserId 0 .openpgp src false).address
              = some (newUserId 0 .openpgp src false).email) := by
  refine ⟨by decide, by decide, by decide, by decide, ?_⟩
  intro agree
  have same := (agree (str "(<a@b>) <c@d>")).1 (by decide)
  revert same
  decide

/-- The usual form with a mailbox. -/
theorem usual_views_agree
    : (newUserId 0 .openpgp (str "N <A@b>") false).email = str "A@b"
      ∧ (newUserId 0 .openpgp (str "N <A@b>") false).address = some (str "a@b")
      ∧ ((isValidMailbox (emailPart (newUserId 0 .openpgp (str "N <A@b>") false).uid) = true →
            (newUserId 0 .openpgp (str "N <A@b>") false).address
              = some (asciiStrlwr (emailPart (newUserId 0 .openpgp (str "N <A@b>") false).uid)))
          ∧ (isValidMailbox (newUserId 0 .openpgp (str "N <A@b>") false).uid = true →
            (newUserId 0 .openpgp (str "N <A@b>") false).name = []
            ∧ (newUserId 0 .openpgp (str "N <A@b>") false).address
              = some (newUserId 0 .openpgp (str "N <A@b>") false).email)) := by
  refine ⟨by decide, by decide, (mailbox_views_agree_iff 0 (str "N <A@b>") false).mpr ⟨?_, ?_⟩⟩
  · intro t outer _
    have found : outerBracketed (str "N <A@b>") = some (str "A@b") := by decide
    cases found.symm.trans outer
    exact ⟨str "A@b", by decide, by decide⟩
  · intro valid
    revert valid
    decide

end Gpgme
