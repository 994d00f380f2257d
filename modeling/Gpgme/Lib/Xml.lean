import Gpgme.Lib.CString

/-! A part of XML: elements with attributes that hold character data or elements. The reader
accepts well-formed text only: tags match, names and attribute values are of the permitted
characters, no attribute is given twice, and an ampersand starts a predefined entity.
-/

namespace Xml

open CString

/-- An element with its attributes, whose values are of some type. -/
inductive Element (α : Type)
  | text (tag : Str) (attributes : List (Str × α)) (content : Str)
  | group (tag : Str) (attributes : List (Str × α)) (children : List (Element α))

-----------------------------------------------------------------------------------------
-- Characters
-----------------------------------------------------------------------------------------

/-- White space. -/
def isBlank (c : UInt8) : Bool := c == 32 || c == 9 || c == 10 || c == 13

/-- Control characters other than white space are not permitted. -/
def isChar (c : UInt8) : Bool := 32 ≤ c || isBlank c

def isNameStart (c : UInt8) : Bool := (65 ≤ c && c ≤ 90) || (97 ≤ c && c ≤ 122) || c == 95

def isNameByte (c : UInt8) : Bool :=
  isNameStart c || (48 ≤ c && c ≤ 57) || c == 45 || c == 46

def isName (s : Str) : Bool := s.head?.any isNameStart && s.all isNameByte

/-- A character of an attribute value that stands for itself. -/
def isAttributeByte (c : UInt8) : Bool := isChar c && c != 60 && c != 38 && c != 34

-----------------------------------------------------------------------------------------
-- Character data
-----------------------------------------------------------------------------------------

/-- The predefined entities. -/
def entity (name : Str) : Option UInt8 :=
  if name = str "lt" then some 60
  else if name = str "gt" then some 62
  else if name = str "amp" then some 38
  else if name = str "quot" then some 34
  else if name = str "apos" then some 39
  else none

/-- Character data with its entities replaced; the part of an entity that has been read is kept. -/
def decode : Option Str → Str → Option Str
  | none, [] => some []
  | some _, [] => none
  | none, c :: rest =>
      if c = 38 then decode (some []) rest
      else if c = 60 ∨ c = 62 ∨ !isChar c then none
      else (decode none rest).map (c :: ·)
  | some name, c :: rest =>
      if c = 59 then
        (entity name).bind fun byte => (decode none rest).map (byte :: ·)
      else decode (some (name ++ [c])) rest

/-- A character as an entity where it would be markup. -/
def escapeByte (c : UInt8) : Str :=
  if c = 60 then str "&lt;" else if c = 62 then str "&gt;" else if c = 38 then str "&amp;" else [c]

def escape (s : Str) : Str := s.flatMap escapeByte

/-- Escaped text is decoded to itself. -/
theorem decode_escape {s : Str} (permitted : s.all isChar) : decode none (escape s) = some s := by
  induction s with
  | nil => rfl
  | cons c rest ih =>
      rw [List.all_cons, Bool.and_eq_true] at permitted
      have later := ih permitted.2
      unfold escape at later ⊢
      rw [List.flatMap_cons]
      by_cases less : c = 60
      · subst less
        change (decode none (rest.flatMap escapeByte)).map _ = _
        rw [later]
        rfl
      · by_cases greater : c = 62
        · subst greater
          change (decode none (rest.flatMap escapeByte)).map _ = _
          rw [later]
          rfl
        · by_cases ampersand : c = 38
          · subst ampersand
            change (decode none (rest.flatMap escapeByte)).map _ = _
            rw [later]
            rfl
          · simp [escapeByte, less, greater, ampersand, decode, permitted.1, later]

/-- Escaped text has no markup. -/
theorem escape_ne_markup {s : Str} : ∀ c ∈ escape s, c ≠ 60 := by
  intro c member
  obtain ⟨byte, -, piece⟩ := List.mem_flatMap.mp member
  unfold escapeByte at piece
  split_ifs at piece with less greater ampersand
  · exact (show ∀ c ∈ str "&lt;", c ≠ 60 by decide) c piece
  · exact (show ∀ c ∈ str "&gt;", c ≠ 60 by decide) c piece
  · exact (show ∀ c ∈ str "&amp;", c ≠ 60 by decide) c piece
  · rw [List.mem_singleton.mp piece]
    exact less

-----------------------------------------------------------------------------------------
-- The reader
-----------------------------------------------------------------------------------------

/-- The text behind a token. -/
def expect (token s : Str) : Option Str :=
  if startsWith s token then some (s.drop token.length) else none

def readName (s : Str) : Option (Str × Str) :=
  let name := s.takeWhile isNameByte
  if isName name then some (name, s.dropWhile isNameByte) else none

/-- The attributes of a tag, each behind white space, and the rest from the end of the tag on. -/
def readAttributes : Nat → Str → Option (List (Str × Str) × Str)
  | 0, _ => none
  | fuel + 1, s =>
      let t := s.dropWhile isBlank
      if t.head?.any (fun c => c == 62 || c == 47) then some ([], t)
      else if t.length = s.length then none
      else do
        let (name, t) ← readName t
        let t ← expect [61, 34] t
        let value := t.takeWhile (· != 34)
        let t ← expect [34] (t.dropWhile (· != 34))
        let (others, t) ← readAttributes fuel t
        if value.all isAttributeByte then some ((name, value) :: others, t) else none

/-- An end tag. -/
def closing (tag : Str) : Str := [60, 47] ++ tag ++ [62]

mutual

/-- An element and the text behind it. -/
def readElement : Nat → Str → Option (Element Str × Str)
  | 0, _ => none
  | fuel + 1, s => do
      let s ← expect [60] s
      let (tag, s) ← readName s
      let (attributes, s) ← readAttributes fuel s
      if (attributes.map Prod.fst).Nodup then readContent fuel tag attributes s else none

/-- An element from the end of its start tag on. White space in front of a child is no data. -/
def readContent : Nat → Str → List (Str × Str) → Str → Option (Element Str × Str)
  | 0, _, _, _ => none
  | fuel + 1, tag, attributes, s =>
      match expect [47, 62] s with
      | some s => some (.group tag attributes [], s)
      | none => do
          let s ← expect [62] s
          let data := s.takeWhile (· != 60)
          let rest := s.dropWhile (· != 60)
          if data.all isBlank && (expect [60, 47] rest).isNone then do
            let (children, rest) ← readElements fuel rest
            let rest ← expect (closing tag) rest
            some (.group tag attributes children, rest)
          else do
            let content ← decode none data
            let rest ← expect (closing tag) rest
            some (.text tag attributes content, rest)

/-- Elements with white space around them, up to an end tag or the end of the text. -/
def readElements : Nat → Str → Option (List (Element Str) × Str)
  | 0, _ => none
  | fuel + 1, s =>
      let s := s.dropWhile isBlank
      if s = [] ∨ (expect [60, 47] s).isSome then some ([], s)
      else do
        let (first, s) ← readElement fuel s
        let (others, s) ← readElements fuel s
        some (first :: others, s)

end

/-- A sequence of elements. -/
def readDocument (s : Str) : Option (List (Element Str)) :=
  match readElements (s.length + 1) s with
  | some (elements, []) => some elements
  | _ => none

-----------------------------------------------------------------------------------------
-- Written elements
-----------------------------------------------------------------------------------------

def spaces (n : Nat) : Str := List.replicate n 32

def writeAttributes (attributes : List (Str × Str)) : Str :=
  attributes.flatMap fun pair => 32 :: pair.1 ++ [61, 34] ++ pair.2 ++ [34]

mutual

/-- An element without the white space around it; its children stand on lines of their own. -/
def Element.write (indent : Nat) : Element Str → Str
  | .text tag attributes content =>
      60 :: tag ++ writeAttributes attributes ++ [62] ++ escape content ++ closing tag
  | .group tag attributes [] => 60 :: tag ++ writeAttributes attributes ++ [32, 47, 62]
  | .group tag attributes (first :: others) =>
      60 :: tag ++ writeAttributes attributes ++ [62, 10] ++ spaces (indent + 2)
        ++ first.write (indent + 2) ++ 10 :: writeLines (indent + 2) others ++ spaces indent
        ++ closing tag

/-- Each element on a line of its own. -/
def writeLines (indent : Nat) : List (Element Str) → Str
  | [] => []
  | first :: others => spaces indent ++ first.write indent ++ 10 :: writeLines indent others

end

def validAttributes (attributes : List (Str × Str)) : Bool :=
  attributes.all (fun pair => isName pair.1 && pair.2.all isAttributeByte)
  && decide (attributes.map Prod.fst).Nodup

mutual

/-- The names and texts of an element are of the permitted characters. -/
def Element.valid : Element Str → Bool
  | .text tag attributes content =>
      isName tag && validAttributes attributes && content.all isChar
  | .group tag attributes children =>
      isName tag && validAttributes attributes && validAll children

def validAll : List (Element Str) → Bool
  | [] => true
  | first :: others => first.valid && validAll others

end

mutual

/-- How far the reader descends. -/
def Element.cost : Element Str → Nat
  | .text _ attributes _ => attributes.length + 2
  | .group _ attributes children => attributes.length + costAll children + 2

def costAll : List (Element Str) → Nat
  | [] => 1
  | first :: others => first.cost + costAll others + 1

end

-----------------------------------------------------------------------------------------
-- Written elements are read back
-----------------------------------------------------------------------------------------

/-- A token is read in front of the rest. -/
theorem expect_append (token s : Str) : expect token (token ++ s) = some s := by
  unfold expect startsWith
  rw [List.take_left, beq_self_eq_true, if_pos rfl, List.drop_left]

/-- A token is not read where it does not stand. -/
theorem expect_of_ne {token s : Str} (different : ¬token <+: s) : expect token s = none := by
  unfold expect startsWith
  rw [if_neg]
  intro same
  exact different (List.prefix_iff_eq_take.mpr (beq_iff_eq.mp same).symm)

/-- A run of characters of a kind before one that is not. -/
theorem span_append {p : UInt8 → Bool} {run rest : Str} (all : ∀ c ∈ run, p c)
    (stops : ∀ c ∈ rest.head?, p c = false)
    : (run ++ rest).takeWhile p = run ∧ (run ++ rest).dropWhile p = rest := by
  rw [List.takeWhile_append_of_pos all, List.dropWhile_append_of_pos all]
  cases rest with
  | nil => simp
  | cons c rest =>
      have no : ¬p c := by
        rw [stops c rfl]
        simp
      rw [List.takeWhile_cons_of_neg no, List.dropWhile_cons_of_neg no, List.append_nil]
      exact ⟨rfl, rfl⟩

/-- A name that is followed by a character of another kind. -/
theorem readName_append {name rest : Str} (valid : isName name)
    (stops : ∀ c ∈ rest.head?, isNameByte c = false)
    : readName (name ++ rest) = some (name, rest) := by
  have all : ∀ c ∈ name, isNameByte c := by
    unfold isName at valid
    rw [Bool.and_eq_true] at valid
    exact List.all_eq_true.mp valid.2
  unfold readName
  rw [(span_append all stops).1, (span_append all stops).2, if_pos valid]

/-- A name has a first character. -/
theorem isName_head {name : Str} (valid : isName name)
    : ∃ first rest, name = first :: rest ∧ isNameStart first := by
  cases name with
  | nil => cases valid
  | cons first rest =>
      unfold isName at valid
      rw [Bool.and_eq_true] at valid
      exact ⟨first, rest, rfl, valid.1⟩

/-- A name does not start with a blank. -/
theorem isBlank_of_nameStart {c : UInt8} (start : isNameStart c) : isBlank c = false := by
  by_contra blank
  rw [Bool.not_eq_false] at blank
  simp only [isBlank, Bool.or_eq_true, beq_iff_eq] at blank
  rcases blank with ((rfl | rfl) | rfl) | rfl <;> exact absurd start (by decide)

/-- A name starts with no character that cannot start one. -/
theorem ne_of_nameStart {c d : UInt8} (start : isNameStart c) (other : isNameStart d = false)
    : c ≠ d := by
  rintro rfl
  rw [start] at other
  cases other

/-- The attributes of a tag are read up to its end. -/
theorem readAttributes_write {attributes : List (Str × Str)} {fuel : Nat} {tail : Str}
    (valid : attributes.all fun pair => isName pair.1 && pair.2.all isAttributeByte)
    (enough : attributes.length < fuel)
    (ends : (tail.dropWhile isBlank).head?.any fun c => c == 62 || c == 47)
    : readAttributes fuel (writeAttributes attributes ++ tail)
      = some (attributes, tail.dropWhile isBlank) := by
  induction attributes generalizing fuel with
  | nil =>
      obtain ⟨fuel, rfl⟩ := Nat.exists_eq_succ_of_ne_zero (Nat.ne_of_gt enough)
      change readAttributes (fuel + 1) tail = _
      rw [readAttributes]
      simp only [ends, if_true]
  | cons pair others ih =>
      obtain ⟨name, value⟩ := pair
      obtain ⟨fuel, rfl⟩ := Nat.exists_eq_succ_of_ne_zero (Nat.ne_of_gt (Nat.zero_lt_of_lt enough))
      simp only [List.all_cons, Bool.and_eq_true] at valid
      obtain ⟨⟨validName, validValue⟩, validOthers⟩ := valid
      have later := ih validOthers (Nat.lt_of_succ_lt_succ enough)
      have split
          : writeAttributes ((name, value) :: others) ++ tail
            = 32 :: (name ++ ([61, 34]
              ++ (value ++ ([34] ++ (writeAttributes others ++ tail))))) := by
        simp [writeAttributes]
      rw [split]
      generalize writeAttributes others ++ tail = rest at later
      obtain ⟨first, letters, same, start⟩ := isName_head validName
      have skipped
          : (32 :: (name ++ ([61, 34] ++ (value ++ ([34] ++ rest))))).dropWhile isBlank
            = name ++ ([61, 34] ++ (value ++ ([34] ++ rest))) := by
        rw [List.dropWhile_cons_of_pos (by decide), same, List.cons_append,
          List.dropWhile_cons_of_neg (by rw [isBlank_of_nameStart start]; simp)]
      have noEnd
          : ¬(name ++ ([61, 34] ++ (value ++ ([34] ++ rest)))).head?.any
              fun c => c == 62 || c == 47 := by
        rw [same, List.cons_append, List.head?_cons, Option.any_some]
        simp [ne_of_nameStart start (show isNameStart 62 = false by decide),
          ne_of_nameStart start (show isNameStart 47 = false by decide)]
      have plain : ∀ c ∈ value, (c != 34) = true := by
        intro c member
        have permitted := List.all_eq_true.mp validValue c member
        unfold isAttributeByte at permitted
        rw [Bool.and_eq_true] at permitted
        exact permitted.2
      have valueSpan
          : (value ++ ([34] ++ rest)).takeWhile (· != 34) = value
            ∧ (value ++ ([34] ++ rest)).dropWhile (· != 34) = [34] ++ rest :=
        span_append plain (by simp)
      have nameRead
          : readName (name ++ ([61, 34] ++ (value ++ ([34] ++ rest))))
            = some (name, [61, 34] ++ (value ++ ([34] ++ rest))) := by
        apply readName_append validName
        intro c member
        cases member
        rfl
      rw [readAttributes]
      simp only [skipped]
      rw [if_neg noEnd, if_neg (by simp)]
      simp only [nameRead, expect_append, valueSpan, later, validValue, Option.bind_eq_bind,
        Option.bind_some, if_true]

/-- What follows a sequence of elements: white space, and then an end tag or nothing. -/
def Stops (tail : Str) : Prop :=
  tail.dropWhile isBlank = [] ∨ (expect [60, 47] (tail.dropWhile isBlank)).isSome

/-- A written element starts with a start tag. -/
theorem write_start (indent : Nat) {element : Element Str} (valid : element.valid)
    : ∃ first rest, element.write indent = 60 :: first :: rest ∧ isNameStart first := by
  have named {tag rest : Str} (name : isName tag)
      : ∃ first rest', 60 :: tag ++ rest = 60 :: first :: rest' ∧ isNameStart first := by
    obtain ⟨first, letters, rfl, start⟩ := isName_head name
    exact ⟨first, letters ++ rest, rfl, start⟩
  cases element with
  | text tag attributes content =>
      simp only [Element.valid, Bool.and_eq_true] at valid
      simp only [Element.write, List.append_assoc]
      exact named valid.1.1
  | group tag attributes children =>
      simp only [Element.valid, Bool.and_eq_true] at valid
      cases children with
      | nil =>
          simp only [Element.write, List.append_assoc]
          exact named valid.1.1
      | cons first others =>
          simp only [Element.write, List.append_assoc]
          exact named valid.1.1

/-- Spaces are blanks. -/
theorem isBlank_spaces (n : Nat) : ∀ c ∈ spaces n, isBlank c := by
  intro c member
  rw [List.eq_of_mem_replicate member]
  rfl

/-- White space in front of an element is skipped, as data and as white space. -/
theorem dropWhile_write (indent : Nat) {element : Element Str} {blanks : Str} (tail : Str)
    (blank : ∀ c ∈ blanks, isBlank c) (valid : element.valid)
    : (blanks ++ (element.write indent ++ tail)).dropWhile isBlank = element.write indent ++ tail
      ∧ (blanks ++ (element.write indent ++ tail)).takeWhile (· != 60) = blanks
      ∧ (blanks ++ (element.write indent ++ tail)).dropWhile (· != 60)
        = element.write indent ++ tail := by
  obtain ⟨first, rest, written, -⟩ := write_start indent valid
  have notMarkup : ∀ c ∈ blanks, (c != 60) = true := by
    intro c member
    rw [bne_iff_ne]
    rintro rfl
    exact absurd (blank 60 member) (by decide)
  rw [written]
  refine ⟨(span_append blank ?_).2, span_append notMarkup ?_⟩
  · intro c member
    cases member
    rfl
  · intro c member
    cases member
    rfl

/-- White space in front of elements is skipped. -/
theorem readElements_blanks (blanks : Str) (blank : ∀ c ∈ blanks, isBlank c) (fuel : Nat)
    (s : Str)
    : readElements fuel (blanks ++ s) = readElements fuel s := by
  cases fuel with
  | zero => rw [readElements, readElements]
  | succ fuel =>
      rw [readElements, readElements]
      simp only [List.dropWhile_append_of_pos blank]

/-- The name of a tag is followed by its attributes or its end. -/
theorem readName_tag {tag rest : Str} {c : UInt8} {attributes : List (Str × Str)}
    (valid : isName tag) (stops : isNameByte c = false)
    : readName (tag ++ (writeAttributes attributes ++ c :: rest))
      = some (tag, writeAttributes attributes ++ c :: rest) := by
  apply readName_append valid
  intro d member
  cases attributes with
  | nil =>
      cases member
      exact stops
  | cons pair others =>
      cases member
      rfl

/-- A start tag is read up to its end. -/
theorem readElement_tag (fuel : Nat) {tag rest : Str} {c : UInt8} {attributes : List (Str × Str)}
    (validTag : isName tag) (valid : validAttributes attributes)
    (enough : attributes.length < fuel) (stops : isNameByte c = false)
    (ends : ((c :: rest).dropWhile isBlank).head?.any fun c => c == 62 || c == 47)
    : readElement (fuel + 1) (60 :: tag ++ (writeAttributes attributes ++ c :: rest))
      = readContent fuel tag attributes ((c :: rest).dropWhile isBlank) := by
  unfold validAttributes at valid
  rw [Bool.and_eq_true, decide_eq_true_eq] at valid
  rw [readElement]
  change (expect [60] ([60] ++ (tag ++ (writeAttributes attributes ++ c :: rest)))).bind _ = _
  rw [expect_append]
  change (readName (tag ++ (writeAttributes attributes ++ c :: rest))).bind _ = _
  rw [readName_tag validTag stops]
  change (readAttributes fuel (writeAttributes attributes ++ c :: rest)).bind _ = _
  rw [readAttributes_write valid.1 enough ends]
  exact if_pos valid.2

/-- The end of an empty element is not that of a start tag. -/
theorem expect_end (rest : Str) : expect [47, 62] (62 :: rest) = none := by
  apply expect_of_ne
  rintro ⟨_, same⟩
  cases same

/-- Character data is read up to the end tag. -/
theorem readContent_text (fuel : Nat) {tag content rest : Str} {attributes : List (Str × Str)}
    (valid : content.all isChar)
    : readContent (fuel + 1) tag attributes (62 :: (escape content ++ (closing tag ++ rest)))
      = some (.text tag attributes content, rest) := by
  have split
      : (escape content ++ (closing tag ++ rest)).takeWhile (· != 60) = escape content
        ∧ (escape content ++ (closing tag ++ rest)).dropWhile (· != 60) = closing tag ++ rest := by
    apply span_append
    · exact fun c member => bne_iff_ne.mpr (escape_ne_markup c member)
    · intro c member
      cases member
      rfl
  have endTag : expect [60, 47] (closing tag ++ rest) = some (tag ++ [62] ++ rest) := by
    unfold closing
    rw [List.append_assoc, List.append_assoc, expect_append, List.append_assoc]
  rw [readContent, expect_end]
  change (expect [62] ([62] ++ (escape content ++ (closing tag ++ rest)))).bind _ = _
  rw [expect_append]
  simp only [Option.bind_some, split, endTag, Option.isNone_some, Bool.and_false,
    Bool.false_eq_true, if_false]
  rw [decode_escape valid]
  change (expect (closing tag) (closing tag ++ rest)).bind _ = _
  rw [expect_append]
  rfl

/-- Children are read up to the end tag, when the reader of elements does so. -/
theorem readContent_group {fuel indent : Nat} {tag blanks rest tail : Str}
    {attributes : List (Str × Str)} {first : Element Str} {children : List (Element Str)}
    (blank : ∀ c ∈ blanks, isBlank c) (valid : first.valid)
    (read
      : readElements fuel (first.write indent ++ rest) = some (children, closing tag ++ tail))
    : readContent (fuel + 1) tag attributes (62 :: (blanks ++ (first.write indent ++ rest)))
      = some (.group tag attributes children, tail) := by
  obtain ⟨-, data, behind⟩ := dropWhile_write indent rest blank valid
  have startTag : expect [60, 47] (first.write indent ++ rest) = none := by
    obtain ⟨letter, letters, written, start⟩ := write_start indent valid
    apply expect_of_ne
    rw [written]
    rintro ⟨_, same⟩
    cases same
    cases start
  rw [readContent, expect_end]
  change (expect [62] ([62] ++ (blanks ++ (first.write indent ++ rest)))).bind _ = _
  rw [expect_append]
  simp only [Option.bind_some, data, behind, startTag, List.all_eq_true.mpr blank,
    Option.isNone_none, Bool.and_self, if_true]
  rw [read]
  change (expect (closing tag) (closing tag ++ tail)).bind _ = _
  rw [expect_append]
  rfl

/-- A line with an element in front of other elements. -/
theorem readElements_cons {fuel indent : Nat} (blanks : Str) {rest tail : Str}
    {first : Element Str} {others : List (Element Str)} (blank : ∀ c ∈ blanks, isBlank c)
    (valid : first.valid)
    (readFirst
      : readElement fuel (first.write indent ++ 10 :: rest) = some (first, 10 :: rest))
    (readOthers : readElements fuel rest = some (others, tail))
    : readElements (fuel + 1) (blanks ++ (first.write indent ++ 10 :: rest))
      = some (first :: others, tail) := by
  obtain ⟨skipped, -⟩ := dropWhile_write indent (10 :: rest) blank valid
  obtain ⟨letter, letters, written, start⟩ := write_start indent valid
  have goesOn
      : ¬(first.write indent ++ 10 :: rest = []
        ∨ (expect [60, 47] (first.write indent ++ 10 :: rest)).isSome) := by
    rw [expect_of_ne]
    · simp [written]
    · rw [written]
      rintro ⟨_, same⟩
      cases same
      cases start
  have newline : readElements fuel (10 :: rest) = some (others, tail) := by
    rw [← readOthers]
    apply readElements_blanks [10]
    intro c member
    rw [List.mem_singleton.mp member]
    rfl
  rw [readElements, skipped]
  refine (if_neg goesOn).trans ?_
  rw [readFirst]
  change (readElements fuel (10 :: rest)).bind _ = _
  rw [newline]
  rfl

mutual

/-- An element is read back, by recursion on it. -/
theorem readElement_write (indent : Nat) (tail : Str) {fuel : Nat}
    : ∀ element : Element Str, element.valid → element.cost ≤ fuel →
        readElement fuel (element.write indent ++ tail) = some (element, tail)
  | .text tag attributes content, valid, enough => by
      simp only [Element.valid, Bool.and_eq_true] at valid
      obtain ⟨⟨validTag, validAttributes⟩, validContent⟩ := valid
      simp only [Element.cost] at enough
      obtain ⟨fuel, rfl⟩ : ∃ less, fuel = less + 2 := ⟨fuel - 2, by omega⟩
      have split
          : (Element.text tag attributes content).write indent ++ tail
            = 60 :: tag
              ++ (writeAttributes attributes
                ++ 62 :: (escape content ++ (closing tag ++ tail))) := by
        simp [Element.write]
      rw [split, readElement_tag (fuel + 1) validTag validAttributes (by omega) rfl rfl]
      exact readContent_text fuel validContent
  | .group tag attributes [], valid, enough => by
      simp only [Element.valid, Bool.and_eq_true] at valid
      obtain ⟨⟨validTag, validAttributes⟩, -⟩ := valid
      simp only [Element.cost, costAll] at enough
      obtain ⟨fuel, rfl⟩ : ∃ less, fuel = less + 2 := ⟨fuel - 2, by omega⟩
      have split
          : (Element.group tag attributes []).write indent ++ tail
            = 60 :: tag ++ (writeAttributes attributes ++ 32 :: ([47, 62] ++ tail)) := by
        simp [Element.write]
      rw [split, readElement_tag (fuel + 1) validTag validAttributes (by omega) rfl rfl]
      change readContent (fuel + 1) tag attributes ([47, 62] ++ tail) = _
      rw [readContent, expect_append]
  | .group tag attributes (first :: others), valid, enough => by
      simp only [Element.valid, validAll, Bool.and_eq_true] at valid
      obtain ⟨⟨validTag, validAttributes⟩, validFirst, validOthers⟩ := valid
      simp only [Element.cost, costAll] at enough
      obtain ⟨fuel, rfl⟩ : ∃ less, fuel = less + 2 := ⟨fuel - 2, by omega⟩
      have split
          : (Element.group tag attributes (first :: others)).write indent ++ tail
            = 60 :: tag
              ++ (writeAttributes attributes
                ++ 62 :: ((10 :: spaces (indent + 2))
                  ++ (first.write (indent + 2)
                    ++ (10 :: writeLines (indent + 2) others
                      ++ (spaces indent ++ (closing tag ++ tail)))))) := by
        simp [Element.write]
      have blank : ∀ c ∈ (10 :: spaces (indent + 2) : Str), isBlank c := by
        intro c member
        rcases List.mem_cons.mp member with rfl | member
        · rfl
        · exact isBlank_spaces _ c member
      rw [split, readElement_tag (fuel + 1) validTag validAttributes (by omega) rfl rfl]
      apply readContent_group blank validFirst
      have stops : Stops (spaces indent ++ (closing tag ++ tail)) := by
        right
        rw [(span_append (isBlank_spaces indent) (by intro c member; cases member; rfl)).2]
        unfold closing
        rw [List.append_assoc, List.append_assoc, expect_append]
        rfl
      obtain ⟨less, rfl⟩ : ∃ less, fuel = less + 1 := ⟨fuel - 1, by omega⟩
      have readOthers
          : readElements less
              (writeLines (indent + 2) others ++ (spaces indent ++ (closing tag ++ tail)))
            = some (others, (spaces indent ++ (closing tag ++ tail)).dropWhile isBlank) :=
        readElements_writeLines (indent + 2) stops others validOthers (by omega)
      rw [(span_append (isBlank_spaces indent) (by intro c member; cases member; rfl)).2]
        at readOthers
      exact readElements_cons [] (by simp) validFirst
        (readElement_write (indent + 2) _ first validFirst (by omega)) readOthers

/-- Lines of elements are read back up to what stops the reader, by recursion on the lines. -/
theorem readElements_writeLines (indent : Nat) {tail : Str} (stops : Stops tail) {fuel : Nat}
    : ∀ elements : List (Element Str), validAll elements → costAll elements ≤ fuel →
        readElements fuel (writeLines indent elements ++ tail)
          = some (elements, tail.dropWhile isBlank)
  | [], _, enough => by
      obtain ⟨fuel, rfl⟩ := Nat.exists_eq_add_of_le' enough
      change readElements (fuel + 1) tail = _
      rw [readElements]
      exact if_pos stops
  | first :: others, valid, enough => by
      simp only [validAll, Bool.and_eq_true] at valid
      simp only [costAll] at enough
      obtain ⟨fuel, rfl⟩ : ∃ less, fuel = less + 1 := ⟨fuel - 1, by omega⟩
      have split
          : writeLines indent (first :: others) ++ tail
            = spaces indent
              ++ (first.write indent ++ 10 :: (writeLines indent others ++ tail)) := by
        simp [writeLines]
      rw [split]
      exact readElements_cons _ (isBlank_spaces indent) valid.1
        (readElement_write indent _ first valid.1 (by omega))
        (readElements_writeLines indent stops others valid.2 (by omega))

end

/-- There are no more attributes than characters for them. -/
theorem attributes_le_length (attributes : List (Str × Str))
    : attributes.length ≤ (writeAttributes attributes).length := by
  induction attributes with
  | nil => simp
  | cons pair others ih =>
      have split
          : writeAttributes (pair :: others)
            = (32 :: pair.1 ++ [61, 34] ++ pair.2 ++ [34]) ++ writeAttributes others :=
        List.flatMap_cons
      rw [split]
      simp only [List.length_append, List.length_cons]
      omega

mutual

/-- An element costs the reader less than its text is long. -/
theorem cost_lt_length (indent : Nat)
    : ∀ element : Element Str, element.cost < (element.write indent).length
  | .text tag attributes content => by
      have pairs := attributes_le_length attributes
      simp only [Element.cost, Element.write, closing, List.length_cons, List.length_append,
        List.length_nil]
      omega
  | .group tag attributes [] => by
      have pairs := attributes_le_length attributes
      simp only [Element.cost, costAll, Element.write, List.length_cons, List.length_append,
        List.length_nil]
      omega
  | .group tag attributes (first :: others) => by
      have pairs := attributes_le_length attributes
      have one := cost_lt_length (indent + 2) first
      have more := costAll_le_length (indent + 2) others
      simp only [Element.cost, costAll, Element.write, closing, List.length_cons,
        List.length_append, List.length_nil]
      omega

/-- The cost of elements is no more than the characters for them. -/
theorem costAll_le_length (indent : Nat)
    : ∀ elements : List (Element Str), costAll elements ≤ (writeLines indent elements).length + 1
  | [] => by simp [costAll]
  | first :: others => by
      have one := cost_lt_length indent first
      have more := costAll_le_length indent others
      simp only [costAll, writeLines, List.length_cons, List.length_append]
      omega

end

/-- Lines of elements are a document. -/
theorem readDocument_writeLines (indent : Nat) {elements : List (Element Str)}
    (valid : validAll elements)
    : readDocument (writeLines indent elements) = some elements := by
  have read := readElements_writeLines indent (show Stops [] from Or.inl rfl) elements valid
    (costAll_le_length indent elements)
  rw [List.append_nil] at read
  unfold readDocument
  rw [read]
  rfl

end Xml
