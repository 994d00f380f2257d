import Gpgme.Keylist.Key
import Gpgme.Lib.TracedMemory

/-! `parse_user_id` of `key.c` as a loop over the memory that holds the user ID and, behind it, the
parts that are found; and what it shares with the fold over a list of characters.
-/

namespace Gpgme

open ByteMemory CString

-----------------------------------------------------------------------------------------
-- The function
-----------------------------------------------------------------------------------------

/-- `while (len && (buf[len - 1] == ' ' || buf[len - 1] == '\t')) len--;` -/
def trimmedLength (m : TracedMemory) (buf : Nat) : Nat → TracedMemory × Nat
  | 0 => (m, 0)
  | len + 1 =>
      let m := m.look (buf + len)
      if isBlank (m.bytes (buf + len)) then trimmedLength m buf len else (m, len + 1)

/-- `set_user_id_part`. -/
def setUserIdPartAt (m : TracedMemory) (tail buf len : Nat) : TracedMemory × Nat :=
  let (m, len) := trimmedLength m buf len
  ((m.copyBytes buf tail len).store (tail + len) 0, tail + len + 1)

/-- The parts of a user ID. -/
inductive UserIdField where
  | name | email | comment
deriving DecidableEq

/-- The variables of `parse_user_id` and the pointers that it sets. -/
structure UserIdScan where
  mem : TracedMemory
  src : Nat
  start : Nat := 0
  tail : Nat
  inName : Bool := false
  inEmail : Nat := 0
  inComment : Nat := 0
  parts : UserIdField → Option Nat := fun _ => none

namespace UserIdScan

variable (p : UserIdScan)

/-- `if (!*part) { *part = tail; tail = set_user_id_part (tail, start, src - start); }` -/
def store (field : UserIdField) : UserIdScan :=
  if (p.parts field).isSome then p
  else
    let (mem, tail) := setUserIdPartAt p.mem p.tail p.start (p.src - p.start)
    { p with mem, tail, parts := Function.update p.parts field (some p.tail) }

/-- The end of a name in front of a bracket, a parenthesis or the end. -/
def endName : UserIdScan := if p.inName then { p.store .name with inName := false } else p

/-- The body of the loop in front of `src++`, for a character `c`. -/
def body (c : UInt8) : UserIdScan :=
  if p.inEmail ≠ 0 then
    if c = 60 then { p with inEmail := p.inEmail + 1 }
    else if c = 62 then
      let closed := { p with inEmail := p.inEmail - 1 }
      if p.inEmail = 1 then closed.store .email else closed
    else p
  else if p.inComment ≠ 0 then
    if c = 40 then { p with inComment := p.inComment + 1 }
    else if c = 41 then
      let closed := { p with inComment := p.inComment - 1 }
      if p.inComment = 1 then closed.store .comment else closed
    else p
  else if c = 60 then { p.endName with inEmail := 1, start := p.src + 1 }
  else if c = 40 then { p.endName with inComment := 1, start := p.src + 1 }
  else if !p.inName && !isBlank c then { p with inName := true, start := p.src }
  else p

/-- A round of the loop. -/
def step : UserIdScan :=
  let looked := { p with mem := p.mem.look p.src }
  { looked.body (p.mem.bytes p.src) with src := p.src + 1 }

/-- The loop, which looks at a bounded number of characters, and the name at its end. -/
def run : Nat → UserIdScan → Option UserIdScan
  | 0, _ => none
  | rounds + 1, p =>
      if p.mem.bytes p.src = 0 then
        some { p with mem := p.mem.look p.src }.endName
      else
        run rounds p.step

end UserIdScan

/-- The memory and the pointers to the parts of a user ID. -/
structure UserIdPlaces where
  mem : TracedMemory
  place : UserIdField → Nat

/-- `parse_user_id`: parts that are not used point to the last terminator. -/
def parseUserIdAt (m : TracedMemory) (src tail rounds : Nat) : Option UserIdPlaces :=
  (UserIdScan.run rounds { mem := m, src, tail }).map
    (fun p => { mem := p.mem, place := fun field => (p.parts field).getD (p.tail - 1) })

/-- `parse_x509_user_id`. -/
def parseX509UserIdAt (m : TracedMemory) (src tail rounds : Nat) : Option UserIdPlaces :=
  if m.bytes src ≠ 60 then some ⟨m.look src, fun _ => tail - 1⟩
  else
    ((m.look src).strlen src rounds).map fun (m, len) =>
      ⟨m.look (src + len - 1), fun field =>
        if field = .email ∧ m.bytes (src + len - 1) = 62 then src else tail - 1⟩

-----------------------------------------------------------------------------------------
-- A part
-----------------------------------------------------------------------------------------

variable {m : TracedMemory}

/-- The blanks at the end of a part are left out, by induction on the number of its characters. -/
theorem trimmedLength_eq {buf : Nat} {part : Str} (holds : m.bytes.Holds buf part)
    : ∃ m',
        trimmedLength m buf part.length = (m', (setUserIdPart part).length)
        ∧ m'.bytes = m.bytes
        ∧ m'.writes = m.writes := by
  induction part using List.reverseRecOn generalizing m with
  | nil => exact ⟨m, rfl, rfl, rfl⟩
  | append_singleton rest c ih =>
      obtain ⟨before, here, -⟩ := holds_append.mp holds
      rw [List.length_append, List.length_singleton, trimmedLength, setUserIdPart,
        TracedMemory.look_bytes, here]
      by_cases blankEnd : isBlank c = true
      · rw [if_pos blankEnd, List.rdropWhile_concat_pos _ _ _ blankEnd]
        exact ih before
      · rw [if_neg blankEnd, List.rdropWhile_concat_neg _ _ _ blankEnd]
        exact ⟨m.look (buf + rest.length), by rw [List.length_append]; rfl, rfl, rfl⟩

/-- A part of a user ID is cut at its end only. -/
theorem prefix_setUserIdPart (part : Str) : setUserIdPart part <+: part :=
  List.rdropWhile_prefix isBlank part

/-- A part is written with a terminator, from a place that is apart from it. -/
theorem setUserIdPartAt_spec {tail buf : Nat} {part : Str} (holds : m.bytes.Holds buf part)
    (apart : buf + part.length ≤ tail)
    : ∃ m',
        setUserIdPartAt m tail buf part.length = (m', tail + (setUserIdPart part).length + 1)
        ∧ m.bytes.Writes m'.bytes tail (setUserIdPart part ++ [0])
        ∧ m.Within m' Set.univ
            {addr | tail ≤ addr ∧ addr < tail + (setUserIdPart part).length + 1} := by
  obtain ⟨trimmed, found, bytes, writes⟩ := trimmedLength_eq holds
  obtain ⟨blanks, split⟩ := prefix_setUserIdPart part
  have short := (prefix_setUserIdPart part).length_le
  have first : trimmed.bytes.Holds buf (setUserIdPart part) := by
    rw [bytes]
    rw [← split] at holds
    exact (holds_append.mp holds).1
  have ahead : Apart buf (setUserIdPart part).length tail (setUserIdPart part).length :=
    Or.inl (by omega)
  obtain ⟨copied, within⟩ := TracedMemory.copyBytes_writes first ahead
  refine ⟨(trimmed.copyBytes buf tail (setUserIdPart part).length).store
    (tail + (setUserIdPart part).length) 0, ?_, ?_, ?_⟩
  · rw [setUserIdPartAt, found]
  · rw [← bytes]
    exact copied.store 0
  · constructor
    · exact fun _ _ => Or.inr trivial
    · intro addr member
      rcases List.mem_append.mp member with before | now
      · rcases within.writes addr before with old | ⟨above, below⟩
        · exact Or.inl (writes ▸ old)
        · exact Or.inr ⟨above, by omega⟩
      · rw [List.mem_singleton.mp now]
        exact Or.inr ⟨by omega, by omega⟩

-----------------------------------------------------------------------------------------
-- The loop
-----------------------------------------------------------------------------------------

/-- The pointer to a part is null, or the part stands between two bounds with its terminator. -/
inductive PartAt (mem : ByteMemory) (low high : Nat) : Option Nat → Option Str → Prop
  | missing : PartAt mem low high none none
  | found {addr : Nat} {part : Str} (above : low ≤ addr) (below : addr + part.length < high)
    (holds : mem.Holds addr (part ++ [0])) (plain : ∀ c ∈ part, c ≠ 0)
    : PartAt mem low high (some addr) (some part)

/-- A part lies within larger bounds, too. -/
theorem PartAt.mono {mem : ByteMemory} {low low' high high' : Nat} {addr : Option Nat}
    {part : Option Str} (stored : PartAt mem low high addr part) (lower : low' ≤ low)
    (higher : high ≤ high')
    : PartAt mem low' high' addr part := by
  cases stored with
  | missing => exact .missing
  | found above below holds plain =>
      exact .found (lower.trans above) (Nat.lt_of_lt_of_le below higher) holds plain

/-- What is written behind a part leaves it alone. -/
theorem PartAt.keep {mem mem' : ByteMemory} {low high high' : Nat} {addr : Option Nat}
    {part : Option Str} {bytes : List UInt8} (stored : PartAt mem low high addr part)
    (writes : mem.Writes mem' high bytes) (further : high ≤ high')
    : PartAt mem' low high' addr part := by
  cases stored with
  | missing => exact .missing
  | found above below holds plain =>
      refine .found above (Nat.lt_of_lt_of_le below further) (writes.keeps (Or.inr ?_) holds) plain
      rw [List.length_append]
      exact below

/-- The parts that the fold over the characters has found. -/
def UserIdParser.field (parser : UserIdParser) : UserIdField → Option Str
  | .name => parser.name
  | .email => parser.email
  | .comment => parser.comment

/-- The user ID and behind it the parts found so far, with a terminator as the last byte. -/
structure Placed (initial : TracedMemory) (uid : Nat) (text : Str) (p : UserIdScan)
    (texts : UserIdField → Option Str)
    : Prop where
  holds : p.mem.bytes.Holds uid (text ++ [0])
  low : uid + text.length < p.tail
  behind : p.mem.bytes (p.tail - 1) = 0
  parts
    : ∀ field,
        PartAt p.mem.bytes (uid + text.length + 1) p.tail (p.parts field) (texts field)
  apart
    : ∀ field other addr addr' part part',
        field ≠ other
        → p.parts field = some addr
        → texts field = some part
        → p.parts other = some addr'
        → texts other = some part'
        → addr + part.length < addr' ∨ addr' + part'.length < addr
  within
    : initial.Within p.mem Set.univ {addr | uid + text.length < addr ∧ addr < p.tail}

/-- The flags and positions of a scan do not count for what is stored. -/
theorem Placed.congr {initial : TracedMemory} {uid : Nat} {text : Str} {p q : UserIdScan}
    {texts : UserIdField → Option Str} (placed : Placed initial uid text p texts)
    (mem : q.mem = p.mem) (tail : q.tail = p.tail) (parts : q.parts = p.parts)
    : Placed initial uid text q texts where
  holds := mem ▸ placed.holds
  low := tail ▸ placed.low
  behind := by rw [mem, tail]; exact placed.behind
  parts := by rw [mem, tail, parts]; exact placed.parts
  apart := by rw [parts]; exact placed.apart
  within := by rw [mem, tail]; exact placed.within

namespace UserIdScan

variable {initial : TracedMemory} {uid : Nat} {text done rest part : Str} {p : UserIdScan}
  {texts : UserIdField → Option Str} {parser : UserIdParser} {field : UserIdField} {c : UInt8}

/-- Storing a part keeps the flags. -/
theorem store_flags (p : UserIdScan) (field : UserIdField)
    : (p.store field).src = p.src
      ∧ (p.store field).inName = p.inName
      ∧ (p.store field).inEmail = p.inEmail
      ∧ (p.store field).inComment = p.inComment := by
  unfold store
  split <;> exact ⟨rfl, rfl, rfl, rfl⟩

/-- A part that was not found before is stored behind the others. -/
theorem store_placed (field : UserIdField) (placed : Placed initial uid text p texts)
    (slice : p.mem.bytes.Holds p.start part) (size : p.src = p.start + part.length)
    (inside : p.src ≤ uid + text.length) (plain : ∀ c ∈ part, c ≠ 0)
    : Placed initial uid text (p.store field)
        (Function.update texts field ((texts field).or (some (setUserIdPart part))))
      ∧ (p.store field).tail ≤ p.tail + part.length + 1 := by
  obtain ⟨holds, low, behind, parts, apart, within⟩ := placed
  have here := parts field
  unfold store
  cases pointer : p.parts field with
  | some addr =>
      rw [pointer] at here
      cases stored : texts field with
      | none =>
          rw [stored] at here
          cases here
      | some found =>
          have same : Function.update texts field (some found) = texts := by
            rw [← stored, Function.update_eq_self]
          rw [if_pos (by rfl), Option.some_or, same]
          exact ⟨⟨holds, low, behind, parts, apart, within⟩, by omega⟩
  | none =>
      rw [pointer] at here
      cases stored : texts field with
      | some found =>
          rw [stored] at here
          cases here
      | none =>
          have ahead : p.start + part.length ≤ p.tail := by omega
          obtain ⟨mem, ran, writes, wrote⟩ := setUserIdPartAt_spec slice ahead
          rw [if_neg (by simp), show p.src - p.start = part.length by omega, ran, Option.none_or]
          dsimp only
          have short := (prefix_setUserIdPart part).length_le
          have older (other : UserIdField) (addr : Nat) (part : Str)
              (set : p.parts other = some addr) (text : texts other = some part)
              : addr + part.length < p.tail := by
            have stored := parts other
            rw [set, text] at stored
            cases stored
            assumption
          refine ⟨⟨writes.keeps (Or.inr ?_) holds, by dsimp only; omega, ?_, ?_, ?_, ?_⟩, ?_⟩
          · rw [List.length_append, List.length_singleton]
            exact low
          · exact (holds_append.mp writes.holds).2.1
          · intro other
            dsimp only
            by_cases same : other = field
            · subst same
              rw [Function.update_self, Function.update_self]
              refine .found low (by omega) writes.holds ?_
              intro c member
              exact plain c ((prefix_setUserIdPart part).subset member)
            · rw [Function.update_of_ne same, Function.update_of_ne same]
              exact (parts other).keep writes (by omega)
          · intro first second addr addr' known known' differ set text set' text'
            dsimp only at set set'
            by_cases same : first = field
            · subst same
              rw [Function.update_self, Option.some.injEq] at set
              rw [Function.update_of_ne differ.symm] at set' text'
              exact Or.inr (set ▸ older second addr' known' set' text')
            · rw [Function.update_of_ne same] at set text
              by_cases same' : second = field
              · subst same'
                rw [Function.update_self, Option.some.injEq] at set'
                exact Or.inl (set' ▸ older first addr known set text)
              · rw [Function.update_of_ne same'] at set' text'
                exact apart first second addr addr' known known' differ set text set' text'
          · refine (within.mono subset_rfl ?_).trans (wrote.mono subset_rfl ?_)
            · rintro addr ⟨above, below⟩
              exact ⟨above, by dsimp only; omega⟩
            · rintro addr ⟨above, below⟩
              exact ⟨by omega, below⟩
          · omega

/-- The loop is inside of a part. -/
def Active (p : UserIdScan) : Prop := p.inName = true ∨ p.inEmail ≠ 0 ∨ p.inComment ≠ 0

/-- The loop and the fold have both consumed the first characters. No more is stored than these
characters pay for, and those of the part that is open are still to be spent.
-/
structure Scanned (initial : TracedMemory) (uid : Nat) (text : Str) (p : UserIdScan)
    (parser : UserIdParser) (done rest : Str)
    : Prop where
  split : text = done ++ rest
  src : p.src = uid + done.length
  inName : parser.inName = p.inName
  inEmail : parser.inEmail = p.inEmail
  inComment : parser.inComment = p.inComment
  emailAlone : p.inEmail ≠ 0 → p.inName = false ∧ p.inComment = 0
  commentAlone : p.inComment ≠ 0 → p.inName = false ∧ p.inEmail = 0
  placed : Placed initial uid text p parser.field
  part
    : p.Active
      → ∃ before,
          done = before ++ parser.part
          ∧ p.start = uid + before.length
          ∧ p.tail ≤ uid + text.length + 1 + before.length
  space : p.tail ≤ uid + text.length + 1 + done.length

/-- The part that is open is stored; its end pays for the terminator. -/
theorem Scanned.store (field : UserIdField) (scanned : Scanned initial uid text p parser done rest)
    (active : p.Active) (plain : ∀ c ∈ text, c ≠ 0)
    : Placed initial uid text (p.store field)
        (Function.update parser.field field
          ((parser.field field).or (some (setUserIdPart parser.part))))
      ∧ (p.store field).tail ≤ uid + text.length + 1 + done.length + 1 := by
  obtain ⟨before, whole, start, paid⟩ := scanned.part active
  have length : done.length = before.length + parser.part.length := by
    rw [whole, List.length_append]
  have slice : p.mem.bytes.Holds p.start parser.part := by
    have holds := scanned.placed.holds
    rw [scanned.split, whole, List.append_assoc, List.append_assoc] at holds
    rw [start]
    exact (holds_append.mp (holds_append.mp holds).2).1
  have inside : done.length ≤ text.length := by
    rw [scanned.split, List.length_append]
    exact Nat.le_add_right _ _
  have src := scanned.src
  have plainPart (c : UInt8) (member : c ∈ parser.part) : c ≠ 0 := by
    refine plain c ?_
    rw [scanned.split, whole]
    simp [member]
  obtain ⟨placed, tail⟩ :=
    store_placed field scanned.placed slice (by omega) (by omega) plainPart
  exact ⟨placed, by omega⟩

/-- Storing a part does not look at the flags. -/
theorem store_with (inEmail inComment : Nat)
    : ({ p with inEmail, inComment } : UserIdScan).store field
      = { p.store field with inEmail, inComment } := by
  unfold store
  dsimp only
  split <;> rfl

/-- The next character belongs to the part that is open. -/
theorem Scanned.stay (scanned : Scanned initial uid text p parser done (c :: rest))
    (active : p.Active) {next : UserIdScan} {parser' : UserIdParser} (src : next.src = p.src + 1)
    (inName : parser'.inName = next.inName) (inEmail : parser'.inEmail = next.inEmail)
    (inComment : parser'.inComment = next.inComment)
    (emailAlone : next.inEmail ≠ 0 → next.inName = false ∧ next.inComment = 0)
    (commentAlone : next.inComment ≠ 0 → next.inName = false ∧ next.inEmail = 0)
    (placed : Placed initial uid text next parser'.field) (part : parser'.part = parser.part ++ [c])
    (start : next.start = p.start) (tail : next.tail = p.tail)
    : Scanned initial uid text next parser' (done ++ [c]) rest where
  split := by rw [scanned.split, List.append_assoc, List.singleton_append]
  src := by rw [src, scanned.src, List.length_append, List.length_singleton, Nat.add_assoc]
  inName := inName
  inEmail := inEmail
  inComment := inComment
  emailAlone := emailAlone
  commentAlone := commentAlone
  placed := placed
  part := by
    intro _
    obtain ⟨before, whole, start', paid⟩ := scanned.part active
    exact ⟨before, by rw [whole, part, List.append_assoc], start.trans start', tail ▸ paid⟩
  space := by
    have space := scanned.space
    rw [List.length_append, tail]
    omega

/-- Behind the next character no part is open. -/
theorem Scanned.idle (scanned : Scanned initial uid text p parser done (c :: rest))
    {next : UserIdScan} {parser' : UserIdParser} (src : next.src = p.src + 1)
    (inName : parser'.inName = next.inName) (inEmail : parser'.inEmail = next.inEmail)
    (inComment : parser'.inComment = next.inComment) (closed : ¬next.Active)
    (placed : Placed initial uid text next parser'.field)
    (space : next.tail ≤ uid + text.length + 1 + done.length + 1)
    : Scanned initial uid text next parser' (done ++ [c]) rest where
  split := by rw [scanned.split, List.append_assoc, List.singleton_append]
  src := by rw [src, scanned.src, List.length_append, List.length_singleton, Nat.add_assoc]
  inName := inName
  inEmail := inEmail
  inComment := inComment
  emailAlone opened := absurd (Or.inr (Or.inl opened)) closed
  commentAlone opened := absurd (Or.inr (Or.inr opened)) closed
  placed := placed
  part opened := absurd opened closed
  space := by rwa [List.length_append, List.length_singleton]

/-- A part begins behind the next character, or with it. -/
theorem Scanned.begin (scanned : Scanned initial uid text p parser done (c :: rest))
    {next : UserIdScan} {parser' : UserIdParser} {before : Str} (src : next.src = p.src + 1)
    (inName : parser'.inName = next.inName) (inEmail : parser'.inEmail = next.inEmail)
    (inComment : parser'.inComment = next.inComment)
    (emailAlone : next.inEmail ≠ 0 → next.inName = false ∧ next.inComment = 0)
    (commentAlone : next.inComment ≠ 0 → next.inName = false ∧ next.inEmail = 0)
    (placed : Placed initial uid text next parser'.field)
    (part : done ++ [c] = before ++ parser'.part) (start : next.start = uid + before.length)
    (paid : next.tail ≤ uid + text.length + 1 + before.length)
    : Scanned initial uid text next parser' (done ++ [c]) rest where
  split := by rw [scanned.split, List.append_assoc, List.singleton_append]
  src := by rw [src, scanned.src, List.length_append, List.length_singleton, Nat.add_assoc]
  inName := inName
  inEmail := inEmail
  inComment := inComment
  emailAlone := emailAlone
  commentAlone := commentAlone
  placed := placed
  part _ := ⟨before, part, start, paid⟩
  space := by
    rw [part, List.length_append]
    exact Nat.le_trans paid (by omega)

/-- The name ends, where there is one. -/
theorem Scanned.endName (scanned : Scanned initial uid text p parser done rest)
    (plain : ∀ c ∈ text, c ≠ 0)
    : Placed initial uid text p.endName parser.endName.field
      ∧ p.endName.tail ≤ uid + text.length + 1 + done.length + 1
      ∧ p.endName.inName = false
      ∧ parser.endName.inName = false
      ∧ p.endName.src = p.src
      ∧ p.endName.inEmail = p.inEmail
      ∧ p.endName.inComment = p.inComment := by
  have inName := scanned.inName
  unfold UserIdScan.endName UserIdParser.endName
  cases named : p.inName with
  | true =>
      rw [named] at inName
      rw [inName]
      obtain ⟨placed, tail⟩ := scanned.store .name (Or.inl named) plain
      have texts
          : (Function.update parser.field .name
              ((parser.field .name).or (some (setUserIdPart parser.part))))
            = UserIdParser.field
                { parser with
                  name := parser.name.or (some (setUserIdPart parser.part)), inName := false } := by
        funext field
        cases field <;> rfl
      rw [texts] at placed
      obtain ⟨src, -, inEmail, inComment⟩ := store_flags p .name
      exact ⟨placed.congr rfl rfl rfl, tail, rfl, rfl, src, inEmail, inComment⟩
  | false =>
      rw [named] at inName
      rw [inName]
      exact ⟨scanned.placed, Nat.le_succ_of_le scanned.space, named, inName, rfl, rfl, rfl⟩

/-- The part that is open ends with the next character. -/
theorem Scanned.close (field : UserIdField)
    (scanned : Scanned initial uid text p parser done (c :: rest)) (active : p.Active)
    (plain : ∀ c ∈ text, c ≠ 0) {next : UserIdScan} {parser' : UserIdParser}
    (src : next.src = p.src + 1) (inName : parser'.inName = next.inName)
    (inEmail : parser'.inEmail = next.inEmail) (inComment : parser'.inComment = next.inComment)
    (closed : ¬next.Active) (mem : next.mem = (p.store field).mem)
    (tail : next.tail = (p.store field).tail) (parts : next.parts = (p.store field).parts)
    (texts
      : Function.update parser.field field
          ((parser.field field).or (some (setUserIdPart parser.part)))
        = parser'.field)
    : Scanned initial uid text next parser' (done ++ [c]) rest := by
  obtain ⟨stored, space⟩ := scanned.store field active plain
  rw [texts] at stored
  exact scanned.idle src inName inEmail inComment closed (stored.congr mem tail parts)
    (tail ▸ space)

/-- Inside of an email address only the angle brackets count. -/
theorem Scanned.bodyEmail (scanned : Scanned initial uid text p parser done (c :: rest))
    (plain : ∀ c ∈ text, c ≠ 0) (inside : p.inEmail ≠ 0)
    : Scanned initial uid text { p.body c with src := p.src + 1 } (parser.step c) (done ++ [c])
        rest := by
  have alone := scanned.emailAlone inside
  have active : p.Active := Or.inr (Or.inl inside)
  have placed := scanned.placed
  unfold body UserIdParser.step
  rw [scanned.inEmail, if_pos inside, if_pos inside]
  by_cases opening : c = 60
  · rw [if_pos opening, if_pos opening]
    exact scanned.stay active rfl scanned.inName rfl scanned.inComment (fun _ => alone)
      (fun other => absurd alone.2 other) (placed.congr rfl rfl rfl) rfl rfl rfl
  rw [if_neg opening, if_neg opening]
  by_cases closing : c = 62
  · rw [if_pos closing, if_pos closing]
    dsimp only
    by_cases last : p.inEmail = 1
    · obtain ⟨-, inName, -, -⟩ := store_flags p .email
      rw [if_pos last, if_pos last, store_with]
      refine scanned.close .email active plain rfl (scanned.inName.trans inName.symm) rfl
        scanned.inComment ?_ rfl rfl rfl ?_
      · rintro (name | email | comment)
        · exact absurd (alone.1.symm.trans (inName.symm.trans name)) (by simp)
        · exact email (by dsimp only; omega)
        · exact comment alone.2
      · funext field
        cases field <;> rfl
    · rw [if_neg last, if_neg last]
      exact scanned.stay active rfl scanned.inName rfl scanned.inComment (fun _ => alone)
        (fun other => absurd alone.2 other) (placed.congr rfl rfl rfl) rfl rfl rfl
  · rw [if_neg closing, if_neg closing]
    exact scanned.stay active rfl scanned.inName rfl scanned.inComment (fun _ => alone)
      (fun other => absurd alone.2 other) (placed.congr rfl rfl rfl) rfl rfl rfl

/-- Inside of a comment only the parentheses count. -/
theorem Scanned.bodyComment (scanned : Scanned initial uid text p parser done (c :: rest))
    (plain : ∀ c ∈ text, c ≠ 0) (outside : p.inEmail = 0) (inside : p.inComment ≠ 0)
    : Scanned initial uid text { p.body c with src := p.src + 1 } (parser.step c) (done ++ [c])
        rest := by
  have alone := scanned.commentAlone inside
  have active : p.Active := Or.inr (Or.inr inside)
  have placed := scanned.placed
  have noEmail : ¬p.inEmail ≠ 0 := not_not_intro outside
  unfold body UserIdParser.step
  rw [scanned.inEmail, if_neg noEmail, if_neg noEmail, scanned.inComment, if_pos inside,
    if_pos inside]
  by_cases opening : c = 40
  · rw [if_pos opening, if_pos opening]
    exact scanned.stay active rfl scanned.inName rfl rfl
      (fun other => absurd outside other) (fun _ => alone) (placed.congr rfl rfl rfl) rfl rfl rfl
  rw [if_neg opening, if_neg opening]
  by_cases closing : c = 41
  · rw [if_pos closing, if_pos closing]
    dsimp only
    by_cases last : p.inComment = 1
    · obtain ⟨-, inName, -, -⟩ := store_flags p .comment
      rw [if_pos last, if_pos last, store_with]
      refine scanned.close .comment active plain rfl (scanned.inName.trans inName.symm)
        rfl rfl ?_ rfl rfl rfl ?_
      · rintro (name | email | comment)
        · exact absurd (alone.1.symm.trans (inName.symm.trans name)) (by simp)
        · exact email outside
        · exact comment (by dsimp only; omega)
      · funext field
        cases field <;> rfl
    · rw [if_neg last, if_neg last]
      exact scanned.stay active rfl scanned.inName rfl rfl
        (fun other => absurd outside other) (fun _ => alone) (placed.congr rfl rfl rfl) rfl rfl rfl
  · rw [if_neg closing, if_neg closing]
    exact scanned.stay active rfl scanned.inName rfl rfl
      (fun other => absurd outside other) (fun _ => alone) (placed.congr rfl rfl rfl) rfl rfl rfl

/-- Outside of both a bracket or a parenthesis ends the name, and another character begins it. -/
theorem Scanned.bodyOutside (scanned : Scanned initial uid text p parser done (c :: rest))
    (plain : ∀ c ∈ text, c ≠ 0) (noEmail : p.inEmail = 0) (noComment : p.inComment = 0)
    : Scanned initial uid text { p.body c with src := p.src + 1 } (parser.step c) (done ++ [c])
        rest := by
  obtain ⟨ended, space, inName, inName', -, inEmail, inComment⟩ := scanned.endName plain
  have behind : p.src + 1 = uid + (done ++ [c]).length := by
    rw [scanned.src, List.length_append, List.length_singleton, Nat.add_assoc]
  have paid : p.endName.tail ≤ uid + text.length + 1 + (done ++ [c]).length := by
    rwa [List.length_append, List.length_singleton]
  have flags : parser.endName.inEmail = 0 ∧ parser.endName.inComment = 0 := by
    unfold UserIdParser.endName
    split <;> exact ⟨scanned.inEmail.trans noEmail, scanned.inComment.trans noComment⟩
  have outsideEmail : ¬p.inEmail ≠ 0 := not_not_intro noEmail
  have outsideComment : ¬p.inComment ≠ 0 := not_not_intro noComment
  have noEmail' : p.endName.inEmail = 0 := inEmail.trans noEmail
  have noComment' : p.endName.inComment = 0 := inComment.trans noComment
  unfold body UserIdParser.step
  rw [scanned.inEmail, if_neg outsideEmail, if_neg outsideEmail, scanned.inComment,
    if_neg outsideComment, if_neg outsideComment]
  by_cases bracket : c = 60
  · rw [if_pos bracket, if_pos bracket]
    exact scanned.begin rfl (inName'.trans inName.symm) rfl (flags.2.trans noComment'.symm)
      (fun _ => ⟨inName, noComment'⟩) (fun other => absurd noComment' other)
      (ended.congr rfl rfl rfl) (List.append_nil _).symm behind paid
  rw [if_neg bracket, if_neg bracket]
  by_cases parenthesis : c = 40
  · rw [if_pos parenthesis, if_pos parenthesis]
    exact scanned.begin rfl (inName'.trans inName.symm) (flags.1.trans noEmail'.symm) rfl
      (fun other => absurd noEmail' other) (fun _ => ⟨inName, noEmail'⟩)
      (ended.congr rfl rfl rfl) (List.append_nil _).symm behind paid
  rw [if_neg parenthesis, if_neg parenthesis, scanned.inName]
  by_cases first : (!p.inName && !isBlank c) = true
  · rw [if_pos first, if_pos first]
    exact scanned.begin rfl rfl rfl rfl (fun other => absurd noEmail other)
      (fun other => absurd noComment other) (scanned.placed.congr rfl rfl rfl) rfl scanned.src
      scanned.space
  rw [if_neg first, if_neg first]
  cases named : p.inName with
  | true =>
      exact scanned.stay (Or.inl named) rfl named.symm rfl rfl
        (fun other => absurd noEmail other) (fun other => absurd noComment other)
        (scanned.placed.congr rfl rfl rfl) rfl rfl rfl
  | false =>
      refine scanned.idle rfl named.symm rfl rfl ?_
        (scanned.placed.congr rfl rfl rfl) (Nat.le_succ_of_le scanned.space)
      rintro (name | email | comment)
      · exact absurd (named.symm.trans name) (by simp)
      · exact email noEmail
      · exact comment noComment

/-- Where the loop is, there is the next character. -/
theorem Scanned.next (scanned : Scanned initial uid text p parser done (c :: rest))
    : p.mem.bytes p.src = c := by
  have holds := scanned.placed.holds
  rw [scanned.split, List.append_assoc] at holds
  rw [scanned.src]
  exact (holds_append.mp holds).2.1

/-- A look at the next character keeps what was scanned. -/
theorem Scanned.looked (scanned : Scanned initial uid text p parser done rest)
    : Scanned initial uid text { p with mem := p.mem.look p.src } parser done rest := by
  obtain ⟨split, src, inName, inEmail, inComment, emailAlone, commentAlone, placed, part, space⟩ :=
    scanned
  obtain ⟨holds, low, behind, parts, apart, within⟩ := placed
  have reads
      : p.mem.Within (p.mem.look p.src) Set.univ
          {addr | uid + text.length < addr ∧ addr < p.tail} :=
    ⟨fun _ _ => Or.inr trivial, fun _ => Or.inl⟩
  exact ⟨split, src, inName, inEmail, inComment, emailAlone, commentAlone,
    ⟨holds, low, behind, parts, apart, within.trans reads⟩, part, space⟩

/-- A round of the loop keeps up with the fold. -/
theorem Scanned.step (scanned : Scanned initial uid text p parser done (c :: rest))
    (plain : ∀ c ∈ text, c ≠ 0)
    : Scanned initial uid text p.step (parser.step c) (done ++ [c]) rest := by
  unfold UserIdScan.step
  rw [scanned.next]
  by_cases inside : p.inEmail ≠ 0
  · exact scanned.looked.bodyEmail plain inside
  have outside : p.inEmail = 0 := not_not.mp inside
  by_cases comment : p.inComment ≠ 0
  · exact scanned.looked.bodyComment plain outside comment
  · exact scanned.looked.bodyOutside plain outside (not_not.mp comment)

/-- The loop ends at the terminator, by induction on the bound of its rounds, and so does the
name.
-/
theorem Scanned.run {rounds : Nat} (scanned : Scanned initial uid text p parser done rest)
    (plain : ∀ c ∈ text, c ≠ 0) (enough : rest.length < rounds)
    : ∃ next,
        UserIdScan.run rounds p = some next
        ∧ Placed initial uid text next (rest.foldl UserIdParser.step parser).endName.field
        ∧ next.tail ≤ uid + text.length + 1 + text.length + 1 := by
  induction rounds generalizing p parser done rest with
  | zero => omega
  | succ rounds ih =>
      cases rest with
      | nil =>
          have whole := scanned.split
          rw [List.append_nil] at whole
          have atEnd : p.mem.bytes p.src = 0 := by
            rw [scanned.src, ← whole]
            exact (holds_append.mp scanned.placed.holds).2.1
          obtain ⟨placed, space, -⟩ := scanned.looked.endName plain
          refine ⟨_, ?_, placed, whole ▸ space⟩
          rw [UserIdScan.run, if_pos atEnd]
      | cons c rest =>
          have more : p.mem.bytes p.src ≠ 0 := by
            rw [scanned.next]
            refine plain c ?_
            rw [scanned.split]
            simp
          obtain ⟨next, ran, placed, space⟩ :=
            ih (scanned.step plain) (Nat.lt_of_succ_lt_succ enough)
          refine ⟨next, ?_, placed, space⟩
          rw [UserIdScan.run, if_neg more, ran]

end UserIdScan

-----------------------------------------------------------------------------------------
-- The parts
-----------------------------------------------------------------------------------------

/-- Name, email and comment by their names. -/
def partOf (parts : Str × Str × Str) : UserIdField → Str
  | .name => parts.1
  | .email => parts.2.1
  | .comment => parts.2.2

variable {uid rounds : Nat} {text : Str}

/-- Parts that are not empty stand behind the user ID, in places that do not overlap. -/
structure Separate (uid : Nat) (text : Str) (parts : Str × Str × Str) (places : UserIdPlaces) : Prop
    where
  behind : ∀ field, partOf parts field ≠ [] → uid + text.length < places.place field
  apart
    : ∀ field other,
        field ≠ other
        → partOf parts field ≠ []
        → partOf parts other ≠ []
        → places.place field + (partOf parts field).length < places.place other
          ∨ places.place other + (partOf parts other).length < places.place field

/-- At the start nothing is scanned. -/
theorem scanned_initial (holds : m.bytes.Holds uid (text ++ [0]))
    : UserIdScan.Scanned m uid text { mem := m, src := uid, tail := uid + text.length + 1 } {} []
        text where
  split := rfl
  src := rfl
  inName := rfl
  inEmail := rfl
  inComment := rfl
  emailAlone opened := absurd rfl opened
  commentAlone opened := absurd rfl opened
  placed := by
    refine ⟨holds, Nat.lt_succ_self _, (holds_append.mp holds).2.1, ?_, ?_, .refl _ _ _⟩
    · intro field
      cases field <;> exact .missing
    · intro field other addr addr' part part' differ set
      cases set
  part := by
    rintro (name | email | comment)
    · cases name
    · exact absurd rfl email
    · exact absurd rfl comment
  space := le_rfl

/-- Behind a user ID of `n` bytes and its terminator, `parse_user_id` writes no more than `n + 1`
bytes, and all three parts are found there with their terminators, as far as they are not empty.
-/
theorem parseUserIdAt_spec (holds : m.bytes.Holds uid (text ++ [0])) (plain : ∀ c ∈ text, c ≠ 0)
    (enough : text.length < rounds)
    : ∃ places,
        parseUserIdAt m uid (uid + text.length + 1) rounds = some places
        ∧ places.mem.bytes.Holds uid (text ++ [0])
        ∧ m.Within places.mem Set.univ
            {addr | uid + text.length < addr ∧ addr < uid + 2 * text.length + 2}
        ∧ (∀ field,
            PartAt places.mem.bytes uid (uid + 2 * text.length + 2) (some (places.place field))
              (some (partOf (parseUserId text) field)))
        ∧ Separate uid text (parseUserId text) places := by
  obtain ⟨next, ran, placed, space⟩ := (scanned_initial holds).run plain enough
  obtain ⟨holdsNext, low, terminator, parts, apart, within⟩ := placed
  have text' (field : UserIdField)
      : partOf (parseUserId text) field
        = ((text.foldl UserIdParser.step {}).endName.field field).getD [] := by
    cases field <;> rfl
  have filled (field : UserIdField) (some' : partOf (parseUserId text) field ≠ [])
      : ∃ addr,
          next.parts field = some addr
          ∧ (text.foldl UserIdParser.step {}).endName.field field
            = some (partOf (parseUserId text) field)
          ∧ uid + text.length < addr := by
    have part := parts field
    rw [text'] at some' ⊢
    generalize (text.foldl UserIdParser.step {}).endName.field field = stored at part some' ⊢
    generalize next.parts field = pointer at part ⊢
    cases part with
    | missing => exact absurd rfl some'
    | found above _ _ _ => exact ⟨_, rfl, rfl, above⟩
  refine ⟨_, by rw [parseUserIdAt, ran]; rfl, holdsNext, within.mono subset_rfl ?_, ?_, ?_, ?_⟩
  · rintro addr ⟨above, below⟩
    exact ⟨above, by omega⟩
  · intro field
    have part := parts field
    rw [text']
    generalize (text.foldl UserIdParser.step {}).endName.field field = stored at part ⊢
    generalize found : next.parts field = pointer at part
    dsimp only
    rw [found]
    cases part with
    | missing =>
        refine .found (by simp only [Option.getD_none]; omega) (by simp; omega)
          ⟨terminator, trivial⟩ (by simp)
    | found above below holdsPart plainPart =>
        exact .found (by simp only [Option.getD_some]; omega) (by simp; omega) holdsPart plainPart
  · intro field some'
    obtain ⟨addr, set, -, above⟩ := filled field some'
    dsimp only
    rw [set]
    exact above
  · intro field other differ some' someOther
    obtain ⟨addr, set, stored, -⟩ := filled field some'
    obtain ⟨addr', set', stored', -⟩ := filled other someOther
    dsimp only
    rw [set, set']
    exact apart field other addr addr' _ _ differ set stored set' stored'

/-- `parse_x509_user_id` writes nothing. The email address is the whole string in angle brackets,
and what is left is empty.
-/
theorem parseX509UserIdAt_spec (holds : m.bytes.Holds uid (text ++ [0]))
    (plain : ∀ c ∈ text, c ≠ 0) (enough : text.length < rounds)
    : ∃ places,
        parseX509UserIdAt m uid (uid + text.length + 1) rounds = some places
        ∧ places.mem.bytes = m.bytes
        ∧ places.mem.writes = m.writes
        ∧ ∀ field,
            PartAt places.mem.bytes uid (uid + 2 * text.length + 2) (some (places.place field))
              (some (partOf (parseX509UserId text) field)) := by
  have terminator : m.bytes (uid + text.length) = 0 := (holds_append.mp holds).2.1
  have atEnd {mem : ByteMemory} (same : mem = m.bytes)
      : PartAt mem uid (uid + 2 * text.length + 2) (some (uid + text.length)) (some []) :=
    .found (by omega) (by simp; omega) ⟨same ▸ terminator, trivial⟩ (by simp)
  unfold parseX509UserIdAt parseX509UserId
  rcases List.eq_nil_or_concat' text with rfl | ⟨before, last, split⟩
  · have first : m.bytes uid ≠ 60 := by
      rw [show m.bytes uid = 0 from holds.1]
      simp
    rw [if_pos first]
    exact ⟨_, rfl, rfl, rfl, fun field => by cases field <;> exact atEnd rfl⟩
  have head : text.head? = some (m.bytes uid) := by
    cases text with
    | nil => simp at split
    | cons c rest => rw [show m.bytes uid = c from holds.1, List.head?_cons]
  have tail : text.getLast? = some last ∧ m.bytes (uid + text.length - 1) = last := by
    subst split
    rw [List.append_assoc] at holds
    refine ⟨List.getLast?_concat, ?_⟩
    rw [List.length_append, List.length_singleton, ← Nat.add_assoc, Nat.add_sub_cancel]
    exact (holds_append.mp holds).2.1
  by_cases bracket : m.bytes uid = 60
  · obtain ⟨mem, found, bytes, writes⟩ :=
      TracedMemory.strlen_string (m := m.look uid) holds plain enough
    rw [if_neg (not_not_intro bracket), found]
    refine ⟨_, rfl, bytes, writes, ?_⟩
    intro field
    simp only [TracedMemory.look_bytes]
    rw [head, bracket, tail.1, bytes, TracedMemory.look_bytes, tail.2]
    by_cases closing : last = 62
    · subst closing
      cases field with
      | email =>
          have below : uid + text.length < uid + 2 * text.length + 2 := by omega
          exact .found le_rfl below holds plain
      | _ => exact atEnd rfl
    · rw [if_neg (by simp [closing]), if_neg (by simp [closing])]
      cases field <;> exact atEnd rfl
  · rw [if_pos bracket, head, if_neg (by simp [bracket])]
    exact ⟨_, rfl, rfl, rfl, fun field => by cases field <;> exact atEnd rfl⟩

end Gpgme
