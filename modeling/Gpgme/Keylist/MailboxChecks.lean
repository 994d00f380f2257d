import Gpgme.Keylist.Mailboxes
import Gpgme.Lib.Substring

/-! The checks of `mbox-util.c` that are bounded by a length, and their agreement with the ones on
terminated strings. Bytes are read at positions of a buffer, and a function fails where it reads
behind its end.
-/

namespace Gpgme

open CString Substring

-----------------------------------------------------------------------------------------
-- The functions
-----------------------------------------------------------------------------------------

/-- `mem_count_chr`. -/
def memCountChr (buffer : List UInt8) (c : UInt8) : Nat → Nat → Nat → Option Nat
  | 0, _, count => some count
  | length + 1, s, count => do
      let byte ← buffer[s]?
      memCountChr buffer c length (s + 1) (if byte = c then count + 1 else count)

/-- The inner loop of `my_memstr`: `for (...; n && *t == *s; t++, s++, n--);`. It returns the
place in the other string where the loop ends.
-/
def memstrInner (buffer sub : List UInt8) : Nat → Nat → Nat → Option Nat
  | 0, _, s => some s
  | n + 1, t, s => do
      let here ← buffer[t]?
      let expected ← sub[s]?
      if here = expected then memstrInner buffer sub n (t + 1) (s + 1) else some s

/-- The outer loop of `my_memstr`. -/
def memstrOuter (buffer sub : List UInt8) : Nat → Nat → Option (Option Nat)
  | 0, _ => some none
  | n + 1, t => do
      let here ← buffer[t]?
      let first ← sub[0]?
      if here = first then
        let buf := t
        let buflen := n
        let s ← memstrInner buffer sub n (t + 1) 1
        let last ← sub[s]?
        if last = 0 then some (some buf) else memstrOuter buffer sub buflen (buf + 1)
      else memstrOuter buffer sub n (t + 1)

/-- `my_memstr`, where the string that is searched for is terminated. The result is the position of
what is found.
-/
def myMemstr (buffer : List UInt8) (buflen : Nat) (sub : Str) : Option (Option Nat) :=
  memstrOuter buffer (sub ++ [0]) buflen 0

/-- `has_invalid_email_chars`. -/
def hasInvalidEmailCharsMem (buffer : List UInt8) : Nat → Nat → Bool → Option Bool
  | 0, _, _ => some false
  | length + 1, s, atSeen => do
      let c ← buffer[s]?
      if c = 0 then some false
      else if 128 ≤ c then hasInvalidEmailCharsMem buffer length (s + 1) atSeen
      else if c = 64 then hasInvalidEmailCharsMem buffer length (s + 1) true
      else if !atSeen && !(validEmailChars.contains c || validLocalChars.contains c) then some true
      else if atSeen && !validEmailChars.contains c then some true
      else hasInvalidEmailCharsMem buffer length (s + 1) atSeen

/-- `is_valid_mailbox_mem`, whose tests stop at the first one that fails. -/
def isValidMailboxMem (name : List UInt8) (namelen : Nat) : Option Bool := do
  if namelen = 0 then some false
  else if ← hasInvalidEmailCharsMem name namelen 0 false then some false
  else if (← memCountChr name 64 namelen 0 0) ≠ 1 then some false
  else if (← name[0]?) = 64 then some false
  else if (← name[namelen - 1]?) = 64 then some false
  else if (← name[namelen - 1]?) = 46 then some false
  else if (← myMemstr name namelen (str "..")).isSome then some false
  else some true

/-- `_gpgme_is_valid_mailbox` on a string that is not a null pointer. -/
def isValidMailboxString (name : Str) : Option Bool := isValidMailboxMem (name ++ [0]) name.length

-----------------------------------------------------------------------------------------
-- Reading within the length
-----------------------------------------------------------------------------------------

variable {buffer sub : List UInt8} {s : Str} {pos : Nat}

/-- The string stands at a position of the buffer. -/
def StandsAt (buffer : List UInt8) : Nat → Str → Prop
  | _, [] => True
  | pos, c :: s => buffer[pos]? = some c ∧ StandsAt buffer (pos + 1) s

/-- A prefix of what is left of a buffer stands there. -/
theorem standsAt_start (start : s <+: buffer.drop pos) : StandsAt buffer pos s := by
  induction s generalizing pos with
  | nil => trivial
  | cons c s ih =>
      obtain ⟨rest, whole⟩ := start
      have here : (buffer.drop pos)[0]? = some c := by rw [← whole]; rfl
      have behind : buffer.drop (pos + 1) = s ++ rest := by
        rw [← List.drop_drop, ← whole]
        rfl
      rw [List.getElem?_drop, Nat.add_zero] at here
      exact ⟨here, ih ⟨rest, behind.symm⟩⟩

/-- The loop counts a character in the whole string. -/
theorem memCountChr_count (stands : StandsAt buffer pos s) (c : UInt8) (count : Nat)
    : memCountChr buffer c s.length pos count = some (count + s.count c) := by
  induction s generalizing pos count with
  | nil => rfl
  | cons byte s ih =>
      obtain ⟨here, later⟩ := stands
      rw [List.length_cons, memCountChr, here, Option.bind_eq_bind, Option.bind_some, ih later,
        List.count_cons]
      by_cases same : byte = c
      · rw [if_pos same, if_pos (beq_iff_eq.mpr same)]
        congr 1
        omega
      · rw [if_neg same, if_neg (fun equal => same (beq_iff_eq.mp equal)), Nat.add_zero]

/-- The check for invalid characters, which a terminator would end, by induction on the text. -/
theorem hasInvalidEmailCharsMem_eq (stands : StandsAt buffer pos s) (plain : ∀ c ∈ s, c ≠ 0)
    (atSeen : Bool)
    : hasInvalidEmailCharsMem buffer s.length pos atSeen
      = some (hasInvalidEmailChars atSeen s) := by
  induction s generalizing pos atSeen with
  | nil => rfl
  | cons c s ih =>
      obtain ⟨here, later⟩ := stands
      obtain ⟨noEnd, plain⟩ := List.forall_mem_cons.mp plain
      rw [List.length_cons, hasInvalidEmailCharsMem, here, Option.bind_eq_bind, Option.bind_some,
        if_neg noEnd]
      simp only [ih later plain, hasInvalidEmailChars, apply_ite some]

-----------------------------------------------------------------------------------------
-- The search
-----------------------------------------------------------------------------------------

/-- The inner loop ends at the terminator exactly where the text goes on with what is left of the
string that is searched for, by induction on the text.
-/
theorem memstrInner_end {place : Nat} {left : Str} (stands : StandsAt buffer pos s)
    (behind : StandsAt sub place (left ++ [0])) (plain : ∀ c ∈ s, c ≠ 0)
    (noEnd : ∀ c ∈ left, c ≠ 0)
    : ∃ stop last,
        memstrInner buffer sub s.length pos place = some stop
        ∧ sub[stop]? = some last
        ∧ (last = 0 ↔ left <+: s) := by
  induction s generalizing pos place left with
  | nil =>
      cases left with
      | nil => exact ⟨place, 0, rfl, behind.1, by simp⟩
      | cons d left =>
          exact ⟨place, d, rfl, behind.1, by simpa using noEnd d List.mem_cons_self⟩
  | cons c s ih =>
      obtain ⟨here, later⟩ := stands
      obtain ⟨noZero, plain⟩ := List.forall_mem_cons.mp plain
      rw [List.length_cons, memstrInner, here, Option.bind_eq_bind, Option.bind_some]
      cases left with
      | nil =>
          have last : sub[place]? = some 0 := behind.1
          rw [last, Option.bind_some, if_neg noZero]
          exact ⟨place, 0, rfl, last, by simp⟩
      | cons d left =>
          obtain ⟨expected, behind⟩ := behind
          obtain ⟨noEndHere, noEnd⟩ := List.forall_mem_cons.mp noEnd
          rw [expected, Option.bind_some, List.cons_prefix_cons]
          by_cases same : c = d
          · rw [if_pos same]
            obtain ⟨stop, last, run, found, ends⟩ := ih later behind plain noEnd
            exact ⟨stop, last, run, found, by rw [ends]; simp [same]⟩
          · rw [if_neg same]
            refine ⟨place, d, rfl, expected, iff_of_false noEndHere ?_⟩
            exact fun start => same start.1.symm

/-- The search finds the first occurrence, by induction on the text. -/
theorem memstrOuter_find {first : UInt8} {left : Str} (stands : StandsAt buffer pos s)
    (needle : StandsAt sub 0 (first :: left ++ [0])) (plain : ∀ c ∈ s, c ≠ 0)
    (noEnd : ∀ c ∈ left, c ≠ 0)
    : memstrOuter buffer sub s.length pos
      = some ((find (first :: left) s).map fun found => pos + (s.length - found.length)) := by
  induction s generalizing pos with
  | nil => rfl
  | cons c s ih =>
      obtain ⟨here, later⟩ := stands
      have plain' := (List.forall_mem_cons.mp plain).2
      have next : memstrOuter buffer sub s.length (pos + 1)
          = some ((find (first :: left) s).map
              fun found => pos + ((c :: s).length - found.length)) := by
        rw [ih later plain']
        cases finds : find (first :: left) s with
        | none => rfl
        | some found =>
            have shorter := (find_spec finds).1.length_le
            simp only [Option.map_some, List.length_cons]
            congr 2
            omega
      obtain ⟨stop, last, run, found, ends⟩ := memstrInner_end later needle.2 plain' noEnd
      rw [List.length_cons, memstrOuter, here, show sub[0]? = some first from needle.1]
      simp only [Option.bind_eq_bind, Option.bind_some, run, found, find, List.cons_prefix_cons]
      by_cases same : first = c
      · by_cases starts : left <+: s
        · rw [if_pos same.symm, if_pos (ends.mpr starts), if_pos ⟨same, starts⟩]
          simp
        · rw [if_pos same.symm, if_neg (fun zero => starts (ends.mp zero)),
            if_neg (fun both => starts both.2), next, List.length_cons]
      · rw [if_neg (Ne.symm same), if_neg (fun both => same both.1), next, List.length_cons]

/-- Within the length of a buffer without zeros the first occurrence of a string is found. -/
theorem myMemstr_find {length : Nat} (inside : length ≤ buffer.length)
    (plain : ∀ c ∈ buffer.take length, c ≠ 0) {needle : Str} (filled : needle ≠ [])
    (noEnd : ∀ c ∈ needle, c ≠ 0)
    : myMemstr buffer length needle
      = some ((find needle (buffer.take length)).map
          fun found => length - found.length) := by
  obtain ⟨first, left, rfl⟩ := List.exists_cons_of_ne_nil filled
  have stands : StandsAt buffer 0 (buffer.take length) :=
    standsAt_start (List.take_prefix _ _)
  have searched : StandsAt (first :: left ++ [0]) 0 (first :: left ++ [0]) :=
    standsAt_start (List.prefix_refl _)
  have outer := memstrOuter_find stands searched plain (List.forall_mem_cons.mp noEnd).2
  rw [List.length_take_of_le inside] at outer
  simpa [myMemstr] using outer

-----------------------------------------------------------------------------------------
-- The agreement
-----------------------------------------------------------------------------------------

/-- Two dots are found where they stand side by side. -/
theorem hasDotdot_iff : hasDotdot s = true ↔ str ".." <:+: s := by
  induction s with
  | nil => decide
  | cons c s ih =>
      rw [hasDotdot, Bool.or_eq_true, ih, List.infix_cons_iff, Bool.and_eq_true, beq_iff_eq,
        beq_iff_eq]
      have start : str ".." <+: c :: s ↔ c = 46 ∧ s.head? = some 46 := by
        show [46, 46] <+: c :: s ↔ _
        cases s <;> simp [List.cons_prefix_cons, eq_comm]
      rw [start]

/-- The search for two dots finds them exactly where they stand within the length. -/
theorem myMemstr_dotdot {length : Nat} (inside : length ≤ buffer.length)
    (plain : ∀ c ∈ buffer.take length, c ≠ 0)
    : ∃ found, myMemstr buffer length (str "..") = some found
        ∧ (found.isSome = true ↔ str ".." <:+: buffer.take length) := by
  refine ⟨_, myMemstr_find inside plain (by decide) (by decide), ?_⟩
  rw [Option.isSome_map, ← not_iff_not, Bool.not_eq_true, Option.isSome_eq_false_iff,
    Option.isNone_iff_eq_none]
  exact find_eq_none_iff

/-- Within a string the checks that its length bounds are the ones that its terminator ends. -/
theorem isValidMailboxString_eq (plain : ∀ c ∈ s, c ≠ 0)
    : isValidMailboxString s = some (isValidMailbox s) := by
  cases whole : s with
  | nil => rfl
  | cons c rest =>
      have stands : StandsAt (s ++ [0]) 0 s := standsAt_start (List.prefix_append s [0])
      have taken : (s ++ [0]).take s.length = s := List.take_left
      obtain ⟨found, search, finds⟩ :=
        myMemstr_dotdot (by simp : s.length ≤ (s ++ [0]).length) (by rwa [taken])
      rw [taken, ← hasDotdot_iff] at finds
      have filled : s.length ≠ 0 := by rw [whole]; exact Nat.succ_ne_zero _
      have first : (s ++ [0])[0]? = some c := by rw [whole]; rfl
      obtain ⟨d, last⟩ : ∃ d, s.getLast? = some d := by
        cases ends : s.getLast? with
        | none => exact absurd (List.getLast?_eq_none_iff.mp ends) (by rw [whole]; simp)
        | some d => exact ⟨d, rfl⟩
      have lastAt : (s ++ [0])[s.length - 1]? = some d := by
        rw [List.getElem?_append_left (by omega), ← List.getLast?_eq_getElem?, last]
      rw [← whole, isValidMailboxString, isValidMailboxMem, isValidMailbox]
      simp only [if_neg filled, hasInvalidEmailCharsMem_eq stands plain, memCountChr_count stands,
        first, lastAt, search, Option.bind_eq_bind, Option.bind_some, last, countChr]
      have searched : found.isSome = hasDotdot s := Bool.eq_iff_iff.mpr finds
      rw [searched]
      have head : s.head? = some c := by rw [whole]; rfl
      have notNil : (s != []) = true := by rw [whole]; rfl
      rw [head, notNil]
      by_cases chars : hasInvalidEmailChars false s = true
      · simp [chars]
      by_cases oneAt : List.count 64 s = 1
      · by_cases localPart : c = 64
        · simp [chars, oneAt, localPart]
        by_cases domain : d = 64
        · simp [chars, oneAt, localPart, domain]
        by_cases dot : d = 46
        · simp [chars, oneAt, localPart, dot]
        · cases hasDotdot s <;> simp [chars, oneAt, localPart, domain, dot]
      · simp [chars, oneAt]

/-- A letter in lower case. -/
def lowerCase (c : UInt8) : UInt8 := if 65 ≤ c ∧ c ≤ 90 then c + 32 else c

/-- Only letters are changed. -/
theorem asciiStrlwr_lowerCase (s : Str) : asciiStrlwr s = s.map lowerCase := by
  have letters : ∀ n < 26, UInt8.ofNat (65 + n) ||| 32 = UInt8.ofNat (65 + n) + 32 := by decide
  refine List.map_congr_left fun c _ => ?_
  rw [lowerCase]
  split
  · next letter =>
      have low : 65 ≤ c.toNat := UInt8.le_iff_toNat_le.mp letter.1
      have high : c.toNat ≤ 90 := UInt8.le_iff_toNat_le.mp letter.2
      have changed := letters (c.toNat - 65) (by omega)
      rwa [Nat.add_sub_cancel' low, UInt8.ofNat_toNat] at changed
  · rfl

/-- A mailbox that is valid alone is also found behind an opening bracket. -/
theorem mailboxFromUserid_valid (valid : isValidMailbox s = true) {before : Str}
    (noBracket : 60 ∉ before) (behind : Str)
    : mailboxFromUserid s = some (s.map lowerCase)
      ∧ mailboxFromUserid (before ++ 60 :: s ++ 62 :: behind) = some (s.map lowerCase) := by
  have mailbox := validMailbox_of valid
  constructor
  · have alone : s.dropWhile (· != 60) = [] := by
      rw [List.dropWhile_eq_nil_iff]
      intro c member
      simpa using (mailbox.chars c member).noBracket
    rw [mailboxFromUserid, alone]
    dsimp only
    rw [if_pos valid, asciiStrlwr_lowerCase]
  · have bracketed : firstBracketed (before ++ 60 :: s ++ 62 :: behind) = some s := by
      have outside : ∀ c ∈ before, (c != 60) = true := fun c member => by
        simpa using fun same : c = 60 => noBracket (same ▸ member)
      have inside : ∀ c ∈ s, (c != 62) = true := fun c member => by
        simpa using (mailbox.chars c member).noClose
      rw [firstBracketed, upToClose, List.append_assoc, List.dropWhile_append_of_pos outside,
        List.cons_append, List.dropWhile_cons_of_neg (by decide), List.tail_cons,
        List.takeWhile_append_of_pos inside, List.takeWhile_cons_of_neg (by decide),
        List.append_nil, if_pos (by simp)]
    rw [mailboxFromUserid_bracket (by simp), bracketed, Option.bind_some,
      if_pos ⟨mailbox.filled, mailbox.loose⟩, asciiStrlwr_lowerCase]

/-- The checks of mailboxes agree: what is valid alone is the address of the user ID that consists
of it and of every one that has it in angle brackets, and the search for two dots is exact.
-/
theorem mailbox_checks_agree
    : (∀ m : Str, (∀ c ∈ m, c ≠ 0) → isValidMailboxString m = some true →
        ∀ before behind : Str, 60 ∉ before →
          mailboxFromUserid m = some (m.map lowerCase)
          ∧ mailboxFromUserid (before ++ 60 :: m ++ 62 :: behind) = some (m.map lowerCase))
      ∧ ∀ (buffer : List UInt8) (length : Nat),
          length ≤ buffer.length → (∀ c ∈ buffer.take length, c ≠ 0) →
            ∃ found, myMemstr buffer length (str "..") = some found
              ∧ (found.isSome = true ↔ str ".." <:+: buffer.take length) := by
  refine ⟨?_, fun _ _ => myMemstr_dotdot⟩
  intro m plain valid before behind noBracket
  rw [isValidMailboxString_eq plain] at valid
  exact mailboxFromUserid_valid (Option.some.inj valid) noBracket behind

/-- An address alone and within a user ID. -/
theorem alice_mailbox_agrees
    : (∀ c ∈ str "Al.B@x.org", c ≠ 0) ∧ isValidMailboxString (str "Al.B@x.org") = some true
      ∧ mailboxFromUserid (str "Al.B@x.org") = some ((str "Al.B@x.org").map lowerCase)
      ∧ mailboxFromUserid (str "Al " ++ 60 :: str "Al.B@x.org" ++ 62 :: [])
        = some ((str "Al.B@x.org").map lowerCase)
      ∧ ∃ found, myMemstr (str "a..b") 3 (str "..") = some found
          ∧ (found.isSome = true ↔ str ".." <:+: (str "a..b").take 3) :=
  have plain : ∀ c ∈ str "Al.B@x.org", c ≠ 0 := by decide
  have valid : isValidMailboxString (str "Al.B@x.org") = some true := by decide
  have agrees := mailbox_checks_agree.1 (str "Al.B@x.org") plain valid (str "Al ") [] (by decide)
  have search := mailbox_checks_agree.2 (str "a..b") 3 (by decide) (by decide)
  ⟨plain, valid, agrees.1, agrees.2, search⟩

end Gpgme
