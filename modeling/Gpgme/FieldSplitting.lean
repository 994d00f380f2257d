import Gpgme.Conversion
import Gpgme.Lib.ByteMemory
import Gpgme.Lib.Runs

/-! `_gpgme_split_fields` in the memory of the string that it cuts up. -/

namespace Gpgme

open CString ByteMemory Runs

-----------------------------------------------------------------------------------------
-- The function
-----------------------------------------------------------------------------------------

/-- `for (; *p == ' '; p++);` with a bound for its rounds. -/
def skipBlanksAt (mem : ByteMemory) : Nat → Nat → Option Nat
  | 0, _ => none
  | rounds + 1, p => if mem p = blank then skipBlanksAt mem rounds (p + 1) else some p

/-- `strchr (p, ' ')`. -/
def strchrBlankAt (mem : ByteMemory) : Nat → Nat → Option (Option Nat)
  | 0, _ => none
  | rounds + 1, p =>
      if mem p = blank then some (some p)
      else if mem p = 0 then some none
      else strchrBlankAt mem rounds (p + 1)

/-- The loop of the function, whose string has less than `size` bytes. The pointers in the array
are given by their addresses.
-/
def splitLoop (size arraysize : Nat)
    : Nat → ByteMemory → Nat → List Nat → Option (ByteMemory × List Nat)
  | 0, _, _, _ => none
  | rounds + 1, mem, p, array =>
      if array.length = arraysize then some (mem, array)
      else do
        let array := array ++ [p]
        match ← strchrBlankAt mem size p with
        | none => some (mem, array)
        | some pend =>
            let mem := mem.store pend 0
            let p ← skipBlanksAt mem size (pend + 1)
            if mem p = 0 then some (mem, array) else splitLoop size arraysize rounds mem p array

/-- `_gpgme_split_fields`: the memory that it leaves and the entries of the array that are set. -/
def splitFieldsMemory (mem : ByteMemory) (string : CStringAt mem) (arraysize : Nat)
    : Option (ByteMemory × List Nat) := do
  let size := string.text.length + 1
  let p ← skipBlanksAt mem size string.addr
  splitLoop size arraysize size mem p []

-----------------------------------------------------------------------------------------
-- Searching in memory
-----------------------------------------------------------------------------------------

variable {mem mem' : ByteMemory} {p size : Nat} {s : Str}

/-- The string stands at an address, with its terminator. -/
structure StringAt (mem : ByteMemory) (p : Nat) (s : Str) : Prop where
  holds : mem.Holds p (s ++ [0])
  plain : ∀ c ∈ s, c ≠ 0

/-- The end of a string is a string. -/
theorem StringAt.behind {first rest : Str} (string : StringAt mem p (first ++ rest))
    : StringAt mem (p + first.length) rest where
  holds := by
    have holds := string.holds
    rw [List.append_assoc] at holds
    exact (holds_append.mp holds).2
  plain := fun c member => string.plain c (List.mem_append_right _ member)

/-- The string behind its first byte. -/
theorem StringAt.next {c : UInt8} (string : StringAt mem p (c :: s)) : StringAt mem (p + 1) s :=
  behind (show StringAt mem p ([c] ++ s) from string)

/-- A string is still there if its bytes are. -/
theorem StringAt.congr (string : StringAt mem p s)
    (same : ∀ addr, p ≤ addr → addr ≤ p + s.length → mem' addr = mem addr)
    : StringAt mem' p s where
  holds := string.holds.congr fun addr above below => by
    rw [List.length_append, List.length_singleton] at below
    exact same addr above (by omega)
  plain := string.plain

/-- A terminator behind the first part cuts the string into two. -/
theorem StringAt.cut {first rest : Str} {c : UInt8} (string : StringAt mem p (first ++ c :: rest))
    : StringAt (mem.store (p + first.length) 0) p first
      ∧ StringAt (mem.store (p + first.length) 0) (p + first.length + 1) rest := by
  have front := (holds_append.mp (List.append_assoc first _ _ ▸ string.holds)).1
  have last : StringAt mem (p + first.length + 1) rest :=
    string.behind.next
  refine ⟨⟨holds_append.mpr ⟨front.congr ?_, if_pos rfl, trivial⟩, ?_⟩, last.congr ?_⟩
  · intro addr _ below
    exact if_neg (by omega)
  · exact fun c member => string.plain c (List.mem_append_left _ member)
  · intro addr above _
    exact if_neg (by omega)

/-- Blanks are skipped, by induction on the string. -/
theorem StringAt.skipBlanksAt (string : StringAt mem p s) (enough : s.length < size)
    : skipBlanksAt mem size p = some (p + (s.takeWhile (· == blank)).length)
      ∧ StringAt mem (p + (s.takeWhile (· == blank)).length) (skipBlanks s) := by
  induction s generalizing p size with
  | nil =>
      obtain ⟨rounds, rfl⟩ := Nat.exists_eq_succ_of_ne_zero (by omega : size ≠ 0)
      have here : mem p = 0 := string.holds.1
      refine ⟨?_, string⟩
      rw [Gpgme.skipBlanksAt, if_neg (by rw [here]; decide)]
      rfl
  | cons c s ih =>
      rw [List.length_cons] at enough
      obtain ⟨rounds, rfl⟩ := Nat.exists_eq_succ_of_ne_zero (by omega : size ≠ 0)
      have here : mem p = c := string.holds.1
      have next : StringAt mem (p + 1) s := string.next
      by_cases same : c = blank
      · obtain ⟨skipped, left⟩ := ih next (by omega : s.length < rounds)
        rw [Gpgme.skipBlanksAt, here, if_pos same, skipped,
          List.takeWhile_cons_of_pos (by simpa using same), List.length_cons, ← Nat.add_assoc,
          Nat.add_right_comm p]
        rw [Nat.add_right_comm p] at left
        refine ⟨rfl, ?_⟩
        rwa [skipBlanks, List.dropWhile_cons_of_pos (by simpa using same)]
      · rw [Gpgme.skipBlanksAt, here, if_neg same,
          List.takeWhile_cons_of_neg (by simpa using same)]
        refine ⟨rfl, ?_⟩
        rwa [skipBlanks, List.dropWhile_cons_of_neg (by simpa using same)]

/-- The first blank behind a word, by induction on the word. -/
theorem StringAt.strchrBlankAt (string : StringAt mem p s) (enough : s.length < size)
    : strchrBlankAt mem size p
      = some (if skipWord s = [] then none else some (p + (word s).length)) := by
  induction s generalizing p size with
  | nil =>
      obtain ⟨rounds, rfl⟩ := Nat.exists_eq_succ_of_ne_zero (by omega : size ≠ 0)
      have here : mem p = 0 := string.holds.1
      rw [Gpgme.strchrBlankAt, here, if_neg (by decide), if_pos rfl]
      rfl
  | cons c s ih =>
      rw [List.length_cons] at enough
      obtain ⟨rounds, rfl⟩ := Nat.exists_eq_succ_of_ne_zero (by omega : size ≠ 0)
      have here : mem p = c := string.holds.1
      have next : StringAt mem (p + 1) s := string.next
      by_cases same : c = blank
      · rw [Gpgme.strchrBlankAt, here, if_pos same, skipWord,
          List.dropWhile_cons_of_neg (by simpa using same), if_neg (List.cons_ne_nil _ _), word,
          List.takeWhile_cons_of_neg (by simpa using same)]
        rfl
      · rw [Gpgme.strchrBlankAt, here, if_neg same,
          if_neg (string.plain c List.mem_cons_self), ih next (by omega), skipWord, skipWord,
          List.dropWhile_cons_of_pos (by simpa using same), word, word,
          List.takeWhile_cons_of_pos (by simpa using same), List.length_cons,
          ← Nat.add_assoc, Nat.add_right_comm p]

-----------------------------------------------------------------------------------------
-- The loop
-----------------------------------------------------------------------------------------

/-- Every pointer points to its field, which ends with a terminator. -/
def FieldsAt (mem : ByteMemory) (array : List Nat) (fields : List Str) : Prop :=
  List.Forall₂ (StringAt mem) array fields

/-- The last field, behind which there is no blank. -/
theorem splitFieldsFrom_last (last : skipWord s = []) (n : Nat)
    : splitFieldsFrom (n + 1) s = [word s] := by
  simp only [splitFieldsFrom, strchrBlank, last]

/-- A field with blanks behind it, where the next one starts behind these. -/
theorem splitFieldsFrom_behind {rest : Str} (behind : skipWord s = blank :: rest) (n : Nat)
    : splitFieldsFrom (n + 1) s
      = word s :: if skipBlanks rest = [] then [] else splitFieldsFrom n (skipBlanks rest) := by
  have skipped : skipBlanks (blank :: rest) = skipBlanks rest := rfl
  simp only [splitFieldsFrom, strchrBlank, behind, skipped]
  cases skipBlanks rest with
  | nil => rfl
  | cons c s' => rw [if_neg (List.cons_ne_nil c s')]

/-- The loop ends, by induction on the bound of its rounds. It sets entries for the fields of the
string that is left, and changes nothing outside of that.
-/
theorem splitLoop_fields {arraysize rounds : Nat} {array : List Nat} (string : StringAt mem p s)
    (enough : s.length < size) (round : s.length < rounds) (room : array.length ≤ arraysize)
    : ∃ mem' more,
        splitLoop size arraysize rounds mem p array = some (mem', array ++ more)
        ∧ FieldsAt mem' more (splitFieldsFrom (arraysize - array.length) s)
        ∧ ∀ addr, addr < p ∨ p + s.length < addr → mem' addr = mem addr := by
  induction rounds generalizing mem p array s with
  | zero => omega
  | succ rounds ih =>
      rw [splitLoop]
      by_cases full : array.length = arraysize
      · rw [if_pos full]
        refine ⟨mem, [], by rw [List.append_nil], ?_, fun _ _ => rfl⟩
        rw [full, Nat.sub_self]
        exact .nil
      obtain ⟨left, entries⟩ := Nat.exists_eq_succ_of_ne_zero
        (by omega : arraysize - array.length ≠ 0)
      rw [if_neg full, string.strchrBlankAt enough, entries]
      have whole : word s ++ skipWord s = s := List.takeWhile_append_dropWhile
      rcases (split_first blank s).2 with last | ⟨rest, behind⟩
      · change skipWord s = [] at last
        rw [last, List.append_nil] at whole
        rw [splitFieldsFrom_last last, if_pos last, whole]
        exact ⟨mem, [p], rfl, .cons string .nil, fun _ _ => rfl⟩
      change skipWord s = blank :: rest at behind
      rw [splitFieldsFrom_behind behind, if_neg (behind ▸ List.cons_ne_nil blank rest)]
      rw [behind] at whole
      have size_s : s.length = (word s).length + rest.length + 1 := by
        have lengths := congrArg List.length whole
        rw [List.length_append, List.length_cons] at lengths
        omega
      obtain ⟨field, after⟩ := StringAt.cut (whole.symm ▸ string : StringAt mem p (word s ++ _))
      obtain ⟨skipped, next⟩ := after.skipBlanksAt (by omega : rest.length < size)
      have size_rest : (rest.takeWhile (· == blank)).length + (skipBlanks rest).length
          = rest.length := by
        rw [← List.length_append, skipBlanks, List.takeWhile_append_dropWhile]
      generalize (rest.takeWhile (· == blank)).length = blanks at skipped next size_rest
      have outside : ∀ addr, addr < p ∨ p + s.length < addr →
          mem.store (p + (word s).length) 0 addr = mem addr :=
        fun addr away => if_neg (by omega)
      simp only [Option.bind_eq_bind, Option.bind_some, skipped]
      cases follows : skipBlanks rest with
      | nil =>
          rw [follows] at next
          rw [if_pos (show _ = _ from next.holds.1), if_pos rfl]
          exact ⟨_, [p], rfl, .cons field .nil, outside⟩
      | cons c s' =>
          rw [follows] at next size_rest
          have length_next : (array ++ [p]).length = array.length + 1 := by simp
          have roomNext : (array ++ [p]).length ≤ arraysize := by omega
          obtain ⟨mem', more, run, fields, frame⟩ := ih next (by omega) (by omega) roomNext
          have other : mem.store (p + (word s).length) 0 (p + (word s).length + 1 + blanks) ≠ 0 :=
            next.holds.1 ▸ next.plain c List.mem_cons_self
          rw [if_neg other, if_neg (List.cons_ne_nil c s')]
          refine ⟨mem', p :: more, by rw [run, List.append_assoc]; rfl, ?_, ?_⟩
          · have kept : StringAt mem' p (word s) :=
              field.congr fun addr _ below => frame addr (.inl (by omega))
            rw [length_next, ← Nat.sub_sub, entries] at fields
            exact .cons kept fields
          · intro addr away
            rw [frame addr (by omega), outside addr away]

-----------------------------------------------------------------------------------------
-- The fields are the runs
-----------------------------------------------------------------------------------------

/-- From the start of a field on, the fields are the runs, by induction on their number. -/
theorem splitFieldsFrom_runs {n : Nat} (start : ∃ c rest, s = c :: rest ∧ c ≠ blank)
    : splitFieldsFrom n s = (runs blank s).take n := by
  induction n generalizing s with
  | zero => rfl
  | succ n ih =>
      obtain ⟨c, tail, rfl, notBlank⟩ := start
      obtain ⟨plain, ends⟩ := split_first blank (c :: tail)
      change blank ∉ word (c :: tail) at plain
      have whole : word (c :: tail) ++ skipWord (c :: tail) = c :: tail :=
        List.takeWhile_append_dropWhile
      have filled : word (c :: tail) ≠ [] := by
        rw [word, List.takeWhile_cons_of_pos (by simpa using notBlank)]
        exact List.cons_ne_nil _ _
      rcases ends with last | ⟨rest, behind⟩
      · change skipWord (c :: tail) = [] at last
        rw [splitFieldsFrom_last last]
        rw [last, List.append_nil] at whole
        rw [whole] at plain filled ⊢
        rw [runs_single filled plain, List.take_succ_cons, List.take_nil]
      · change skipWord (c :: tail) = blank :: rest at behind
        rw [splitFieldsFrom_behind behind]
        rw [behind] at whole
        rw [← congrArg (runs blank) whole, runs_append_cons filled plain, List.take_succ_cons,
          ← runs_dropWhile blank rest, ← skipBlanks]
        rcases dropWhile_first blank rest with none | ⟨d, rest', follows, other⟩
        · rw [← skipBlanks] at none
          rw [none, if_pos rfl, runs_nil, List.take_nil]
        · rw [← skipBlanks] at follows
          rw [follows, if_neg (List.cons_ne_nil d rest'), ih ⟨d, rest', rfl, other⟩]

/-- A string with something other than blanks is split into its runs. -/
theorem splitFields_runs {n : Nat} (filled : ∃ c ∈ s, c ≠ blank)
    : splitFields s n = (runs blank s).take n := by
  rw [splitFields, ← runs_dropWhile]
  refine splitFieldsFrom_runs ((dropWhile_first blank s).resolve_left fun none => ?_)
  obtain ⟨c, member, other⟩ := filled
  exact other (by simpa using List.dropWhile_eq_nil_iff.mp none c member)

/-- A string of blanks has one field for the function, which is empty. -/
theorem splitFields_blank {n : Nat} (empty : ∀ c ∈ s, c = blank)
    : splitFields s (n + 1) = [[]] := by
  have skipped : skipBlanks s = [] := by
    rw [skipBlanks, List.dropWhile_eq_nil_iff]
    simpa using empty
  rw [splitFields, skipped]
  rfl

/-- The function in memory sets an entry for every field of the string. -/
theorem splitFieldsMemory_fields (string : CStringAt mem) (n : Nat)
    : ∃ mem' array, splitFieldsMemory mem string n = some (mem', array)
        ∧ FieldsAt mem' array (splitFields string.text n) := by
  have whole : StringAt mem string.addr string.text := ⟨string.holds, string.plain⟩
  obtain ⟨skipped, first⟩ := whole.skipBlanksAt (Nat.lt_succ_self _)
  have shorter : (skipBlanks string.text).length ≤ string.text.length :=
    List.length_dropWhile_le _ _
  obtain ⟨mem', array, run, fields, _⟩ :=
    splitLoop_fields first (Nat.lt_succ_of_le shorter) (Nat.lt_succ_of_le shorter)
      (show ([] : List Nat).length ≤ n from Nat.zero_le n)
  refine ⟨mem', array, ?_, fields⟩
  rw [splitFieldsMemory]
  simp only [Option.bind_eq_bind, Option.bind_some, skipped, run, List.nil_append]

/-- The result that is documented: entries for the first runs of the string, in order, each with
its terminator, and their number.
-/
def SplitsIntoRuns (mem : ByteMemory) (string : CStringAt mem) (n : Nat) : Prop :=
  ∃ mem' array, splitFieldsMemory mem string n = some (mem', array)
    ∧ array.length = min n (runs blank string.text).length
    ∧ FieldsAt mem' array ((runs blank string.text).take n)
    ∧ ∀ field ∈ (runs blank string.text).take n, field ≠ []

/-- The function stores the runs exactly where there is one. For an empty string and for one of
blanks it reports a field that is empty.
-/
theorem fields_are_runs_iff (string : CStringAt mem) {n : Nat} (positive : 1 ≤ n)
    : SplitsIntoRuns mem string n ↔ ∃ c ∈ string.text, c ≠ blank := by
  obtain ⟨mem', array, run, fields⟩ := splitFieldsMemory_fields string n
  constructor
  · rintro ⟨_, _, run', count, _⟩
    obtain ⟨-, rfl⟩ := Prod.mk.inj (Option.some.inj (run.symm.trans run'))
    by_contra empty
    push Not at empty
    obtain ⟨n, rfl⟩ := Nat.exists_eq_succ_of_ne_zero (by omega : n ≠ 0)
    have one := fields.length_eq
    rw [splitFields_blank empty, count, runs_eq_nil_iff.mpr empty] at one
    simp at one
  · intro filled
    rw [splitFields_runs filled] at fields
    refine ⟨mem', array, run, ?_, fields, fun _ member => ?_⟩
    · rw [fields.length_eq, List.length_take]
    · exact ne_nil_of_mem_runs (List.mem_of_mem_take member)

/-- `"a  bc "`, at the address 0. -/
def twoFieldsString : CStringAt (fun addr => ([97, 32, 32, 98, 99, 32] : Str).getD addr 0) where
  addr := 0
  text := [97, 32, 32, 98, 99, 32]
  holds := ⟨rfl, rfl, rfl, rfl, rfl, rfl, rfl, trivial⟩
  plain := by decide

/-- Two fields with blanks around them. -/
theorem two_fields_split
    : 1 ≤ 5 ∧ (∃ c ∈ twoFieldsString.text, c ≠ blank)
      ∧ SplitsIntoRuns _ twoFieldsString 5 :=
  have filled : ∃ c ∈ twoFieldsString.text, c ≠ blank := ⟨97, by decide, by decide⟩
  ⟨by decide, filled, (fields_are_runs_iff twoFieldsString (by decide : 1 ≤ 5)).mpr filled⟩

/-- The empty string, at the address 0. -/
def emptyString : CStringAt (fun _ => 0) where
  addr := 0
  text := []
  holds := ⟨rfl, trivial⟩
  plain := fun _ member => absurd member List.not_mem_nil

/-- An empty string has no runs, but the function returns 1. -/
theorem empty_string_one_field : ¬ SplitsIntoRuns _ emptyString 1 := by
  rintro ⟨mem', array, run, count, -⟩
  have entries : splitFieldsMemory _ emptyString 1 = some (fun _ => 0, [0]) := rfl
  obtain ⟨-, rfl⟩ := Prod.mk.inj (Option.some.inj (entries.symm.trans run))
  exact absurd count (by decide)

end Gpgme
