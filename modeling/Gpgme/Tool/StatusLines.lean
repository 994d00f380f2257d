import Gpgme.FieldSplitting
import Gpgme.Lib.TracedMemory

/-! `gt_write_status` of `gpgme-tool.c`, which joins texts in a buffer on its stack. -/

namespace Gpgme

open CString ByteMemory

-----------------------------------------------------------------------------------------
-- The function
-----------------------------------------------------------------------------------------

/-- `sizeof (buf)`. -/
def statusBufferSize : Nat := 950

/-- The local variables of the function. -/
structure StatusBuffer where
  mem : TracedMemory
  p : Nat
  n : Nat

/-- `*p++ = c; n++;` -/
def StatusBuffer.put (s : StatusBuffer) (c : UInt8) : StatusBuffer where
  mem := s.mem.store s.p c
  p := s.p + 1
  n := s.n + 1

/-- The loop that copies a text. -/
def StatusBuffer.copy (s : StatusBuffer) : Str → StatusBuffer
  | [] => s
  | c :: text => if s.n < statusBufferSize - 2 then (s.put c).copy text else s

/-- A round of the loop over the arguments. -/
def StatusBuffer.write (s : StatusBuffer) (text : Str) : StatusBuffer :=
  (if s.n ≠ 0 then s.put blank else s).copy text

/-- `gt_write_status`, as far as the string that it leaves at `buf`. -/
def gtWriteStatus (mem : TracedMemory) (buf : Nat) (texts : List Str) : TracedMemory :=
  let s := texts.foldl StatusBuffer.write { mem, p := buf, n := 0 }
  s.mem.store s.p 0

-----------------------------------------------------------------------------------------
-- The line in the buffer
-----------------------------------------------------------------------------------------

variable {mem : TracedMemory} {buf : Nat} {s : StatusBuffer} {line text : Str}

/-- The line has been written, one position after the other. -/
structure StatusBuffer.Shows (mem : TracedMemory) (buf : Nat) (s : StatusBuffer) (line : Str)
    : Prop where
  bytes : mem.bytes.Writes s.mem.bytes buf line
  cursor : s.p = buf + line.length
  count : s.n = line.length
  positions : s.mem.writes = mem.writes ++ (List.range line.length).map (buf + ·)

/-- One more character of the line. -/
theorem StatusBuffer.Shows.put (shows : s.Shows mem buf line) (c : UInt8)
    : (s.put c).Shows mem buf (line ++ [c]) := by
  obtain ⟨bytes, cursor, count, positions⟩ := shows
  have one : (line ++ [c]).length = line.length + 1 := by simp
  refine ⟨?_, by rw [one, ← Nat.add_assoc, ← cursor]; rfl, by rw [one, ← count]; rfl, ?_⟩
  · change mem.bytes.Writes (s.mem.bytes.store s.p c) buf (line ++ [c])
    rw [cursor]
    exact bytes.store c
  · change s.mem.writes ++ [s.p] = _
    rw [one, List.range_succ, List.map_append, positions, cursor, List.append_assoc]
    rfl

/-- A text is copied as far as the limit allows, by induction on it. -/
theorem StatusBuffer.Shows.copy (shows : s.Shows mem buf line) (text : Str)
    : (s.copy text).Shows mem buf (line ++ text.take (948 - line.length)) := by
  induction text generalizing s line with
  | nil => simpa [StatusBuffer.copy] using shows
  | cons c text ih =>
      rw [StatusBuffer.copy, shows.count]
      by_cases room : line.length < statusBufferSize - 2
      · have left : 948 - line.length = 948 - (line ++ [c]).length + 1 := by
          rw [List.length_append, List.length_singleton]
          unfold statusBufferSize at room
          omega
        have copied := ih (shows.put c)
        rw [if_pos room, left, List.take_succ_cons]
        rwa [List.append_assoc] at copied
      · have full : 948 - line.length = 0 := by
          unfold statusBufferSize at room
          omega
        rw [if_neg room, full, List.take_zero, List.append_nil]
        exact shows

/-- What a round makes of the line. -/
def appendText (line text : Str) : Str :=
  let line := if line = [] then line else line ++ [blank]
  line ++ text.take (948 - line.length)

/-- The line that the rounds make. -/
def statusLine (texts : List Str) : Str := texts.foldl appendText []

/-- One more text of the line. -/
theorem StatusBuffer.Shows.write (shows : s.Shows mem buf line) (text : Str)
    : (s.write text).Shows mem buf (appendText line text) := by
  rw [StatusBuffer.write, appendText, shows.count]
  by_cases empty : line = []
  · rw [if_pos empty, if_neg (by simp [empty])]
    exact shows.copy text
  · rw [if_neg empty, if_pos (by simpa using empty)]
    exact (shows.put blank).copy text

/-- The rounds show the line that they make, by induction on the texts. -/
theorem StatusBuffer.Shows.run (shows : s.Shows mem buf line) (texts : List Str)
    : (texts.foldl StatusBuffer.write s).Shows mem buf (texts.foldl appendText line) := by
  induction texts generalizing s line with
  | nil => exact shows
  | cons text texts ih => exact ih (shows.write text)

/-- A line of plain texts is plain. -/
theorem appendText_plain (plain : ∀ c ∈ line, c ≠ 0) (plainText : ∀ c ∈ text, c ≠ 0)
    : ∀ c ∈ appendText line text, c ≠ 0 := by
  intro c member
  rw [appendText] at member
  rcases List.mem_append.mp member with member | member
  · split at member
    · exact plain c member
    · rcases List.mem_append.mp member with member | member
      · exact plain c member
      · rw [List.mem_singleton.mp member]
        decide
  · exact plainText c (List.mem_of_mem_take member)

/-- The status line of plain texts is plain. -/
theorem statusLine_plain {texts : List Str} (plain : ∀ c ∈ line, c ≠ 0)
    (plainTexts : ∀ text ∈ texts, ∀ c ∈ text, c ≠ 0)
    : ∀ c ∈ texts.foldl appendText line, c ≠ 0 := by
  induction texts generalizing line with
  | nil => exact plain
  | cons text texts ih =>
      obtain ⟨first, others⟩ := List.forall_mem_cons.mp plainTexts
      exact ih (appendText_plain plain first) others

/-- The function leaves the line as a string, and has written its bytes and the terminator. -/
theorem gtWriteStatus_line (mem : TracedMemory) (buf : Nat) {texts : List Str}
    (plain : ∀ text ∈ texts, ∀ c ∈ text, c ≠ 0)
    : StringAt (gtWriteStatus mem buf texts).bytes buf (statusLine texts)
      ∧ (gtWriteStatus mem buf texts).writes
        = mem.writes ++ (List.range ((statusLine texts).length + 1)).map (buf + ·) := by
  have start : StatusBuffer.Shows mem buf { mem, p := buf, n := 0 } [] :=
    ⟨writes_nil _ _, rfl, rfl, by simp⟩
  have shows := (start.run texts).put 0
  refine ⟨⟨shows.bytes.holds, statusLine_plain (by simp) plain⟩, ?_⟩
  have positions := shows.positions
  rwa [List.length_append, List.length_singleton] at positions

/-- There is one string at an address, by induction on it. -/
theorem StringAt.unique {mem : ByteMemory} {p : Nat} {s t : Str} (string : StringAt mem p s)
    (other : StringAt mem p t)
    : s = t := by
  induction s generalizing p t with
  | nil =>
      cases t with
      | nil => rfl
      | cons d t =>
          have here : mem p = 0 := string.holds.1
          exact absurd (other.holds.1.symm.trans here) (other.plain d List.mem_cons_self)
  | cons c s ih =>
      have here : mem p = c := string.holds.1
      cases t with
      | nil => exact absurd (here.symm.trans other.holds.1) (string.plain c List.mem_cons_self)
      | cons d t =>
          have same : c = d := here.symm.trans other.holds.1
          rw [same, ih string.next other.next]

-----------------------------------------------------------------------------------------
-- The texts that are joined
-----------------------------------------------------------------------------------------

/-- The texts joined by single blanks. -/
def joinedTexts (texts : List Str) : Str := [blank].intercalate texts

/-- The texts from the first one on that is not empty. -/
def fromFilled (texts : List Str) : List Str := texts.dropWhile (· = [])

/-- The number of texts that follow behind at least 948 characters, where the ones in front of all
of them make up a length.
-/
def textsBehind : Nat → List Str → Nat
  | _, [] => 0
  | length, text :: texts =>
      (if 948 ≤ length then 1 else 0) + textsBehind (length + 1 + text.length) texts

/-- The number of texts that follow when the buffer is full. -/
def textsBehindFull (texts : List Str) : Nat :=
  match fromFilled texts with
  | [] => 0
  | first :: texts => textsBehind first.length texts

/-- The first text has no blank in front. -/
theorem joinedTexts_cons (first : Str) (texts : List Str)
    : joinedTexts (first :: texts) = first ++ texts.flatMap (blank :: ·) := by
  unfold joinedTexts
  induction texts generalizing first with
  | nil => rw [List.intercalate_singleton, List.flatMap_nil, List.append_nil]
  | cons text texts ih =>
      rw [List.intercalate_cons_cons, ih, List.flatMap_cons, List.append_assoc,
        List.singleton_append, List.cons_append]

/-- Texts are left behind only by a long line. -/
theorem textsBehind_length {length : Nat} {texts : List Str} (behind : 0 < textsBehind length texts)
    : 948 < length + (texts.flatMap (blank :: ·)).length := by
  induction texts generalizing length with
  | nil => exact absurd behind (Nat.lt_irrefl 0)
  | cons text texts ih =>
      rw [List.flatMap_cons, List.length_append, List.length_cons]
      by_cases full : 948 ≤ length
      · omega
      · rw [textsBehind, if_neg full, Nat.zero_add] at behind
        have later := ih behind
        omega

/-- The rounds behind a text that is not empty, by induction on the texts. Every one that follows
when the buffer is full leaves its separator.
-/
theorem foldl_appendText {joined : Str} {behind : Nat} (filled : joined ≠ [])
    (full : 0 < behind → 948 ≤ joined.length) (texts : List Str)
    : texts.foldl appendText (joined.take 948 ++ List.replicate behind blank)
      = (joined ++ texts.flatMap (blank :: ·)).take 948
        ++ List.replicate (behind + textsBehind joined.length texts) blank := by
  induction texts generalizing joined behind with
  | nil => rw [List.foldl_nil, List.flatMap_nil, List.append_nil, textsBehind, Nat.add_zero]
  | cons text texts ih =>
      have next : (joined ++ blank :: text).length = joined.length + 1 + text.length := by
        rw [List.length_append, List.length_cons]
        omega
      have started : joined.take 948 ++ List.replicate behind blank ≠ [] := by
        have positive := List.length_pos_iff.mpr filled
        rw [← List.length_pos_iff, List.length_append, List.length_take]
        omega
      rw [List.foldl_cons, appendText, if_neg started, List.flatMap_cons, ← List.append_assoc,
        textsBehind, ← next]
      by_cases room : joined.length < 948
      · have none : behind = 0 := by
          by_contra some
          have large := full (Nat.pos_of_ne_zero some)
          omega
        subst none
        have whole : joined.take 948 = joined := List.take_of_length_le (by omega)
        have fits : joined ++ [blank] ++ text.take (948 - (joined ++ [blank]).length)
            = (joined ++ blank :: text).take 948 ++ List.replicate 0 blank := by
          have front : (joined ++ [blank]).take 948 = joined ++ [blank] :=
            List.take_of_length_le (by rw [List.length_append, List.length_singleton]; omega)
          have split : joined ++ blank :: text = joined ++ [blank] ++ text := by simp
          rw [List.replicate_zero, List.append_nil, split, List.take_append, front]
        rw [whole, List.replicate_zero, List.append_nil, fits, if_neg (by omega),
          ih (by simp) (fun positive => absurd positive (Nat.lt_irrefl 0)), Nat.zero_add,
          Nat.zero_add]
      · have cut : (joined ++ blank :: text).take 948 = joined.take 948 :=
          List.take_append_of_le_length (by omega)
        have long : (joined.take 948 ++ List.replicate behind blank ++ [blank]).length ≥ 948 := by
          rw [List.length_append, List.length_append, List.length_take]
          omega
        have separator : joined.take 948 ++ List.replicate behind blank ++ [blank]
            ++ text.take (948 - (joined.take 948 ++ List.replicate behind blank ++ [blank]).length)
            = (joined ++ blank :: text).take 948 ++ List.replicate (behind + 1) blank := by
          rw [Nat.sub_eq_zero_of_le long, List.take_zero, List.append_nil, cut, List.append_assoc,
            List.replicate_succ']
        rw [separator, if_pos (by omega), ih (by simp) (fun _ => by omega), Nat.add_assoc]

/-- The line in terms of the texts that are joined. -/
theorem statusLine_joined (texts : List Str)
    : statusLine texts
      = (joinedTexts (fromFilled texts)).take 948
        ++ List.replicate (textsBehindFull texts) blank := by
  induction texts with
  | nil => rfl
  | cons first texts ih =>
      by_cases empty : first = []
      · have skipped : fromFilled (first :: texts) = fromFilled texts :=
          List.dropWhile_cons_of_pos (by simpa using empty)
        rw [textsBehindFull, skipped, ← textsBehindFull, ← ih, empty]
        rfl
      · have start : fromFilled (first :: texts) = first :: texts :=
          List.dropWhile_cons_of_neg (by simpa using empty)
        have run := foldl_appendText empty
          (fun positive : 0 < 0 => absurd positive (Nat.lt_irrefl 0)) texts
        rw [List.replicate_zero, List.append_nil, Nat.zero_add] at run
        rw [textsBehindFull, start, joinedTexts_cons]
        dsimp only
        rw [← run, statusLine, List.foldl_cons, appendText, if_pos rfl, List.nil_append]
        rfl

/-- Empty texts in front leave only their separators among what is joined. -/
theorem joinedTexts_filled (texts : List Str)
    : ∃ empty,
        joinedTexts texts = List.replicate empty blank ++ joinedTexts (fromFilled texts)
        ∧ (empty = 0 ↔ texts.length ≤ 1 ∨ texts.head? ≠ some []) := by
  induction texts with
  | nil => exact ⟨0, rfl, by simp⟩
  | cons first texts ih =>
      by_cases empty : first = []
      · have skipped : fromFilled (first :: texts) = fromFilled texts :=
          List.dropWhile_cons_of_pos (by simpa using empty)
        rw [skipped, empty]
        cases texts with
        | nil => exact ⟨0, rfl, by simp⟩
        | cons second texts =>
            obtain ⟨count, joined, -⟩ := ih
            refine ⟨count + 1, ?_, by simp⟩
            rw [joinedTexts, List.intercalate_cons_cons, ← joinedTexts, joined,
              List.replicate_succ]
            rfl
      · have start : fromFilled (first :: texts) = first :: texts :=
          List.dropWhile_cons_of_neg (by simpa using empty)
        exact ⟨0, by rw [start]; rfl, by simp [empty]⟩

-----------------------------------------------------------------------------------------
-- When the line fits
-----------------------------------------------------------------------------------------

/-- Where elements in front do not change a beginning, it consists of these elements. -/
theorem take_eq_replicate {α : Type} {a : α} {count n : Nat} {l : List α} (positive : 0 < count)
    (same : l.take n = (List.replicate count a ++ l).take n)
    : l.take n = List.replicate n a := by
  have each : ∀ i < n, l[i]? = some a := by
    intro i
    induction i using Nat.strongRecOn with
    | ind i ih =>
        intro below
        have moved : l[i]? = (List.replicate count a ++ l)[i]? := by
          have taken := congrArg (·[i]?) same
          simpa only [List.getElem?_take_of_lt below] using taken
        rw [moved]
        by_cases front : i < count
        · rw [List.getElem?_append_left (by rwa [List.length_replicate]),
            List.getElem?_replicate, if_pos front]
        · rw [List.getElem?_append_right (by rw [List.length_replicate]; omega),
            List.length_replicate]
          exact ih (i - count) (by omega) (by omega)
  refine List.ext_getElem? fun i => ?_
  rw [List.getElem?_take, List.getElem?_replicate]
  split
  · next below => exact each i below
  · rfl

/-- Equal elements in front do not change a prefix of them. -/
theorem replicate_append_take {α : Type} {a : α} {n : Nat} {l : List α} (count : Nat)
    (same : l.take n = List.replicate n a)
    : (List.replicate count a ++ l).take n = List.replicate n a := by
  rw [List.take_append, List.length_replicate, List.take_replicate]
  have rest : l.take (n - count) = List.replicate (n - count) a := by
    have shorter := congrArg (List.take (n - count)) same
    rwa [List.take_take, List.take_replicate, Nat.min_eq_left (Nat.sub_le n count)] at shorter
  rw [rest, List.replicate_append_replicate]
  congr 1
  omega

/-- A cut line with separators behind it is the beginning of a text exactly where there is no
separator too many, and elements that the text has in front make no difference.
-/
theorem cut_line_iff {α : Type} {n behind : Nat} {l : List α} (count : Nat) (a : α)
    (full : 0 < behind → n < l.length)
    : ((l.take n ++ List.replicate behind a).length ≤ n + 1
        ∧ ∃ k, n ≤ k ∧ l.take n ++ List.replicate behind a
            = (List.replicate count a ++ l).take k)
      ↔ (count = 0 ∨ l.take n = List.replicate n a)
        ∧ (behind = 0 ∨ (behind = 1 ∧ (List.replicate count a ++ l)[n]? = some a)) := by
  have taken : (l.take n).take n = l.take n := by rw [List.take_take, Nat.min_self]
  have length : 0 < behind → (l.take n ++ List.replicate behind a).length = n + behind := by
    intro positive
    have long := full positive
    rw [List.length_append, List.length_take, List.length_replicate]
    omega
  constructor
  · rintro ⟨short, k, most, same⟩
    refine ⟨?_, ?_⟩
    · by_contra other
      rw [not_or] at other
      refine other.2 (take_eq_replicate (Nat.pos_of_ne_zero other.1) ?_)
      have front : (l.take n ++ List.replicate behind a).take n = l.take n := by
        rcases Nat.eq_zero_or_pos behind with rfl | positive
        · rw [List.replicate_zero, List.append_nil, taken]
        · have long := full positive
          rw [List.take_append_of_le_length (by rw [List.length_take]; omega), taken]
      rw [← front, same, List.take_take, Nat.min_eq_left most]
    · rcases Nat.eq_zero_or_pos behind with none | positive
      · exact .inl none
      · have one : behind = 1 := by
          have exact' := length positive
          omega
        refine .inr ⟨one, ?_⟩
        have long := full positive
        have last : (l.take n ++ List.replicate behind a)[n]? = some a := by
          rw [List.getElem?_append_right (by rw [List.length_take]; omega), one, List.length_take,
            Nat.min_eq_left (by omega), Nat.sub_self]
          rfl
        have longer : n < k := by
          have lengths := congrArg List.length same
          rw [length positive, List.length_take] at lengths
          omega
        rw [← last, same, List.getElem?_take_of_lt longer]
  · rintro ⟨front, separator⟩
    have start : (List.replicate count a ++ l).take n = l.take n := by
      rcases front with rfl | blanks
      · rw [List.replicate_zero, List.nil_append]
      · rw [replicate_append_take count blanks, blanks]
    rcases separator with rfl | ⟨rfl, last⟩
    · rw [List.replicate_zero, List.append_nil]
      exact ⟨by rw [List.length_take]; omega, n, le_rfl, start.symm⟩
    · refine ⟨by rw [length Nat.one_pos], n + 1, Nat.le_succ n, ?_⟩
      rw [List.take_add_one, start, last]
      rfl

/-- The line fits its buffer and is the one of the texts, cut off where it is too long. -/
def StatusLineFits (mem : TracedMemory) (buf : Nat) (texts : List Str) : Prop :=
  (∀ addr ∈ (gtWriteStatus mem buf texts).writes, buf ≤ addr ∧ addr ≤ buf + 949)
  ∧ ∃ line length, 948 ≤ length ∧ line = (joinedTexts texts).take length
      ∧ StringAt (gtWriteStatus mem buf texts).bytes buf line

/-- The texts for which a line can be written. -/
def TextsFit (texts : List Str) : Prop :=
  (texts.length ≤ 1 ∨ texts.head? ≠ some []
    ∨ (joinedTexts (fromFilled texts)).take 948 = List.replicate 948 blank)
  ∧ (textsBehindFull texts = 0
    ∨ (textsBehindFull texts = 1 ∧ (joinedTexts texts)[948]? = some blank))

/-- Texts are left behind a full buffer only by a long line. -/
theorem textsBehindFull_length {texts : List Str} (behind : 0 < textsBehindFull texts)
    : 948 < (joinedTexts (fromFilled texts)).length := by
  unfold textsBehindFull at behind
  split at behind
  · exact absurd behind (Nat.lt_irrefl 0)
  · next first rest start =>
      rw [start, joinedTexts_cons, List.length_append]
      exact textsBehind_length behind

/-- A status line fits exactly for these texts: the first one is not empty, at most one follows when
the buffer is full, and then the separator in front of it is where the line is cut.
-/
theorem statusLineFits_iff (mem : TracedMemory) (buf : Nat) {texts : List Str}
    (fresh : mem.writes = []) (plain : ∀ text ∈ texts, ∀ c ∈ text, c ≠ 0)
    : StatusLineFits mem buf texts ↔ TextsFit texts := by
  obtain ⟨string, writes⟩ := gtWriteStatus_line mem buf plain
  obtain ⟨empty, joined, noEmpty⟩ := joinedTexts_filled texts
  have full : 0 < textsBehindFull texts → 948 < (joinedTexts (fromFilled texts)).length :=
    textsBehindFull_length
  have cut := cut_line_iff empty blank full
  rw [← statusLine_joined, ← joined, noEmpty, or_assoc] at cut
  rw [TextsFit, ← cut]
  refine and_congr ?_ ?_
  · rw [writes, fresh, List.nil_append, List.forall_mem_map]
    constructor
    · intro inside
      have last := (inside (statusLine texts).length (List.mem_range.mpr (Nat.lt_succ_self _))).2
      omega
    · intro short position member
      have below := List.mem_range.mp member
      omega
  · constructor
    · rintro ⟨line, length, most, rfl, other⟩
      exact ⟨length, most, string.unique other⟩
    · rintro ⟨length, most, same⟩
      exact ⟨_, length, most, same, string⟩

/-- A memory of zeros that has not been accessed. -/
def freshMemory : TracedMemory := { bytes := fun _ => 0 }

/-- The texts of an engine that is found. -/
def engineTexts : List Str := [str "OpenPGP", str "/usr/bin/gpg", str "2.2.20", str "1.4.0"]

/-- A line as the engine sends it fits. -/
theorem engine_line_fits
    : freshMemory.writes = [] ∧ (∀ text ∈ engineTexts, ∀ c ∈ text, c ≠ 0)
      ∧ StatusLineFits freshMemory 0 engineTexts :=
  have plain : ∀ text ∈ engineTexts, ∀ c ∈ text, c ≠ 0 := by decide
  have fit : TextsFit engineTexts := ⟨.inr (.inl (by decide)), .inl (by decide)⟩
  ⟨rfl, plain, (statusLineFits_iff freshMemory 0 rfl plain).mpr fit⟩

/-- A file name of 940 characters. -/
def longPath : Str := List.replicate 940 47

def longPathTexts : List Str := [str "OpenPGP", longPath, str "2.2.20", str "1.4.0"]

/-- The separator of the last text is the last byte of the buffer, and the terminator is written
behind it.
-/
theorem long_path_line_too_long : ¬StatusLineFits freshMemory 0 longPathTexts := by
  rintro ⟨inside, -⟩
  have plain : ∀ text ∈ longPathTexts, ∀ c ∈ text, c ≠ 0 := by
    have path : ∀ c ∈ longPath, c ≠ 0 := by
      intro c member
      rw [List.eq_of_mem_replicate member]
      decide
    exact List.forall_mem_cons.mpr ⟨by decide, List.forall_mem_cons.mpr ⟨path, by decide⟩⟩
  have behind : textsBehindFull longPathTexts = 2 := by
    have start : fromFilled longPathTexts = longPathTexts := rfl
    have path : longPath.length = 940 := List.length_replicate
    rw [textsBehindFull, start, longPathTexts]
    dsimp only [textsBehind]
    rw [path]
    decide
  have long := textsBehindFull_length (behind ▸ Nat.two_pos : 0 < textsBehindFull longPathTexts)
  have length : (statusLine longPathTexts).length = 950 := by
    rw [statusLine_joined, behind, List.length_append, List.length_take, List.length_replicate]
    omega
  obtain ⟨-, writes⟩ := gtWriteStatus_line freshMemory 0 plain
  rw [length] at writes
  have last : 950 ∈ (gtWriteStatus freshMemory 0 longPathTexts).writes := by
    rw [writes]
    simp
  exact absurd (inside 950 last).2 (by decide)

end Gpgme
