import Gpgme.Lib.CString

/-! Lines of a byte stream that arrives in chunks. -/

namespace Lines

/-- The code of a line feed. -/
def lineFeed : UInt8 := 10

/-- The lines that end in the given bytes, without their line feeds, when `pending` are the
bytes of the line that has already begun.
-/
def complete : Str → Str → List Str
  | _, [] => []
  | pending, c :: rest =>
      if c = lineFeed then pending :: complete [] rest else complete (pending ++ [c]) rest

/-- The bytes of the line that has not ended. -/
def unfinished : Str → Str → Str
  | pending, [] => pending
  | pending, c :: rest =>
      if c = lineFeed then unfinished [] rest else unfinished (pending ++ [c]) rest

/-- Where a stream is cut does not matter for its lines. -/
theorem complete_append (pending first second : Str)
    : complete pending (first ++ second)
      = complete pending first ++ complete (unfinished pending first) second := by
  induction first generalizing pending with
  | nil => rfl
  | cons c rest ih =>
      simp only [List.cons_append, complete, unfinished]
      split
      · rw [ih, List.cons_append]
      · rw [ih]

/-- The rest behind two pieces. -/
theorem unfinished_append (pending first second : Str)
    : unfinished pending (first ++ second) = unfinished (unfinished pending first) second := by
  induction first generalizing pending with
  | nil => rfl
  | cons c rest ih =>
      simp only [List.cons_append, unfinished]
      split
      · rw [ih]
      · rw [ih]

/-- A line that ends comes before the lines of what follows it. -/
theorem complete_line {line : Str} (plain : lineFeed ∉ line) (pending rest : Str)
    : complete pending (line ++ lineFeed :: rest) = (pending ++ line) :: complete [] rest := by
  induction line generalizing pending with
  | nil => simp [complete]
  | cons c more ih =>
      obtain ⟨first, later⟩ := not_or.mp (mt List.mem_cons.mpr plain)
      rw [List.cons_append, complete, if_neg (Ne.symm first), ih later, List.append_assoc,
        List.singleton_append]

/-- A line feed ends what was pending. -/
theorem unfinished_line (line pending rest : Str)
    : unfinished pending (line ++ lineFeed :: rest) = unfinished [] rest := by
  rw [unfinished_append, unfinished, if_pos rfl]

/-- There are as many lines as line feeds. -/
theorem length_complete (pending bytes : Str)
    : (complete pending bytes).length = bytes.count lineFeed := by
  induction bytes generalizing pending with
  | nil => rfl
  | cons c rest ih =>
      unfold complete
      split
      · next ends => rw [List.length_cons, ih, ends, List.count_cons_self]
      · next goes => rw [ih, List.count_cons_of_ne goes]

/-- Without a line feed no line ends. -/
theorem complete_plain {text : Str} (plain : lineFeed ∉ text) (pending : Str)
    : complete pending text = [] := by
  apply List.eq_nil_of_length_eq_zero
  rw [length_complete]
  exact List.count_eq_zero.mpr plain

/-- A piece without a line feed is added to what was pending. -/
theorem unfinished_plain {text : Str} (plain : lineFeed ∉ text) (pending : Str)
    : unfinished pending text = pending ++ text := by
  induction text generalizing pending with
  | nil => simp [unfinished]
  | cons c rest ih =>
      obtain ⟨first, later⟩ := not_or.mp (mt List.mem_cons.mpr plain)
      rw [unfinished, if_neg (Ne.symm first), ih later, List.append_assoc,
        List.singleton_append]

/-- The complete lines consist of bytes that were read. -/
theorem mem_complete {pending bytes line : Str} {c : UInt8}
    (found : line ∈ complete pending bytes) (member : c ∈ line)
    : c ∈ pending ++ bytes := by
  induction bytes generalizing pending with
  | nil => simp [complete] at found
  | cons b rest ih =>
      unfold complete at found
      split at found
      · rcases List.mem_cons.mp found with rfl | found
        · exact List.mem_append_left _ member
        · have later := ih found
          simp_all
      · have later := ih found
        simp_all

/-- So does the line that has not ended. -/
theorem mem_unfinished {pending bytes : Str} {c : UInt8} (member : c ∈ unfinished pending bytes)
    : c ∈ pending ++ bytes := by
  induction bytes generalizing pending with
  | nil => simpa [unfinished] using member
  | cons b rest ih =>
      unfold unfinished at member
      split at member
      · have later := ih member
        simp_all
      · have later := ih member
        simp_all

/-- The rest has no line feed. -/
theorem lineFeed_notMem_unfinished {pending : Str} (plain : lineFeed ∉ pending) (bytes : Str)
    : lineFeed ∉ unfinished pending bytes := by
  induction bytes generalizing pending with
  | nil => exact plain
  | cons c rest ih =>
      unfold unfinished
      split
      · exact ih List.not_mem_nil
      · next goes => exact ih (by simp [plain, Ne.symm goes])

/-- A complete line is shorter than what was read, for its line feed is not in it. -/
theorem length_lt_of_mem_complete {pending bytes line : Str}
    (found : line ∈ complete pending bytes)
    : line.length < pending.length + bytes.length := by
  induction bytes generalizing pending with
  | nil => simp [complete] at found
  | cons c rest ih =>
      unfold complete at found
      rw [List.length_cons]
      split at found
      · rcases List.mem_cons.mp found with rfl | found
        · omega
        · have later := ih found
          simp only [List.length_nil] at later
          omega
      · have later := ih found
        rw [List.length_append, List.length_singleton] at later
        omega

/-- The rest is no longer than what was pending and read. -/
theorem length_unfinished_le (pending bytes : Str)
    : (unfinished pending bytes).length ≤ pending.length + bytes.length := by
  induction bytes generalizing pending with
  | nil => exact le_rfl
  | cons c rest ih =>
      unfold unfinished
      rw [List.length_cons]
      split
      · have later := ih []
        rw [List.length_nil] at later
        omega
      · have later := ih (pending ++ [c])
        rw [List.length_append, List.length_singleton] at later
        omega

/-- The first line starts with what was pending. -/
theorem pending_starts (pending bytes : Str)
    : ∃ more others,
        complete pending bytes ++ [unfinished pending bytes] = (pending ++ more) :: others := by
  induction bytes generalizing pending with
  | nil => exact ⟨[], [], by simp [complete, unfinished]⟩
  | cons c rest ih =>
      unfold complete unfinished
      split
      · exact ⟨[], _, by rw [List.append_nil]; rfl⟩
      · obtain ⟨more, others, first⟩ := ih (pending ++ [c])
        exact ⟨c :: more, others, by simpa using first⟩

end Lines
