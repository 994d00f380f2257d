import Gpgme.Operation.Notations

/-! The notations that a sequence of status lines stands for, and those that are assembled from
it line by line.
-/

namespace Gpgme

open CString

-----------------------------------------------------------------------------------------
-- What the lines stand for
-----------------------------------------------------------------------------------------

/-- A line that starts a new notation. -/
def StatusLine.startsNotation (line : StatusLine) : Bool :=
  line.code == .notationName || line.code == .policyUrl

/-- The decoded chunks in front of the next notation. -/
def valueChunks (lines : List StatusLine) : List Str :=
  ((lines.takeWhile fun line => !line.startsNotation).filter
    fun line => line.code == .notationData).map fun line => decodePercentString line.args

/-- The strings of a notation; a policy URL has no name. -/
structure NotationText where
  name : Option Str
  value : Option Str
deriving DecidableEq

/-- The notation that starts with a line in front of some more lines. -/
def StatusLine.notationText (line : StatusLine) (behind : List StatusLine) : NotationText :=
  if line.code = .notationName then
    { name := some (decodePercentString (word line.args))
      value := if valueChunks behind = [] then none else some (valueChunks behind).flatten }
  else
    { name := none, value := some (decodePercentString (word line.args)) }

/-- The notations of a sequence of lines, one for each line that starts one. -/
def notationTexts : List StatusLine → List NotationText
  | [] => []
  | line :: rest =>
      if line.startsNotation then line.notationText rest :: notationTexts rest
      else notationTexts rest

-----------------------------------------------------------------------------------------
-- One more line
-----------------------------------------------------------------------------------------

/-- The strings of a notation with a further chunk of its value. -/
def NotationText.addChunk (text : NotationText) (chunk : Str) : NotationText :=
  { text with value := some (text.value.getD [] ++ chunk) }

/-- No chunk belongs to the notation behind its start. -/
theorem valueChunks_starts {line : StatusLine} (starts : line.startsNotation = true)
    (rest : List StatusLine)
    : valueChunks (line :: rest) = [] := by
  simp [valueChunks, starts]

/-- A NOTATION_DATA line is a chunk. -/
theorem valueChunks_data {line : StatusLine} (code : line.code = .notationData)
    (rest : List StatusLine)
    : valueChunks (line :: rest) = decodePercentString line.args :: valueChunks rest := by
  simp [valueChunks, StatusLine.startsNotation, code]

/-- Other lines are no chunks. -/
theorem valueChunks_other {line : StatusLine} (starts : line.startsNotation = false)
    (code : line.code ≠ .notationData) (rest : List StatusLine)
    : valueChunks (line :: rest) = valueChunks rest := by
  simp [valueChunks, starts, code]

/-- A line that gives no chunk adds none to the lines in front of it. -/
theorem valueChunks_append_other {line : StatusLine} (code : line.code ≠ .notationData)
    (lines : List StatusLine)
    : valueChunks (lines ++ [line]) = valueChunks lines := by
  induction lines with
  | nil =>
      cases starts : line.startsNotation with
      | true => exact valueChunks_starts starts []
      | false => exact valueChunks_other starts code []
  | cons first rest ih =>
      rw [List.cons_append]
      cases starts : first.startsNotation with
      | true => rw [valueChunks_starts starts, valueChunks_starts starts]
      | false =>
          by_cases data : first.code = .notationData
          · rw [valueChunks_data data, valueChunks_data data, ih]
          · rw [valueChunks_other starts data, valueChunks_other starts data, ih]

/-- A chunk goes to the lines in front of it, unless a notation starts between. -/
theorem valueChunks_append_data {line : StatusLine} (code : line.code = .notationData)
    (lines : List StatusLine)
    : valueChunks (lines ++ [line])
      = if notationTexts lines = [] then valueChunks lines ++ [decodePercentString line.args]
        else valueChunks lines := by
  induction lines with
  | nil => exact valueChunks_data code []
  | cons first rest ih =>
      rw [List.cons_append]
      cases starts : first.startsNotation with
      | true => simp [valueChunks_starts starts, notationTexts, starts]
      | false =>
          simp only [notationTexts, starts, Bool.false_eq_true, if_false]
          by_cases data : first.code = .notationData
          · rw [valueChunks_data data, valueChunks_data data, ih]
            split <;> simp
          · rw [valueChunks_other starts data, valueChunks_other starts data, ih]

/-- A line that starts a notation adds it at the end. -/
theorem notationTexts_append_starts {line : StatusLine} (starts : line.startsNotation = true)
    (lines : List StatusLine)
    : notationTexts (lines ++ [line]) = notationTexts lines ++ [line.notationText []] := by
  have code : line.code ≠ .notationData := by
    intro data
    simp [StatusLine.startsNotation, data] at starts
  induction lines with
  | nil => simp [notationTexts, starts]
  | cons first rest ih =>
      simp only [List.cons_append, notationTexts]
      rw [ih]
      split
      · simp [StatusLine.notationText, valueChunks_append_other code]
      · rfl

/-- A line that neither starts a notation nor gives a chunk changes nothing. -/
theorem notationTexts_append_other {line : StatusLine} (starts : line.startsNotation = false)
    (code : line.code ≠ .notationData) (lines : List StatusLine)
    : notationTexts (lines ++ [line]) = notationTexts lines := by
  induction lines with
  | nil => simp [notationTexts, starts]
  | cons first rest ih =>
      simp only [List.cons_append, notationTexts]
      rw [ih]
      simp [StatusLine.notationText, valueChunks_append_other code]

/-- Without a notation there is none that a chunk belongs to. -/
theorem notationTexts_append_data_nil {line : StatusLine} (code : line.code = .notationData)
    {lines : List StatusLine} (none : notationTexts lines = [])
    : notationTexts (lines ++ [line]) = [] := by
  induction lines with
  | nil => simp [notationTexts, StatusLine.startsNotation, code]
  | cons first rest ih =>
      simp only [List.cons_append, notationTexts] at none ⊢
      split at none
      · cases none
      · next starts => rw [if_neg starts, ih none]

/-- The last notation with a name takes the chunk, whether or not it had one before. -/
theorem StatusLine.notationText_append_data {first line : StatusLine}
    (code : line.code = .notationData) {rest : List StatusLine} (none : notationTexts rest = [])
    (named : (first.notationText rest).name.isSome = true)
    : first.notationText (rest ++ [line])
      = (first.notationText rest).addChunk (decodePercentString line.args) := by
  by_cases name : first.code = .notationName
  · have chunks : valueChunks rest ++ [decodePercentString line.args] ≠ [] := by simp
    simp only [StatusLine.notationText, if_pos name, NotationText.addChunk]
    rw [valueChunks_append_data code, if_pos none, if_neg chunks, List.flatten_concat]
    by_cases first : valueChunks rest = [] <;> simp [first]
  · simp [StatusLine.notationText, name] at named

/-- A chunk is added to the last notation if that has a name, by induction on the lines: the
first one starts the last notation exactly if no other starts behind it.
-/
theorem notationTexts_append_data {line : StatusLine} (code : line.code = .notationData)
    {lines : List StatusLine} {others : List NotationText} {last : NotationText}
    (texts : notationTexts lines = others ++ [last]) (named : last.name.isSome = true)
    : notationTexts (lines ++ [line])
      = others ++ [last.addChunk (decodePercentString line.args)] := by
  induction lines generalizing others with
  | nil => simp [notationTexts] at texts
  | cons first rest ih =>
      simp only [List.cons_append, notationTexts] at texts ⊢
      split at texts
      · next starts =>
          rw [if_pos starts]
          rcases others with _ | ⟨other, others⟩
          · obtain ⟨head, none⟩ := List.cons.inj texts
            subst head
            rw [notationTexts_append_data_nil code none,
              StatusLine.notationText_append_data code none named, List.nil_append]
          · rw [List.cons_append] at texts
            obtain ⟨head, tail⟩ := List.cons.inj texts
            have later : notationTexts rest ≠ [] := by simp [tail]
            rw [ih tail, ← head]
            simp [StatusLine.notationText, valueChunks_append_data code, later]
      · next starts => rw [if_neg starts, ih texts]

-----------------------------------------------------------------------------------------
-- The list of a signature
-----------------------------------------------------------------------------------------

/-- The strings of an entry. -/
def SigNotation.text (entry : SigNotation) : NotationText :=
  { name := entry.name, value := entry.value }

/-- The list holds the notations of the lines, and only the last one may wait for its value. -/
structure HoldsNotations (lines : List StatusLine) (entries : List SigNotation) : Prop where
  texts : entries.map SigNotation.text = notationTexts lines
  lengths : ∀ entry ∈ entries, entry.valueLen = (entry.value.getD []).length
  waiting : ∀ entry ∈ entries.dropLast, entry.value.isSome = true

/-- No lines make no notations. -/
theorem holdsNotations_nil : HoldsNotations [] [] := by
  constructor <;> simp [notationTexts]

/-- The strings of a new notation are those of its line. -/
theorem newNotation_text {line : StatusLine}
    (code : line.code = .notationName ∨ line.code = .policyUrl)
    : (newNotation line).text = line.notationText []
      ∧ (newNotation line).valueLen = ((newNotation line).value.getD []).length := by
  rcases code with code | code <;>
    simp [newNotation, StatusLine.notationText, SigNotation.text, code, valueChunks]

/-- A line that is handled without an error keeps the list complete. -/
theorem NotationChange.holdsNotations {line : StatusLine} {entries entries' : List SigNotation}
    {lines : List StatusLine} (change : NotationChange line entries entries')
    (holds : HoldsNotations lines entries)
    : HoldsNotations (lines ++ [line]) entries' := by
  obtain ⟨texts, lengths, waiting⟩ := holds
  cases change with
  | added entries code filled =>
      have starts : line.startsNotation = true := by
        simpa [StatusLine.startsNotation] using code
      obtain ⟨newText, newLength⟩ := newNotation_text code
      refine ⟨?_, ?_, ?_⟩
      · rw [notationTexts_append_starts starts, List.map_append, texts, ← newText]
        rfl
      · intro entry member
        rcases List.mem_append.mp member with old | new
        · exact lengths entry old
        · rw [List.mem_singleton.mp new]
          exact newLength
      · rw [List.dropLast_concat]
        exact filled
  | flags others last critical humanReadable code named fields =>
      have starts : line.startsNotation = false := by simp [StatusLine.startsNotation, code]
      refine ⟨?_, ?_, ?_⟩
      · rw [notationTexts_append_other starts (by simp [code]), ← texts, List.map_append,
          List.map_append]
        rfl
      · intro entry member
        rcases List.mem_append.mp member with old | new
        · exact lengths entry (List.mem_append_left _ old)
        · rw [List.mem_singleton.mp new]
          exact lengths last (by simp)
      · rw [List.dropLast_concat] at waiting ⊢
        exact waiting
  | data others last code named =>
      rw [List.map_append] at texts
      refine ⟨?_, ?_, ?_⟩
      · rw [notationTexts_append_data code texts.symm named, List.map_append]
        rfl
      · intro entry member
        rcases List.mem_append.mp member with old | new
        · exact lengths entry (List.mem_append_left _ old)
        · rw [List.mem_singleton.mp new]
          simp [SigNotation.addData, lengths last (by simp)]
      · rw [List.dropLast_concat] at waiting ⊢
        exact waiting

end Gpgme
