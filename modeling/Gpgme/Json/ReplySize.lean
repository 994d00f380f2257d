import Gpgme.Json.Chunks

/-! The text of the replies that carry a chunk, as `cJSON_PrintUnformatted` prints it, and how long
it gets.
-/

namespace Gpgme.Json

open CString

/-- The items of an object that carries a chunk. -/
inductive JsonValue where
  | bool (value : Bool)
  | string (text : Str)
deriving DecidableEq

/-- The last character of an escape sequence for a control character, as `sprintf` prints it. -/
def hexDigit (value : Nat) : UInt8 := UInt8.ofNat (if value < 10 then 48 + value else 87 + value)

/-- What `print_string_ptr` prints for a character. -/
def printChar (c : UInt8) : Str :=
  if 31 < c ∧ c ≠ 34 ∧ c ≠ 92 then [c]
  else
    92 ::
      match c with
      | 92 => [92]
      | 34 => [34]
      | 8 => [98]
      | 12 => [102]
      | 10 => [110]
      | 13 => [114]
      | 9 => [116]
      | _ => [117, 48, 48, hexDigit (c.toNat / 16), hexDigit (c.toNat % 16)]

def printString (text : Str) : Str := 34 :: (text.flatMap printChar ++ [34])

/-- `print_value`. -/
def printValue : JsonValue → Str
  | .bool true => str "true"
  | .bool false => str "false"
  | .string text => printString text

/-- `print_object` without formatting. -/
def printObject (items : List (Str × JsonValue)) : Str :=
  123 ::
    ([44].intercalate (items.map fun item => printString item.1 ++ 58 :: printValue item.2)
      ++ [125])

/-- The text of a reply with a chunk. -/
def chunkText (more : Bool) (response : Str) : Str :=
  printObject
    [(str "base64", .bool true), (str "more", .bool more), (str "response", .string response)]

/-- The text of a reply, if it carries a chunk. -/
def Reply.text : Reply → Option Str
  | .chunk more response => some (chunkText more response)
  | _ => none

/-- Characters of the encoding are printed as they are. -/
theorem printChar_of_isCharacter {c : UInt8} (character : Base64.IsCharacter c)
    : printChar c = [c] := by
  refine if_pos ?_
  unfold Base64.IsCharacter at character
  simp only [UInt8.le_iff_toNat_le, UInt8.lt_iff_toNat_lt, Ne, ← UInt8.toNat_inj,
    UInt8.reduceToNat] at character ⊢
  omega

/-- Base64 is not escaped. -/
theorem flatMap_printChar {text : Str} (plain : ∀ c ∈ text, Base64.IsCharacter c)
    : text.flatMap printChar = text := by
  induction text with
  | nil => rfl
  | cons c rest ih =>
      rw [List.flatMap_cons, printChar_of_isCharacter (plain c (by simp)),
        ih fun c member => plain c (by simp [member])]
      rfl

/-- The meta data takes 41 bytes, and one more in the last reply. -/
theorem length_chunkText (base64 : Base64) (more : Bool) (bytes : Str)
    : (chunkText more (base64.encode bytes)).length
      = (if more then 41 else 42) + 4 * ((bytes.length + 2) / 3) := by
  have response
      : printValue (.string (base64.encode bytes)) = 34 :: (base64.encode bytes ++ [34]) := by
    rw [printValue, printString, flatMap_printChar (base64.isCharacter_encode bytes)]
  have flag : (printValue (.bool more)).length = if more then 4 else 5 := by
    cases more <;> rfl
  have known : (printValue (.bool true)).length = 4 := rfl
  have names
      : (printString (str "base64")).length = 8
        ∧ (printString (str "more")).length = 6
        ∧ (printString (str "response")).length = 10 := by
    decide
  unfold chunkText printObject
  simp only [List.map_cons, List.map_nil, List.intercalate, List.intersperse, List.flatten_cons,
    List.flatten_nil, List.length_cons, List.length_append, List.length_nil, response,
    base64.length_encode, flag, known, names]
  cases more <;> simp only [if_true, Bool.false_eq_true, if_false] <;> omega

/-- The bytes that are left, in base64, fill the chunk up to its last one. -/
def Fills (left chunksize : Nat) : Prop := 4 * ((left + 2) / 3) = chunksize - 41

/-- A reply that is sent while bytes are left is not larger than the chunk size if and only if the
chunk size has room for the meta data and what is left does not fill it exactly.
-/
theorem session_fits_iff (base64 : Base64) (data : Str) (sizes : Nat → Int) (before : PendingData)
    {i : Nat} (left : i = 0 ∨ requested sizes i < data.length)
    : ∃ text,
        (session base64 data sizes before i).1.text = some text
        ∧ (text.length ≤ clampChunksize (sizes i)
          ↔ 41 ≤ clampChunksize (sizes i)
            ∧ ¬ Fills (data.length - requested sizes i) (clampChunksize (sizes i))) := by
  obtain ⟨low, high⟩ := clampChunksize_range (sizes i)
  have bytes := requested_succ sizes i
  unfold Fills
  by_cases more : requested sizes (i + 1) < data.length
  · refine ⟨_, congrArg Reply.text (session_more base64 data sizes before more), ?_⟩
    rw [length_chunkText, List.length_take, List.length_drop, min_eq_left (by omega), if_pos rfl]
    by_cases roomy : 41 ≤ clampChunksize (sizes i)
    · have room := chunkBytes_of_ge roomy high
      omega
    · omega
  · obtain ⟨rest, last⟩ := session_last base64 data sizes before left (not_lt.mp more)
    refine ⟨_, congrArg (fun step => step.1.text) last, ?_⟩
    rw [length_chunkText, List.length_drop, if_neg Bool.false_ne_true]
    by_cases roomy : 41 ≤ clampChunksize (sizes i)
    · have room := chunkBytes_of_ge roomy high
      omega
    · omega

/-- The chunk size leaves three bytes of room behind the last chunk. -/
theorem session_fits_roomy
    : ∃ text,
        (session Base64.standard successText (fun _ => 69) {} 0).1.text = some text
        ∧ text.length ≤ 69 := by
  obtain ⟨text, sent, fits⟩ :=
    session_fits_iff Base64.standard successText (fun _ => 69) {} (Or.inl rfl)
  refine ⟨text, sent, fits.mpr ?_⟩
  unfold Fills
  decide

/-- The response fills a chunk size of 65 bytes, and the reply takes 66. -/
theorem session_exceeds_chunksize
    : ∃ text,
        (session Base64.standard successText (fun _ => 65) {} 0).1.text = some text
        ∧ clampChunksize 65 = 65
        ∧ text.length = 66 := by
  exact ⟨_, rfl, rfl, by decide⟩

end Gpgme.Json
