import Gpgme.Error
import Gpgme.Lib.CString

/-! The keys that a request of `gpgme-json.c` names: `get_keys` joins them to one string, and
`create_keylist_patterns` makes an array of patterns of it again.
-/

namespace Gpgme.Json

open CString (str)

-----------------------------------------------------------------------------------------
-- The string of keys
-----------------------------------------------------------------------------------------

/-- An item of an array. -/
inductive KeyItem where
  | string (valuestring : Str)
  | other
deriving DecidableEq

/-- The member of a request that names the keys. -/
inductive KeysMember where
  | string (valuestring : Str)
  | array (items : List KeyItem)
  | other
deriving DecidableEq

/-- A string and the bytes that are allocated for it. -/
structure KeyString where
  length : Nat
  text : Str
deriving DecidableEq

/-- The counting loop of `get_keys` behind the first `i` items. -/
def countKeys (i length : Nat) : List KeyItem → Except GpgError Nat
  | [] => .ok length
  | .other :: _ => .error (gpgError ErrCode.invValue)
  | .string valuestring :: items =>
      if 10 ∈ valuestring then .error (gpgError ErrCode.invUserId)
      else countKeys (i + 1) (length + (if 0 < i then 1 else 0) + valuestring.length) items

/-- The writing loop of `get_keys`. -/
def writeKeys (i : Nat) : List KeyItem → Str
  | [] => []
  | .other :: items => writeKeys (i + 1) items
  | .string valuestring :: items =>
      (if 0 < i then [10] else []) ++ valuestring ++ writeKeys (i + 1) items

/-- The end of `get_keys`. -/
def allocateKeys (memory : Bool) (length : Nat) (text : Str) : Except GpgError KeyString :=
  if memory then .ok { length, text } else .error (gpgError ErrCode.enomem)

/-- `get_keys`, for what `cJSON_GetObjectItem` finds under the name. -/
def getKeys (memory : Bool) : Option KeysMember → Except GpgError KeyString
  | none => .error (gpgError ErrCode.noKey)
  | some .other => .error (gpgError ErrCode.invValue)
  | some (.string valuestring) =>
      if 10 ∈ valuestring then .error (gpgError ErrCode.invUserId)
      else allocateKeys memory (1 + valuestring.length) valuestring
  | some (.array items) =>
      if items = [] then .error (gpgError ErrCode.noKey)
      else
        match countKeys 0 1 items with
        | .error err => .error err
        | .ok length => allocateKeys memory length (writeKeys 0 items)

-----------------------------------------------------------------------------------------
-- The array of patterns
-----------------------------------------------------------------------------------------

/-- The loop of `create_keylist_patterns` that copies a key at each LF; what is behind the last one
starts at `tmp`.
-/
def cutKeys (tmp : Str) : Str → List Str × Str
  | [] => ([], tmp)
  | c :: p =>
      if c = 10 then (tmp :: (cutKeys [] p).1, (cutKeys [] p).2) else cutKeys (tmp ++ [c]) p

/-- The array that `create_keylist_patterns` makes of the string; `cnt` slots are allocated. -/
def patternSlots (keystring : Str) : List (Option Str) :=
  let cnt := 2 + keystring.count 10
  let (keys, tmp) := cutKeys [] keystring
  let ret := keys.map some ++ [if tmp = [] then none else some tmp]
  ret ++ List.replicate (cnt - ret.length) none

/-- `create_keylist_patterns`. -/
def createKeylistPatterns (memory : Bool) (member : Option KeysMember)
    : Option (List (Option Str)) :=
  match getKeys memory member with
  | .error _ => none
  | .ok keystring => some (patternSlots keystring.text)

/-- The array has exactly these patterns in front of its first NULL. -/
def IsPatternArray (slots : List (Option Str)) (patterns : List Str) : Prop :=
  ∃ unused, slots = patterns.map some ++ none :: unused

-----------------------------------------------------------------------------------------
-- Cutting
-----------------------------------------------------------------------------------------

/-- The string is cut at its line feeds, by induction on what is left of it. -/
theorem cutKeys_splitOn {tmp : Str} (noLf : 10 ∉ tmp) (s : Str)
    : (cutKeys tmp s).1 ++ [(cutKeys tmp s).2] = (tmp ++ s).splitOn 10 := by
  induction s generalizing tmp with
  | nil => rw [cutKeys, List.append_nil, List.splitOn_eq_singleton noLf, List.nil_append]
  | cons c s ih =>
      rw [cutKeys]
      by_cases lf : c = 10
      · rw [if_pos lf, lf, List.splitOn_append_cons_self_of_not_mem noLf, List.cons_append,
          ih (List.not_mem_nil)]
        rfl
      · have stillNone : 10 ∉ tmp ++ [c] := by simp [noLf, Ne.symm lf]
        rw [if_neg lf, ih stillNone, List.append_assoc, List.singleton_append]

/-- Joined strings without line feeds are cut into what they were. -/
theorem cutKeys_intercalate {strings : List Str} (some : strings ≠ [])
    (noLf : ∀ string ∈ strings, 10 ∉ string)
    : (cutKeys [] (List.intercalate [10] strings)).1
        ++ [(cutKeys [] (List.intercalate [10] strings)).2]
      = strings := by
  rw [cutKeys_splitOn List.not_mem_nil, List.nil_append, List.splitOn_intercalate 10 noLf some]

/-- There is a line feed between two strings. -/
theorem count_intercalate {strings : List Str} (some : strings ≠ [])
    (noLf : ∀ string ∈ strings, 10 ∉ string)
    : (List.intercalate [10] strings).count 10 + 1 = strings.length := by
  induction strings with
  | nil => exact absurd rfl some
  | cons string strings ih =>
      have first : string.count 10 = 0 := List.count_eq_zero.mpr (noLf string List.mem_cons_self)
      cases strings with
      | nil => simpa using first
      | cons next strings =>
          have later := ih (List.cons_ne_nil _ _)
            (fun other member => noLf other (List.mem_cons_of_mem _ member))
          rw [List.intercalate_cons_cons, List.count_append, List.count_append, first]
          simp only [List.count_singleton_self, List.length_cons] at later ⊢
          omega

-----------------------------------------------------------------------------------------
-- Named keys
-----------------------------------------------------------------------------------------

/-- A member names keys: it is a string or an array of strings, without line feeds. -/
inductive Names : KeysMember → List Str → Prop
  | string (text : Str) (noLf : 10 ∉ text) : Names (.string text) [text]
  | array (strings : List Str) (some : strings ≠ []) (noLf : ∀ string ∈ strings, 10 ∉ string)
    : Names (.array (strings.map .string)) strings

/-- A member that names strings names at least one. -/
theorem Names.some {member : KeysMember} {strings : List Str} (names : Names member strings)
    : strings ≠ [] := by
  cases names with
  | string text noLf => exact List.cons_ne_nil _ _
  | array strings some noLf => exact some

/-- No named string has a line feed in it. -/
theorem Names.noLf {member : KeysMember} {strings : List Str} (names : Names member strings)
    : ∀ string ∈ strings, 10 ∉ string := by
  cases names with
  | string text noLf =>
      intro string member
      rw [List.mem_singleton.mp member]
      exact noLf
  | array strings some noLf => exact noLf

/-- The strings are written with a line feed between two of them, by induction on those behind the
first one.
-/
theorem writeKeys_strings (i : Nat) (string : Str) (strings : List Str)
    : writeKeys i ((string :: strings).map .string)
      = (if 0 < i then [10] else []) ++ List.intercalate [10] (string :: strings) := by
  induction strings generalizing i string with
  | nil => simp [writeKeys]
  | cons next strings ih =>
      rw [List.map_cons, writeKeys, ih, if_pos (Nat.succ_pos i), List.intercalate_cons_cons]
      simp

/-- The bytes that are counted are those that are written, by induction on the strings. -/
theorem countKeys_strings (i length : Nat) {strings : List Str}
    (noLf : ∀ string ∈ strings, 10 ∉ string)
    : countKeys i length (strings.map .string)
      = .ok (length + (writeKeys i (strings.map .string)).length) := by
  induction strings generalizing i length with
  | nil => rfl
  | cons string strings ih =>
      rw [List.map_cons, countKeys, if_neg (noLf string List.mem_cons_self),
        ih _ _ (fun other member => noLf other (List.mem_cons_of_mem _ member)), writeKeys]
      congr 1
      split_ifs
      · simp
        omega
      · simp
        omega

/-- The count ends with an error unless all items are strings without line feeds, by induction on
the items.
-/
theorem countKeys_cases (i length : Nat) (items : List KeyItem)
    : (∃ strings : List Str,
        items = strings.map .string ∧ ∀ string ∈ strings, 10 ∉ string)
      ∨ ∃ err, countKeys i length items = .error err := by
  induction items generalizing i length with
  | nil => exact .inl ⟨[], rfl, by simp⟩
  | cons item items ih =>
      cases item with
      | other => exact .inr ⟨_, rfl⟩
      | string valuestring =>
          rw [countKeys]
          by_cases lf : 10 ∈ valuestring
          · rw [if_pos lf]
            exact .inr ⟨_, rfl⟩
          · rw [if_neg lf]
            rcases ih (i + 1) (length + (if 0 < i then 1 else 0) + valuestring.length) with
              ⟨strings, rfl, noLf⟩ | failed
            · refine .inl ⟨valuestring :: strings, rfl, ?_⟩
              intro string member
              rcases List.mem_cons.mp member with rfl | member
              · exact lf
              · exact noLf string member
            · exact .inr failed

/-- For named keys the joined string is allocated. -/
theorem getKeys_of_names (memory : Bool) {member : KeysMember} {strings : List Str}
    (names : Names member strings)
    : getKeys memory (.some member)
      = allocateKeys memory ((List.intercalate [10] strings).length + 1)
          (List.intercalate [10] strings) := by
  cases names with
  | string text noLf =>
      rw [getKeys, if_neg noLf, List.intercalate_singleton, Nat.add_comm]
  | array strings some noLf =>
      cases strings with
      | nil => exact absurd rfl some
      | cons string strings =>
          have written := writeKeys_strings 0 string strings
          rw [if_neg (Nat.lt_irrefl 0), List.nil_append] at written
          rw [getKeys, if_neg (by simp), countKeys_strings 0 1 noLf, written, Nat.add_comm]

/-- A member that names no keys is rejected. -/
theorem getKeys_rejects (memory : Bool) {member : KeysMember}
    (noNames : ∀ strings, ¬Names member strings)
    : ∃ err, getKeys memory (some member) = .error err := by
  cases member with
  | other => exact ⟨_, rfl⟩
  | string valuestring =>
      rw [getKeys]
      by_cases lf : 10 ∈ valuestring
      · rw [if_pos lf]
        exact ⟨_, rfl⟩
      · exact absurd (.string valuestring lf) (noNames [valuestring])
  | array items =>
      rw [getKeys]
      by_cases empty : items = []
      · rw [if_pos empty]
        exact ⟨_, rfl⟩
      · rw [if_neg empty]
        rcases countKeys_cases 0 1 items with ⟨strings, rfl, noLf⟩ | ⟨err, failed⟩
        · have some : strings ≠ [] := by
            rintro rfl
            exact empty rfl
          exact absurd (.array strings some noLf) (noNames strings)
        · rw [failed]
          exact ⟨err, rfl⟩

/-- The keys fit what is allocated for them, and the array of patterns has exactly these keys. -/
def PassedOn (memory : Bool) (member : KeysMember) (strings : List Str) : Prop :=
  ∃ keystring slots,
    getKeys memory (some member) = .ok keystring
    ∧ keystring.text.length + 1 = keystring.length
    ∧ createKeylistPatterns memory (some member) = some slots
    ∧ IsPatternArray slots strings

/-- The array has all keys but the last one, and the last one if it is not empty. -/
theorem patternSlots_intercalate {keys : List Str} {tmp : Str}
    (noLf : ∀ string ∈ keys ++ [tmp], 10 ∉ string)
    : patternSlots (List.intercalate [10] (keys ++ [tmp]))
      = keys.map some ++ [if tmp = [] then none else some tmp, none] := by
  have notEmpty : keys ++ [tmp] ≠ [] := by simp
  obtain ⟨sameKeys, sameTmp⟩ := List.append_inj' (cutKeys_intercalate notEmpty noLf) rfl
  have counted := count_intercalate notEmpty noLf
  rw [List.length_append, List.length_singleton] at counted
  have slots
      : 2 + (List.intercalate [10] (keys ++ [tmp])).count 10 - (keys.length + 1) = 1 := by
    omega
  unfold patternSlots
  simp only [sameKeys, (List.cons.inj sameTmp).1, List.length_append, List.length_map,
    List.length_singleton, slots]
  simp

/-- The slots are the array of all strings exactly where the last one is not empty. -/
theorem isPatternArray_iff (keys : List Str) (tmp : Str)
    : IsPatternArray (keys.map some ++ [if tmp = [] then none else some tmp, none])
        (keys ++ [tmp])
      ↔ tmp ≠ [] := by
  constructor
  · rintro ⟨unused, same⟩ empty
    rw [if_pos empty, List.map_append, List.append_assoc, List.append_right_inj] at same
    cases (List.cons.inj same).1
  · intro some
    exact ⟨[], by rw [if_neg some, List.map_append, List.append_assoc]; rfl⟩

/-- The keys that a member names are passed on exactly where there is memory and the last one is
not empty; a member that does not name keys is rejected.
-/
theorem json_patterns_passed_on_iff (memory : Bool) (member : KeysMember)
    : (∀ strings, Names member strings →
        (PassedOn memory member strings ↔ memory = true ∧ strings.getLast? ≠ some []))
      ∧ ((∀ strings, ¬Names member strings) →
        (∃ err, getKeys memory (some member) = .error err)
        ∧ createKeylistPatterns memory (some member) = none) := by
  constructor
  · intro strings names
    have read := getKeys_of_names memory names
    have noLf := names.noLf
    obtain ⟨keys, tmp, rfl⟩ : ∃ keys tmp, strings = keys ++ [tmp] :=
      ⟨_, _, (List.dropLast_append_getLast names.some).symm⟩
    rw [List.getLast?_concat, ne_eq, Option.some.injEq]
    cases memory with
    | false =>
        constructor
        · rintro ⟨keystring, -, succeeded, -⟩
          rw [read] at succeeded
          cases succeeded
        · rintro ⟨noMemory, -⟩
          cases noMemory
    | true =>
        have made
            : createKeylistPatterns true (some member)
              = some (keys.map some ++ [if tmp = [] then none else some tmp, none]) := by
          rw [createKeylistPatterns, read, ← patternSlots_intercalate noLf]
          rfl
        constructor
        · rintro ⟨keystring, slots, -, -, created, array⟩
          rw [made] at created
          cases created
          exact ⟨rfl, (isPatternArray_iff keys tmp).mp array⟩
        · rintro ⟨-, notEmpty⟩
          exact ⟨_, _, read, rfl, made, (isPatternArray_iff keys tmp).mpr notEmpty⟩
  · intro noNames
    obtain ⟨err, rejected⟩ := getKeys_rejects memory noNames
    refine ⟨⟨err, rejected⟩, ?_⟩
    rw [createKeylistPatterns, rejected]

/-- Two keys, the first one empty, are passed on. -/
theorem empty_key_first_passed_on
    : PassedOn true (.array [.string [], .string (str "alice")]) [[], str "alice"] :=
  ((json_patterns_passed_on_iff true (.array ([[], str "alice"].map .string))).1
    [[], str "alice"] (.array _ (by decide) (by decide))).mpr ⟨rfl, by decide⟩

/-- A single empty string makes an array without patterns, with which all keys are listed. -/
theorem empty_key_lists_all
    : ¬∀ (memory : Bool) (member : KeysMember) (strings : List Str),
        memory = true → Names member strings → PassedOn memory member strings := by
  intro all
  obtain ⟨keystring, slots, -, -, made, unused, array⟩ :=
    all true (.string []) [[]] rfl (.string [] (by decide))
  have empty : createKeylistPatterns true (some (.string [])) = some [none, none] := by
    decide
  rw [empty] at made
  cases made
  cases array

end Gpgme.Json
