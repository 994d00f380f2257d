import Mathlib.Data.List.Lex
import Mathlib.Data.Prod.Lex
import Gpgme.EngineGpg.Arguments
import Gpgme.Lib.Numerals

/-! The comparison of version numbers in `version.c`, with the arithmetic in `int`. Versions are
ordered by their three numbers and their patch level.
-/

namespace Gpgme

open CString

-----------------------------------------------------------------------------------------
-- The functions
-----------------------------------------------------------------------------------------

/-- A value of type `int`; `none` is an overflow. -/
def intValue (value : Nat) : Option Nat := if value ≤ 2147483647 then some value else none

/-- The loop of `parse_version_number`. -/
def versionDigitsInt : Nat → Str → Option (Nat × Str)
  | value, [] => some (value, [])
  | value, c :: rest =>
      if isdigit c ∧ value ≤ maxVersionValue then do
        let value ← intValue (value * 10)
        let value ← intValue (value + digitValue c)
        versionDigitsInt value rest
      else some (value, c :: rest)

/-- `parse_version_number`; a null pointer is the inner `none`. -/
def parseVersionNumberInt (s : Str) : Option (Option (Nat × Str)) :=
  if s.head? = some 48 ∧ s.tail.head?.any isdigit then some none
  else do
    let (value, rest) ← versionDigitsInt 0 s
    return if maxVersionValue < value then none else some (value, rest)

/-- `parse_version_string`. -/
def parseVersionStringInt (s : Str) : Option (Option (Nat × Nat × Nat × Str)) := do
  match ← parseVersionNumberInt s with
  | some (major, 46 :: rest) =>
      match ← parseVersionNumberInt rest with
      | some (minor, 46 :: rest) =>
          match ← parseVersionNumberInt rest with
          | some (micro, rest) => return some (major, minor, micro, rest)
          | none => return none
      | _ => return none
  | _ => return none

/-- `_gpgme_compare_versions`, where `none` is an overflow. -/
def gpgmeCompareVersions (myVersion rqVersion : Option Str) : Option Nat :=
  match rqVersion, myVersion with
  | none, _ => some 1
  | some _, none => some 0
  | some rqVersion, some myVersion => do
      match ← parseVersionStringInt myVersion with
      | none => return 0
      | some (myMajor, myMinor, myMicro, myPlvl) =>
          match ← parseVersionStringInt rqVersion with
          | none => return 0
          | some (rqMajor, rqMinor, rqMicro, rqPlvl) =>
              if rqMajor < myMajor
                  ∨ (myMajor = rqMajor ∧ rqMinor < myMinor)
                  ∨ (myMajor = rqMajor ∧ myMinor = rqMinor ∧ rqMicro < myMicro)
                  ∨ (myMajor = rqMajor ∧ myMinor = rqMinor ∧ myMicro = rqMicro
                    ∧ ¬myPlvl < rqPlvl) then
                return 1
              else return 0

-----------------------------------------------------------------------------------------
-- No overflow
-----------------------------------------------------------------------------------------

/-- Both tests for a digit agree. -/
theorem isdigit_eq (c : UInt8) : isdigit c = isDigit c := by
  rw [Bool.eq_iff_iff, ← digitValue_lt_ten_iff]
  exact decide_eq_true_iff

/-- The limit is tested before each digit, so that the values stay in range, by induction on the
string.
-/
theorem versionDigitsInt_eq (value : Nat) (s : Str)
    : versionDigitsInt value s = some (versionDigits value s) := by
  induction s generalizing value with
  | nil => rfl
  | cons c rest ih =>
      rw [versionDigitsInt, versionDigits]
      by_cases goesOn : isdigit c ∧ value ≤ maxVersionValue
      · have digit : digitValue c < 10 := of_decide_eq_true goesOn.1
        have limit := goesOn.2
        unfold maxVersionValue at limit
        have times : intValue (value * 10) = some (value * 10) := if_pos (by omega)
        have plus : intValue (value * 10 + digitValue c) = some (value * 10 + digitValue c) :=
          if_pos (by omega)
        rw [if_pos goesOn, if_pos goesOn, times]
        change (intValue (value * 10 + digitValue c)).bind _ = _
        rw [plus]
        exact ih _
      · rw [if_neg goesOn, if_neg goesOn]

/-- No number overflows an `int` while it is read. -/
theorem parseVersionNumberInt_eq (s : Str)
    : parseVersionNumberInt s = some (parseVersionNumber s) := by
  unfold parseVersionNumberInt parseVersionNumber
  rw [versionDigitsInt_eq]
  split <;> rfl

/-- No version overflows an `int` while it is read. -/
theorem parseVersionStringInt_eq (s : Str)
    : parseVersionStringInt s = some (parseVersionString s) := by
  unfold parseVersionStringInt parseVersionString
  simp only [parseVersionNumberInt_eq, Option.bind_eq_bind, Option.bind_some]
  rcases parseVersionNumber s with _ | ⟨major, rest⟩
  · rfl
  · rcases rest with _ | ⟨c, rest⟩
    · rfl
    · by_cases dot : c = 46
      · subst dot
        rcases second : parseVersionNumber rest with _ | ⟨minor, rest'⟩
        · simp [second]
        · rcases rest' with _ | ⟨d, rest'⟩
          · simp [second]
          · by_cases dot' : d = 46
            · subst dot'
              rcases third : parseVersionNumber rest' with _ | ⟨micro, patch⟩
              · simp [second, third]
              · simp [second, third]
            · simp [second, dot']
      · simp [dot]

-----------------------------------------------------------------------------------------
-- The form of versions
-----------------------------------------------------------------------------------------

/-- Decimal digits without a leading zero, and their value is at most the limit. There may be
none.
-/
structure VersionNumber (digits : Str) : Prop where
  decimal : digits.all isDigit
  noLeadingZero : digits.head? = some 48 → digits.length = 1
  limit : numeral digits ≤ maxVersionValue

/-- The parts of a version. -/
structure VersionParts where
  major : Str
  minor : Str
  micro : Str
  patch : Str

namespace VersionParts

/-- `MAJOR.MINOR.MICRO` and the patch level. -/
def text (parts : VersionParts) : Str :=
  parts.major ++ 46 :: (parts.minor ++ 46 :: (parts.micro ++ parts.patch))

/-- A string has the form, but that numbers may be missing. The last number is as long as
possible.
-/
structure Forms (parts : VersionParts) (s : Str) : Prop where
  text : parts.text = s
  major : VersionNumber parts.major
  minor : VersionNumber parts.minor
  micro : VersionNumber parts.micro
  patch : parts.patch.head?.any isDigit = false

/-- No number is missing. -/
def Complete (parts : VersionParts) : Prop :=
  parts.major ≠ [] ∧ parts.minor ≠ [] ∧ parts.micro ≠ []

/-- The three numbers and the bytes of the patch level, which are compared in this order. -/
def key (parts : VersionParts) : Nat ×ₗ Nat ×ₗ Nat ×ₗ List Nat :=
  toLex (numeral parts.major,
    toLex (numeral parts.minor,
      toLex (numeral parts.micro, parts.patch.map UInt8.toNat)))

end VersionParts

/-- The parts of a string that has the form. -/
def versionParts (s : Str) : VersionParts :=
  let second := (s.dropWhile isDigit).tail
  let third := (second.dropWhile isDigit).tail
  {
    major := leadingDigits s
    minor := leadingDigits second
    micro := leadingDigits third
    patch := third.dropWhile isDigit
  }

-----------------------------------------------------------------------------------------
-- Numbers
-----------------------------------------------------------------------------------------

/-- More digits make no smaller number. -/
theorem le_numeralFrom (value : Nat) (digits : Str) : value ≤ numeralFrom value digits := by
  unfold numeralFrom
  induction digits generalizing value with
  | nil => exact Nat.le_refl _
  | cons c rest ih =>
      rw [List.foldl_cons]
      exact Nat.le_trans (by omega) (ih _)

/-- The loop reads all digits, or it stops above the limit; by induction on the string. -/
theorem versionDigits_spec (value : Nat) (s : Str)
    : (numeralFrom value (leadingDigits s) ≤ maxVersionValue
        → versionDigits value s = (numeralFrom value (leadingDigits s), s.dropWhile isDigit))
      ∧ (maxVersionValue < numeralFrom value (leadingDigits s)
        → maxVersionValue < (versionDigits value s).1) := by
  induction s generalizing value with
  | nil => exact ⟨fun _ => rfl, fun large => large⟩
  | cons c rest ih =>
      rw [versionDigits, isdigit_eq, leadingDigits]
      by_cases digit : isDigit c = true
      · have next
            : numeralFrom value ((c :: rest).takeWhile isDigit)
              = numeralFrom (value * 10 + digitValue c) (leadingDigits rest) := by
          rw [List.takeWhile_cons_of_pos digit, digitValue_of_isDigit digit]
          rfl
        rw [next, List.dropWhile_cons_of_pos digit]
        have grows := le_numeralFrom (value * 10 + digitValue c) (leadingDigits rest)
        by_cases below : value ≤ maxVersionValue
        · rw [if_pos ⟨digit, below⟩]
          exact ih _
        · rw [if_neg (fun both => below both.2)]
          exact ⟨fun small => by omega, fun _ => Nat.lt_of_not_le below⟩
      · rw [if_neg (fun both => digit both.1), List.takeWhile_cons_of_neg digit,
          List.dropWhile_cons_of_neg digit]
        exact ⟨fun _ => rfl, fun large => large⟩

/-- The digits in front of a byte of another kind. -/
theorem leadingDigits_append {digits rest : Str} (all : digits.all isDigit)
    (stops : rest.head?.any isDigit = false)
    : leadingDigits (digits ++ rest) = digits ∧ (digits ++ rest).dropWhile isDigit = rest := by
  have each : ∀ c ∈ digits, isDigit c = true := List.all_eq_true.mp all
  unfold leadingDigits
  rw [List.takeWhile_append_of_pos each, List.dropWhile_append_of_pos each]
  cases rest with
  | nil => simp
  | cons c rest =>
      have no : ¬isDigit c = true := by simpa using stops
      rw [List.takeWhile_cons_of_neg no, List.dropWhile_cons_of_neg no, List.append_nil]
      exact ⟨rfl, rfl⟩

/-- The first byte behind the digits is another one. -/
theorem head_dropWhile (s : Str) : (s.dropWhile isDigit).head?.any isDigit = false := by
  have stops := List.head?_dropWhile_not isDigit s
  cases first : (s.dropWhile isDigit).head? with
  | none => rfl
  | some c =>
      rw [first] at stops
      exact stops

/-- The leading digits are digits. -/
theorem leadingDigits_all (s : Str) : (leadingDigits s).all isDigit :=
  List.all_takeWhile

/-- A zero in front of a digit is a leading zero. -/
theorem leadingZero_iff (s : Str)
    : (s.head? = some 48 ∧ s.tail.head?.any isdigit)
      ↔ ¬((leadingDigits s).head? = some 48 → (leadingDigits s).length = 1) := by
  rw [show isdigit = isDigit from funext isdigit_eq]
  unfold leadingDigits
  cases s with
  | nil => simp
  | cons c rest =>
      by_cases digit : isDigit c = true
      · rw [List.takeWhile_cons_of_pos digit]
        cases rest with
        | nil => simp
        | cons d rest =>
            by_cases more : isDigit d = true
            · rw [List.takeWhile_cons_of_pos more]
              simp [more]
            · rw [List.takeWhile_cons_of_neg more]
              simp [more]
      · rw [List.takeWhile_cons_of_neg digit]
        have other : c ≠ 48 := by
          rintro rfl
          exact digit rfl
        simp [other]

/-- A number is read exactly when the digits at the start are one, and up to their end. -/
theorem parseVersionNumber_iff {s rest : Str} {n : Nat}
    : parseVersionNumber s = some (n, rest)
      ↔ VersionNumber (leadingDigits s)
        ∧ n = numeral (leadingDigits s)
        ∧ rest = s.dropWhile isDigit := by
  obtain ⟨reads, stops⟩ := versionDigits_spec 0 s
  unfold parseVersionNumber
  by_cases zero : s.head? = some 48 ∧ s.tail.head?.any isdigit
  · rw [if_pos zero]
    have leading := (leadingZero_iff s).mp zero
    refine iff_of_false (by simp) ?_
    rintro ⟨number, -⟩
    exact leading number.noLeadingZero
  · rw [if_neg zero]
    have noLeading := not_not.mp (mt (leadingZero_iff s).mpr zero)
    by_cases small : numeral (leadingDigits s) ≤ maxVersionValue
    · simp only [reads small]
      change (if maxVersionValue < numeral (leadingDigits s) then none else _) = _ ↔ _
      rw [if_neg (Nat.not_lt.mpr small)]
      constructor
      · rintro ⟨⟩
        exact ⟨⟨leadingDigits_all s, noLeading, small⟩, rfl, rfl⟩
      · rintro ⟨-, rfl, rfl⟩
        rfl
    · have large := stops (Nat.lt_of_not_le small)
      simp only [if_pos large]
      refine iff_of_false (by simp) ?_
      rintro ⟨number, -⟩
      exact small number.limit

/-- A number in front of a byte of another kind is read. -/
theorem VersionNumber.parse {digits rest : Str} (number : VersionNumber digits)
    (stops : rest.head?.any isDigit = false)
    : parseVersionNumber (digits ++ rest) = some (numeral digits, rest) := by
  obtain ⟨run, behind⟩ := leadingDigits_append number.decimal stops
  rw [parseVersionNumber_iff, run, behind]
  exact ⟨number, rfl, rfl⟩

-----------------------------------------------------------------------------------------
-- Versions
-----------------------------------------------------------------------------------------

namespace VersionParts

variable {parts : VersionParts} {s : Str}

/-- A number stops at a dot. -/
theorem dot_stops (rest : Str) : (46 :: rest).head?.any isDigit = false := rfl

/-- The parts of a string are determined by it. -/
theorem Forms.eq (forms : parts.Forms s) : parts = versionParts s := by
  obtain ⟨rfl, major, minor, micro, patch⟩ := forms
  obtain ⟨first, second⟩ := leadingDigits_append major.decimal
    (dot_stops (parts.minor ++ 46 :: (parts.micro ++ parts.patch)))
  obtain ⟨third, fourth⟩ := leadingDigits_append minor.decimal
    (dot_stops (parts.micro ++ parts.patch))
  obtain ⟨fifth, sixth⟩ := leadingDigits_append micro.decimal patch
  unfold versionParts VersionParts.text
  simp only [first, second, List.tail_cons, third, fourth, fifth, sixth]

/-- A string of the form is parsed. -/
theorem Forms.parse (forms : parts.Forms s)
    : parseVersionString s
      = some (numeral parts.major, numeral parts.minor, numeral parts.micro, parts.patch) := by
  obtain ⟨rfl, major, minor, micro, patch⟩ := forms
  have first := major.parse (dot_stops (parts.minor ++ 46 :: (parts.micro ++ parts.patch)))
  have second := minor.parse (dot_stops (parts.micro ++ parts.patch))
  have third := micro.parse patch
  unfold parseVersionString VersionParts.text
  simp [first, second, third]

/-- A byte in front of a string is its first one. -/
theorem cons_tail {c : UInt8} (first : s.head? = some c) : s = c :: s.tail :=
  (List.cons_head?_tail (Option.mem_def.mpr first)).symm

/-- What is parsed has the form. -/
theorem forms_of_parse {version : Nat × Nat × Nat × Str}
    (parsed : parseVersionString s = some version)
    : (versionParts s).Forms s := by
  unfold parseVersionString at parsed
  simp only [Option.bind_eq_bind, Option.bind_eq_some_iff, Option.guard_eq_some'] at parsed
  obtain ⟨⟨major, rest⟩, first, -, dot, ⟨minor, rest'⟩, second, -, dot', ⟨micro, patch⟩, third,
    -⟩ := parsed
  obtain ⟨majorNumber, -, rfl⟩ := parseVersionNumber_iff.mp first
  obtain ⟨minorNumber, -, rfl⟩ := parseVersionNumber_iff.mp second
  obtain ⟨microNumber, -, rfl⟩ := parseVersionNumber_iff.mp third
  refine ⟨?_, majorNumber, minorNumber, microNumber, head_dropWhile _⟩
  unfold VersionParts.text versionParts leadingDigits
  dsimp only
  rw [List.takeWhile_append_dropWhile, ← cons_tail dot', List.takeWhile_append_dropWhile,
    ← cons_tail dot, List.takeWhile_append_dropWhile]

/-- Strings are compared as the values of their bytes are, by induction on both. -/
theorem map_lt_map_iff (a b : Str) : a.map UInt8.toNat < b.map UInt8.toNat ↔ a < b := by
  induction a generalizing b with
  | nil =>
      cases b with
      | nil => simp
      | cons d b => simp
  | cons c a ih =>
      cases b with
      | nil => simp
      | cons d b =>
          rw [List.map_cons, List.map_cons, List.cons_lt_cons_iff, List.cons_lt_cons_iff, ih,
            UInt8.toNat_inj, UInt8.lt_iff_toNat_lt]

/-- The order of versions, number after number. -/
theorem key_le_iff (least mine : VersionParts)
    : least.key ≤ mine.key
      ↔ numeral least.major < numeral mine.major
        ∨ (numeral mine.major = numeral least.major
          ∧ numeral least.minor < numeral mine.minor)
        ∨ (numeral mine.major = numeral least.major
          ∧ numeral mine.minor = numeral least.minor
          ∧ numeral least.micro < numeral mine.micro)
        ∨ (numeral mine.major = numeral least.major
          ∧ numeral mine.minor = numeral least.minor
          ∧ numeral mine.micro = numeral least.micro
          ∧ ¬mine.patch < least.patch) := by
  unfold key
  simp only [Prod.Lex.toLex_le_toLex, ← not_lt (a := mine.patch.map UInt8.toNat), map_lt_map_iff,
    eq_comm (a := numeral least.major), eq_comm (a := numeral least.minor),
    eq_comm (a := numeral least.micro)]
  tauto

end VersionParts

-----------------------------------------------------------------------------------------
-- The comparison
-----------------------------------------------------------------------------------------

variable {myVersion rqVersion : Str}

/-- The comparison gives 1 exactly for versions of the form, whose numbers may be missing, when
the first one is at least the second one. It never overflows.
-/
theorem gpgmeCompareVersions_spec (myVersion rqVersion : Str)
    : ∃ result,
        gpgmeCompareVersions (some myVersion) (some rqVersion) = some result
        ∧ (result = 1
          ↔ ∃ mine least : VersionParts,
              mine.Forms myVersion ∧ least.Forms rqVersion ∧ least.key ≤ mine.key) := by
  simp only [gpgmeCompareVersions, parseVersionStringInt_eq, Option.bind_eq_bind,
    Option.bind_some]
  cases myParsed : parseVersionString myVersion with
  | none =>
      refine ⟨0, rfl, iff_of_false (by decide) ?_⟩
      rintro ⟨mine, least, forms, -⟩
      rw [forms.parse] at myParsed
      cases myParsed
  | some my =>
      cases rqParsed : parseVersionString rqVersion with
      | none =>
          refine ⟨0, rfl, iff_of_false (by decide) ?_⟩
          rintro ⟨mine, least, -, forms, -⟩
          rw [forms.parse] at rqParsed
          cases rqParsed
      | some rq =>
          have myForms := VersionParts.forms_of_parse myParsed
          have rqForms := VersionParts.forms_of_parse rqParsed
          have order
              : (∃ mine least : VersionParts,
                  mine.Forms myVersion ∧ least.Forms rqVersion ∧ least.key ≤ mine.key)
                ↔ (versionParts rqVersion).key ≤ (versionParts myVersion).key := by
            constructor
            · rintro ⟨mine, least, forms, leastForms, below⟩
              rwa [← forms.eq, ← leastForms.eq]
            · exact fun below => ⟨_, _, myForms, rqForms, below⟩
          rw [order, VersionParts.key_le_iff]
          rw [myForms.parse] at myParsed
          rw [rqForms.parse] at rqParsed
          cases myParsed
          cases rqParsed
          dsimp only [Option.bind_some]
          split
          · next atLeast => exact ⟨1, rfl, iff_of_true rfl atLeast⟩
          · next less => exact ⟨0, rfl, iff_of_false (by decide) less⟩

/-- A version as the comparison documents it. -/
structure VersionString where
  string : Str
  parts : VersionParts
  forms : parts.Forms string
  complete : parts.Complete

/-- The result says whether both strings are versions and the first one is at least the second
one.
-/
def ComparesVersions (myVersion rqVersion : Str) : Prop :=
  ∃ result,
    gpgmeCompareVersions (some myVersion) (some rqVersion) = some result
    ∧ (result = 1
      ↔ ∃ mine least : VersionString,
          mine.string = myVersion
          ∧ least.string = rqVersion
          ∧ least.parts.key ≤ mine.parts.key)

/-- A number is missing in one of the strings, both have the form otherwise, and the first one is
at least the second one when missing numbers are zero.
-/
def MissesNumber (myVersion rqVersion : Str) : Prop :=
  ∃ mine least : VersionParts,
    mine.Forms myVersion
    ∧ least.Forms rqVersion
    ∧ ¬(mine.Complete ∧ least.Complete)
    ∧ least.key ≤ mine.key

/-- A version satisfies a required one. -/
def Satisfies (mine least : VersionString) : Prop :=
  gpgmeCompareVersions (some mine.string) (some least.string) = some 1

/-- One version satisfies another when its key is at least as large. -/
theorem satisfies_iff (mine least : VersionString)
    : Satisfies mine least ↔ least.parts.key ≤ mine.parts.key := by
  obtain ⟨result, compared, spec⟩ := gpgmeCompareVersions_spec mine.string least.string
  unfold Satisfies
  rw [compared, Option.some_inj, spec]
  constructor
  · rintro ⟨parts, others, forms, otherForms, below⟩
    rwa [mine.forms.eq, least.forms.eq, ← forms.eq, ← otherForms.eq]
  · exact fun below => ⟨_, _, mine.forms, least.forms, below⟩

/-- The comparison does what it documents unless a missing number is taken for zero; versions are
in a total preorder.
-/
theorem compares_versions_iff (myVersion rqVersion : Str)
    : (gpgmeCompareVersions (some myVersion) (some rqVersion)).isSome
      ∧ (ComparesVersions myVersion rqVersion ↔ ¬MissesNumber myVersion rqVersion)
      ∧ IsPreorder VersionString Satisfies
      ∧ Std.Total Satisfies := by
  refine ⟨?_, ?_, ?_, ⟨?_⟩⟩
  · obtain ⟨result, compared, -⟩ := gpgmeCompareVersions_spec myVersion rqVersion
    exact Option.isSome_of_mem compared
  · obtain ⟨result, compared, spec⟩ := gpgmeCompareVersions_spec myVersion rqVersion
    constructor
    · rintro ⟨result', compared', meets⟩ ⟨mine, least, forms, leastForms, missing, below⟩
      cases compared.symm.trans compared'
      obtain ⟨my, rq, rfl, rfl, -⟩ :=
        meets.mp (spec.mpr ⟨mine, least, forms, leastForms, below⟩)
      rw [forms.eq, leastForms.eq, ← my.forms.eq, ← rq.forms.eq] at missing
      exact missing ⟨my.complete, rq.complete⟩
    · intro noneMissing
      refine ⟨result, compared, spec.trans ⟨?_, ?_⟩⟩
      · rintro ⟨mine, least, forms, leastForms, below⟩
        have both : mine.Complete ∧ least.Complete := by
          by_contra missing
          exact noneMissing ⟨mine, least, forms, leastForms, missing, below⟩
        exact ⟨⟨_, mine, forms, both.1⟩, ⟨_, least, leastForms, both.2⟩, rfl, rfl, below⟩
      · rintro ⟨mine, least, rfl, rfl, below⟩
        exact ⟨_, _, mine.forms, least.forms, below⟩
  · refine { refl := ?_, trans := ?_ }
    · exact fun version => (satisfies_iff version version).mpr (le_refl _)
    · intro first second third above below
      rw [satisfies_iff] at above below ⊢
      exact le_trans below above
  · intro first second
    rw [satisfies_iff, satisfies_iff]
    exact le_total _ _

/-- Any version satisfies a requirement without numbers. -/
theorem dots_satisfied : ¬ComparesVersions (str "1.14.0") (str "..") := by
  rintro ⟨result, compared, meets⟩
  have one : gpgmeCompareVersions (some (str "1.14.0")) (some (str "..")) = some 1 := by decide
  cases compared.symm.trans one
  obtain ⟨mine, least, -, same, -⟩ := meets.mp rfl
  have empty : least.parts.major = [] := by
    rw [least.forms.eq, same]
    decide
  exact least.complete.1 empty

end Gpgme
