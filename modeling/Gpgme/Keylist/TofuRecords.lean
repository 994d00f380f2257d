import Gpgme.Keylist.Tracking
import Gpgme.Operation.TrustLines

/-! TOFU information from a TOFU_STATS line and from a tfs record with the same values. Both
parsers are compared with one reading of a list of values.
-/

namespace CString

variable {text rest : Str}

theorem IsWord.strchrBlank_append (isWord : IsWord text)
    : strchrBlank (text ++ blank :: rest) = some (blank :: rest) := by
  have behind : skipWord (text ++ blank :: rest) = blank :: rest := by
    unfold skipWord
    rw [List.dropWhile_append_of_pos (by simpa using isWord.plain)]
    simp
  rw [strchrBlank, behind]

theorem IsWord.word_eq (isWord : IsWord text) : word text = text :=
  List.takeWhile_eq_self_iff.mpr (by simpa using isWord.plain)

theorem IsWord.strchrBlank_eq (isWord : IsWord text) : strchrBlank text = none := by
  rw [strchrBlank, isWord.skipWord_eq]

theorem IsWord.skipBlanks_append (isWord : IsWord text)
    : skipBlanks (text ++ rest) = text ++ rest := by
  cases text with
  | nil => exact absurd rfl isWord.filled
  | cons c text =>
      have filled := isWord.plain c List.mem_cons_self
      exact List.dropWhile_cons_of_neg (by simpa using filled)

end CString

namespace Gpgme

open CString

-----------------------------------------------------------------------------------------
-- Values in a line
-----------------------------------------------------------------------------------------

/-- The arguments of a status line with these values. -/
def blankLine (values : List Str) : Str := List.intercalate [blank] values

/-- A record with these fields. -/
def colonRecord (texts : List Str) : Str := List.intercalate [58] texts

theorem skipBlanks_blankLine {values : List Str} (words : ∀ value ∈ values, IsWord value)
    : skipBlanks (blankLine values) = blankLine values := by
  cases values with
  | nil => rfl
  | cons value values =>
      have first := words value List.mem_cons_self
      cases values with
      | nil =>
          rw [blankLine, List.intercalate_singleton]
          have skipped : skipBlanks (value ++ []) = value ++ [] := first.skipBlanks_append
          rwa [List.append_nil] at skipped
      | cons next values =>
          rw [blankLine, List.intercalate_cons_cons, List.append_assoc]
          exact first.skipBlanks_append

theorem splitFieldsFrom_words (arraysize : Nat) {values : List Str}
    (words : ∀ value ∈ values, IsWord value) (some : values ≠ [])
    : splitFieldsFrom arraysize (blankLine values) = values.take arraysize := by
  induction values generalizing arraysize with
  | nil => exact absurd rfl some
  | cons value values ih =>
      have first := words value List.mem_cons_self
      cases arraysize with
      | zero => rfl
      | succ arraysize =>
          cases values with
          | nil =>
              rw [blankLine, List.intercalate_singleton, splitFieldsFrom, first.strchrBlank_eq]
              simp [first.word_eq]
          | cons next values =>
              have others : ∀ value ∈ next :: values, IsWord value :=
                fun other member => words other (List.mem_cons_of_mem _ member)
              have later := ih arraysize others (List.cons_ne_nil _ _)
              have joined : blankLine (value :: next :: values)
                  = value ++ blank :: blankLine (next :: values) := by
                rw [blankLine, List.intercalate_cons_cons, List.append_assoc]
                rfl
              have behind : skipBlanks (blank :: blankLine (next :: values))
                  = blankLine (next :: values) :=
                skipBlanks_blankLine others
              have filled : blankLine (next :: values) ≠ [] := by
                have nextWord := (others next List.mem_cons_self).filled
                cases values with
                | nil => simpa [blankLine] using nextWord
                | cons other values => simp [blankLine, nextWord]
              rw [joined, splitFieldsFrom, first.strchrBlank_append]
              dsimp only
              rw [behind, first.word_append]
              cases found : blankLine (next :: values) with
              | nil => exact absurd found filled
              | cons c text =>
                  dsimp only
                  rw [← found, later, List.take_succ_cons]

theorem splitFields_words (arraysize : Nat) {values : List Str}
    (words : ∀ value ∈ values, IsWord value) (some : values ≠ [])
    : splitFields (blankLine values) arraysize = values.take arraysize := by
  rw [splitFields, skipBlanks_blankLine words, splitFieldsFrom_words arraysize words some]

theorem colonFields_splitOn (line : Str) : colonFields line = line.splitOn 58 := by
  induction line with
  | nil => rfl
  | cons c rest ih =>
      by_cases colon : c = 58
      · rw [colonFields, if_pos colon, ih]
        simp [List.splitOn_cons_eq_if_modifyHead, colon]
      · rw [colonFields, if_neg colon, ih]
        cases cut : rest.splitOn 58 with
        | nil => exact absurd cut (List.splitOn_ne_nil _ _)
        | cons field fields => simp [List.splitOn_cons_eq_if_modifyHead, colon, cut]

theorem lineFields_colonRecord {texts : List Str} (some : texts ≠ [])
    (noColon : ∀ text ∈ texts, 58 ∉ text)
    : lineFields (colonRecord texts) = texts.take nrFields := by
  rw [lineFields, colonFields_splitOn, colonRecord, List.splitOn_intercalate 58 noColon some]

-----------------------------------------------------------------------------------------
-- The information of a list of values
-----------------------------------------------------------------------------------------

/-- The TOFU information that six values or more stand for. -/
def tofuOf : List Str → Option TofuInfo
  | validity :: signCount :: encrCount :: policy :: first :: last :: rest => do
      let validity ← strtoulField validity
      guard (validity ≤ 7)
      let signcount ← strtoulField signCount
      let encrcount ← strtoulField encrCount
      let signfirst ← strtoulField first
      let signlast ← strtoulField last
      let ti : TofuInfo := {
        validity,
        signcount := clampCount signcount,
        encrcount := clampCount encrcount,
        policy := parseTofuPolicy policy,
        signfirst,
        signlast }
      match rest with
      | encrFirst :: encrLast :: _ => do
          let encrfirst ← strtoulField encrFirst
          let encrlast ← strtoulField encrLast
          some { ti with encrfirst, encrlast }
      | _ => some ti
  | _ => none

theorem exists_six {values : List Str} (enough : 6 ≤ values.length)
    : ∃ a b c d e f rest, values = a :: b :: c :: d :: e :: f :: rest := by
  match values with
  | a :: b :: c :: d :: e :: f :: rest => exact ⟨a, b, c, d, e, f, rest, rfl⟩

theorem storeField_bind {ti : TofuInfo} {field : Str} {store : TofuInfo → Nat → TofuInfo}
    {later : TofuInfo → Except TofuInfo TofuInfo} {value : Nat → Option TofuInfo}
    (same : ∀ n, (later (store ti n)).toOption = value n)
    : (storeField ti field store >>= later).toOption = (strtoulField field).bind value := by
  unfold storeField
  cases strtoulField field with
  | none => rfl
  | some n => exact same n

theorem storeField_last {ti : TofuInfo} {field : Str} {store : TofuInfo → Nat → TofuInfo}
    : (storeField ti field store).toOption
      = (strtoulField field).bind fun n => some (store ti n) := by
  unfold storeField
  cases strtoulField field <;> rfl

theorem parseTofuFields_eq {values : List Str} (enough : 6 ≤ values.length)
    : (parseTofuFields {} values).toOption = tofuOf values := by
  obtain ⟨validity, signCount, encrCount, policy, first, last, rest, rfl⟩ := exists_six enough
  rw [parseTofuFields, tofuOf]
  cases strtoulField validity with
  | none => rfl
  | some validity =>
      by_cases range : validity ≤ 7
      · have notOver : ¬ (some validity).getD 8 > 7 := by simpa using range
        have inRange : (guard (validity ≤ 7) : Option Unit) = some () := if_pos range
        rw [if_neg notOver, Option.bind_eq_bind, Option.bind_some, inRange]
        refine storeField_bind fun signcount => ?_
        refine storeField_bind fun encrcount => ?_
        refine storeField_bind fun signfirst => ?_
        refine storeField_bind fun signlast => ?_
        match rest with
        | [] | [_] => rfl
        | encrFirst :: encrLast :: rest => exact storeField_bind fun encrfirst => storeField_last
      · have tooLarge : (some validity).getD 8 > 7 := by simpa using range
        have outOfRange : (guard (validity ≤ 7) : Option Unit) = none := if_neg range
        rw [if_pos tooLarge, Option.bind_eq_bind, Option.bind_some, outOfRange]
        rfl
variable {fields : Fields} {index : Nat} {text : Str} {α : Type}

/-- A reader finds this, and an error of the engine where there is nothing to find. -/
def TfsReader.Finds (reader : TfsReader α) (found : Option α) : Prop :=
  reader.run = some (match found with
    | none => .error (gpgError ErrCode.invEngine)
    | some value => .ok value)

theorem TfsReader.finds_pure (value : α) : TfsReader.Finds (pure value) (some value) := rfl

theorem tfsCheck_passed {condition : Bool} {next : Unit → TfsReader α} {found : Option α}
    (passed : condition = true) (rest : (next ()).Finds found)
    : TfsReader.Finds (tfsCheck condition >>= next) found := by
  subst passed
  exact rest

theorem tfsCheck_guard {condition : Prop} [Decidable condition] {next : Unit → TfsReader α}
    {found : Unit → Option α} (rest : (next ()).Finds (found ()))
    : TfsReader.Finds (tfsCheck condition >>= next) (guard condition >>= found) := by
  by_cases passed : condition
  · simpa [passed, guard, tfsCheck] using rest
  · simp [passed, guard, tfsCheck]
    rfl

theorem tfsField_finds {next : Str → TfsReader α} {found : Option α}
    (located : fields.read index = some text) (rest : (next text).Finds found)
    : TfsReader.Finds (tfsField fields index >>= next) found := by
  have read : (tfsField fields index >>= next).run = (next text).run := by
    rw [ExceptT.run_bind, tfsField, located]
    rfl
  unfold TfsReader.Finds
  rw [read]
  exact rest

theorem tfsNumber_finds {next : Nat → TfsReader α} {found : Nat → Option α}
    (located : fields.read index = some text) (rest : ∀ value, (next value).Finds (found value))
    : TfsReader.Finds (tfsNumber fields index >>= next) (strtoulField text >>= found) := by
  rw [tfsNumber, bind_assoc]
  refine tfsField_finds located ?_
  rw [bind_assoc]
  cases strtoulField text with
  | none => rfl
  | some value => exact tfsCheck_passed rfl (rest value)

theorem readTofuInfo_finds {name version : Str} {values : List Str} (memory : Uninitialized)
    (enough : 6 ≤ values.length) (one : atoi version = 1)
    : (readTofuInfo { texts := name :: version :: values, memory }).Finds (tofuOf values) := by
  obtain ⟨validity, signCount, encrCount, policy, first, last, rest, rfl⟩ := exists_six enough
  refine tfsCheck_passed (by simp [Fields.count]) ?_
  refine tfsField_finds rfl ?_
  refine tfsCheck_passed (by simpa using one) ?_
  refine tfsNumber_finds rfl fun validity => ?_
  refine tfsCheck_guard ?_
  refine tfsNumber_finds rfl fun signcount => ?_
  refine tfsNumber_finds rfl fun encrcount => ?_
  refine tfsField_finds rfl ?_
  refine tfsNumber_finds rfl fun signfirst => ?_
  refine tfsNumber_finds rfl fun signlast => ?_
  -- both parsers want a pair of further times
  match rest with
  | [] => exact TfsReader.finds_pure _
  | [_] => exact TfsReader.finds_pure _
  | encrFirst :: encrLast :: rest =>
      dsimp only
      rw [if_pos (by simp [Fields.count])]
      refine tfsNumber_finds rfl fun encrfirst => ?_
      exact tfsNumber_finds rfl fun encrlast => TfsReader.finds_pure _

theorem tofuOf_take {values : List Str} {n : Nat} (enough : 8 ≤ n)
    : tofuOf (values.take n) = tofuOf values := by
  obtain ⟨more, rfl⟩ := Nat.exists_eq_add_of_le' enough
  match values with
  | _ :: _ :: _ :: _ :: _ :: _ :: _ :: _ :: _ => simp only [List.take_succ_cons, tofuOf]
  | [] | [_] | [_, _] | [_, _, _] | [_, _, _, _] | [_, _, _, _, _] | [_, _, _, _, _, _]
  | [_, _, _, _, _, _, _] => simp only [List.take_succ_cons, List.take_nil]

-----------------------------------------------------------------------------------------
-- The two sources
-----------------------------------------------------------------------------------------

/-- A value that both formats can carry. -/
structure IsTofuValue (value : Str) : Prop where
  word : IsWord value
  noColon : 58 ∉ value

theorem Signature.lastTofu_setLastTofu {sig : Signature} {old : TofuInfo}
    (present : sig.lastTofu = some old) (ti : TofuInfo)
    : (sig.setLastTofu ti).lastTofu = some ti := by
  unfold lastTofu at present
  obtain ⟨key, found, last⟩ := Option.bind_eq_some_iff.mp present
  obtain ⟨⟨address, stored⟩, isLast, -⟩ := Option.bind_eq_some_iff.mp last
  simp [setLastTofu, lastTofu, found, isLast]

variable {sig : Signature} {uid : UserId} {version : Str} {values : List Str}

theorem parseTofuStats_values (fresh : sig.lastTofu = some {}) (enough : 6 ≤ values.length)
    (valid : ∀ value ∈ values, IsTofuValue value)
    : match tofuOf values with
      | none => (parseTofuStats sig (blankLine values)).1 ≠ 0
      | some ti =>
          (parseTofuStats sig (blankLine values)).1 = 0
          ∧ (parseTofuStats sig (blankLine values)).2.2.lastTofu = some ti := by
  have some : values ≠ [] := by
    rintro rfl
    simp at enough
  have cut := splitFields_words 8 (fun value member => (valid value member).word) some
  have read : (parseTofuFields {} (values.take 8)).toOption = tofuOf values := by
    rw [parseTofuFields_eq (by simp; omega), tofuOf_take le_rfl]
  rw [parseTofuStats, fresh]
  dsimp only
  rw [if_neg (by simp), cut]
  cases parsed : parseTofuFields {} (values.take 8) with
  | error ti =>
      rw [parsed] at read
      rw [← read]
      have failed : invEngine ≠ 0 := by decide
      exact failed
  | ok ti =>
      rw [parsed] at read
      rw [← read]
      exact ⟨rfl, Signature.lastTofu_setLastTofu fresh ti⟩

theorem parseTfsRecord_values (memory : Uninitialized) (noTofu : uid.tofu = none)
    (enough : 6 ≤ values.length) (valid : ∀ value ∈ values, IsTofuValue value)
    (one : atoi version = 1) (noColon : 58 ∉ version)
    : parseTfsRecord (.ofLine memory (colonRecord (str "tfs" :: version :: values))) uid
      = match tofuOf values with
        | none => some (gpgError ErrCode.invEngine, uid)
        | some ti => some (0, { uid with tofu := some ti }) := by
  have cut : lineFields (colonRecord (str "tfs" :: version :: values))
      = str "tfs" :: version :: values.take 18 := by
    rw [lineFields_colonRecord (List.cons_ne_nil _ _)]
    · rfl
    · intro text member
      rcases List.mem_cons.mp member with rfl | member
      · decide
      · rcases List.mem_cons.mp member with rfl | member
        · exact noColon
        · exact (valid text member).noColon
  have found : (readTofuInfo { texts := str "tfs" :: version :: values.take 18, memory }).Finds
      (tofuOf (values.take 18)) :=
    readTofuInfo_finds memory (by simp; omega) one
  rw [parseTfsRecord, if_neg (by simp [noTofu]), Fields.ofLine, cut]
  unfold TfsReader.Finds at found
  rw [found, tofuOf_take (by decide)]
  cases tofuOf values with
  | none => rfl
  | some ti => rfl

theorem parseTfsRecord_rejected {fields : Fields} {err : GpgError} {uid' : UserId}
    (parsed : parseTfsRecord fields uid = some (err, uid')) (rejected : err ≠ 0)
    : uid' = uid ∧ uid'.tofu = none := by
  unfold parseTfsRecord at parsed
  split at parsed
  · cases parsed
    exact absurd rfl rejected
  · rename_i noTofu
    obtain ⟨result, -, parsed⟩ := Option.bind_eq_some_iff.mp parsed
    cases result with
    | error err =>
        cases parsed
        exact ⟨rfl, by simpa using noTofu⟩
    | ok ti =>
        cases parsed
        exact absurd rfl rejected

/-- A TOFU_STATS line and a tfs record with the same values give the same information or are
both rejected, and no record that is rejected gives a user ID TOFU data.
-/
theorem tofu_sources_agree (memory : Uninitialized) (fresh : sig.lastTofu = some {})
    (noTofu : uid.tofu = none) (enough : 6 ≤ values.length)
    (valid : ∀ value ∈ values, IsTofuValue value) (one : atoi version = 1)
    (noColon : 58 ∉ version)
    : let stats := parseTofuStats sig (blankLine values)
      let record := Fields.ofLine memory (colonRecord (str "tfs" :: version :: values))
      ((∃ ti, stats.1 = 0 ∧ stats.2.2.lastTofu = some ti
          ∧ parseTfsRecord record uid = some (0, { uid with tofu := some ti }))
        ∨ (stats.1 ≠ 0 ∧ ∃ err, err ≠ 0 ∧ parseTfsRecord record uid = some (err, uid)))
      ∧ ∀ (fields : Fields) (uid uid' : UserId) (err : GpgError),
          parseTfsRecord fields uid = some (err, uid') → err ≠ 0
          → uid' = uid ∧ uid'.tofu = none := by
  intro stats record
  have fromStats := parseTofuStats_values fresh enough valid
  have fromRecord := parseTfsRecord_values memory noTofu enough valid one noColon
  refine ⟨?_, fun fields uid uid' err parsed rejected =>
    parseTfsRecord_rejected parsed rejected⟩
  cases found : tofuOf values with
  | none =>
      rw [found] at fromStats fromRecord
      exact .inr ⟨fromStats, gpgError ErrCode.invEngine, by decide, fromRecord⟩
  | some ti =>
      rw [found] at fromStats fromRecord
      exact .inl ⟨ti, fromStats.1, fromStats.2, fromRecord⟩

theorem good_binding_from_both_sources
    : let values := [str "2", str "65536", str "010", str "good", str "0x10", str "7", str "9"]
      let sig : Signature :=
        { key := some { fpr := str "AB", protocol := .openpgp, uids := [(str "a@b", some {})] } }
      let uid : UserId :=
        { addr := 0, uid := [], name := [], email := [], comment := [], address := none }
      let stats := parseTofuStats sig (blankLine values)
      let record := Fields.ofLine { slot := fun _ => none, buffer := fun _ => 0 }
        (colonRecord (str "tfs" :: str "1" :: values))
      ((∃ ti, stats.1 = 0 ∧ stats.2.2.lastTofu = some ti
          ∧ parseTfsRecord record uid = some (0, { uid with tofu := some ti }))
        ∨ (stats.1 ≠ 0 ∧ ∃ err, err ≠ 0 ∧ parseTfsRecord record uid = some (err, uid)))
      ∧ ∀ (fields : Fields) (uid uid' : UserId) (err : GpgError),
          parseTfsRecord fields uid = some (err, uid') → err ≠ 0
          → uid' = uid ∧ uid'.tofu = none :=
  tofu_sources_agree _ rfl rfl (by decide)
    (by
      have valid : ∀ value ∈ [str "2", str "65536", str "010", str "good", str "0x10", str "7",
          str "9"], IsWord value ∧ 58 ∉ value := by decide
      exact fun value member => ⟨(valid value member).1, (valid value member).2⟩)
    (by decide) (by decide)

end Gpgme
