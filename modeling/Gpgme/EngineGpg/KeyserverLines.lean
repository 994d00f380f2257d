import Gpgme.EngineGpg.ReadPipes
import Gpgme.Keylist.TofuRecords

/-! The lines of a keyserver listing. `gpg_keylist_preprocess` turns each into what a listing of
the local keyring would have, and `read_colon_line` passes that on.
-/

namespace Gpgme

open CString LineBuffer

-----------------------------------------------------------------------------------------
-- The preprocessor
-----------------------------------------------------------------------------------------

/-- `NR_FIELDS` of the preprocessor. -/
def listingFields : Nat := 16

/-- The field array of a line; the slots behind its fields are not initialized. -/
def Fields.ofListing (memory : Uninitialized) (line : Str) : Fields where
  texts := (colonFields line).take listingFields
  memory := memory

inductive ListingRectype where
  | none
  | info
  | pub
  | uid
deriving DecidableEq, Repr

/-- The type for the name of a record. -/
def listingRectype (name : Str) : ListingRectype :=
  if name = str "info" then .info
  else if name = str "pub" then .pub
  else if name = str "uid" then .uid
  else .none

/-- What is read from the field array, and the size of the buffer for the user ID with the bytes
that are written there.
-/
structure ListingTrace where
  reads : List Nat := []
  uidBuffer : Option (Nat × List UInt8) := Option.none
deriving DecidableEq, Repr

/-- A step of the preprocessor fails where it reads through a pointer that points nowhere. -/
abbrev ListingReader := StateT ListingTrace Option

/-- `field[index]`. -/
def readListing (fields : Fields) (index : Nat) : ListingReader Str := fun trace =>
  (fields.read index).map (·, { trace with reads := trace.reads ++ [index] })

/-- The user ID with the escapes of a C string. A percent sign takes the next two bytes with it,
as far as there are any.
-/
def cCoded : Str → Str
  | [] => []
  | c :: rest =>
      if c = 37 then
        match rest with
        | [] => [92, 120]
        | [high] => [92, 120, high]
        | high :: low :: rest => 92 :: 120 :: high :: low :: cCoded rest
      else if c = 92 then 92 :: 92 :: cCoded rest
      else c :: cCoded rest

/-- Whether the memory for the user ID and for the line is there. -/
structure ListingMemory where
  malloc : Nat → Bool
  asprintf : Str → Bool

/-- `gpgrt_asprintf`. -/
def ListingMemory.format (memory : ListingMemory) (text : Str) : Except GpgError (Option Str) :=
  if memory.asprintf text then .ok (some text) else .error (gpgError ErrCode.enomem)

/-- Write the C-coded user ID and its terminator to a buffer of this size. -/
def writeUid (size : Nat) (escaped : Str) : ListingReader Str := fun trace =>
  some (cCoded escaped, { trace with uidBuffer := some (size, cCoded escaped ++ [0]) })

/-- `gpg_keylist_preprocess` behind the splitting. -/
def preprocessFields (memory : ListingMemory) (fields : Fields)
    : ListingReader (Except GpgError (Option Str)) := do
  let name ← readListing fields 0
  match listingRectype name with
  | .info => pure (.ok none)
  | .pub =>
      if fields.count < 7 then pure (.ok none)
      else
        let key ← readListing fields 1
        let flags ← readListing fields 6
        let keylen ← readListing fields 3
        let algo ← readListing fields 2
        let created ← readListing fields 4
        let expires ← readListing fields 5
        let keyid := key.drop (key.length - 16)
        if 16 < key.length then
          pure (memory.format
            (str "pub:o" ++ flags ++ str ":" ++ keylen ++ str ":" ++ algo ++ str ":" ++ keyid
              ++ str ":" ++ created ++ str ":" ++ expires ++ str "::::::::\n"
              ++ str "fpr:::::::::" ++ key ++ str ":"))
        else
          pure (memory.format
            (str "pub:o" ++ flags ++ str ":" ++ keylen ++ str ":" ++ algo ++ str ":" ++ key
              ++ str ":" ++ created ++ str ":" ++ expires ++ str "::::::::"))
  | .uid =>
      let escaped ← readListing fields 1
      let size := 2 * escaped.length + 1
      if memory.malloc size then
        let uid ← writeUid size escaped
        if fields.count < 4 then
          pure (memory.format (str "uid:o::::::::" ++ uid ++ str ":"))
        else
          let flags ← readListing fields 4
          let created ← readListing fields 2
          let expires ← readListing fields 3
          pure (memory.format
            (str "uid:o" ++ flags ++ str "::::" ++ created ++ str ":" ++ expires ++ str ":::"
              ++ uid ++ str ":"))
      else
        pure (.error (gpgError ErrCode.enomem))
  | .none => pure (.ok none)

/-- The text that the splitting leaves in the line buffer: a NUL is written over the first colon. -/
def listingLeft (line : Str) : Str := (colonFields line).headD []

/-- `gpg_keylist_preprocess`. -/
def gpgKeylistPreprocess (memory : ListingMemory) (slots : Uninitialized) (line : Str)
    : Option (Except GpgError (Option Str) × ListingTrace) :=
  (preprocessFields memory (.ofListing slots line)).run {}

-----------------------------------------------------------------------------------------
-- The user ID
-----------------------------------------------------------------------------------------

/-- Two hexadecimal digits follow every percent sign. -/
def escapesWellFormed : Str → Bool
  | [] => true
  | c :: rest =>
      if c = 37 then
        match rest with
        | high :: low :: rest => (hextobyte high low).isSome && escapesWellFormed rest
        | _ => false
      else
        escapesWellFormed rest

/-- A character other than a percent sign is no part of an escape. -/
theorem escapesWellFormed_plain {c : UInt8} (notPercent : c ≠ 37) (rest : Str)
    : escapesWellFormed (c :: rest) = escapesWellFormed rest := by
  rw [escapesWellFormed.eq_def]
  dsimp only
  rw [if_neg notPercent]

/-- No byte becomes more than two, by induction on the user ID. -/
theorem length_cCoded (escaped : Str) : (cCoded escaped).length ≤ 2 * escaped.length := by
  fun_induction cCoded escaped with
  | case1 => exact Nat.zero_le _
  | case2 => simp
  | case3 high => simp
  | case4 high low rest ih =>
      simp only [List.length_cons]
      omega
  | case5 rest notPercent ih =>
      simp only [List.length_cons]
      omega
  | case6 c rest notPercent notBackslash ih =>
      simp only [List.length_cons]
      omega

/-- What is C-coded consists of bytes of the user ID and of escapes. -/
theorem mem_cCoded {escaped : Str} {c : UInt8} (member : c ∈ cCoded escaped)
    : c ∈ escaped ∨ c = 92 ∨ c = 120 := by
  fun_induction cCoded escaped with
  | case1 => exact .inl member
  | case2 => exact .inr (by simpa using member)
  | case3 high =>
      simp only [List.mem_cons, List.not_mem_nil] at member ⊢
      tauto
  | case4 high low rest ih =>
      simp only [List.mem_cons] at member ⊢
      tauto
  | case5 rest notPercent ih =>
      simp only [List.mem_cons] at member ⊢
      tauto
  | case6 c rest notPercent notBackslash ih =>
      simp only [List.mem_cons] at member ⊢
      tauto

/-- C-coding loses nothing that the escapes of a user ID stand for. -/
theorem decodeCString_cCoded {escaped : Str} (wellFormed : escapesWellFormed escaped = true)
    : decodeCString (cCoded escaped) = decodePercentString escaped := by
  fun_induction cCoded escaped with
  | case1 => rfl
  | case2 => cases wellFormed
  | case3 high => cases wellFormed
  | case4 high low rest ih =>
      rw [escapesWellFormed, if_pos rfl] at wellFormed
      obtain ⟨digits, rest⟩ := Bool.and_eq_true_iff.mp wellFormed
      obtain ⟨value, found⟩ := Option.isSome_iff_exists.mp digits
      rw [decodeCString, decodePercentString, ← ih rest]
      simp only [decodeOne, found]
      cases value with
      | zero => rfl
      | succ value => rfl
  | case5 rest notPercent ih =>
      rw [escapesWellFormed_plain (by decide)] at wellFormed
      rw [decodePercentString.eq_def, decodeCString.eq_def]
      dsimp only
      rw [if_neg (by decide), if_pos (by decide), ← ih wellFormed]
      rfl
  | case6 c rest notPercent notBackslash ih =>
      rw [escapesWellFormed_plain notPercent] at wellFormed
      rw [decodePercentString.eq_def, decodeCString.eq_def]
      dsimp only
      rw [if_pos notPercent, if_pos notBackslash, ih wellFormed]

-----------------------------------------------------------------------------------------
-- The fields of a line
-----------------------------------------------------------------------------------------

variable {line : Str}

/-- The fields hold bytes of the line between its colons, by induction on the line. -/
theorem mem_colonFields {field : Str} {c : UInt8} (found : field ∈ colonFields line)
    (member : c ∈ field)
    : c ∈ line ∧ c ≠ 58 := by
  induction line generalizing field with
  | nil =>
      rw [List.mem_singleton.mp found] at member
      cases member
  | cons first rest ih =>
      rw [colonFields] at found
      split_ifs at found with colon
      · rcases List.mem_cons.mp found with rfl | found
        · cases member
        · exact ⟨List.mem_cons_of_mem _ (ih found member).1, (ih found member).2⟩
      · cases fields : colonFields rest with
        | nil => exact absurd fields (colonFields_ne_nil rest)
        | cons start fields =>
            rw [fields] at found ih
            rcases List.mem_cons.mp found with rfl | found
            · rcases List.mem_cons.mp member with rfl | member
              · exact ⟨List.mem_cons_self, colon⟩
              · have later := ih List.mem_cons_self member
                exact ⟨List.mem_cons_of_mem _ later.1, later.2⟩
            · have later := ih (List.mem_cons_of_mem _ found) member
              exact ⟨List.mem_cons_of_mem _ later.1, later.2⟩

/-- There is one more field than there are colons. -/
theorem length_colonFields (line : Str) : (colonFields line).length = line.count 58 + 1 := by
  induction line with
  | nil => rfl
  | cons first rest ih =>
      rw [colonFields]
      split_ifs with colon
      · rw [List.length_cons, ih, colon, List.count_cons_self]
      · rw [List.count_cons_of_ne colon, ← ih]
        cases fields : colonFields rest with
        | nil => exact absurd fields (colonFields_ne_nil rest)
        | cons start fields => rfl

-----------------------------------------------------------------------------------------
-- The formats
-----------------------------------------------------------------------------------------

/-- The first line for a pub record with a fingerprint. -/
def listedPub (key flags keylen algo created expires : Str) : Str :=
  str "pub:o" ++ flags ++ str ":" ++ keylen ++ str ":" ++ algo ++ str ":"
    ++ key.drop (key.length - 16) ++ str ":" ++ created ++ str ":" ++ expires ++ str "::::::::"

/-- The second line, with the fingerprint. -/
def listedFpr (key : Str) : Str := str "fpr:::::::::" ++ key ++ str ":"

/-- The line for a user ID. -/
def listedUid (flags created expires uid : Str) : Str :=
  str "uid:o" ++ flags ++ str "::::" ++ created ++ str ":" ++ expires ++ str ":::" ++ uid
    ++ str ":"

/-- The fields of the pub record that is made. -/
theorem listedPub_fields {key flags keylen algo created expires : Str}
    (noColon : ∀ text ∈ [key, flags, keylen, algo, created, expires], 58 ∉ text)
    : lineFields (listedPub key flags keylen algo created expires)
      = [str "pub", 111 :: flags, keylen, algo, key.drop (key.length - 16), created, expires,
          [], [], [], [], [], [], [], []] := by
  have joined : listedPub key flags keylen algo created expires
      = colonRecord [str "pub", 111 :: flags, keylen, algo, key.drop (key.length - 16), created,
          expires, [], [], [], [], [], [], [], []] := by
    simp [listedPub, colonRecord, str]
  have tail : 58 ∉ key.drop (key.length - 16) := fun member =>
    noColon key List.mem_cons_self (List.mem_of_mem_drop member)
  rw [joined, lineFields_colonRecord (List.cons_ne_nil _ _)]
  · rfl
  · simp [noColon, tail]
    decide

/-- The fields of the fpr record that is made. -/
theorem listedFpr_fields {key : Str} (noColon : 58 ∉ key)
    : lineFields (listedFpr key)
      = [str "fpr", [], [], [], [], [], [], [], [], key, []] := by
  have joined : listedFpr key
      = colonRecord [str "fpr", [], [], [], [], [], [], [], [], key, []] := by
    simp [listedFpr, colonRecord, str]
  rw [joined, lineFields_colonRecord (List.cons_ne_nil _ _)]
  · rfl
  · simp [noColon]
    decide

/-- The fields of the uid record that is made. -/
theorem listedUid_fields {flags created expires uid : Str}
    (noColon : ∀ text ∈ [flags, created, expires, uid], 58 ∉ text)
    : lineFields (listedUid flags created expires uid)
      = [str "uid", 111 :: flags, [], [], [], created, expires, [], [], uid, []] := by
  have joined : listedUid flags created expires uid
      = colonRecord [str "uid", 111 :: flags, [], [], [], created, expires, [], [], uid, []] := by
    simp [listedUid, colonRecord, str]
  rw [joined, lineFields_colonRecord (List.cons_ne_nil _ _)]
  · rfl
  · simp [noColon]
    decide

-----------------------------------------------------------------------------------------
-- Runs of the preprocessor
-----------------------------------------------------------------------------------------

variable {memory : ListingMemory} {slots : Uninitialized}

/-- No more fields are counted than there is room for. -/
theorem Fields.count_ofListing
    : (Fields.ofListing slots line).count = min listingFields (colonFields line).length := by
  unfold Fields.count Fields.ofListing
  rw [List.length_take]

/-- A read of a field that is there. -/
theorem readListing_then {α : Type} {fields : Fields} {index : Nat} {text : Str}
    {next : Str → ListingReader α} {trace : ListingTrace} {result : Option (α × ListingTrace)}
    (found : fields.read index = some text)
    (rest : (next text).run { trace with reads := trace.reads ++ [index] } = result)
    : (readListing fields index >>= next).run trace = result := by
  change (readListing fields index trace).bind _ = _
  rw [readListing, found]
  exact rest

/-- Writing a user ID decodes its escapes and goes on. -/
theorem run_writeUid {α : Type} (size : Nat) (escaped : Str) (next : Str → ListingReader α)
    (trace : ListingTrace)
    : (writeUid size escaped >>= next).run trace
      = (next (cCoded escaped)).run
          { trace with uidBuffer := some (size, cCoded escaped ++ [0]) } :=
  rfl

/-- The first field tells the type. -/
theorem preprocess_eq {name : Str} {others : List Str} (split : colonFields line = name :: others)
    : gpgKeylistPreprocess memory slots line
      = (preprocessFields memory { texts := name :: others.take 15, memory := slots }).run {} := by
  rw [gpgKeylistPreprocess, Fields.ofListing, split]
  rfl

/-- A line of another type is passed on as it is. -/
theorem preprocess_other {name : Str} {others : List Str}
    (split : colonFields line = name :: others) (notPub : name ≠ str "pub")
    (notUid : name ≠ str "uid")
    : gpgKeylistPreprocess memory slots line = some (.ok none, { reads := [0] }) := by
  rw [preprocess_eq split]
  refine readListing_then rfl ?_
  unfold listingRectype
  by_cases info : name = str "info"
  · rw [if_pos info]
    rfl
  · rw [if_neg info, if_neg notPub, if_neg notUid]
    rfl

/-- A pub line with too few fields is passed over. -/
theorem preprocess_shortPub {others : List Str}
    (split : colonFields line = str "pub" :: others) (short : others.length < 6)
    : gpgKeylistPreprocess memory slots line = some (.ok none, { reads := [0] }) := by
  rw [preprocess_eq split]
  refine readListing_then rfl ?_
  have type : listingRectype (str "pub") = .pub := by decide
  have few : (Fields.mk (str "pub" :: others.take 15) slots).count < 7 := by
    simp only [Fields.count, List.length_cons, List.length_take]
    omega
  simp only [type]
  rw [if_pos few]
  rfl

/-- A key that is longer than a key ID gets a line of its own. -/
theorem preprocess_pub {key algo keylen created expires flags : Str} {rest : List Str}
    (split : colonFields line
      = str "pub" :: key :: algo :: keylen :: created :: expires :: flags :: rest)
    : gpgKeylistPreprocess memory slots line
      = some (memory.format
          (listedPub key flags keylen algo created expires
            ++ if 16 < key.length then 10 :: listedFpr key else []),
        { reads := [0, 1, 6, 3, 2, 4, 5] }) := by
  have type : listingRectype (str "pub") = .pub := by decide
  rw [preprocess_eq split]
  refine readListing_then rfl ?_
  simp only [type]
  rw [if_neg (by simp [Fields.count])]
  refine readListing_then rfl ?_
  refine readListing_then rfl ?_
  refine readListing_then rfl ?_
  refine readListing_then rfl ?_
  refine readListing_then rfl ?_
  refine readListing_then rfl ?_
  by_cases long : 16 < key.length
  · have joined : listedPub key flags keylen algo created expires ++ 10 :: listedFpr key
        = str "pub:o" ++ flags ++ str ":" ++ keylen ++ str ":" ++ algo ++ str ":"
          ++ key.drop (key.length - 16) ++ str ":" ++ created ++ str ":" ++ expires
          ++ str "::::::::\n" ++ str "fpr:::::::::" ++ key ++ str ":" := by
      simp [listedPub, listedFpr, str]
    dsimp only
    rw [if_pos long, if_pos long, joined]
    rfl
  · have whole : key.drop (key.length - 16) = key := by
      rw [Nat.sub_eq_zero_of_le (by omega), List.drop_zero]
    dsimp only
    rw [if_neg long, if_neg long, List.append_nil, listedPub, whole]
    rfl

/-- Without memory for the user ID nothing else is read. -/
theorem preprocess_uidMemory {escaped : Str} {others : List Str}
    (split : colonFields line = str "uid" :: escaped :: others)
    (failed : memory.malloc (2 * escaped.length + 1) = false)
    : gpgKeylistPreprocess memory slots line
      = some (.error (gpgError ErrCode.enomem), { reads := [0, 1] }) := by
  have type : listingRectype (str "uid") = .uid := by decide
  rw [preprocess_eq split]
  refine readListing_then rfl ?_
  simp only [type]
  refine readListing_then rfl ?_
  rw [failed]
  rfl

/-- The user ID of a line with up to three fields. -/
theorem preprocess_shortUid {escaped : Str} {others : List Str}
    (split : colonFields line = str "uid" :: escaped :: others) (short : others.length < 2)
    (got : memory.malloc (2 * escaped.length + 1) = true)
    : gpgKeylistPreprocess memory slots line
      = some (memory.format (listedUid [] [] [] (cCoded escaped)),
        { reads := [0, 1],
          uidBuffer := some (2 * escaped.length + 1, cCoded escaped ++ [0]) }) := by
  have type : listingRectype (str "uid") = .uid := by decide
  have few : (Fields.mk (str "uid" :: (escaped :: others).take 15) slots).count < 4 := by
    simp only [Fields.count, List.length_cons, List.length_take]
    omega
  have joined : listedUid [] [] [] (cCoded escaped)
      = str "uid:o::::::::" ++ cCoded escaped ++ str ":" := by
    simp [listedUid, str]
  rw [preprocess_eq split]
  refine readListing_then rfl ?_
  simp only [type]
  refine readListing_then rfl ?_
  dsimp only
  rw [if_pos got, run_writeUid, if_pos few, joined]
  rfl

/-- The user ID of a line with enough fields, where the slot of the fifth one is read. -/
theorem preprocess_uid {escaped created expires flags : Str} {others : List Str}
    (split : colonFields line = str "uid" :: escaped :: created :: expires :: others)
    (fifth : (Fields.ofListing slots line).read 4 = some flags)
    (got : memory.malloc (2 * escaped.length + 1) = true)
    : gpgKeylistPreprocess memory slots line
      = some (memory.format (listedUid flags created expires (cCoded escaped)),
        { reads := [0, 1, 4, 2, 3],
          uidBuffer := some (2 * escaped.length + 1, cCoded escaped ++ [0]) }) := by
  have type : listingRectype (str "uid") = .uid := by decide
  rw [Fields.ofListing, split] at fifth
  rw [preprocess_eq split]
  refine readListing_then rfl ?_
  simp only [type]
  refine readListing_then rfl ?_
  dsimp only
  rw [if_pos got, run_writeUid, if_neg (by simp [Fields.count])]
  refine readListing_then fifth ?_
  refine readListing_then rfl ?_
  refine readListing_then rfl ?_
  rfl

-----------------------------------------------------------------------------------------
-- What is passed on
-----------------------------------------------------------------------------------------

/-- A text of two lines is passed on as these. -/
theorem preprocessedLines_two {first second : Str} (firstLine : 10 ∉ first)
    (secondLine : 10 ∉ second) (filled : second ≠ [])
    : preprocessedLines (first ++ 10 :: second) = [first, second] := by
  have whole : Lines.complete [] (first ++ 10 :: second) = [first] :=
    (Lines.complete_line firstLine [] second).trans (by rw [Lines.complete_plain secondLine]; rfl)
  have last : Lines.unfinished [] (first ++ 10 :: second) = second :=
    (Lines.unfinished_line first [] second).trans (Lines.unfinished_plain secondLine [])
  unfold preprocessedLines
  dsimp only
  rw [last, whole]
  exact if_pos (.inl filled)

/-- A line that is preprocessed goes to the handler in its new form, however it is read. -/
theorem readColonLine_preprocessed {pipe : ColonPipe} {reader : Reader} {chunks : List Chunk}
    {preprocess : PreprocessFnc} {left text : Str} (nulFree : 0 ∉ line)
    (noLf : 10 ∉ line) (colon : 58 ∈ line) (set : pipe.preprocessFnc = some preprocess)
    (answer : preprocess line = .ok (left, some text)) (start : reader.Holds [])
    (fits : FitsAll ColonPipe.readColonLine pipe reader chunks)
    (one : stream chunks = line ++ [10])
    : ∃ next reader',
        readAll ColonPipe.readColonLine pipe reader chunks = some (.ok (next, reader'))
        ∧ next.lines = pipe.lines ++ (preprocessedLines text).map some := by
  obtain ⟨result, ran, agrees⟩ :=
    readAll_agrees ColonPipe.readColonLine_read colonLineHandler_handles start fits
  have lines : Lines.complete [] (stream chunks) = [line] := by
    rw [one]
    exact Lines.complete_line noLf [] []
  have whole : cstring line = line :=
    cstring_of_nulFree (fun c member same => nulFree (same ▸ member))
  have handled : pipe.handleText line
      = .ok { pipe with lines := pipe.lines ++ (preprocessedLines text).map some } := by
    unfold ColonPipe.handleText
    rw [if_pos ⟨List.ne_nil_of_mem colon, colon⟩, set]
    simp only [answer]
  rw [lines, List.foldlM_cons, whole, handled] at agrees
  cases result with
  | error e => exact absurd agrees id
  | ok ended =>
      obtain ⟨next, reader'⟩ := ended
      obtain ⟨rfl, -⟩ := agrees
      exact ⟨_, reader', ran, rfl⟩

-----------------------------------------------------------------------------------------
-- The content of a listing
-----------------------------------------------------------------------------------------

/-- A call reads fields of its line only, and its buffer holds what it writes there. -/
def StaysInLine (memory : ListingMemory) (slots : Uninitialized) (line : Str) : Prop :=
  ∃ outcome trace,
    gpgKeylistPreprocess memory slots line = some (outcome, trace)
    ∧ (∀ index ∈ trace.reads, index < (Fields.ofListing slots line).count)
    ∧ ∀ size written,
        trace.uidBuffer = some (size, written)
        → (∃ escaped, (colonFields line)[1]? = some escaped ∧ size = 2 * escaped.length + 1)
          ∧ written.length ≤ size

/-- The line for a user ID stands for the same user ID. -/
def KeepsUserId (memory : ListingMemory) (slots : Uninitialized) (line : Str) : Prop :=
  ∀ escaped,
    (colonFields line)[0]? = some (str "uid")
    → (colonFields line)[1]? = some escaped
    → escapesWellFormed escaped = true
    → ∃ outcome trace,
        gpgKeylistPreprocess memory slots line = some (outcome, trace)
        ∧ ((memory.malloc (2 * escaped.length + 1) = false
            ∧ outcome = .error (gpgError ErrCode.enomem))
          ∨ ∃ text tenth,
              outcome = memory.format text
              ∧ (lineFields text)[9]? = some tenth
              ∧ decodeCString tenth = decodePercentString escaped)

/-- A preprocessor function that does with the line what the preprocessor does. -/
def PreprocessesLine (preprocess : PreprocessFnc) (memory : ListingMemory)
    (slots : Uninitialized) (line : Str) : Prop :=
  ∀ outcome trace,
    gpgKeylistPreprocess memory slots line = some (outcome, trace)
    → preprocess line = outcome.map (listingLeft line, ·)

/-- The handler gets a pub record with the key ID and an fpr record with the fingerprint. -/
def KeepsFingerprint (memory : ListingMemory) (slots : Uninitialized) (line : Str) : Prop :=
  ∀ key (pipe : ColonPipe) (reader : Reader) (chunks : List Chunk) preprocess,
    (colonFields line)[0]? = some (str "pub")
    → 7 ≤ (colonFields line).length
    → (colonFields line)[1]? = some key
    → 16 < key.length
    → (∀ text, memory.asprintf text = true)
    → PreprocessesLine preprocess memory slots line
    → pipe.preprocessFnc = some preprocess
    → reader.Holds []
    → FitsAll ColonPipe.readColonLine pipe reader chunks
    → stream chunks = line ++ [10]
    → ∃ next reader' pub fpr,
        readAll ColonPipe.readColonLine pipe reader chunks = some (.ok (next, reader'))
        ∧ next.lines = pipe.lines ++ [some pub, some fpr]
        ∧ (lineFields pub)[0]? = some (str "pub")
        ∧ (lineFields pub)[4]? = some (key.drop (key.length - 16))
        ∧ (lineFields fpr)[0]? = some (str "fpr")
        ∧ (lineFields fpr)[9]? = some key

/-- A line for a user ID without flags, of which the field for these is read all the same. -/
def FlagsMissing (line : Str) : Prop :=
  (colonFields line)[0]? = some (str "uid") ∧ (colonFields line).length = 4

/-- A line with a colon has two fields. -/
theorem exists_second (colon : 58 ∈ line)
    : ∃ name second others, colonFields line = name :: second :: others := by
  have count := length_colonFields line
  have some := List.count_pos_iff.mpr colon
  match fields : colonFields line with
  | [] | [_] =>
      rw [fields] at count
      simp only [List.length_nil, List.length_singleton] at count
      omega
  | name :: second :: others => exact ⟨name, second, others, rfl⟩

/-- The fingerprint of each line is kept. -/
theorem keepsFingerprint (memory : ListingMemory) (slots : Uninitialized) (nulFree : 0 ∉ line)
    (noLf : 10 ∉ line) (colon : 58 ∈ line)
    : KeepsFingerprint memory slots line := by
  intro key pipe reader chunks preprocess pub seven second long room preprocesses set start fits
    one
  obtain ⟨algo, keylen, created, expires, flags, rest, split⟩
      : ∃ algo keylen created expires flags rest,
          colonFields line
            = str "pub" :: key :: algo :: keylen :: created :: expires :: flags :: rest := by
    match fields : colonFields line with
    | a :: b :: c :: d :: e :: f :: g :: rest =>
        rw [fields] at pub second
        cases pub
        cases second
        exact ⟨c, d, e, f, g, rest, rfl⟩
    | [] | [_] | [_, _] | [_, _, _] | [_, _, _, _] | [_, _, _, _, _] | [_, _, _, _, _, _] =>
        rw [fields] at seven
        simp at seven
  have texts : ∀ text ∈ [key, flags, keylen, algo, created, expires], text ∈ colonFields line := by
    intro text member
    rw [split]
    simp only [List.mem_cons, List.not_mem_nil, or_false] at member ⊢
    tauto
  have noColon : ∀ text ∈ [key, flags, keylen, algo, created, expires], 58 ∉ text :=
    fun text member inside => (mem_colonFields (texts text member) inside).2 rfl
  have pubFields := listedPub_fields noColon
  have fprFields := listedFpr_fields (noColon key List.mem_cons_self)
  have run := @preprocess_pub line memory slots _ _ _ _ _ _ _ split
  rw [if_pos long] at run
  have answer := preprocesses _ _ run
  rw [ListingMemory.format, if_pos (room _), Except.map] at answer
  obtain ⟨next, reader', ran, lines⟩ :=
    readColonLine_preprocessed nulFree noLf colon set answer start fits one
  have lf : ∀ text ∈ [key, flags, keylen, algo, created, expires], 10 ∉ text :=
    fun text member inside => noLf (mem_colonFields (texts text member) inside).1
  have tail : 10 ∉ key.drop (key.length - 16) := fun inside =>
    lf key List.mem_cons_self (List.mem_of_mem_drop inside)
  have pubLf : 10 ∉ listedPub key flags keylen algo created expires := by
    simp [listedPub, str, lf, tail]
  have fprLf : 10 ∉ listedFpr key := by
    simp [listedFpr, str, lf]
  rw [preprocessedLines_two pubLf fprLf (List.cons_ne_nil _ _)] at lines
  refine ⟨next, reader', _, _, ran, lines, ?_, ?_, ?_, ?_⟩
  · rw [pubFields]
    rfl
  · rw [pubFields]
    rfl
  · rw [fprFields]
    rfl
  · rw [fprFields]
    rfl

/-- A call for a user ID fails for want of memory, or leaves a line with that user ID after it has
read fields that are there.
-/
theorem preprocess_uidLine (memory : ListingMemory) (slots : Uninitialized) {escaped : Str}
    {others : List Str} (split : colonFields line = str "uid" :: escaped :: others)
    (complete : others.length ≠ 2)
    : ∃ outcome trace,
        gpgKeylistPreprocess memory slots line = some (outcome, trace)
        ∧ (∀ index ∈ trace.reads, index < (Fields.ofListing slots line).count)
        ∧ ((memory.malloc (2 * escaped.length + 1) = false
            ∧ outcome = .error (gpgError ErrCode.enomem) ∧ trace.uidBuffer = none)
          ∨ ∃ flags created expires,
              outcome = memory.format (listedUid flags created expires (cCoded escaped))
              ∧ trace.uidBuffer = some (2 * escaped.length + 1, cCoded escaped ++ [0])
              ∧ ∀ text ∈ [flags, created, expires], text = [] ∨ text ∈ others) := by
  have count : (Fields.ofListing slots line).count = min listingFields (others.length + 2) := by
    rw [Fields.count_ofListing, split]
    rfl
  have two : ∀ index ∈ [0, 1], index < (Fields.ofListing slots line).count := by
    intro index member
    rw [count]
    simp only [List.mem_cons, List.not_mem_nil, or_false] at member
    unfold listingFields
    omega
  cases got : memory.malloc (2 * escaped.length + 1) with
  | false => exact ⟨_, _, preprocess_uidMemory split got, two, .inl ⟨rfl, rfl, rfl⟩⟩
  | true =>
      by_cases short : others.length < 2
      · refine ⟨_, _, preprocess_shortUid split short got, two,
          .inr ⟨[], [], [], rfl, rfl, ?_⟩⟩
        simp
      · match others with
        | created :: expires :: flags :: rest =>
            have fifth : (Fields.ofListing slots line).read 4 = some flags := by
              rw [Fields.ofListing, split]
              rfl
            refine ⟨_, _, preprocess_uid split fifth got, ?_,
              .inr ⟨flags, created, expires, rfl, rfl, ?_⟩⟩
            · intro index member
              rw [count]
              simp only [List.mem_cons, List.not_mem_nil, or_false] at member
              simp only [List.length_cons]
              unfold listingFields
              omega
            · simp
        | [] | [_] => exact absurd (by simp) short
        | [_, _] => exact absurd rfl complete

/-- The user ID of each line with flags is kept. -/
theorem keepsUserId (memory : ListingMemory) (slots : Uninitialized)
    (flags : ¬FlagsMissing line)
    : KeepsUserId memory slots line := by
  intro escaped uid second wellFormed
  obtain ⟨others, split⟩ : ∃ others, colonFields line = str "uid" :: escaped :: others := by
    match fields : colonFields line with
    | a :: b :: others =>
        rw [fields] at uid second
        cases uid
        cases second
        exact ⟨others, rfl⟩
    | [] | [_] =>
        rw [fields] at second
        simp at second
  have complete : others.length ≠ 2 := by
    intro two
    exact flags ⟨uid, by rw [split, List.length_cons, List.length_cons, two]⟩
  obtain ⟨outcome, trace, run, -, result⟩ := preprocess_uidLine memory slots split complete
  refine ⟨outcome, trace, run, ?_⟩
  rcases result with ⟨failed, refused, -⟩ | ⟨flags, created, expires, line', -, texts⟩
  · exact .inl ⟨failed, refused⟩
  · have clean : ∀ text ∈ colonFields line, 58 ∉ text :=
      fun text found member => (mem_colonFields found member).2 rfl
    have coded : 58 ∉ cCoded escaped := by
      intro member
      rcases mem_cCoded member with inside | escape | escape
      · exact clean escaped (by simp [split]) inside
      · cases escape
      · cases escape
    have noColon : ∀ text ∈ [flags, created, expires, cCoded escaped], 58 ∉ text := by
      intro text member
      rcases List.mem_append.mp
        (show text ∈ [flags, created, expires] ++ [cCoded escaped] from member)
        with member | member
      · rcases texts text member with rfl | found
        · exact List.not_mem_nil
        · exact clean text (by simp [split, found])
      · rw [List.mem_singleton.mp member]
        exact coded
    refine .inr ⟨_, cCoded escaped, line', ?_, decodeCString_cCoded wellFormed⟩
    rw [listedUid_fields noColon]
    rfl

/-- Nothing outside of a line with flags is read. -/
theorem staysInLine (memory : ListingMemory) (slots : Uninitialized)
    (flags : ¬FlagsMissing line) (colon : 58 ∈ line)
    : StaysInLine memory slots line := by
  obtain ⟨name, second, others, split⟩ := exists_second colon
  have first : ∀ index ∈ [0], index < (Fields.ofListing slots line).count := by
    rw [Fields.count_ofListing, split]
    simp [listingFields]
  by_cases uid : name = str "uid"
  · subst uid
    have complete : others.length ≠ 2 := by
      intro two
      exact flags ⟨by rw [split]; rfl, by rw [split, List.length_cons, List.length_cons, two]⟩
    obtain ⟨outcome, trace, run, inside, result⟩ := preprocess_uidLine memory slots split complete
    refine ⟨outcome, trace, run, inside, ?_⟩
    intro size written buffer
    rcases result with ⟨-, -, noBuffer⟩ | ⟨-, -, -, -, allocated, -⟩
    · rw [noBuffer] at buffer
      cases buffer
    · rw [allocated] at buffer
      cases buffer
      refine ⟨⟨second, by rw [split]; rfl, rfl⟩, ?_⟩
      rw [List.length_append, List.length_singleton]
      exact Nat.succ_le_succ (length_cCoded second)
  · by_cases pub : name = str "pub"
    · subst pub
      by_cases short : (second :: others).length < 6
      · exact ⟨_, _, preprocess_shortPub split short, first, by simp⟩
      · match others with
        | a :: b :: c :: d :: e :: rest =>
            refine ⟨_, _, preprocess_pub split, ?_, by simp⟩
            intro index member
            rw [Fields.count_ofListing, split]
            simp only [List.mem_cons, List.not_mem_nil, or_false] at member
            simp only [List.length_cons]
            unfold listingFields
            omega
        | [] | [_] | [_, _] | [_, _, _] | [_, _, _, _] => exact absurd (by simp) short
    · exact ⟨_, _, preprocess_other split pub uid, first, by simp⟩

/-- Lines of a keyserver listing keep their content exactly where no user ID comes without its
flags.
-/
theorem listing_lines_kept_iff (nulFree : 0 ∉ line) (noLf : 10 ∉ line) (colon : 58 ∈ line)
    : (∀ memory slots,
        StaysInLine memory slots line
        ∧ KeepsUserId memory slots line
        ∧ KeepsFingerprint memory slots line)
      ↔ ¬FlagsMissing line := by
  constructor
  · rintro kept ⟨uid, four⟩
    let memory : ListingMemory := { malloc := fun _ => true, asprintf := fun _ => true }
    let slots : Uninitialized := { slot := fun _ => some [], buffer := fun _ => 0 }
    obtain ⟨escaped, created, expires, split⟩
        : ∃ escaped created expires,
            colonFields line = [str "uid", escaped, created, expires] := by
      match fields : colonFields line with
      | [a, b, c, d] =>
          rw [fields] at uid
          cases uid
          exact ⟨b, c, d, rfl⟩
      | [] | [_] | [_, _] | [_, _, _] | _ :: _ :: _ :: _ :: _ :: _ =>
          rw [fields] at four
          simp at four
    -- the slot of the flags holds whatever was there before
    have fifth : (Fields.ofListing slots line).read 4 = some [] := by
      rw [Fields.ofListing, split]
      rfl
    obtain ⟨outcome, trace, run, inside, -⟩ := (kept memory slots).1
    rw [preprocess_uid split fifth rfl] at run
    cases run
    have beyond := inside 4 (by simp)
    rw [Fields.count_ofListing, four] at beyond
    exact absurd beyond (by decide)
  · intro flags memory slots
    exact ⟨staysInLine memory slots flags colon, keepsUserId memory slots flags,
      keepsFingerprint memory slots nulFree noLf colon⟩

/-- A line with a fingerprint of 20 characters. -/
theorem fingerprint_line_kept
    : (∀ memory slots,
        StaysInLine memory slots (str "pub:0123456789ABCDEF0123:1:2048:7::")
        ∧ KeepsUserId memory slots (str "pub:0123456789ABCDEF0123:1:2048:7::")
        ∧ KeepsFingerprint memory slots (str "pub:0123456789ABCDEF0123:1:2048:7::"))
      ↔ ¬FlagsMissing (str "pub:0123456789ABCDEF0123:1:2048:7::") :=
  listing_lines_kept_iff (by decide) (by decide) (by decide)

/-- The fifth field of a line with four fields is read. -/
theorem missing_flags_read
    : ∃ memory slots, ¬StaysInLine memory slots (str "uid:Alice:1:2") := by
  refine ⟨{ malloc := fun _ => true, asprintf := fun _ => true },
    { slot := fun _ => some [], buffer := fun _ => 0 }, ?_⟩
  rintro ⟨outcome, trace, run, inside, -⟩
  have split : colonFields (str "uid:Alice:1:2")
      = [str "uid", str "Alice", str "1", str "2"] := by
    decide
  rw [preprocess_uid split rfl rfl] at run
  cases run
  exact absurd (inside 4 (by simp)) (by decide)

end Gpgme
