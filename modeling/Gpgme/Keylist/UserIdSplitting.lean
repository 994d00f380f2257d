import Gpgme.Keylist.UserIdBlocks
import Gpgme.Lib.Nesting

/-! How `parse_user_id` splits a user ID of the usual form, and where the parts are stored. -/

namespace Gpgme

open ByteMemory CString Nesting

-----------------------------------------------------------------------------------------
-- The usual form
-----------------------------------------------------------------------------------------

/-- `name (comment) <email>`, where the last two parts may be left out. -/
def usualUserId (name : Str) (comment email : Option Str) : Str :=
  name
    ++ (comment.elim [] fun comment => [32, 40] ++ comment ++ [41])
    ++ email.elim [] fun email => [32, 60] ++ email ++ [62]

/-- No blank stands at the end. -/
def Trimmed (part : Str) : Prop := ∀ c, part.getLast? = some c → isBlank c = false

instance (part : Str) : Decidable (Trimmed part) :=
  decidable_of_iff (part.getLast?.all fun c => !isBlank c) (by simp [Trimmed, Option.all_eq_true])

/-- A name that the scanner tells from what follows it. -/
structure UsualName (name : Str) : Prop where
  filled : name ≠ []
  plain : ∀ c ∈ name, c ≠ 60 ∧ c ≠ 40
  head : ∀ c, name.head? = some c → isBlank c = false
  trimmed : Trimmed name

/-- The blanks at the end of a part are the only thing that is lost of it. -/
theorem setUserIdPart_eq {part : Str} (trimmed : Trimmed part) : setUserIdPart part = part := by
  refine List.rdropWhile_eq_self_iff.mpr ?_
  intro filled blankEnd
  rw [trimmed _ (List.getLast?_eq_some_getLast filled)] at blankEnd
  cases blankEnd

/-- The blank in front of a delimiter is not a part of the name. -/
theorem setUserIdPart_blank {part : Str} (trimmed : Trimmed part)
    : setUserIdPart (part ++ [32]) = part := by
  unfold setUserIdPart
  rw [List.rdropWhile_concat_pos _ _ _ (by decide)]
  exact setUserIdPart_eq trimmed

section Parsing

variable {parser : UserIdParser} {name comment email : Str}

/-- Inside of a comment the scanner counts the parentheses. -/
theorem reads_comment (outside : parser.inEmail = 0)
    : Reads 40 41 UserIdParser.step
        fun depth text => { parser with inComment := depth + 1, part := text } where
  opens depth text := by simp [UserIdParser.step, outside]
  closes depth text := by simp [UserIdParser.step, outside]
  others depth text c opening closing := by
    simp [UserIdParser.step, outside, opening, closing]

/-- Inside of an email address it counts the angle brackets. -/
theorem reads_email
    : Reads 60 62 UserIdParser.step
        fun depth text => { parser with inEmail := depth + 1, part := text } where
  opens depth text := by simp [UserIdParser.step]
  closes depth text := by simp [UserIdParser.step]
  others depth text c opening closing := by simp [UserIdParser.step, opening, closing]

/-- A name is read as a whole, by induction on what is left of it. -/
theorem foldl_name {part : Str} (plain : ∀ c ∈ name, c ≠ 60 ∧ c ≠ 40)
    : name.foldl UserIdParser.step { inName := true, part }
      = { inName := true, part := part ++ name } := by
  induction name generalizing part with
  | nil => simp
  | cons c rest ih =>
      have here := plain c List.mem_cons_self
      have first
          : UserIdParser.step { inName := true, part } c
            = { inName := true, part := part ++ [c] } := by
        simp [UserIdParser.step, here]
      rw [List.foldl_cons, first, ih fun c member => plain c (List.mem_cons_of_mem _ member)]
      simp

/-- A usual name is collected as it is. -/
theorem foldl_usualName (usual : UsualName name)
    : name.foldl UserIdParser.step {} = { inName := true, part := name } := by
  obtain ⟨filled, plain, head, -⟩ := usual
  obtain ⟨c, rest, rfl⟩ := List.exists_cons_of_ne_nil filled
  have here := plain c List.mem_cons_self
  have first : UserIdParser.step {} c = { inName := true, part := [c] } := by
    simp [UserIdParser.step, here, head c rfl]
  rw [List.foldl_cons, first,
    foldl_name fun c member => plain c (List.mem_cons_of_mem _ member)]
  rfl

/-- A comment in parentheses ends the name and is stored without them. -/
theorem foldl_comment (noEmail : parser.inEmail = 0) (noComment : parser.inComment = 0)
    (first : parser.comment = none) (balanced : Balanced 40 41 comment) (trimmed : Trimmed comment)
    : ([32, 40] ++ comment ++ [41]).foldl UserIdParser.step parser
      = { ({ parser with part := parser.part ++ [32] } : UserIdParser).endName with
          inComment := 0, comment := some comment, part := comment ++ [41] } := by
  have opened
      : [32, 40].foldl UserIdParser.step parser
        = { ({ parser with part := parser.part ++ [32] } : UserIdParser).endName with
            inComment := 1, part := [] } := by
    simp [UserIdParser.step, noEmail, noComment, isBlank]
  have flags
      : ({ parser with part := parser.part ++ [32] } : UserIdParser).endName.inEmail = 0
        ∧ ({ parser with part := parser.part ++ [32] } : UserIdParser).endName.comment = none := by
    unfold UserIdParser.endName
    split <;> exact ⟨noEmail, first⟩
  rw [List.append_assoc, List.foldl_append, opened, List.foldl_append,
    (reads_comment flags.1).balanced (by decide) balanced]
  simp [UserIdParser.step, flags, setUserIdPart_eq trimmed]

/-- An email address in angle brackets ends the name and is stored without them. -/
theorem foldl_email (noEmail : parser.inEmail = 0) (noComment : parser.inComment = 0)
    (first : parser.email = none) (balanced : Balanced 60 62 email) (trimmed : Trimmed email)
    : ([32, 60] ++ email ++ [62]).foldl UserIdParser.step parser
      = { ({ parser with part := parser.part ++ [32] } : UserIdParser).endName with
          inEmail := 0, email := some email, part := email ++ [62] } := by
  have opened
      : [32, 60].foldl UserIdParser.step parser
        = { ({ parser with part := parser.part ++ [32] } : UserIdParser).endName with
            inEmail := 1, part := [] } := by
    simp [UserIdParser.step, noEmail, noComment, isBlank]
  have unset
      : ({ parser with part := parser.part ++ [32] } : UserIdParser).endName.email = none := by
    unfold UserIdParser.endName
    split <;> exact first
  rw [List.append_assoc, List.foldl_append, opened, List.foldl_append,
    reads_email.balanced (by decide) balanced]
  simp [UserIdParser.step, unset, setUserIdPart_eq trimmed]

/-- A user ID of the usual form is split into its parts. -/
theorem parseUserId_usual (usual : UsualName name) (comment email : Option Str)
    (usualComment : ∀ text, comment = some text → Balanced 40 41 text ∧ Trimmed text)
    (usualEmail : ∀ text, email = some text → Balanced 60 62 text ∧ Trimmed text)
    : parseUserId (usualUserId name comment email)
      = (name, email.getD [], comment.getD []) := by
  have named := setUserIdPart_eq usual.trimmed
  have blankName := setUserIdPart_blank usual.trimmed
  unfold parseUserId usualUserId
  rw [List.foldl_append, List.foldl_append, foldl_usualName usual]
  cases comment with
  | none =>
      cases email with
      | none => simp [UserIdParser.endName, named]
      | some email =>
          obtain ⟨balanced, trimmed⟩ := usualEmail email rfl
          simp only [Option.elim_none, Option.elim_some, List.foldl_nil]
          rw [foldl_email rfl rfl rfl balanced trimmed]
          simp [UserIdParser.endName, blankName]
  | some comment =>
      obtain ⟨balanced, trimmed⟩ := usualComment comment rfl
      simp only [Option.elim_some]
      rw [foldl_comment rfl rfl rfl balanced trimmed]
      cases email with
      | none => simp [UserIdParser.endName, blankName]
      | some email =>
          obtain ⟨balancedEmail, trimmedEmail⟩ := usualEmail email rfl
          simp only [Option.elim_some]
          rw [foldl_email rfl rfl rfl balancedEmail trimmedEmail]
          simp [UserIdParser.endName, blankName]

end Parsing

-----------------------------------------------------------------------------------------
-- The places of the parts
-----------------------------------------------------------------------------------------

/-- A user ID of the usual form is split into its parts. Of every user ID, all that is written for
it and its parts lies within twice its length and three bytes behind the structure, and there the
three pointers lead to its parts with their terminators; only the email address of a key that has
nothing but a mailbox for a name is found in the block of the address.
-/
theorem userId_parts (protocol : Protocol) {mem : ByteMemory} (src : CStringAt mem)
    : (∀ name comment email,
        UsualName name
        → (∀ text, comment = some text → Balanced 40 41 text ∧ Trimmed text)
        → (∀ text, email = some text → Balanced 60 62 text ∧ Trimmed text)
        → parseUserId (usualUserId name comment email)
          = (name, email.getD [], comment.getD []))
      ∧ (src.text.length < 2 ^ 30
        → userIdSize sizeofUserId (srcLength src)
            = sizeofUserId + areaSize src.text.length
          ∧ ∀ allocs : UserIdAllocs, allocs.Fresh src →
              ∀ block, allocs.block (userIdSize sizeofUserId (srcLength src)) = some block →
                ∃ user,
                  appendNameMemory protocol allocs { bytes := mem } src false = some (.ok user)
                  ∧ user.uid = block + sizeofUserId
                  ∧ (∀ addr ∈ user.mem.writes,
                      (user.uid ≤ addr ∧ addr < user.uid + areaSize src.text.length)
                      ∨ addr ∈ mailboxBytes (mailboxBlock allocs src.text))
                  ∧ user.Complete (areaSize src.text.length) src.text
                      (userIdParts protocol src.text) (mailboxBlock allocs src.text)) := by
  constructor
  · intro name comment email usual usualComment usualEmail
    exact parseUserId_usual usual comment email usualComment usualEmail
  · intro short
    refine ⟨((rightSize_iff (by decide)).mpr short).1, ?_⟩
    intro allocs fresh block given
    exact appendNameMemory_spec protocol fresh short (fun converted => by cases converted) given

/-- A memory that holds "a@b" at address 0. -/
def mailboxMemory : ByteMemory := fun addr =>
  if addr = 0 then 97 else if addr = 1 then 64 else if addr = 2 then 98 else 0

def mailboxString : CStringAt mailboxMemory where
  addr := 0
  text := [97, 64, 98]
  holds := ⟨rfl, rfl, rfl, rfl, trivial⟩
  plain := by simp

/-- The sample is short. -/
theorem mailboxString_short : mailboxString.text.length < 2 ^ 30 := by
  show 3 < 2 ^ 30
  norm_num

/-- A structure of up to 1000 bytes goes to address 1000 and an address to 5000. -/
def mailboxAllocs : UserIdAllocs where
  block size := if size ≤ 1000 then some 1000 else none
  buffer _ := none
  mailbox text := if text.length ≤ 1000 then some 5000 else none

/-- The sample gets its block. -/
theorem mailboxAllocs_block
    : mailboxAllocs.block (userIdSize sizeofUserId (srcLength mailboxString)) = some 1000 := by
  have size : userIdSize sizeofUserId (srcLength mailboxString) = 97 :=
    ((rightSize_iff (by decide)).mpr mailboxString_short).1
  rw [size]
  rfl

/-- The block of the sample is new. -/
theorem mailboxAllocs_fresh : mailboxAllocs.Fresh mailboxString where
  block := by
    intro size block given
    obtain ⟨-, same⟩ := Option.ite_none_right_eq_some.mp given
    cases same
    exact Or.inr (by decide)
  mailbox := by
    intro size block text addr given given'
    obtain ⟨small, same⟩ := Option.ite_none_right_eq_some.mp given
    obtain ⟨-, same'⟩ := Option.ite_none_right_eq_some.mp given'
    cases same
    cases same'
    exact Or.inr (by omega)

/-- "J (()) <a@b>", and the user ID of a mailbox alone. -/
theorem userId_parts_mailbox
    : parseUserId (usualUserId [74] (some [40, 41]) (some [97, 64, 98]))
        = ([74], [97, 64, 98], [40, 41])
      ∧ ∃ user,
          appendNameMemory .openpgp mailboxAllocs { bytes := mailboxMemory } mailboxString false
            = some (.ok user)
          ∧ user.uid = 1000 + sizeofUserId := by
  obtain ⟨splits, stores⟩ := userId_parts .openpgp mailboxString
  constructor
  · have usual : UsualName [74] := ⟨by simp, by simp, by simp [isBlank], by decide⟩
    refine splits [74] (some [40, 41]) (some [97, 64, 98]) usual ?_ ?_
    · intro text same
      cases same
      decide
    · intro text same
      cases same
      decide
  · obtain ⟨-, places⟩ := stores mailboxString_short
    obtain ⟨user, ran, uid, -⟩ := places mailboxAllocs mailboxAllocs_fresh 1000 mailboxAllocs_block
    exact ⟨user, ran, uid⟩

/-- The email address of a key with nothing but a mailbox is not behind the structure. -/
theorem mailbox_email_outside_area
    : ¬∀ user,
        appendNameMemory .openpgp mailboxAllocs { bytes := mailboxMemory } mailboxString false
          = some (.ok user)
        → ∀ field, ∃ part,
            PartAt user.mem.bytes user.uid (user.uid + areaSize mailboxString.text.length)
              (some (user.place field)) (some part) := by
  intro inside
  obtain ⟨user, ran, uid, -, complete⟩ :=
    appendNameMemory_spec .openpgp mailboxAllocs_fresh mailboxString_short
      (fun (converted : false = true) => by cases converted) mailboxAllocs_block
  have only
      : MailboxOnly (userIdParts .openpgp (storedText false mailboxString.text))
          (mailboxBlock mailboxAllocs (storedText false mailboxString.text)) :=
    ⟨by decide, by decide⟩
  have place : user.place .email = 5000 := by
    have address : user.address = some 5000 := complete.address
    exact Option.some.inj ((complete.email only).1.symm.trans address)
  obtain ⟨part, stored⟩ := inside user ran .email
  rw [place, uid] at stored
  cases stored with
  | found above below holds plain =>
      have bound : 1000 + sizeofUserId + areaSize mailboxString.text.length = 1097 := by decide
      omega

end Gpgme
