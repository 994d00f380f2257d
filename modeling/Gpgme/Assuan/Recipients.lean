import Gpgme.Context
import Gpgme.Lib.Lines
import Mathlib.Data.List.DropRight

/-! How the engines that talk to an Assuan server, `engine-gpgsm.c` and `engine-uiserver.c`, tell
it the recipients of an encryption.
-/

namespace Gpgme.Assuan

open CString

/-- What the server answers to a command, after all commands before it. -/
abbrev Server := List Str → Str → GpgError

/-- The server accepts all commands. -/
def accepting : Server := fun _ _ => 0

def isBlank (c : UInt8) : Bool := c == 32 || c == 9

/-- The command that names a recipient. -/
def recipientCommand (name : Str) : Str := str "RECIPIENT " ++ name

/-- The length of the recipient that a string starts with. The source counts it in an `int`; a command
of more than 1000 bytes is refused before it reaches the server.
-/
def recipientLength (string : Str) : Nat :=
  ((string.takeWhile (· != Lines.lineFeed)).rdropWhile isBlank).length

/-- Where the loop goes on behind the recipient: a character more than its length, if there is a
line feed.
-/
def behindRecipient (string : Str) : Str :=
  string.drop (recipientLength string + if string.contains Lines.lineFeed then 1 else 0)

/-- The loop gets on. -/
theorem length_behindRecipient_lt {string rest : Str} {c : UInt8}
    (stripped : string.dropWhile isBlank = c :: rest)
    : (behindRecipient (c :: rest)).length < string.length := by
  have shorter := (List.dropWhile_suffix (l := string) isBlank).length_le
  rw [stripped, List.length_cons] at shorter
  have positive
      : 0 < recipientLength (c :: rest)
          + if (c :: rest).contains Lines.lineFeed then 1 else 0 := by
    split
    · omega
    · next absent =>
        have notBlank : isBlank c = false := by
          have first := List.head?_dropWhile_not isBlank string
          rw [stripped] at first
          simpa using first
        have other : (c != Lines.lineFeed) = true := by
          by_contra same
          simp_all
        unfold recipientLength
        rw [Nat.add_zero, List.length_pos_iff, Ne, List.rdropWhile_eq_nil_iff]
        intro blank
        have first := blank c (by simp [other])
        rw [notBlank] at first
        cases first
  unfold behindRecipient
  rw [List.length_drop, List.length_cons]
  omega

/-- `set_recipients_from_string`, which is the same in both engines, from the state of its loop
on.
-/
def setRecipientsFromString (server : Server) (string : Str) (err : GpgError) (noPubkey : Nat)
    (sent : List Str)
    : GpgError × List Str :=
  match stripped : string.dropWhile isBlank with
  | [] =>
      (if err ≠ 0 then err else if noPubkey ≠ 0 then gpgError ErrCode.noPubkey else 0, sent)
  | c :: rest =>
      let command := recipientCommand ((c :: rest).take (recipientLength (c :: rest)))
      let err := server sent command
      let sent := sent ++ [command]
      if gpgErrCode err = ErrCode.noPubkey then
        setRecipientsFromString server (behindRecipient (c :: rest)) err (noPubkey + 1) sent
      else if err ≠ 0 then
        (err, sent)
      else
        setRecipientsFromString server (behindRecipient (c :: rest)) err noPubkey sent
termination_by string.length
decreasing_by
  · exact length_behindRecipient_lt stripped
  · exact length_behindRecipient_lt stripped

/-- `set_recipients`, for the names that the engine takes from the keys. The loop ends at the first
recipient without a public key.
-/
def setRecipients (server : Server) : List (Option Str) → Nat → List Str → GpgError × List Str
  | [], invalidRecipients, sent =>
      (if invalidRecipients ≠ 0 then gpgError ErrCode.unusablePubkey else 0, sent)
  | none :: rest, invalidRecipients, sent =>
      setRecipients server rest (invalidRecipients + 1) sent
  | some name :: rest, invalidRecipients, sent =>
      let command := recipientCommand name
      let err := server sent command
      let sent := sent ++ [command]
      if gpgErrCode err = ErrCode.noPubkey then (gpgError ErrCode.unusablePubkey, sent)
      else if err ≠ 0 then (err, sent)
      else setRecipients server rest invalidRecipients sent

/-- Go on after a command that was accepted. -/
def andThen (result : GpgError × List Str) (next : List Str → GpgError × List Str)
    : GpgError × List Str :=
  if result.1 ≠ 0 then result else next result.2

def simpleCommand (server : Server) (command : Str) (sent : List Str) : GpgError × List Str :=
  (server sent command, sent ++ [command])

/-- The encodings of a data object that are told to the server. -/
inductive DataEncoding where
  | none
  | binary
  | base64
  | armor
  | other
deriving DecidableEq

/-- `map_data_enc`. -/
def mapDataEnc : DataEncoding → Option Str
  | .none | .other => Option.none
  | .binary => some (str "--binary")
  | .base64 => some (str "--base64")
  | .armor => some (str "--armor")

/-- The command that names a descriptor, when this is given as `fd`. -/
def fdCommand (which fd : Str) : Option Str → Str
  | none => which ++ blank :: fd
  | some opt => which ++ blank :: (fd ++ blank :: opt)

/-- `gpgsm_set_fd` and `uiserver_set_fd`. -/
def setFd (server : Server) (which fd : Str) (opt : Option Str) (sent : List Str)
    : GpgError × List Str :=
  simpleCommand server (fdCommand which fd opt) sent

/-- The flags that the two engines use. -/
structure EncryptFlags where
  noEncryptTo : Bool := false
  prepare : Bool := false
  expectSign : Bool := false

/-- What the engines take from a key. -/
structure RecipientKey where
  /-- The fingerprint of the first subkey. -/
  fpr : Option Str
  /-- The first user ID, if it is not empty. -/
  uid : Option Str

/-- `start` of `engine-gpgsm.c`. -/
def gpgsmStart (server : Server) (requestOrigin command : Str) (sent : List Str)
    : GpgError × List Str :=
  if requestOrigin ≠ [] then
    let (err, sent) := simpleCommand server (str "OPTION request-origin=" ++ requestOrigin) sent
    if err ≠ 0 ∧ gpgErrCode err ≠ ErrCode.unknownOption then (err, sent)
    else (0, sent ++ [command])
  else
    (0, sent ++ [command])

/-- `gpgsm_encrypt`. -/
def gpgsmEncrypt (server : Server) (inputFd outputFd requestOrigin : Str)
    (recp : Option (List RecipientKey)) (recpstring : Option Str) (flags : EncryptFlags)
    (plain ciph : DataEncoding) (useArmor : Bool)
    : GpgError × List Str :=
  if recp.isNone then (gpgError ErrCode.notImplemented, [])
  else
    andThen
      (if flags.noEncryptTo then simpleCommand server (str "OPTION no-encrypt-to") [] else (0, []))
      fun sent =>
    andThen (setFd server (str "INPUT") inputFd (mapDataEnc plain) sent) fun sent =>
    andThen
      (setFd server (str "OUTPUT") outputFd
        (if useArmor then some (str "--armor") else mapDataEnc ciph) sent)
      fun sent =>
    andThen
      (match recp, recpstring with
        | none, some string => setRecipientsFromString server string 0 0 sent
        | recp, _ => setRecipients server ((recp.getD []).map RecipientKey.fpr) 0 sent)
      fun sent =>
    gpgsmStart server requestOrigin (str "ENCRYPT") sent

/-- The option for the protocol of the engine. -/
def protocolOption : Protocol → Option Str
  | .default => some []
  | .openpgp => some (str " --protocol=OpenPGP")
  | .cms => some (str " --protocol=CMS")
  | _ => none

/-- The recipients of `uiserver_encrypt`, if there are any. -/
def uiserverRecipients (server : Server) (recp : Option (List RecipientKey))
    (recpstring : Option Str) (sent : List Str)
    : GpgError × List Str :=
  match recp, recpstring with
  | some keys, _ => setRecipients server (keys.map RecipientKey.uid) 0 sent
  | none, some string => setRecipientsFromString server string 0 0 sent
  | none, none => (0, sent)

/-- `uiserver_encrypt`. A data object that is not given has no encoding. -/
def uiserverEncrypt (server : Server) (protocol : Protocol) (recp : Option (List RecipientKey))
    (recpstring : Option Str) (flags : EncryptFlags) (plain ciph : Option DataEncoding)
    (useArmor : Bool)
    : GpgError × List Str :=
  match protocolOption protocol with
  | none => (gpgError ErrCode.unsupportedProtocol, [])
  | some option =>
      if flags.prepare ∧ (recp.isNone ∨ plain.isSome ∨ ciph.isSome) then
        (gpgError ErrCode.invValue, [])
      else if ¬ flags.prepare ∧ (plain.isNone ∨ ciph.isNone) then
        (gpgError ErrCode.invValue, [])
      else
        let command :=
          if flags.prepare then
            str "PREP_ENCRYPT" ++ option ++ if flags.expectSign then str " --expect-sign" else []
          else
            str "ENCRYPT" ++ option
        andThen
          (match plain with
            | none => (0, [])
            | some encoding => setFd server (str "INPUT") (str "FD") (mapDataEnc encoding) [])
          fun sent =>
        andThen
          (match ciph with
            | none => (0, sent)
            | some encoding =>
                setFd server (str "OUTPUT") (str "FD")
                  (if useArmor then some (str "--armor") else mapDataEnc encoding) sent)
          fun sent =>
        andThen (uiserverRecipients server recp recpstring sent) fun sent =>
        (0, sent ++ [command])

-----------------------------------------------------------------------------------------
-- What is sent for the lines of a string
-----------------------------------------------------------------------------------------

/-- A line without the blanks at both ends. -/
def trim (text : Str) : Str := (text.dropWhile isBlank).rdropWhile isBlank

/-- The recipients that a string names: its lines that are not empty, trimmed. -/
def recipientNames (string : Str) : List Str :=
  ((Lines.complete [] string ++ [Lines.unfinished [] string]).map trim).filter (· != [])

/-- The line feed of a line stands behind a character that is no blank. -/
def EndsPlain (text : Str) : Prop := ∃ c, text.getLast? = some c ∧ isBlank c = false

/-- The names that the loop sends for a line with a line feed: a second one that is empty if there
are blanks in front of the line feed.
-/
def sentNames (text : Str) : List Str :=
  if trim text = [] then [[]]
  else if (text.getLast?.map isBlank).getD true then [trim text, []]
  else [trim text]

/-- Nothing is sent for a text of blanks. -/
theorem setRecipientsFromString_nil {string : Str} (stripped : string.dropWhile isBlank = [])
    (sent : List Str)
    : setRecipientsFromString accepting string 0 0 sent = (0, sent) := by
  rw [setRecipientsFromString]
  split
  · rfl
  · next c rest other =>
      rw [stripped] at other
      cases other

/-- The loop goes once around. -/
theorem setRecipientsFromString_step {string stripped : Str}
    (skipped : string.dropWhile isBlank = stripped) (filled : stripped ≠ []) (sent : List Str)
    : setRecipientsFromString accepting string 0 0 sent
      = setRecipientsFromString accepting (behindRecipient stripped) 0 0
          (sent ++ [recipientCommand (stripped.take (recipientLength stripped))]) := by
  rw [setRecipientsFromString]
  split
  · next none => exact absurd (skipped.symm.trans none) filled
  · next c rest here =>
      rw [skipped] at here
      subst here
      change (if gpgErrCode 0 = ErrCode.noPubkey then _ else _) = _
      rw [if_neg (by decide)]
      rfl

/-- The last line goes to the end of the text. -/
theorem takeWhile_last {text : Str} (plain : Lines.lineFeed ∉ text)
    : text.takeWhile (· != Lines.lineFeed) = text := by
  rw [List.takeWhile_eq_self_iff]
  intro c member
  simp only [bne_iff_ne, ne_eq]
  rintro rfl
  exact plain member

/-- A line goes up to its line feed. -/
theorem takeWhile_line {text : Str} (plain : Lines.lineFeed ∉ text) (rest : Str)
    : (text ++ Lines.lineFeed :: rest).takeWhile (· != Lines.lineFeed) = text := by
  rw [List.takeWhile_append_of_pos (List.takeWhile_eq_self_iff.mp (takeWhile_last plain))]
  simp

/-- The recipient in a line that has been stripped at its start, and where the loop goes on. -/
theorem recipient_line {text : Str} (plain : Lines.lineFeed ∉ text) (rest : Str)
    : (text ++ Lines.lineFeed :: rest).take (recipientLength (text ++ Lines.lineFeed :: rest))
        = text.rdropWhile isBlank
      ∧ behindRecipient (text ++ Lines.lineFeed :: rest)
        = (text.rtakeWhile isBlank ++ Lines.lineFeed :: rest).drop 1 := by
  have length
      : recipientLength (text ++ Lines.lineFeed :: rest) = (text.rdropWhile isBlank).length := by
    rw [recipientLength, takeWhile_line plain]
  have split
      : text ++ Lines.lineFeed :: rest
        = text.rdropWhile isBlank ++ (text.rtakeWhile isBlank ++ Lines.lineFeed :: rest) := by
    rw [← List.append_assoc, List.rdropWhile_append_rtakeWhile]
  have found : (text ++ Lines.lineFeed :: rest).contains Lines.lineFeed = true := by simp
  refine ⟨?_, ?_⟩
  · rw [length, split, List.take_left]
  · rw [behindRecipient, length, if_pos found, split, ← List.drop_drop, List.drop_left]

/-- A line of blanks is sent as an empty name. -/
theorem setRecipientsFromString_blanks {text : Str} (blanks : ∀ c ∈ text, isBlank c = true)
    (rest : Str) (sent : List Str)
    : setRecipientsFromString accepting (text ++ Lines.lineFeed :: rest) 0 0 sent
      = setRecipientsFromString accepting rest 0 0 (sent ++ [recipientCommand []]) := by
  have stripped
      : (text ++ Lines.lineFeed :: rest).dropWhile isBlank = [] ++ Lines.lineFeed :: rest := by
    rw [List.dropWhile_append_of_pos blanks]
    rfl
  obtain ⟨name, behind⟩ := recipient_line (show Lines.lineFeed ∉ ([] : Str) by simp) rest
  rw [setRecipientsFromString_step stripped (by simp), name, behind]
  rfl

/-- A text that is not blank is something when it has been trimmed, and it ends as it did before it
was stripped.
-/
theorem trim_of_filled {text : Str} (filled : text.dropWhile isBlank ≠ [])
    : trim text ≠ []
      ∧ ((text.getLast?.map isBlank).getD true = true
        ↔ (text.dropWhile isBlank).rtakeWhile isBlank ≠ []) := by
  have first := List.head_dropWhile_not isBlank filled
  refine ⟨?_, ?_⟩
  · rw [trim, Ne, List.rdropWhile_eq_nil_iff]
    intro blank
    rw [blank _ (List.head_mem filled)] at first
    cases first
  · have last : text.getLast? = some ((text.dropWhile isBlank).getLast filled) := by
      have split := List.takeWhile_append_dropWhile (p := isBlank) (l := text)
      rw [← List.getLast?_eq_some_getLast filled, ← List.getLast?_append_of_ne_nil _ filled, split]
    rw [last, Ne, List.rtakeWhile_eq_nil_iff]
    simp [filled]

/-- What is sent for a line. -/
theorem setRecipientsFromString_line {text : Str} (plain : Lines.lineFeed ∉ text) (rest : Str)
    (sent : List Str)
    : setRecipientsFromString accepting (text ++ Lines.lineFeed :: rest) 0 0 sent
      = setRecipientsFromString accepting rest 0 0
          (sent ++ (sentNames text).map recipientCommand) := by
  by_cases filled : text.dropWhile isBlank = []
  · have empty : trim text = [] := by
      rw [trim, filled]
      rfl
    rw [setRecipientsFromString_blanks (List.dropWhile_eq_nil_iff.mp filled), sentNames,
      if_pos empty]
    rfl
  · obtain ⟨named, ends⟩ := trim_of_filled filled
    have stripped
        : (text ++ Lines.lineFeed :: rest).dropWhile isBlank
          = text.dropWhile isBlank ++ Lines.lineFeed :: rest := by
      rw [List.dropWhile_append]
      simp [filled]
    have plain' : Lines.lineFeed ∉ text.dropWhile isBlank :=
      fun member => plain ((List.dropWhile_suffix isBlank).subset member)
    obtain ⟨name, behind⟩ := recipient_line plain' rest
    rw [setRecipientsFromString_step stripped (by simp), name, behind, sentNames, if_neg named]
    cases blanks : (text.dropWhile isBlank).rtakeWhile isBlank with
    | nil =>
        rw [if_neg (by rw [ends]; simp [blanks])]
        rfl
    | cons c more =>
        have all : ∀ b ∈ more, isBlank b = true := fun b member =>
          List.mem_rtakeWhile_imp (by rw [blanks]; exact List.mem_cons_of_mem c member)
        rw [if_pos (by rw [ends]; simp [blanks])]
        change setRecipientsFromString accepting (more ++ Lines.lineFeed :: rest) 0 0 _ = _
        rw [setRecipientsFromString_blanks all, List.append_assoc]
        rfl

/-- The recipient in the text behind the last line feed, behind which the loop finds only blanks. -/
theorem last_recipient {text : Str} (plain : Lines.lineFeed ∉ text)
    : (text.dropWhile isBlank).take (recipientLength (text.dropWhile isBlank)) = trim text
      ∧ (behindRecipient (text.dropWhile isBlank)).dropWhile isBlank = [] := by
  have absent : (text.dropWhile isBlank).contains Lines.lineFeed = false := by
    rw [Bool.eq_false_iff, Ne, List.contains_iff_mem]
    exact fun member => plain ((List.dropWhile_suffix isBlank).subset member)
  have taken
      : (text.dropWhile isBlank).takeWhile (· != Lines.lineFeed) = text.dropWhile isBlank :=
    takeWhile_last fun member => plain ((List.dropWhile_suffix isBlank).subset member)
  have split : text.dropWhile isBlank = trim text ++ (text.dropWhile isBlank).rtakeWhile isBlank :=
    List.rdropWhile_append_rtakeWhile.symm
  have length : recipientLength (text.dropWhile isBlank) = (trim text).length := by
    rw [recipientLength, taken, trim]
  refine ⟨?_, ?_⟩
  · rw [length, split, List.take_left]
  · rw [behindRecipient, length, absent, if_neg Bool.false_ne_true, Nat.add_zero, split,
      List.drop_left]
    exact List.dropWhile_eq_nil_iff.mpr fun c member => List.mem_rtakeWhile_imp member

/-- What is sent for the text behind the last line feed. -/
theorem setRecipientsFromString_last {text : Str} (plain : Lines.lineFeed ∉ text)
    (sent : List Str)
    : setRecipientsFromString accepting text 0 0 sent
      = (0, sent ++ (([text].map trim).filter (· != [])).map recipientCommand) := by
  by_cases filled : text.dropWhile isBlank = []
  · have empty : trim text = [] := by
      rw [trim, filled]
      rfl
    rw [setRecipientsFromString_nil filled]
    simp [empty]
  · obtain ⟨named, _⟩ := trim_of_filled filled
    obtain ⟨name, behind⟩ := last_recipient plain
    rw [setRecipientsFromString_step rfl filled, name, setRecipientsFromString_nil behind]
    simp [named]

/-- What is sent for a string, by induction on its length. -/
theorem setRecipientsFromString_eq (string : Str) (sent : List Str)
    : setRecipientsFromString accepting string 0 0 sent
      = (0,
        sent
        ++ ((Lines.complete [] string).flatMap sentNames
            ++ ([Lines.unfinished [] string].map trim).filter (· != [])).map
          recipientCommand) := by
  by_cases found : Lines.lineFeed ∈ string
  · obtain ⟨text, rest, split, plain⟩ := List.eq_append_cons_of_mem found
    have shorter : rest.length < string.length := by
      rw [split, List.length_append, List.length_cons]
      omega
    rw [split, setRecipientsFromString_line plain, setRecipientsFromString_eq rest,
      Lines.complete_line plain, Lines.unfinished_line]
    simp [List.append_assoc]
  · rw [setRecipientsFromString_last found, Lines.complete_plain found,
      Lines.unfinished_plain found]
    rfl
termination_by string.length

/-- A plain end is one that trimming does not cut. -/
theorem endsPlain_iff (text : Str)
    : EndsPlain text ↔ trim text ≠ [] ∧ (text.getLast?.map isBlank).getD true = false := by
  constructor
  · rintro ⟨c, last, notBlank⟩
    refine ⟨fun empty => ?_, by rw [last]; exact notBlank⟩
    have stripped : text.dropWhile isBlank = [] := by
      by_contra filled
      exact (trim_of_filled filled).1 empty
    have blank := List.dropWhile_eq_nil_iff.mp stripped c (List.mem_of_getLast? last)
    rw [notBlank] at blank
    cases blank
  · rintro ⟨_, plain⟩
    cases last : text.getLast? with
    | none => simp [last] at plain
    | some c => exact ⟨c, last, by simpa [last] using plain⟩

/-- An empty name is sent for a line if and only if its line feed stands behind a blank or
nothing.
-/
theorem endsPlain_iff_sentNames (text : Str) : EndsPlain text ↔ [] ∉ sentNames text := by
  rw [endsPlain_iff]
  unfold sentNames
  split
  · next empty => simp [empty]
  · next named =>
      split
      · next blank => simp [blank]
      · next plain => simpa [named, Ne.symm named] using plain

/-- A text with a plain end is sent as one name. -/
theorem sentNames_of_endsPlain {text : Str} (plain : EndsPlain text)
    : sentNames text = ([text].map trim).filter (· != []) := by
  obtain ⟨named, last⟩ := (endsPlain_iff text).mp plain
  rw [sentNames, if_neg named, if_neg (by simp [last])]
  simp [named]

/-- The names that are sent are the ones that the string names if and only if no line has a blank
or nothing in front of its line feed.
-/
theorem sentNames_eq_iff (string : Str)
    : (Lines.complete [] string).flatMap sentNames
          ++ ([Lines.unfinished [] string].map trim).filter (· != [])
        = recipientNames string
      ↔ ∀ text ∈ Lines.complete [] string, EndsPlain text := by
  constructor
  · intro same text member
    rw [endsPlain_iff_sentNames]
    intro empty
    have named : [] ∈ recipientNames string := by
      rw [← same]
      exact List.mem_append_left _ (List.mem_flatMap.mpr ⟨text, member, empty⟩)
    simp [recipientNames] at named
  · intro plain
    have each
        : (Lines.complete [] string).flatMap sentNames
          = ((Lines.complete [] string).map trim).filter (· != []) := by
      generalize Lines.complete [] string = texts at plain
      induction texts with
      | nil => rfl
      | cons text rest ih =>
          rw [List.flatMap_cons, sentNames_of_endsPlain (plain text (by simp)),
            ih fun text member => plain text (by simp [member]), ← List.filter_append,
            ← List.map_append]
          rfl
    rw [each, recipientNames, List.map_append, List.filter_append]

-----------------------------------------------------------------------------------------
-- The commands of the two engines
-----------------------------------------------------------------------------------------

def isRecipientCommand (command : Str) : Bool := startsWith command (str "RECIPIENT ")

/-- The encryption is started, and the recipients that were sent are those of the string. -/
def SendsRecipients (string : Str) (outcome : GpgError × List Str) : Prop :=
  outcome.1 = 0
  ∧ outcome.2.filter isRecipientCommand = (recipientNames string).map recipientCommand
  ∧ ∃ command, outcome.2.getLast? = some command ∧ startsWith command (str "ENCRYPT") = true

/-- The commands for recipients are only those. -/
theorem filter_recipientCommand (names : List Str)
    : (names.map recipientCommand).filter isRecipientCommand = names.map recipientCommand := by
  rw [List.filter_eq_self]
  intro command member
  obtain ⟨name, _, rfl⟩ := List.mem_map.mp member
  rfl

/-- Different names lead to different commands. -/
theorem recipientCommand_injective : Function.Injective recipientCommand :=
  fun _ _ same => List.append_cancel_left same

/-- After success the next command goes on with what was sent. -/
@[simp]
theorem andThen_accepted (sent : List Str) (next : List Str → GpgError × List Str)
    : andThen (0, sent) next = next sent :=
  rfl

/-- What the engine for the UI server sends. -/
theorem uiserverEncrypt_eq (string : Str) {protocol : Protocol} {option : Str}
    (supported : protocolOption protocol = some option) {flags : EncryptFlags}
    (encrypts : flags.prepare = false) (plain ciph : DataEncoding) (useArmor : Bool)
    : uiserverEncrypt accepting protocol none (some string) flags (some plain) (some ciph) useArmor
      = (0,
        [fdCommand (str "INPUT") (str "FD") (mapDataEnc plain),
          fdCommand (str "OUTPUT") (str "FD")
            (if useArmor then some (str "--armor") else mapDataEnc ciph)]
        ++ ((Lines.complete [] string).flatMap sentNames
            ++ ([Lines.unfinished [] string].map trim).filter (· != [])).map recipientCommand
        ++ [str "ENCRYPT" ++ option]) := by
  unfold uiserverEncrypt
  rw [supported]
  simp only [encrypts, Bool.false_eq_true, false_and, not_false_eq_true, true_and,
    Option.isNone_some, or_self, if_false]
  simp only [setFd, simpleCommand, accepting, andThen_accepted, List.nil_append]
  rw [uiserverRecipients]
  rw [setRecipientsFromString_eq, andThen_accepted]
  rfl

end Gpgme.Assuan
