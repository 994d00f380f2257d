import Gpgme.Assuan.Recipients
import Gpgme.EngineGpg.Arguments
import Gpgme.Keylist.Key

/-! How `engine-gpg.c` makes options of the lines of a recipient string. -/

namespace Gpgme

open CString
open Assuan (trim recipientLength behindRecipient)

-----------------------------------------------------------------------------------------
-- The functions
-----------------------------------------------------------------------------------------

/-- The engine, and how many allocations there have been. -/
structure ArgRun where
  allocs : Nat
  gpg : EngineGpg

/-- The state of the loop. The flags of the encryption are the one that asks for a mailbox. -/
structure RecipientLoop where
  wantAddress : Bool
  any : Bool := false
  ignore : Bool := false
  hidden : Bool := false
  file : Bool := false
  args : ArgRun

section Allocations

-- Which allocations succeed.
variable (memory : Nat → Bool)

/-- `_add_arg` at the end, which copies the argument. -/
def tryAddArg (args : ArgRun) (arg : Str) : GpgError × ArgRun :=
  if memory args.allocs then (0, { allocs := args.allocs + 1, gpg := args.gpg.addArg arg })
  else (gpgError ErrCode.enomem, { args with allocs := args.allocs + 1 })

/-- Whether `_gpgme_mailbox_from_userid` allocates its result. -/
def mailboxAllocates (userid : Str) : Bool :=
  match userid.dropWhile (· != 60) with
  | _ :: s => s.takeWhile (· != 62) != s && s.takeWhile (· != 62) != []
  | [] => isValidMailbox userid

/-- `_gpgme_mailbox_from_userid` with its allocation. The system error is the one for a missing
mailbox or the one for missing memory.
-/
def tryMailbox (args : ArgRun) (userid : Str) : Except GpgError Str × ArgRun :=
  if mailboxAllocates userid then
    if memory args.allocs then
      ((mailboxFromUserid userid).elim (.error (gpgError ErrCode.einval)) .ok,
        { args with allocs := args.allocs + 1 })
    else
      (.error (gpgError ErrCode.enomem), { args with allocs := args.allocs + 1 })
  else
    (.error (gpgError ErrCode.einval), args)

/-- `add_arg_recipient_string`. -/
def addArgRecipientString (wantAddress : Bool) (userid : Str) (args : ArgRun)
    : GpgError × ArgRun :=
  if wantAddress then
    if memory args.allocs then
      match tryMailbox memory { args with allocs := args.allocs + 1 } userid with
      | (.error err, args) =>
          (if gpgErrCode err = ErrCode.einval then gpgError ErrCode.invUserId else err, args)
      | (.ok mbox, args) => tryAddArg memory args mbox
    else
      (gpgError ErrCode.enomem, { args with allocs := args.allocs + 1 })
  else
    tryAddArg memory args userid

/-- The body of the loop for a line without the blanks at its ends. -/
def recipientLine (origWant : Bool) (loop : RecipientLoop) (line : Str)
    : GpgError × RecipientLoop :=
  if !loop.ignore && line == str "--" then (0, { loop with ignore := true })
  else if !loop.ignore && line == str "--hidden" then (0, { loop with hidden := true })
  else if !loop.ignore && line == str "--no-hidden" then (0, { loop with hidden := false })
  else if !loop.ignore && line == str "--file" then
    -- The key is used as it is, so that the flag is ignored.
    (0, { loop with file := true, wantAddress := false })
  else if !loop.ignore && line == str "--no-file" then
    (0, { loop with file := false, wantAddress := origWant })
  else if line != [] then
    let option :=
      if loop.file then if loop.hidden then str "-F" else str "-f"
      else if loop.hidden then str "-R" else str "-r"
    match tryAddArg memory loop.args option with
    | (err, args) =>
        if err ≠ 0 then (err, { loop with args := args })
        else
          match addArgRecipientString memory loop.wantAddress line args with
          | (err, args) =>
              if err ≠ 0 then (err, { loop with args := args })
              else (0, { loop with args := args, any := true })
  else
    (0, loop)

/-- The text of the line that a string starts with, without the blanks at its end. Its length is an
`int`; where that is negative there is no result, for the loop over the blanks reads in front of
the line then and the length is copied as one that is not negative.
-/
def recipientText (string : Str) : Option Str :=
  let n := CInt.toInt (string.takeWhile (· != Lines.lineFeed)).length
  if n < 0 then none else some ((string.take n.toNat).rdropWhile Assuan.isBlank)

/-- Where the loop goes on: a character behind the text, if there is a line feed. -/
def behindText (string text : Str) : Str :=
  string.drop (text.length + if string.contains Lines.lineFeed then 1 else 0)

/-- The loop of `append_args_from_recipients_string`. It has no result where it stays at a place for
ever.
-/
def recipientLoop (origWant : Bool) (string : Str) (loop : RecipientLoop)
    : Option (GpgError × RecipientLoop) :=
  match string.dropWhile Assuan.isBlank with
  | [] => some (0, loop)
  | c :: rest =>
      (recipientText (c :: rest)).bind fun text =>
        let (err, loop) := recipientLine memory origWant loop text
        if err ≠ 0 then some (err, loop)
        else if _ : (behindText (c :: rest) text).length < string.length then
          recipientLoop origWant (behindText (c :: rest) text) loop
        else
          none
termination_by string.length
decreasing_by assumption

/-- `append_args_from_recipients_string`. -/
def appendArgsFromRecipientsString (wantAddress : Bool) (string : Str) (gpg : EngineGpg)
    : Option (GpgError × EngineGpg) :=
  (recipientLoop memory wantAddress string
      { wantAddress := wantAddress, args := { allocs := 0, gpg := gpg } }).map
    fun (err, loop) =>
      (if err = 0 ∧ ¬loop.any then gpgError ErrCode.missingKey else err, loop.args.gpg)

-----------------------------------------------------------------------------------------
-- The loop goes over the lines
-----------------------------------------------------------------------------------------

/-- The length of a text counts as an `int`. -/
def FitsInt (text : Str) : Prop := text.length < 2 ^ 31

theorem recipientText_of_fits {string : Str}
    (fits : FitsInt (string.takeWhile (· != Lines.lineFeed)))
    : recipientText string = some (string.take (recipientLength string)) := by
  unfold FitsInt at fits
  have prefixed := List.takeWhile_prefix (l := string) (· != Lines.lineFeed)
  have cut
      : string.take (string.takeWhile (· != Lines.lineFeed)).length
        = string.takeWhile (· != Lines.lineFeed) :=
    (List.prefix_iff_eq_take.mp prefixed).symm
  have trimmed
      : (string.takeWhile (· != Lines.lineFeed)).rdropWhile Assuan.isBlank
        = string.take (recipientLength string) :=
    List.prefix_iff_eq_take.mp ((List.rdropWhile_prefix _ _).trans prefixed)
  unfold recipientText
  dsimp only
  rw [CInt.toInt_of_range (by omega) (by omega), if_neg (by omega), Int.toNat_natCast, cut, trimmed]

/-- The body for one line after the other. -/
def recipientLines (origWant : Bool) : List Str → RecipientLoop → GpgError × RecipientLoop
  | [], loop => (0, loop)
  | line :: rest, loop =>
      let (err, loop) := recipientLine memory origWant loop line
      if err ≠ 0 then (err, loop) else recipientLines origWant rest loop

theorem recipientLine_nil (origWant : Bool) (loop : RecipientLoop)
    : recipientLine memory origWant loop [] = (0, loop) := by
  unfold recipientLine
  cases loop.ignore <;> rfl

theorem recipientLoop_nil (origWant : Bool) {string : Str}
    (stripped : string.dropWhile Assuan.isBlank = []) (loop : RecipientLoop)
    : recipientLoop memory origWant string loop = some (0, loop) := by
  rw [recipientLoop, stripped]

theorem recipientLoop_step (origWant : Bool) {string stripped : Str}
    (skipped : string.dropWhile Assuan.isBlank = stripped) (filled : stripped ≠ [])
    (fits : FitsInt (stripped.takeWhile (· != Lines.lineFeed))) (loop : RecipientLoop)
    : recipientLoop memory origWant string loop
      = if (recipientLine memory origWant loop
            (stripped.take (recipientLength stripped))).1 ≠ 0 then
          some (recipientLine memory origWant loop (stripped.take (recipientLength stripped)))
        else
          recipientLoop memory origWant (behindRecipient stripped)
            (recipientLine memory origWant loop (stripped.take (recipientLength stripped))).2 := by
  obtain ⟨c, rest, rfl⟩ := List.exists_cons_of_ne_nil filled
  have length : ((c :: rest).take (recipientLength (c :: rest))).length
      = recipientLength (c :: rest) := by
    refine List.length_take_of_le ?_
    exact ((List.rdropWhile_prefix _ _).trans (List.takeWhile_prefix _)).length_le
  rw [recipientLoop, skipped]
  dsimp only
  rw [recipientText_of_fits fits, Option.bind_some]
  have behind
      : behindText (c :: rest) ((c :: rest).take (recipientLength (c :: rest)))
        = behindRecipient (c :: rest) := by
    rw [behindText, length]
    rfl
  rw [behind]
  congr 1
  exact dif_pos (Assuan.length_behindRecipient_lt skipped)

theorem recipientLoop_blanks (origWant : Bool) {text : Str}
    (blanks : ∀ c ∈ text, Assuan.isBlank c = true) (rest : Str) (loop : RecipientLoop)
    : recipientLoop memory origWant (text ++ Lines.lineFeed :: rest) loop
      = recipientLoop memory origWant rest loop := by
  have stripped
      : (text ++ Lines.lineFeed :: rest).dropWhile Assuan.isBlank = [] ++ Lines.lineFeed :: rest := by
    rw [List.dropWhile_append_of_pos blanks]
    rfl
  obtain ⟨name, behind⟩ :=
    Assuan.recipient_line (show Lines.lineFeed ∉ ([] : Str) by simp) rest
  have empty : ([] : Str).rdropWhile Assuan.isBlank = [] := rfl
  have fits : FitsInt (([] ++ Lines.lineFeed :: rest).takeWhile (· != Lines.lineFeed)) := by
    simp [FitsInt]
  rw [recipientLoop_step memory origWant stripped (by simp) fits, name, behind, empty,
    recipientLine_nil, if_neg (not_not.mpr rfl)]
  rfl

theorem recipientLoop_line (origWant : Bool) {text : Str} (plain : Lines.lineFeed ∉ text)
    (fits : FitsInt (text.dropWhile Assuan.isBlank)) (rest : Str) (loop : RecipientLoop)
    : recipientLoop memory origWant (text ++ Lines.lineFeed :: rest) loop
      = if (recipientLine memory origWant loop (trim text)).1 ≠ 0 then
          some (recipientLine memory origWant loop (trim text))
        else
          recipientLoop memory origWant rest
            (recipientLine memory origWant loop (trim text)).2 := by
  by_cases filled : text.dropWhile Assuan.isBlank = []
  · have empty : trim text = [] := by
      rw [trim, filled]
      rfl
    rw [recipientLoop_blanks memory origWant (List.dropWhile_eq_nil_iff.mp filled), empty,
      recipientLine_nil, if_neg (not_not.mpr rfl)]
  · have stripped
        : (text ++ Lines.lineFeed :: rest).dropWhile Assuan.isBlank
          = text.dropWhile Assuan.isBlank ++ Lines.lineFeed :: rest := by
      rw [List.dropWhile_append]
      simp [filled]
    have plain' : Lines.lineFeed ∉ text.dropWhile Assuan.isBlank :=
      fun member => plain ((List.dropWhile_suffix Assuan.isBlank).subset member)
    have taken
        : (text.dropWhile Assuan.isBlank ++ Lines.lineFeed :: rest).takeWhile
            (· != Lines.lineFeed)
          = text.dropWhile Assuan.isBlank :=
      Assuan.takeWhile_line plain' rest
    obtain ⟨name, behind⟩ := Assuan.recipient_line plain' rest
    rw [recipientLoop_step memory origWant stripped (by simp) (by rw [taken]; exact fits), name,
      behind]
    congr 1
    cases blanks : (text.dropWhile Assuan.isBlank).rtakeWhile Assuan.isBlank with
    | nil => rfl
    | cons c more =>
        have all : ∀ b ∈ more, Assuan.isBlank b = true := fun b member =>
          List.mem_rtakeWhile_imp (by rw [blanks]; exact List.mem_cons_of_mem c member)
        exact recipientLoop_blanks memory origWant all rest _

theorem recipientLoop_last (origWant : Bool) {text : Str} (plain : Lines.lineFeed ∉ text)
    (fits : FitsInt (text.dropWhile Assuan.isBlank)) (loop : RecipientLoop)
    : recipientLoop memory origWant text loop
      = some (recipientLines memory origWant [trim text] loop) := by
  by_cases filled : text.dropWhile Assuan.isBlank = []
  · have empty : trim text = [] := by
      rw [trim, filled]
      rfl
    rw [recipientLoop_nil memory origWant filled, empty, recipientLines, recipientLine_nil]
    rfl
  · have plain' : Lines.lineFeed ∉ text.dropWhile Assuan.isBlank :=
      fun member => plain ((List.dropWhile_suffix Assuan.isBlank).subset member)
    obtain ⟨name, behind⟩ := Assuan.last_recipient plain
    rw [recipientLoop_step memory origWant rfl filled
        (by rw [Assuan.takeWhile_last plain']; exact fits),
      name, recipientLoop_nil memory origWant behind, recipientLines]
    dsimp only
    split <;> rfl

/-- The lines of a string, the last of which may be unfinished. -/
def recipientStringLines (string : Str) : List Str :=
  Lines.complete [] string ++ [Lines.unfinished [] string]

/-- No line is too long, from its first character on that is no blank. -/
def ShortLines (string : Str) : Prop :=
  ∀ line ∈ recipientStringLines string, FitsInt (line.dropWhile Assuan.isBlank)

theorem recipientLoop_lines (origWant : Bool) {string : Str} (short : ShortLines string)
    (loop : RecipientLoop)
    : recipientLoop memory origWant string loop
      = some (recipientLines memory origWant ((recipientStringLines string).map trim) loop) := by
  by_cases found : Lines.lineFeed ∈ string
  · obtain ⟨text, rest, split, plain⟩ := List.eq_append_cons_of_mem found
    have shorter : rest.length < string.length := by
      rw [split, List.length_append, List.length_cons]
      omega
    have lines : recipientStringLines string = text :: recipientStringLines rest := by
      unfold recipientStringLines
      rw [split, Lines.complete_line plain, List.nil_append, Lines.unfinished_line,
        List.cons_append]
    unfold ShortLines at short
    rw [lines] at short
    obtain ⟨fits, later⟩ := List.forall_mem_cons.mp short
    rw [lines, List.map_cons, recipientLines, split,
      recipientLoop_line memory origWant plain fits rest loop]
    dsimp only
    split
    · rfl
    · exact recipientLoop_lines origWant later _
  · have lines : recipientStringLines string = [string] := by
      rw [recipientStringLines, Lines.complete_plain found, Lines.unfinished_plain found]
      rfl
    unfold ShortLines at short
    rw [lines] at short ⊢
    exact recipientLoop_last memory origWant found (short string List.mem_cons_self) loop
termination_by string.length

end Allocations

-----------------------------------------------------------------------------------------
-- The recipients that the lines name
-----------------------------------------------------------------------------------------

/-- What the option lines have chosen for the lines behind them. -/
structure RecipientMode where
  ignore : Bool := false
  hidden : Bool := false
  file : Bool := false
deriving DecidableEq

/-- An option line, which is one unless options are turned off, and what it chooses. -/
def RecipientMode.optionLine (mode : RecipientMode) (line : Str) : Option RecipientMode :=
  if mode.ignore then none
  else if line = str "--" then some { mode with ignore := true }
  else if line = str "--hidden" then some { mode with hidden := true }
  else if line = str "--no-hidden" then some { mode with hidden := false }
  else if line = str "--file" then some { mode with file := true }
  else if line = str "--no-file" then some { mode with file := false }
  else none

/-- The option for a recipient. -/
def RecipientMode.option : RecipientMode → Str
  | { hidden := false, file := false, .. } => str "-r"
  | { hidden := true, file := false, .. } => str "-R"
  | { hidden := false, file := true, .. } => str "-f"
  | { hidden := true, file := true, .. } => str "-F"

/-- A recipient: its option, and its value unless a mailbox is wanted and missing. Copies that are
made before the value is an argument are counted.
-/
structure RecipientArg where
  option : Str
  value : Option Str
  copies : Nat

/-- The recipient that a line names. A mailbox is taken out of a copy of the line, and is a copy
itself.
-/
def RecipientMode.recipient (mode : RecipientMode) (wantAddress : Bool) (line : Str)
    : RecipientArg where
  option := mode.option
  value := if wantAddress && !mode.file then mailboxFromUserid line else some line
  copies := if wantAddress && !mode.file then if mailboxAllocates line then 2 else 1 else 0

/-- The recipients of trimmed lines. -/
def recipientArgs (wantAddress : Bool) : RecipientMode → List Str → List RecipientArg
  | _, [] => []
  | mode, line :: rest =>
      match mode.optionLine line with
      | some mode => recipientArgs wantAddress mode rest
      | none =>
          if line = [] then recipientArgs wantAddress mode rest
          else
            mode.recipient wantAddress line :: recipientArgs wantAddress mode rest

/-- The recipients that a string names. -/
def stringRecipients (wantAddress : Bool) (string : Str) : List RecipientArg :=
  recipientArgs wantAddress {} ((recipientStringLines string).map trim)

/-- The arguments of a recipient. -/
def RecipientArg.args (recipient : RecipientArg) : List Str :=
  recipient.option :: recipient.value.toList

/-- The engine with more arguments at the end. -/
def EngineGpg.withArgs (gpg : EngineGpg) (args : List Str) : EngineGpg :=
  { gpg with arglist := gpg.arglist ++ args.map (.arg · none) }

/-- The allocations for a recipient, up to the one for its value. -/
def RecipientArg.attempts (recipient : RecipientArg) : Nat :=
  1 + recipient.copies + if recipient.value.isSome then 1 else 0

/-- The allocations for some recipients. -/
def attempts (recipients : List RecipientArg) : Nat := (recipients.map RecipientArg.attempts).sum

/-- From an allocation on there is memory for so many of them. -/
def MemoryFor (memory : Nat → Bool) (start count : Nat) : Prop :=
  ∀ index < count, memory (start + index) = true

/-- How the function ends for some recipients: all of them are appended, there are none, or a
mailbox is missing for the first time; or the first allocation fails, and the engine has the
arguments of the recipients before, and the option if the allocation is not the one for it.
-/
inductive RecipientOutcome (memory : Nat → Bool) (gpg : EngineGpg) (recipients : List RecipientArg)
    : GpgError → EngineGpg → Prop where
  | appended (some : recipients ≠ []) (found : ∀ recipient ∈ recipients, recipient.value ≠ none)
      (there : MemoryFor memory 0 (attempts recipients))
    : RecipientOutcome memory gpg recipients 0
        (gpg.withArgs (recipients.flatMap RecipientArg.args))
  | missingKey (empty : recipients = [])
    : RecipientOutcome memory gpg recipients (gpgError ErrCode.missingKey) gpg
  | invalid {before after : List RecipientArg} {recipient : RecipientArg}
      (split : recipients = before ++ recipient :: after)
      (found : ∀ earlier ∈ before, earlier.value ≠ none) (missing : recipient.value = none)
      (there : MemoryFor memory 0 (attempts before + recipient.attempts))
    : RecipientOutcome memory gpg recipients (gpgError ErrCode.invUserId)
        (gpg.withArgs ((before ++ [recipient]).flatMap RecipientArg.args))
  | exhausted {before after : List RecipientArg} {recipient : RecipientArg} {made : Nat}
      (split : recipients = before ++ recipient :: after)
      (found : ∀ earlier ∈ before, earlier.value ≠ none) (few : made < recipient.attempts)
      (there : MemoryFor memory 0 (attempts before + made))
      (failed : memory (attempts before + made) = false)
    : RecipientOutcome memory gpg recipients (gpgError ErrCode.enomem)
        (gpg.withArgs
          (before.flatMap RecipientArg.args ++ if made = 0 then [] else [recipient.option]))

theorem MemoryFor.append {memory : Nat → Bool} {start first second : Nat}
    (early : MemoryFor memory start first) (late : MemoryFor memory (start + first) second)
    : MemoryFor memory start (first + second) := by
  intro index within
  by_cases before : index < first
  · exact early index before
  · have there := late (index - first) (by omega)
    rwa [show start + first + (index - first) = start + index by omega] at there

theorem MemoryFor.one {memory : Nat → Bool} {start : Nat} (there : memory start = true)
    : MemoryFor memory start 1 := by
  intro index within
  obtain rfl : index = 0 := by omega
  exact there

theorem EngineGpg.withArgs_withArgs (gpg : EngineGpg) (args more : List Str)
    : (gpg.withArgs args).withArgs more = gpg.withArgs (args ++ more) := by
  simp [EngineGpg.withArgs]

theorem EngineGpg.withArgs_nil (gpg : EngineGpg) : gpg.withArgs [] = gpg := by
  simp [EngineGpg.withArgs]

section Outcome

variable (memory : Nat → Bool)

theorem tryAddArg_cases (args : ArgRun) (arg : Str)
    : (memory args.allocs = true
        ∧ tryAddArg memory args arg = (0, ⟨args.allocs + 1, args.gpg.withArgs [arg]⟩))
      ∨ (memory args.allocs = false
        ∧ tryAddArg memory args arg
          = (gpgError ErrCode.enomem, { args with allocs := args.allocs + 1 })) := by
  unfold tryAddArg
  cases there : memory args.allocs with
  | true =>
      refine .inl ⟨rfl, ?_⟩
      simp [EngineGpg.addArg, EngineGpg.addArgExt, EngineGpg.withArgs]
  | false => exact .inr ⟨rfl, rfl⟩

theorem mailbox_unallocated {userid : Str} (unallocated : mailboxAllocates userid = false)
    : mailboxFromUserid userid = none := by
  unfold mailboxAllocates at unallocated
  unfold mailboxFromUserid
  cases rest : userid.dropWhile (· != 60) with
  | nil =>
      rw [rest] at unallocated
      dsimp only at unallocated ⊢
      rw [unallocated]
      rfl
  | cons c s =>
      rw [rest] at unallocated
      dsimp only at unallocated ⊢
      rw [if_pos]
      by_contra filled
      rw [not_or] at filled
      simp [filled.1, filled.2] at unallocated

theorem addArgRecipientString_cases (mode : RecipientMode) (origWant : Bool) (line : Str)
    (args : ArgRun)
    : (∃ value,
        (mode.recipient origWant line).value = some value
        ∧ MemoryFor memory args.allocs ((mode.recipient origWant line).copies + 1)
        ∧ addArgRecipientString memory (origWant && !mode.file) line args
          = (0, ⟨args.allocs + ((mode.recipient origWant line).copies + 1),
              args.gpg.withArgs [value]⟩))
      ∨ (∃ allocs,
        (mode.recipient origWant line).value = none
        ∧ MemoryFor memory args.allocs (mode.recipient origWant line).copies
        ∧ addArgRecipientString memory (origWant && !mode.file) line args
          = (gpgError ErrCode.invUserId, ⟨allocs, args.gpg⟩))
      ∨ ∃ allocs made,
        made + 1 < (mode.recipient origWant line).attempts
        ∧ MemoryFor memory args.allocs made
        ∧ memory (args.allocs + made) = false
        ∧ addArgRecipientString memory (origWant && !mode.file) line args
          = (gpgError ErrCode.enomem, ⟨allocs, args.gpg⟩) := by
  unfold addArgRecipientString RecipientArg.attempts RecipientMode.recipient
  dsimp only
  cases origWant && !mode.file with
  | false =>
      rw [if_neg Bool.false_ne_true, if_neg Bool.false_ne_true, if_neg Bool.false_ne_true]
      rcases tryAddArg_cases memory args line with ⟨there, added⟩ | ⟨failed, ended⟩
      · exact .inl ⟨line, rfl, .one there, added⟩
      · exact .inr (.inr ⟨_, 0, by simp, nofun, failed, ended⟩)
  | true =>
      rw [if_pos rfl, if_pos rfl, if_pos rfl]
      cases copied : memory args.allocs with
      | false => exact .inr (.inr ⟨_, 0, by split <;> omega, nofun, copied, rfl⟩)
      | true =>
          rw [if_pos rfl]
          unfold tryMailbox
          dsimp only
          have missing : gpgErrCode (gpgError ErrCode.einval) = ErrCode.einval := by decide
          have usual : gpgErrCode (gpgError ErrCode.enomem) ≠ ErrCode.einval := by decide
          cases allocates : mailboxAllocates line with
          | false =>
              refine .inr (.inl ⟨args.allocs + 1, mailbox_unallocated allocates, .one copied, ?_⟩)
              rw [if_neg Bool.false_ne_true]
              dsimp only
              rw [if_pos missing]
          | true =>
              rw [if_pos rfl]
              cases allocated : memory (args.allocs + 1) with
              | false =>
                  refine .inr (.inr ⟨args.allocs + 1 + 1, 1, ?_, .one copied, allocated, ?_⟩)
                  · split <;> omega
                  · rw [if_neg Bool.false_ne_true, if_pos rfl]
                    dsimp only
                    rw [if_neg usual]
              | true =>
                  have both : MemoryFor memory args.allocs 2 :=
                    MemoryFor.append (.one copied) (.one allocated)
                  rw [if_pos rfl, if_pos rfl]
                  cases mailboxFromUserid line with
                  | none =>
                      refine .inr (.inl ⟨args.allocs + 1 + 1, rfl, both, ?_⟩)
                      dsimp only [Option.elim]
                      rw [if_pos missing]
                  | some mbox =>
                      rcases tryAddArg_cases memory { args with allocs := args.allocs + 1 + 1 } mbox
                        with ⟨there, added⟩ | ⟨failed, ended⟩
                      · exact .inl ⟨mbox, rfl, both.append (.one there), added⟩
                      · exact .inr (.inr ⟨_, 2, by simp, both, failed, ended⟩)

/-- The state of the loop for a mode. -/
def RecipientMode.loop (origWant : Bool) (mode : RecipientMode) (any : Bool) (args : ArgRun)
    : RecipientLoop where
  wantAddress := origWant && !mode.file
  any := any
  ignore := mode.ignore
  hidden := mode.hidden
  file := mode.file
  args := args

theorem recipientLine_option (origWant : Bool) {mode mode' : RecipientMode} {line : Str}
    (option : mode.optionLine line = some mode') (any : Bool) (args : ArgRun)
    : recipientLine memory origWant (mode.loop origWant any args) line
      = (0, mode'.loop origWant any args) := by
  obtain ⟨ignore, hidden, file⟩ := mode
  unfold RecipientMode.optionLine at option
  dsimp only at option
  cases ignore with
  | true => cases option
  | false =>
      rw [if_neg Bool.false_ne_true] at option
      unfold recipientLine RecipientMode.loop
      split_ifs at option with ended hide unhide names keys
      · obtain rfl := Option.some.inj option
        simp [ended]
      · obtain rfl := Option.some.inj option
        subst hide
        simp [ended]
      · obtain rfl := Option.some.inj option
        subst unhide
        simp [ended, hide]
      · obtain rfl := Option.some.inj option
        subst names
        simp [ended, hide, unhide]
      · obtain rfl := Option.some.inj option
        subst keys
        simp [ended, hide, unhide, names]

theorem recipientLine_recipient (origWant : Bool) {mode : RecipientMode} {line : Str}
    (recipient : mode.optionLine line = none) (filled : line ≠ []) (any : Bool) (args : ArgRun)
    : recipientLine memory origWant (mode.loop origWant any args) line
      = match tryAddArg memory args mode.option with
        | (err, args) =>
            if err ≠ 0 then (err, mode.loop origWant any args)
            else
              match addArgRecipientString memory (origWant && !mode.file) line args with
              | (err, args) =>
                  if err ≠ 0 then (err, mode.loop origWant any args)
                  else (0, mode.loop origWant true args) := by
  obtain ⟨ignore, hidden, file⟩ := mode
  have option
      : (if file then if hidden then str "-F" else str "-f"
          else if hidden then str "-R" else str "-r")
        = RecipientMode.option ⟨ignore, hidden, file⟩ := by
    cases file <;> cases hidden <;> rfl
  unfold RecipientMode.optionLine at recipient
  dsimp only at recipient
  unfold recipientLine RecipientMode.loop
  dsimp only
  rw [option]
  cases ignore with
  | true => simp [filled]
  | false =>
      rw [if_neg Bool.false_ne_true] at recipient
      split_ifs at recipient with ended hide unhide names keys
      simp [ended, hide, unhide, names, keys, filled]

theorem recipientLine_cases (origWant : Bool) {mode : RecipientMode} {line : Str}
    (recipient : mode.optionLine line = none) (filled : line ≠ []) (any : Bool) (args : ArgRun)
    : (∃ value,
        (mode.recipient origWant line).value = some value
        ∧ MemoryFor memory args.allocs (mode.recipient origWant line).attempts
        ∧ recipientLine memory origWant (mode.loop origWant any args) line
          = (0, mode.loop origWant true
              ⟨args.allocs + (mode.recipient origWant line).attempts,
                args.gpg.withArgs [mode.option, value]⟩))
      ∨ (∃ allocs,
        (mode.recipient origWant line).value = none
        ∧ MemoryFor memory args.allocs (mode.recipient origWant line).attempts
        ∧ recipientLine memory origWant (mode.loop origWant any args) line
          = (gpgError ErrCode.invUserId,
              mode.loop origWant any ⟨allocs, args.gpg.withArgs [mode.option]⟩))
      ∨ ∃ allocs made,
        made < (mode.recipient origWant line).attempts
        ∧ MemoryFor memory args.allocs made
        ∧ memory (args.allocs + made) = false
        ∧ recipientLine memory origWant (mode.loop origWant any args) line
          = (gpgError ErrCode.enomem,
              mode.loop origWant any
                ⟨allocs, args.gpg.withArgs (if made = 0 then [] else [mode.option])⟩) := by
  have exhausted : gpgError ErrCode.enomem ≠ 0 := by decide
  have invalid : gpgError ErrCode.invUserId ≠ 0 := by decide
  rw [recipientLine_recipient memory origWant recipient filled]
  rcases tryAddArg_cases memory args mode.option with ⟨there, added⟩ | ⟨failed, ended⟩
  · rw [added]
    dsimp only
    rw [if_neg (not_not.mpr rfl)]
    rcases addArgRecipientString_cases memory mode origWant line
        ⟨args.allocs + 1, args.gpg.withArgs [mode.option]⟩
      with ⟨value, found, more, appended⟩ | ⟨allocs, missing, more, failed⟩
        | ⟨allocs, made, few, more, absent, failed⟩
    · have attempts
          : (mode.recipient origWant line).attempts
            = 1 + ((mode.recipient origWant line).copies + 1) := by
        simp only [RecipientArg.attempts, found, Option.isSome_some, if_true]
        omega
      refine .inl ⟨value, found, ?_, ?_⟩
      · rw [attempts]
        exact MemoryFor.append (.one there) more
      · rw [appended, attempts]
        dsimp only
        rw [if_neg (not_not.mpr rfl), EngineGpg.withArgs_withArgs, Nat.add_assoc]
        rfl
    · refine .inr (.inl ⟨allocs, missing, ?_, ?_⟩)
      · have attempts
            : (mode.recipient origWant line).attempts
              = 1 + (mode.recipient origWant line).copies := by
          simp [RecipientArg.attempts, missing]
        rw [attempts]
        exact MemoryFor.append (.one there) more
      · rw [failed]
        dsimp only
        rw [if_pos invalid]
    · refine .inr (.inr ⟨allocs, 1 + made, by omega, MemoryFor.append (.one there) more, ?_, ?_⟩)
      · rw [← Nat.add_assoc]
        exact absent
      · rw [failed, if_neg (by omega : ¬1 + made = 0)]
        dsimp only
        rw [if_pos exhausted]
  · refine .inr (.inr ⟨args.allocs + 1, 0, ?_, nofun, failed, ?_⟩)
    · unfold RecipientArg.attempts
      omega
    · rw [ended, if_pos rfl, EngineGpg.withArgs_nil]
      dsimp only
      rw [if_pos exhausted]

/-- How the loop ends for some recipients, before it is known whether there were any at all. -/
inductive LinesOutcome (memory : Nat → Bool) (first : ArgRun) (any : Bool)
    (recipients : List RecipientArg) : GpgError → RecipientLoop → Prop where
  | appended {loop : RecipientLoop} (found : ∀ recipient ∈ recipients, recipient.value ≠ none)
      (there : MemoryFor memory first.allocs (attempts recipients))
      (some : loop.any = (any || !recipients.isEmpty))
      (args : loop.args.gpg = first.gpg.withArgs (recipients.flatMap RecipientArg.args))
    : LinesOutcome memory first any recipients 0 loop
  | invalid {before after : List RecipientArg} {recipient : RecipientArg} {loop : RecipientLoop}
      (split : recipients = before ++ recipient :: after)
      (found : ∀ earlier ∈ before, earlier.value ≠ none) (missing : recipient.value = none)
      (there : MemoryFor memory first.allocs (attempts before + recipient.attempts))
      (args : loop.args.gpg
        = first.gpg.withArgs ((before ++ [recipient]).flatMap RecipientArg.args))
    : LinesOutcome memory first any recipients (gpgError ErrCode.invUserId) loop
  | exhausted {before after : List RecipientArg} {recipient : RecipientArg} {made : Nat}
      {loop : RecipientLoop} (split : recipients = before ++ recipient :: after)
      (found : ∀ earlier ∈ before, earlier.value ≠ none) (few : made < recipient.attempts)
      (there : MemoryFor memory first.allocs (attempts before + made))
      (failed : memory (first.allocs + (attempts before + made)) = false)
      (args : loop.args.gpg
        = first.gpg.withArgs
            (before.flatMap RecipientArg.args ++ if made = 0 then [] else [recipient.option]))
    : LinesOutcome memory first any recipients (gpgError ErrCode.enomem) loop

theorem attempts_cons (recipient : RecipientArg) (recipients : List RecipientArg)
    : attempts (recipient :: recipients) = recipient.attempts + attempts recipients := by
  simp [attempts]

theorem LinesOutcome.cons {first : ArgRun} {any : Bool} {recipient : RecipientArg}
    {recipients : List RecipientArg} {err : GpgError} {loop : RecipientLoop}
    (found : recipient.value ≠ none) (there : MemoryFor memory first.allocs recipient.attempts)
    (outcome
      : LinesOutcome memory
          ⟨first.allocs + recipient.attempts, first.gpg.withArgs recipient.args⟩ true recipients
          err loop)
    : LinesOutcome memory first any (recipient :: recipients) err loop := by
  cases outcome with
  | appended later more some args =>
      refine .appended (List.forall_mem_cons.mpr ⟨found, later⟩) ?_ (by simp [some]) ?_
      · rw [attempts_cons]
        exact there.append more
      · rw [args, EngineGpg.withArgs_withArgs, List.flatMap_cons]
  | @invalid before after other _ split later missing more args =>
      refine @LinesOutcome.invalid _ _ _ _ (recipient :: before) after other _ (by rw [split]; rfl)
        (List.forall_mem_cons.mpr ⟨found, later⟩) missing ?_ ?_
      · rw [attempts_cons, Nat.add_assoc]
        exact there.append more
      · rw [args, EngineGpg.withArgs_withArgs, List.cons_append, List.flatMap_cons]
  | @exhausted before after other made _ split later few more failed args =>
      refine @LinesOutcome.exhausted _ _ _ _ (recipient :: before) after other made _
        (by rw [split]; rfl) (List.forall_mem_cons.mpr ⟨found, later⟩) few ?_ ?_ ?_
      · rw [attempts_cons, Nat.add_assoc]
        exact there.append more
      · rw [attempts_cons, Nat.add_assoc, ← Nat.add_assoc]
        exact failed
      · rw [args, EngineGpg.withArgs_withArgs, List.flatMap_cons, List.append_assoc]

theorem recipientLines_outcome (origWant : Bool) (lines : List Str) (mode : RecipientMode)
    (any : Bool) (args : ArgRun)
    : LinesOutcome memory args any (recipientArgs origWant mode lines)
        (recipientLines memory origWant lines (mode.loop origWant any args)).1
        (recipientLines memory origWant lines (mode.loop origWant any args)).2 := by
  induction lines generalizing mode any args with
  | nil =>
      refine .appended (by simp [recipientArgs]) nofun ?_ (EngineGpg.withArgs_nil _).symm
      simp [recipientLines, recipientArgs, RecipientMode.loop]
  | cons line rest ih =>
      rw [recipientLines, recipientArgs]
      cases option : mode.optionLine line with
      | some mode' =>
          rw [recipientLine_option memory origWant option]
          exact ih mode' any args
      | none =>
          dsimp only
          by_cases empty : line = []
          · subst empty
            rw [if_pos rfl, recipientLine_nil]
            exact ih mode any args
          rw [if_neg empty]
          rcases recipientLine_cases memory origWant option empty any args
            with ⟨value, found, there, used⟩ | ⟨allocs, missing, there, failed⟩
              | ⟨allocs, made, few, there, absent, failed⟩
          · have all : (mode.recipient origWant line).args = [mode.option, value] := by
              rw [RecipientArg.args, found]
              rfl
            rw [used, if_neg (not_not.mpr rfl)]
            refine LinesOutcome.cons memory (by simp [found]) there ?_
            rw [all]
            exact ih mode true _
          · have invalid : gpgError ErrCode.invUserId ≠ 0 := by decide
            have alone : (mode.recipient origWant line).args = [mode.option] := by
              rw [RecipientArg.args, missing]
              rfl
            rw [failed]
            dsimp only
            rw [if_pos invalid]
            refine @LinesOutcome.invalid _ _ _ _ [] _ _ _ rfl (by simp) missing ?_ ?_
            · simpa [attempts] using there
            · simp [alone, RecipientMode.loop]
          · have exhausted : gpgError ErrCode.enomem ≠ 0 := by decide
            rw [failed]
            dsimp only
            rw [if_pos exhausted]
            refine @LinesOutcome.exhausted _ _ _ _ [] _ _ made _ rfl (by simp) few ?_ ?_ ?_
            · simpa [attempts] using there
            · simpa [attempts] using absent
            · simp [RecipientMode.loop, RecipientMode.recipient]

theorem appendArgs_outcome (wantAddress : Bool) {string : Str} (short : ShortLines string)
    (gpg : EngineGpg)
    : ∃ err next,
        appendArgsFromRecipientsString memory wantAddress string gpg = some (err, next)
        ∧ RecipientOutcome memory gpg (stringRecipients wantAddress string) err next := by
  have begun
      : RecipientMode.loop wantAddress {} false ⟨0, gpg⟩
        = { wantAddress := wantAddress, args := { allocs := 0, gpg := gpg } } := by
    simp [RecipientMode.loop]
  have outcome :=
    recipientLines_outcome memory wantAddress ((recipientStringLines string).map trim) {} false
      ⟨0, gpg⟩
  unfold appendArgsFromRecipientsString stringRecipients
  rw [← begun, recipientLoop_lines memory wantAddress short]
  refine ⟨_, _, rfl, ?_⟩
  generalize recipientArgs wantAddress {} _ = recipients at outcome ⊢
  generalize recipientLines memory wantAddress _ _ = result at outcome ⊢
  obtain ⟨err, loop⟩ := result
  dsimp only at outcome ⊢
  cases outcome with
  | appended found there any args =>
      rw [any, args, Bool.false_or]
      cases recipients with
      | nil =>
          rw [List.flatMap_nil, EngineGpg.withArgs_nil, if_pos ⟨rfl, by simp⟩]
          exact .missingKey rfl
      | cons recipient rest =>
          rw [if_neg fun ended => ended.2 rfl]
          exact .appended (List.cons_ne_nil _ _) found there
  | invalid split found missing there args =>
      rw [args, if_neg fun ended => absurd ended.1 (by decide)]
      exact .invalid split found missing there
  | exhausted split found few there failed args =>
      rw [args, if_neg fun ended => absurd ended.1 (by decide)]
      rw [Nat.zero_add] at failed
      exact .exhausted split found few there failed

end Outcome

-----------------------------------------------------------------------------------------
-- Lines that are too long
-----------------------------------------------------------------------------------------

/-- A line of so many letters. -/
def letters (length : Nat) : Str := List.replicate length 97

theorem letters_ne_dashed (length : Nat) (rest : Str) : letters length ≠ 45 :: rest := by
  intro same
  have member : (45 : UInt8) ∈ letters length := by
    rw [same]
    exact List.mem_cons_self
  exact absurd (List.eq_of_mem_replicate member) (by decide)

theorem letters_line (length : Nat)
    : (letters length).dropWhile Assuan.isBlank = letters length
      ∧ (letters length).takeWhile (· != Lines.lineFeed) = letters length
      ∧ (letters length).contains Lines.lineFeed = false
      ∧ (letters length).rdropWhile Assuan.isBlank = letters length := by
  have absent : Lines.lineFeed ∉ letters length := fun member =>
    absurd (List.eq_of_mem_replicate member) (by decide)
  have filled : (letters length).dropWhile Assuan.isBlank = letters length := by
    cases length <;> rfl
  refine ⟨filled, Assuan.takeWhile_last absent, ?_, ?_⟩
  · rwa [Bool.eq_false_iff, Ne, List.contains_iff_mem]
  · rw [List.rdropWhile, letters, List.reverse_replicate]
    change ((letters length).dropWhile Assuan.isBlank).reverse = _
    rw [filled, letters, List.reverse_replicate]

theorem behindText_letters (length count : Nat)
    : behindText (letters length) (letters count) = letters (length - count) := by
  rw [behindText, (letters_line length).2.2.1, if_neg Bool.false_ne_true, Nat.add_zero, letters,
    letters, List.length_replicate, List.drop_replicate]
  rfl

theorem recipientText_letters (length : Nat)
    : recipientText (letters length)
      = if CInt.toInt length < 0 then none
        else some (letters (min (CInt.toInt length).toNat length)) := by
  have size : (letters length).length = length := List.length_replicate
  have trimmed (count : Nat)
      : ((letters length).take count).rdropWhile Assuan.isBlank
        = letters (min count length) := by
    rw [letters, List.take_replicate]
    exact (letters_line _).2.2.2
  unfold recipientText
  dsimp only
  rw [(letters_line length).2.1, size, trimmed]

theorem letters_cons {length : Nat} (filled : 0 < length) : ∃ rest, letters length = 97 :: rest := by
  obtain ⟨length, rfl⟩ := Nat.exists_eq_add_one.mpr filled
  exact ⟨letters length, rfl⟩

theorem recipientLoop_letters (memory : Nat → Bool) (origWant : Bool) {length count : Nat}
    (filled : 0 < length) (text : recipientText (letters length) = some (letters count))
    (loop : RecipientLoop)
    : recipientLoop memory origWant (letters length) loop
      = if (recipientLine memory origWant loop (letters count)).1 ≠ 0 then
          some (recipientLine memory origWant loop (letters count))
        else if length - count < length then
          recipientLoop memory origWant (letters (length - count))
            (recipientLine memory origWant loop (letters count)).2
        else
          none := by
  have size (count : Nat) : (letters count).length = count := List.length_replicate
  obtain ⟨rest, split⟩ := letters_cons filled
  rw [recipientLoop, (letters_line length).1, split]
  dsimp only
  rw [← split, text, Option.bind_some, behindText_letters, size, size]
  rfl

theorem recipientLoop_stays (memory : Nat → Bool) (origWant : Bool) {length : Nat}
    (filled : 0 < length) (wrapped : CInt.toInt length = 0) (loop : RecipientLoop)
    : recipientLoop memory origWant (letters length) loop = none := by
  have text : recipientText (letters length) = some (letters 0) := by
    rw [recipientText_letters, wrapped]
    simp
  have nothing : letters 0 = [] := rfl
  rw [recipientLoop_letters memory origWant filled text, nothing, recipientLine_nil,
    if_neg (not_not.mpr rfl), if_neg (by omega)]

theorem recipientLine_letters {count : Nat} (filled : 0 < count) {loop : RecipientLoop}
    (plain : loop.wantAddress = false)
    : (recipientLine (fun _ => true) false loop (letters count)).1 = 0 := by
  have none : letters count ≠ [] := by
    simp [letters]
    omega
  have usual (name : String) (rest : Str) (dashed : str name = 45 :: rest)
      : (letters count == str name) = false := by
    rw [beq_eq_false_iff_ne, dashed]
    exact letters_ne_dashed count rest
  unfold recipientLine
  rw [usual "--" [45] rfl, usual "--hidden" _ rfl, usual "--no-hidden" _ rfl,
    usual "--file" _ rfl, usual "--no-file" _ rfl]
  simp [none, plain, addArgRecipientString, tryAddArg]

theorem long_line_endless {length : Nat} (long : 2 ^ 31 ≤ length) (gpg : EngineGpg)
    : appendArgsFromRecipientsString (fun _ => true) false (letters length) gpg = none := by
  have wrapped : CInt.toInt length = (length + 2147483648) % 4294967296 - 2147483648 := rfl
  unfold appendArgsFromRecipientsString
  rw [Option.map_eq_none_iff]
  rcases lt_trichotomy (CInt.toInt length) 0 with negative | zero | positive
  · have text : recipientText (letters length) = none := by
      rw [recipientText_letters, if_pos negative]
    obtain ⟨rest, split⟩ := letters_cons (show 0 < length by omega)
    rw [recipientLoop, (letters_line length).1, split]
    dsimp only
    rw [← split, text, Option.bind_none]
  · exact recipientLoop_stays _ _ (by omega) zero _
  · obtain ⟨count, converted⟩ := Int.eq_ofNat_of_zero_le positive.le
    have inside : count < length := by omega
    have text : recipientText (letters length) = some (letters count) := by
      rw [recipientText_letters, converted, if_neg (by omega), Int.toNat_natCast,
        Nat.min_eq_left inside.le]
    have rest : CInt.toInt ((length - count : Nat) : Int) = 0 := by
      unfold CInt.toInt
      omega
    rw [recipientLoop_letters _ _ (by omega) text, recipientLine_letters (by omega) rfl,
      if_neg (not_not.mpr rfl), if_pos (by omega)]
    exact recipientLoop_stays _ _ (by omega) rest _

/-- A recipient, and one behind an option line with blanks around it. -/
def twoRecipients : Str := str "ann\n--hidden\n bob \n"

end Gpgme
