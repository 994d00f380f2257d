import Gpgme.Lib.CInt
import Gpgme.Operation.NotationAssembly
import Gpgme.PercentString

/-! `parse_notation` with its buffers and its `int` lengths, and the lines for which it assembles
the notations that they stand for.
-/

namespace Gpgme

open CString

-----------------------------------------------------------------------------------------
-- Buffers
-----------------------------------------------------------------------------------------

/-- The string at the start of a buffer. -/
def bufferText (block : List UInt8) : Str := block.takeWhile (· != 0)

/-- `strlen`, which must find a terminator inside of the buffer. -/
def bufferStrlen (block : List UInt8) : Option Nat :=
  if 0 ∈ block then some (bufferText block).length else none

/-- A string with its terminator is written from an offset on, which must be inside. -/
def storeText (block : List UInt8) (offset : Int) (text : Str) : Option (List UInt8) :=
  if 0 ≤ offset ∧ offset + text.length < block.length then
    some (block.take offset.toNat ++ text ++ 0 :: block.drop (offset.toNat + text.length + 1))
  else
    none

/-- A line together with the answers that its allocations get. -/
structure NotationCall where
  line : StatusLine
  calloc : Bool
  malloc : Nat → Option (List UInt8)
  /-- The arguments are a C string. -/
  plain : ∀ c ∈ line.args, c ≠ 0
  sized : ∀ size block, malloc size = some block → block.length = size
  /-- No object is larger than `PTRDIFF_MAX`. -/
  bounded : ∀ size block, malloc size = some block → size < 2 ^ 63

/-- `realloc`, which keeps the bytes that both buffers have. -/
def NotationCall.realloc (call : NotationCall) (block : List UInt8) (size : Nat)
    : Option (List UInt8) :=
  (call.malloc size).map fun fresh => block.take size ++ fresh.drop block.length

/-- `_gpgme_decode_percent_string` with length 0, which allocates the buffer. -/
def NotationCall.decodeNew (call : NotationCall) (src : Str)
    : Option (Except GpgError (List UInt8)) :=
  match call.malloc (src.length + 1) with
  | none => some (.error (gpgError ErrCode.enomem))
  | some block => (storeText block 0 (decodePercentString src)).map .ok

-----------------------------------------------------------------------------------------
-- The function
-----------------------------------------------------------------------------------------

/-- `struct _gpgme_sig_notation` with its buffers. -/
structure NotationObject where
  name : Option (List UInt8) := none
  nameLen : Int := 0
  value : Option (List UInt8) := none
  valueLen : Int := 0
  critical : Bool := false
  humanReadable : Bool := false
  flagCritical : Bool := false
  flagHumanReadable : Bool := false

/-- The entry that a NOTATION_NAME or POLICY_URL line adds, with the buffer of its decoded word. -/
def newObject (line : StatusLine) (block : List UInt8) : NotationObject :=
  let length : Int := (decodePercentString (word line.args)).length
  if line.code = .notationName then
    { name := some block
      nameLen := CInt.toInt length
      flagHumanReadable := true
      humanReadable := true }
  else
    { value := some block, valueLen := CInt.toInt length }

/-- `_gpgme_sig_notation_create` for an empty entry, and the decoding of its name or value. -/
def NotationCall.createNotation (call : NotationCall)
    : Option (Except GpgError NotationObject) :=
  if ¬call.calloc then some (.error (gpgError ErrCode.enomem))
  else
    (call.decodeNew (word call.line.args)).map fun decoded => decoded.map (newObject call.line)

/-- The end of the NOTATION_DATA branch: the arguments are decoded to an offset of the buffer that
is now the value. With a length of zero the decoder takes a buffer of its own.
-/
def NotationCall.decodeValue (call : NotationCall) (entry : NotationObject) (block : List UInt8)
    (offset len : Int)
    : Option (GpgError × NotationObject) :=
  let args := call.line.args
  let text := decodePercentString args
  let counted := CInt.toInt (entry.valueLen + text.length)
  if CInt.toSize len = 0 then
    (call.decodeNew args).map fun decoded =>
      match decoded with
      | .error err => (err, { entry with value := some block })
      | .ok _ => (0, { entry with value := some block, valueLen := counted })
  else if CInt.toSize len < args.length + 1 then
    some (gpgError ErrCode.internal, { entry with value := some block })
  else
    (storeText block offset text).map fun block =>
      (0, { entry with value := some block, valueLen := counted })

/-- The NOTATION_DATA branch for the entry that the data belongs to. -/
def NotationCall.addValue (call : NotationCall) (entry : NotationObject)
    : Option (GpgError × NotationObject) :=
  let len := CInt.toInt (call.line.args.length + 1)
  match entry.value with
  | none =>
      match call.malloc (CInt.toSize len) with
      | none => some (gpgError ErrCode.enomem, entry)
      | some block => call.decodeValue entry block 0 len
  | some block =>
      match bufferStrlen block with
      | none => none
      | some curLen =>
          match call.realloc block (CInt.toSize (len + curLen)) with
          | none => some (gpgError ErrCode.enomem, entry)
          | some block => call.decodeValue entry block (CInt.toInt curLen) len

/-- `parse_notation`, with no result where it leaves a buffer. -/
def NotationCall.parse (call : NotationCall) (entries : List NotationObject)
    : Option (GpgError × List NotationObject) :=
  match call.line.code with
  | .notationName | .policyUrl =>
      if entries.any (fun entry => entry.value.isNone) then some (invEngine, entries)
      else
        call.createNotation.map fun created =>
          match created with
          | .error err => (err, entries)
          | .ok entry => (0, entries ++ [entry])
  | .notationFlags =>
      match entries.getLast? with
      | none => some (invEngine, entries)
      | some last =>
          if last.name.isNone then some (invEngine, entries)
          else
            match splitFields call.line.args 2 with
            | [critical, humanReadable] =>
                let changed := { last with
                  flagCritical := atoi critical != 0
                  flagHumanReadable := atoi humanReadable != 0
                  critical := last.critical || atoi critical != 0
                  humanReadable := last.humanReadable || atoi humanReadable != 0 }
                some (0, entries.dropLast ++ [changed])
            | _ => some (invEngine, entries)
  | .notationData =>
      match entries.getLast? with
      | none => some (invEngine, entries)
      | some last =>
          if last.name.isNone then some (invEngine, entries)
          else
            (call.addValue last).map fun (err, changed) => (err, entries.dropLast ++ [changed])
  | _ => some (invEngine, entries)

/-- A sequence of lines up to the first error. -/
def parseNotations
    : List NotationCall → List NotationObject → Option (GpgError × List NotationObject)
  | [], entries => some (0, entries)
  | call :: rest, entries =>
      match call.parse entries with
      | none => none
      | some (err, entries) => if err ≠ 0 then some (err, entries) else parseNotations rest entries

-----------------------------------------------------------------------------------------
-- Strings in buffers
-----------------------------------------------------------------------------------------

/-- A C string has no zero byte inside. -/
def ZeroFree (text : Str) : Prop := ∀ c ∈ text, c ≠ 0

instance (text : Str) : Decidable (ZeroFree text) :=
  inferInstanceAs (Decidable (∀ c ∈ text, c ≠ 0))

theorem bufferText_append {text : Str} (plain : ZeroFree text) (rest : List UInt8)
    : bufferText (text ++ 0 :: rest) = text := by
  unfold bufferText
  rw [List.takeWhile_append_of_pos (by simpa [ZeroFree] using plain)]
  simp

theorem bufferText_zeroFree (block : List UInt8) : ZeroFree (bufferText block) := by
  intro c member
  simpa using List.mem_takeWhile_imp member

theorem take_bufferText (block : List UInt8)
    : block.take (bufferText block).length = bufferText block :=
  (List.prefix_iff_eq_take.mp (List.takeWhile_prefix _)).symm

theorem bufferText_length_lt {block : List UInt8} (terminated : 0 ∈ block)
    : (bufferText block).length < block.length := by
  by_contra whole
  have same : bufferText block = block := by
    rw [← take_bufferText, List.take_of_length_le (by omega)]
  exact bufferText_zeroFree block 0 (by rwa [same]) rfl

theorem bufferStrlen_terminated {block : List UInt8} (terminated : 0 ∈ block)
    : bufferStrlen block = some (bufferText block).length := if_pos terminated

theorem storeText_fits (block : List UInt8) (offset : Nat) {text : Str}
    (fits : offset + text.length < block.length) (front : ZeroFree (block.take offset))
    (plain : ZeroFree text)
    : ∃ block',
        storeText block offset text = some block'
        ∧ bufferText block' = block.take offset ++ text
        ∧ 0 ∈ block' := by
  refine ⟨_, if_pos ⟨by omega, by omega⟩, ?_, by simp⟩
  rw [Int.toNat_natCast]
  refine bufferText_append ?_ _
  intro c member
  rcases List.mem_append.mp member with inFront | inText
  · exact front c inFront
  · exact plain c inText

theorem decodePercentString_zeroFree {src : Str} (plain : ZeroFree src)
    : ZeroFree (decodePercentString src) := by
  have digits : (92 : UInt8) ≠ 0 ∧ (48 : UInt8) ≠ 0 := by decide
  unfold ZeroFree at plain ⊢
  fun_induction decodePercentString src with
  | case1 => exact plain
  | case2 c rest percent ih =>
      obtain ⟨first, behind⟩ := List.forall_mem_cons.mp plain
      exact List.forall_mem_cons.mpr ⟨first, ih behind⟩
  | case3 c percent => simp
  | case4 c percent high => simpa using (List.forall_mem_cons.mp plain).2
  | case5 c percent high low rest invalid ih =>
      simp only [List.forall_mem_cons] at plain ⊢
      obtain ⟨-, plainHigh, plainLow, behind⟩ := plain
      exact ⟨by decide, plainHigh, plainLow, ih behind⟩
  | case6 c percent high low rest zero ih =>
      simp only [List.forall_mem_cons] at plain ⊢
      exact ⟨digits.1, digits.2, ih plain.2.2.2⟩
  | case7 c percent high low rest value nonzero valid ih =>
      simp only [List.forall_mem_cons] at plain ⊢
      refine ⟨?_, ih plain.2.2.2⟩
      intro zero
      have small : value < 256 := by
        unfold hextobyte at valid
        split at valid
        · cases valid
          omega
        · cases valid
      have same := congrArg UInt8.toNat zero
      rw [UInt8.toNat_ofNat', Nat.mod_eq_of_lt (by simpa using small)] at same
      exact nonzero same

theorem decodePercentString_length_le (src : Str)
    : (decodePercentString src).length ≤ src.length := decodedText_length_le false src

theorem word_zeroFree {src : Str} (plain : ZeroFree src) : ZeroFree (word src) :=
  fun c member => plain c ((List.takeWhile_sublist _).subset member)

theorem NotationCall.realloc_some {call : NotationCall} {block block' : List UInt8} {size : Nat}
    (moved : call.realloc block size = some block')
    : block'.length = size
      ∧ size < 2 ^ 63
      ∧ ∀ n ≤ size, n ≤ block.length → block'.take n = block.take n := by
  obtain ⟨fresh, allocated, rfl⟩ := Option.map_eq_some_iff.mp moved
  have length := call.sized size fresh allocated
  refine ⟨?_, call.bounded size fresh allocated, ?_⟩
  · rw [List.length_append, List.length_take, List.length_drop]
    omega
  · intro n below inside
    rw [List.take_append_of_le_length (by rw [List.length_take]; omega), List.take_take,
      Nat.min_eq_left below]

-----------------------------------------------------------------------------------------
-- Data of a notation
-----------------------------------------------------------------------------------------

/-- The strings of an entry. -/
def NotationObject.text (entry : NotationObject) : NotationText :=
  { name := entry.name.map bufferText, value := entry.value.map bufferText }

/-- The decoded length is the one that is counted, and the buffers hold their strings. -/
structure NotationObject.Complete (entry : NotationObject) : Prop where
  length : entry.valueLen = (entry.text.value.getD []).length
  room : ∀ block, entry.name = some block ∨ entry.value = some block → 0 ∈ block

/-- An entry after its value has moved to another buffer and grown there. -/
def NotationObject.grown (entry : NotationObject) (block : List UInt8) (added : Nat)
    : NotationObject :=
  { entry with value := some block, valueLen := CInt.toInt (entry.valueLen + added) }

theorem NotationObject.grown_valueLen (entry : NotationObject) (block : List UInt8) (added : Nat)
    : (entry.grown block added).valueLen = CInt.toInt (entry.valueLen + added) := rfl

/-- A line whose length fits an `int`, with its terminator. -/
def NotationCall.Short (call : NotationCall) : Prop := call.line.args.length + 1 < 2 ^ 31

section Data

variable {call : NotationCall}

theorem NotationCall.decodeValue_fits (short : call.Short) (entry : NotationObject)
    (block : List UInt8) (offset : Nat) (fits : offset + call.line.args.length < block.length)
    (front : ZeroFree (block.take offset))
    : ∃ block',
        call.decodeValue entry block offset (CInt.toInt (call.line.args.length + 1))
          = some (0, entry.grown block' (decodePercentString call.line.args).length)
        ∧ bufferText block' = block.take offset ++ decodePercentString call.line.args
        ∧ 0 ∈ block' := by
  unfold NotationCall.Short at short
  have len : CInt.toInt (call.line.args.length + 1) = call.line.args.length + 1 :=
    CInt.toInt_of_range (by omega) (by omega)
  have size : CInt.toSize (call.line.args.length + 1) = call.line.args.length + 1 :=
    mod_cast @CInt.toSize_ofNat (call.line.args.length + 1) (by omega)
  have shorter := decodePercentString_length_le call.line.args
  obtain ⟨block', stored, text, terminated⟩ :=
    storeText_fits block offset (by omega) front
      (decodePercentString_zeroFree call.plain)
  refine ⟨block', ?_, text, terminated⟩
  unfold NotationCall.decodeValue
  rw [len, size, if_neg (by omega), if_neg (by omega), stored]
  rfl

theorem NotationCall.addValue_short (short : call.Short) {entry : NotationObject}
    (complete : entry.Complete) (counted : entry.valueLen < 2 ^ 31)
    : (call.malloc (call.line.args.length + 1 + (entry.text.value.getD []).length) = none
        ∧ call.addValue entry = some (gpgError ErrCode.enomem, entry))
      ∨ ∃ block,
          call.addValue entry
            = some (0, entry.grown block (decodePercentString call.line.args).length)
          ∧ bufferText block
            = entry.text.value.getD [] ++ decodePercentString call.line.args
          ∧ 0 ∈ block := by
  have long := short
  unfold NotationCall.Short at long
  have len : CInt.toInt (call.line.args.length + 1) = call.line.args.length + 1 :=
    CInt.toInt_of_range (by omega) (by omega)
  have length := complete.length
  cases value : entry.value with
  | none =>
      have size : CInt.toSize (call.line.args.length + 1) = call.line.args.length + 1 :=
        mod_cast @CInt.toSize_ofNat (call.line.args.length + 1) (by omega)
      simp only [NotationObject.text, value, Option.map_none, Option.getD_none, List.length_nil,
        Nat.add_zero, List.nil_append]
      cases allocated : call.malloc (call.line.args.length + 1) with
      | none =>
          left
          unfold NotationCall.addValue
          simp only [value, len, size, allocated, true_and]
      | some block =>
          right
          have whole := call.sized _ block allocated
          obtain ⟨block', decoded, text, terminated⟩ :=
            decodeValue_fits short entry block 0 (by omega)
              (by simp [ZeroFree])
          refine ⟨block', ?_, text, terminated⟩
          unfold NotationCall.addValue
          rw [← decoded]
          simp only [value, len, size, allocated]
          rfl
  | some block =>
      have terminated := complete.room block (.inr value)
      have inside := bufferText_length_lt terminated
      simp only [NotationObject.text, value, Option.map_some, Option.getD_some] at length ⊢
      have curLen : CInt.toInt (bufferText block).length = (bufferText block).length :=
        CInt.toInt_of_range (by omega) (by omega)
      have size
          : CInt.toSize (call.line.args.length + 1 + (bufferText block).length)
            = call.line.args.length + 1 + (bufferText block).length :=
        mod_cast @CInt.toSize_ofNat (call.line.args.length + 1 + (bufferText block).length)
          (by omega)
      cases moved : call.realloc block (call.line.args.length + 1 + (bufferText block).length) with
      | none =>
          left
          refine ⟨Option.map_eq_none_iff.mp moved, ?_⟩
          unfold NotationCall.addValue
          simp only [value, bufferStrlen_terminated terminated, len, size, moved]
      | some block' =>
          right
          obtain ⟨whole, -, kept⟩ := call.realloc_some moved
          have front : block'.take (bufferText block).length = bufferText block := by
            rw [kept _ (by omega) (by omega), take_bufferText]
          obtain ⟨last, decoded, text, terminated'⟩ :=
            decodeValue_fits short entry block' (bufferText block).length
              (by omega) (by rw [front]; exact bufferText_zeroFree block)
          refine ⟨last, ?_, by rw [text, front], terminated'⟩
          unfold NotationCall.addValue
          simp only [value, bufferStrlen_terminated terminated, len, size, moved, curLen]
          rw [← len]
          exact decoded

end Data

-----------------------------------------------------------------------------------------
-- One line
-----------------------------------------------------------------------------------------

/-- What a reader of the list sees of an entry. -/
def NotationObject.view (entry : NotationObject) : SigNotation :=
  { name := entry.name.map bufferText
    value := entry.value.map bufferText
    valueLen := entry.valueLen.toNat
    critical := entry.critical
    humanReadable := entry.humanReadable
    flagCritical := entry.flagCritical
    flagHumanReadable := entry.flagHumanReadable }

/-- The entry after a NOTATION_FLAGS line. -/
def NotationObject.setFlags (entry : NotationObject) (critical humanReadable : Str)
    : NotationObject :=
  { entry with
    flagCritical := atoi critical != 0
    flagHumanReadable := atoi humanReadable != 0
    critical := entry.critical || atoi critical != 0
    humanReadable := entry.humanReadable || atoi humanReadable != 0 }

/-- Everything that a line can do to the list when it is handled without an error. -/
inductive ObjectChange (call : NotationCall)
    : List NotationObject → List NotationObject → Prop where
  | added (entries : List NotationObject) (block : List UInt8)
      (code : call.line.code = .notationName ∨ call.line.code = .policyUrl)
      (filled : ∀ entry ∈ entries, entry.value.isSome = true)
      (text : bufferText block = decodePercentString (word call.line.args))
      (terminated : 0 ∈ block)
      : ObjectChange call entries (entries ++ [newObject call.line block])
  | flags (others : List NotationObject) (last : NotationObject) (critical humanReadable : Str)
      (code : call.line.code = .notationFlags) (named : last.name.isSome = true)
      (fields : splitFields call.line.args 2 = [critical, humanReadable])
      : ObjectChange call (others ++ [last]) (others ++ [last.setFlags critical humanReadable])
  | data (others : List NotationObject) (last changed : NotationObject)
      (code : call.line.code = .notationData) (named : last.name.isSome = true)
      (grown : call.addValue last = some (0, changed))
      : ObjectChange call (others ++ [last]) (others ++ [changed])

theorem enomem_ne_zero : gpgError ErrCode.enomem ≠ 0 := by decide

theorem NotationCall.createNotation_cases (call : NotationCall)
    : ((call.calloc = false ∨ call.malloc ((word call.line.args).length + 1) = none)
        ∧ call.createNotation = some (.error (gpgError ErrCode.enomem)))
      ∨ ∃ block,
          call.createNotation = some (.ok (newObject call.line block))
          ∧ bufferText block = decodePercentString (word call.line.args)
          ∧ 0 ∈ block := by
  unfold NotationCall.createNotation
  cases object : call.calloc with
  | false => exact .inl ⟨.inl rfl, rfl⟩
  | true =>
      unfold NotationCall.decodeNew
      cases allocated : call.malloc ((word call.line.args).length + 1) with
      | none => exact .inl ⟨.inr rfl, rfl⟩
      | some block =>
          right
          have whole := call.sized _ block allocated
          have shorter := decodePercentString_length_le (word call.line.args)
          obtain ⟨block', stored, text, terminated⟩ :=
            storeText_fits block 0 (by omega) (by simp [ZeroFree])
              (decodePercentString_zeroFree (word_zeroFree call.plain))
          refine ⟨block', ?_, text, terminated⟩
          change Option.map _ (Option.map _ (storeText block (0 : Nat) _)) = _
          rw [stored]
          rfl

theorem NotationCall.parse_cases {call : NotationCall} {entries entries' : List NotationObject}
    (parsed : call.parse entries = some (0, entries'))
    : ObjectChange call entries entries' := by
  have refused : some (invEngine, entries) ≠ some (0, entries') := by
    intro same
    exact invEngine_ne_zero (Prod.mk.inj (Option.some.inj same)).1
  have added (code : call.line.code = .notationName ∨ call.line.code = .policyUrl)
      (parsed
        : (if entries.any (fun entry => entry.value.isNone) then some (invEngine, entries)
          else
            call.createNotation.map fun created =>
              match created with
              | .error err => (err, entries)
              | .ok entry => (0, entries ++ [entry])) = some (0, entries'))
      : ObjectChange call entries entries' := by
    split_ifs at parsed with waiting
    · exact absurd parsed refused
    · have filled : ∀ entry ∈ entries, entry.value.isSome = true := by
        simpa [Option.isSome_iff_ne_none] using waiting
      rcases call.createNotation_cases with ⟨-, failed⟩ | ⟨block, created, text, terminated⟩
      · rw [failed] at parsed
        exact absurd (Prod.mk.inj (Option.some.inj parsed)).1 enomem_ne_zero
      · rw [created] at parsed
        cases parsed
        exact .added entries block code filled text terminated
  unfold NotationCall.parse at parsed
  split at parsed
  · next code => exact added (.inl code) parsed
  · next code => exact added (.inr code) parsed
  · next code => 
    split at parsed
    · exact absurd parsed refused
    · next last found =>
        have split := (List.dropLast_append_getLast? last found).symm
        split_ifs at parsed with unnamed
        · exact absurd parsed refused
        · split at parsed
          · next critical humanReadable fields =>
              cases parsed
              have change : ObjectChange call _ _ :=
                .flags entries.dropLast last critical humanReadable code
                  (by simpa [Option.isSome_iff_ne_none] using unnamed) fields
              rwa [← split] at change
          · exact absurd parsed refused
  · next code =>
    split at parsed
    · exact absurd parsed refused
    · next last found =>
        have split := (List.dropLast_append_getLast? last found).symm
        split_ifs at parsed with unnamed
        · exact absurd parsed refused
        · obtain ⟨⟨err, changed⟩, grown, same⟩ := Option.map_eq_some_iff.mp parsed
          cases same
          have change : ObjectChange call _ _ :=
            .data entries.dropLast last changed code
              (by simpa [Option.isSome_iff_ne_none] using unnamed) grown
          rwa [← split] at change
  · exact absurd parsed refused

-----------------------------------------------------------------------------------------
-- What a line keeps
-----------------------------------------------------------------------------------------

/-- An entry whose buffers hold its strings and whose count is right and fits an `int`. -/
structure NotationObject.Sound (entry : NotationObject) : Prop extends entry.Complete where
  counted : entry.valueLen < 2 ^ 31

/-- The decoded strings that a line adds keep the value shorter than `INT_MAX` bytes. -/
structure NotationCall.Fits (call : NotationCall) (entries : List NotationObject) : Prop where
  short : call.line.code = .notationData → call.Short
  url
    : call.line.code = .policyUrl →
      (decodePercentString (word call.line.args)).length < 2 ^ 31
  value
    : call.line.code = .notationData →
      ∀ others last,
        entries = others ++ [last]
        → last.name.isSome = true
        → (last.text.value.getD []).length + (decodePercentString call.line.args).length < 2 ^ 31

section Line

variable {call : NotationCall} {entries entries' : List NotationObject}

theorem newObject_sound {line : StatusLine} {block : List UInt8}
    (url
      : line.code = .policyUrl → (decodePercentString (word line.args)).length < 2 ^ 31)
    (code : line.code = .notationName ∨ line.code = .policyUrl)
    (text : bufferText block = decodePercentString (word line.args)) (terminated : 0 ∈ block)
    : (newObject line block).Sound ∧ (newObject line block).view = newNotation line := by
  rcases code with code | code
  · refine ⟨⟨⟨?_, ?_⟩, ?_⟩, ?_⟩
    · simp [newObject, NotationObject.text, code]
    · intro other buffer
      simp only [newObject, code, if_true, Option.some_inj] at buffer
      rcases buffer with rfl | buffer
      · exact terminated
      · cases buffer
    · simp [newObject, code]
    · simp [newObject, NotationObject.view, newNotation, code, text]
  · have small := url code
    have length
        : CInt.toInt (decodePercentString (word line.args)).length
          = (decodePercentString (word line.args)).length :=
      CInt.toInt_of_range (by omega) (by omega)
    refine ⟨⟨⟨?_, ?_⟩, ?_⟩, ?_⟩
    · simp [newObject, NotationObject.text, code, text, length]
    · intro other buffer
      simp only [newObject, code, reduceCtorEq, if_false, Option.some_inj] at buffer
      rcases buffer with buffer | rfl
      · cases buffer
      · exact terminated
    · simp only [newObject, code, reduceCtorEq, if_false, length]
      omega
    · simp [newObject, NotationObject.view, newNotation, code, text, length]

theorem NotationObject.Sound.grown {entry : NotationObject} (sound : entry.Sound)
    {block : List UInt8} {args : Str}
    (small
      : (entry.text.value.getD []).length + (decodePercentString args).length < 2 ^ 31)
    (text : bufferText block = entry.text.value.getD [] ++ decodePercentString args)
    (terminated : 0 ∈ block)
    : (entry.grown block (decodePercentString args).length).Sound
      ∧ (entry.grown block (decodePercentString args).length).view = entry.view.addData args := by
  have length := sound.length
  have counted
      : CInt.toInt (entry.valueLen + (decodePercentString args).length)
        = entry.valueLen + (decodePercentString args).length :=
    CInt.toInt_of_range (by omega) (by omega)
  refine ⟨⟨⟨?_, ?_⟩, ?_⟩, ?_⟩
  · change CInt.toInt (entry.valueLen + _) = ((bufferText block).length : Int)
    rw [counted, length, text, List.length_append, Nat.cast_add]
  · intro other buffer
    rcases buffer with name | value
    · exact sound.room other (.inl name)
    · cases value
      exact terminated
  · simp only [NotationObject.grown, counted]
    omega
  · unfold NotationObject.grown NotationObject.view SigNotation.addData
    rw [counted, length]
    simp only [Option.map_some, text, ← Nat.cast_add, Int.toNat_natCast]
    rfl

theorem ObjectChange.sound (change : ObjectChange call entries entries')
    (sound : ∀ entry ∈ entries, entry.Sound) (fits : call.Fits entries)
    : NotationChange call.line (entries.map NotationObject.view)
        (entries'.map NotationObject.view)
      ∧ ∀ entry ∈ entries', entry.Sound := by
  have kept {others : List NotationObject} {last changed : NotationObject}
      (sound : ∀ entry ∈ others ++ [last], entry.Sound) (changedSound : changed.Sound)
      : ∀ entry ∈ others ++ [changed], entry.Sound := by
    intro entry member
    rcases List.mem_append.mp member with old | new
    · exact sound entry (List.mem_append_left _ old)
    · rw [List.mem_singleton.mp new]
      exact changedSound
  cases change with
  | added entries block code filled text terminated =>
      obtain ⟨newSound, view⟩ := newObject_sound fits.url code text terminated
      refine ⟨?_, ?_⟩
      · rw [List.map_append, List.map_singleton, view]
        refine .added _ code ?_
        intro entry member
        obtain ⟨object, old, rfl⟩ := List.mem_map.mp member
        simpa [NotationObject.view] using filled object old
      · intro entry member
        rcases List.mem_append.mp member with old | new
        · exact sound entry old
        · rw [List.mem_singleton.mp new]
          exact newSound
  | flags others last critical humanReadable code named fields =>
      have lastSound := sound last (by simp)
      refine ⟨?_, kept sound ⟨⟨lastSound.length, lastSound.room⟩, lastSound.counted⟩⟩
      rw [List.map_append, List.map_append]
      exact .flags (others.map NotationObject.view) last.view critical humanReadable code
        (by simpa [NotationObject.view] using named) fields
  | data others last changed code named grown =>
      have lastSound := sound last (by simp)
      rcases call.addValue_short (fits.short code) lastSound.toComplete lastSound.counted with
        ⟨-, failed⟩ | ⟨block, added, text, terminated⟩
      · rw [failed] at grown
        exact absurd (Prod.mk.inj (Option.some.inj grown)).1 enomem_ne_zero
      · rw [added] at grown
        cases grown
        obtain ⟨changedSound, view⟩ :=
          lastSound.grown (fits.value code others last rfl named) text terminated
        refine ⟨?_, kept sound changedSound⟩
        rw [List.map_append, List.map_append, List.map_singleton, List.map_singleton, view]
        exact .data (others.map NotationObject.view) last.view code
          (by simpa [NotationObject.view] using named)

theorem NotationCall.parse_some (sound : ∀ entry ∈ entries, entry.Sound)
    (short : call.line.code = .notationData → call.Short)
    : ∃ err entries', call.parse entries = some (err, entries') := by
  have created : ∃ made, call.createNotation = some made := by
    rcases call.createNotation_cases with ⟨-, failed⟩ | ⟨block, created, -, -⟩
    · exact ⟨_, failed⟩
    · exact ⟨_, created⟩
  obtain ⟨made, created⟩ := created
  unfold NotationCall.parse
  split
  · split_ifs
    · exact ⟨_, _, rfl⟩
    · rw [created]
      exact ⟨_, _, rfl⟩
  · split_ifs
    · exact ⟨_, _, rfl⟩
    · rw [created]
      exact ⟨_, _, rfl⟩
  · split
    · exact ⟨_, _, rfl⟩
    · split_ifs
      · exact ⟨_, _, rfl⟩
      · split <;> exact ⟨_, _, rfl⟩
  · next code =>
    split
    · exact ⟨_, _, rfl⟩
    · next last found =>
        split_ifs
        · exact ⟨_, _, rfl⟩
        · have lastSound := sound last (List.mem_of_getLast? found)
          rcases call.addValue_short (short code) lastSound.toComplete lastSound.counted with
            ⟨-, failed⟩ | ⟨block, added, -, -⟩
          · rw [failed]
            exact ⟨_, _, rfl⟩
          · rw [added]
            exact ⟨_, _, rfl⟩
  · exact ⟨_, _, rfl⟩

end Line

-----------------------------------------------------------------------------------------
-- Lines that are too long
-----------------------------------------------------------------------------------------

theorem toInt_lt (n : Int) : CInt.toInt n < 2 ^ 31 := by
  unfold CInt.toInt
  omega

theorem NotationCall.decodeNew_ne_zero {call : NotationCall} {src : Str} {err : GpgError}
    (failed : call.decodeNew src = some (.error err))
    : err ≠ 0 := by
  unfold NotationCall.decodeNew at failed
  split at failed
  · cases failed
    exact enomem_ne_zero
  · obtain ⟨block, -, same⟩ := Option.map_eq_some_iff.mp failed
    cases same

theorem NotationCall.decodeValue_cases {call : NotationCall} {entry changed : NotationObject}
    {block : List UInt8} {offset len : Int}
    (decoded : call.decodeValue entry block offset len = some (0, changed))
    : changed.valueLen < 2 ^ 31
      ∧ ((CInt.toSize len = 0 ∧ changed.value = some block)
        ∨ (call.line.args.length + 1 ≤ CInt.toSize len
          ∧ offset + (decodePercentString call.line.args).length < block.length)) := by
  unfold NotationCall.decodeValue at decoded
  dsimp only at decoded
  split_ifs at decoded with own small
  · obtain ⟨made, allocated, same⟩ := Option.map_eq_some_iff.mp decoded
    cases made with
    | error err => exact absurd (Prod.mk.inj same).1 (call.decodeNew_ne_zero allocated)
    | ok text =>
        cases same
        exact ⟨toInt_lt _, .inl ⟨own, rfl⟩⟩
  · exact absurd (Prod.mk.inj (Option.some.inj decoded)).1 (by decide)
  · obtain ⟨stored, written, same⟩ := Option.map_eq_some_iff.mp decoded
    cases same
    unfold storeText at written
    split_ifs at written with inside
    exact ⟨toInt_lt _, .inr ⟨by omega, inside.2⟩⟩

theorem NotationCall.addValue_short_of {call : NotationCall} {entry changed : NotationObject}
    (sound : entry.Sound) (added : call.addValue entry = some (0, changed))
    : changed.valueLen < 2 ^ 31
      ∧ ((∀ block, changed.value = some block → 0 ∈ block) → call.Short) := by
  have low : -2 ^ 31 ≤ CInt.toInt (call.line.args.length + 1) := by
    unfold CInt.toInt
    omega
  have high := toInt_lt (call.line.args.length + 1)
  have long
      : ¬call.Short
        → CInt.toInt (call.line.args.length + 1) < call.line.args.length + 1 := by
    unfold NotationCall.Short
    omega
  unfold NotationCall.addValue at added
  generalize CInt.toInt (call.line.args.length + 1) = len at *
  have positive : 0 < len → CInt.toSize len = len := by
    unfold CInt.toSize
    omega
  cases value : entry.value with
  | none =>
      simp only [value] at added
      split at added
      · exact absurd (Prod.mk.inj (Option.some.inj added)).1 enomem_ne_zero
      · next block allocated =>
          have whole := call.sized _ block allocated
          have bounded := call.bounded _ block allocated
          obtain ⟨counted, own | ⟨room, -⟩⟩ := decodeValue_cases added
          · refine ⟨counted, fun terminated => ?_⟩
            have inside := List.length_pos_of_mem (terminated block own.2)
            omega
          · refine ⟨counted, fun _ => ?_⟩
            by_contra tooLong
            have below := long tooLong
            unfold CInt.toSize at *
            omega
  | some block =>
      have inside := bufferText_length_lt (sound.room block (.inr value))
      have length := sound.length
      have below := sound.counted
      simp only [NotationObject.text, value, Option.map_some, Option.getD_some] at length
      have curLen : CInt.toInt (bufferText block).length = (bufferText block).length :=
        CInt.toInt_of_range (by omega) (by omega)
      simp only [value, bufferStrlen_terminated (sound.room block (.inr value)), curLen] at added
      split at added
      · exact absurd (Prod.mk.inj (Option.some.inj added)).1 enomem_ne_zero
      · next block' moved =>
          obtain ⟨whole, bounded, kept⟩ := call.realloc_some moved
          obtain ⟨counted, own | ⟨room, written⟩⟩ := decodeValue_cases added
          · refine ⟨counted, fun terminated => ?_⟩
            -- The buffer has shrunk to the characters of its string.
            have zero : len = 0 := by
              have own := own.1
              unfold CInt.toSize at own
              omega
            have shrunk : block'.length = (bufferText block).length := by
              rw [whole, zero, zero_add, CInt.toSize_ofNat (by omega)]
            have same : block' = bufferText block := by
              rw [← take_bufferText, ← kept _ (by omega) (by omega), ← shrunk, List.take_length]
            exact absurd rfl (bufferText_zeroFree block 0 (same ▸ terminated block' own.2))
          · refine ⟨counted, fun _ => ?_⟩
            by_contra tooLong
            have below := long tooLong
            unfold CInt.toSize at *
            omega

-----------------------------------------------------------------------------------------
-- Sequences of lines
-----------------------------------------------------------------------------------------

/-- The list is what the lines stand for: the strings, their lengths and their room, with at most
the last entry still waiting for a value.
-/
structure NotationsAssembled (lines : List StatusLine) (entries : List NotationObject) : Prop where
  texts : entries.map NotationObject.text = notationTexts lines
  complete : ∀ entry ∈ entries, entry.Complete
  waiting : ∀ entry ∈ entries.dropLast, entry.value.isSome = true

/-- No NOTATION_DATA line and no assembled value has `INT_MAX` bytes or more. -/
structure ShortNotations (lines : List StatusLine) : Prop where
  chunks : ∀ line ∈ lines, line.code = .notationData → line.args.length + 1 < 2 ^ 31
  values : ∀ text ∈ notationTexts lines, (text.value.getD []).length < 2 ^ 31

theorem takeWhile_prefix_append {α : Type} (p : α → Bool) (front more : List α)
    : front.takeWhile p <+: (front ++ more).takeWhile p := by
  rw [List.takeWhile_append]
  split
  · exact (List.takeWhile_prefix p).trans (List.prefix_append _ _)
  · exact List.prefix_rfl

theorem notationTexts_grow (lines more : List StatusLine) {text : NotationText}
    (member : text ∈ notationTexts lines)
    : ∃ grown ∈ notationTexts (lines ++ more),
        (text.value.getD []).length ≤ (grown.value.getD []).length := by
  induction lines with
  | nil => cases member
  | cons line rest ih =>
      have later
          : text ∈ notationTexts rest
            → ∃ grown ∈ notationTexts (line :: rest ++ more),
                (text.value.getD []).length ≤ (grown.value.getD []).length := by
        intro inRest
        obtain ⟨grown, inMore, longer⟩ := ih inRest
        refine ⟨grown, ?_, longer⟩
        rw [List.cons_append, notationTexts]
        split
        · exact List.mem_cons_of_mem _ inMore
        · exact inMore
      rw [notationTexts] at member
      split at member
      · next starts =>
          rcases List.mem_cons.mp member with rfl | inRest
          · refine ⟨line.notationText (rest ++ more), ?_, ?_⟩
            · rw [List.cons_append, notationTexts, if_pos starts]
              exact List.mem_cons_self
            · have chunks : (valueChunks rest).flatten <+: (valueChunks (rest ++ more)).flatten :=
                (((takeWhile_prefix_append _ rest more).filter _).map _).flatten
              have value (behind : List StatusLine) (code : line.code = .notationName)
                  : (line.notationText behind).value.getD [] = (valueChunks behind).flatten := by
                simp only [StatusLine.notationText, code, if_true]
                split
                · next empty => rw [empty]; rfl
                · rfl
              by_cases code : line.code = .notationName
              · rw [value rest code, value (rest ++ more) code]
                exact chunks.length_le
              · simp [StatusLine.notationText, code]
          · exact later inRest
      · exact later member

theorem ShortNotations.front {lines more : List StatusLine}
    (short : ShortNotations (lines ++ more))
    : ShortNotations lines := by
  refine ⟨fun line member => short.chunks line (List.mem_append_left _ member), ?_⟩
  intro text member
  obtain ⟨grown, inMore, longer⟩ := notationTexts_grow lines more member
  exact longer.trans_lt (short.values grown inMore)

theorem ShortNotations.fits {lines : List StatusLine} {entries : List NotationObject}
    {call : NotationCall} (short : ShortNotations (lines ++ [call.line]))
    (texts : entries.map NotationObject.text = notationTexts lines)
    : call.Fits entries := by
  refine ⟨short.chunks call.line (by simp), ?_, ?_⟩
  · intro code
    have starts : call.line.startsNotation = true := by simp [StatusLine.startsNotation, code]
    have small := short.values (call.line.notationText [])
      (by rw [notationTexts_append_starts starts]; simp)
    simpa [StatusLine.notationText, code] using small
  · rintro code others last rfl named
    rw [List.map_append] at texts
    have grows := notationTexts_append_data code texts.symm
      (by simpa [NotationObject.text] using named)
    have small := short.values (last.text.addChunk (decodePercentString call.line.args))
      (by rw [grows]; simp)
    simpa [NotationText.addChunk] using small

theorem parseNotations_cons {call : NotationCall} {entries entries' : List NotationObject}
    (parsed : call.parse entries = some (0, entries')) (rest : List NotationCall)
    : parseNotations (call :: rest) entries = parseNotations rest entries' := by
  simp [parseNotations, parsed]

theorem parseNotations_append (before after : List NotationCall) (entries : List NotationObject)
    : parseNotations (before ++ after) entries
      = match parseNotations before entries with
        | none => none
        | some (err, entries) =>
            if err ≠ 0 then some (err, entries) else parseNotations after entries := by
  induction before generalizing entries with
  | nil => rfl
  | cons call rest ih =>
      simp only [List.cons_append, parseNotations]
      split
      · rfl
      · split_ifs with failed
        · exact (if_pos failed).symm
        · exact ih _

theorem parseNotations_sound (calls : List NotationCall)
    (short : ShortNotations (calls.map NotationCall.line))
    : ∃ err entries,
        parseNotations calls [] = some (err, entries)
        ∧ (err = 0 →
          HoldsNotations (calls.map NotationCall.line) (entries.map NotationObject.view)
          ∧ ∀ entry ∈ entries, entry.Sound) := by
  induction calls using List.reverseRecOn with
  | nil => exact ⟨0, [], rfl, fun _ => ⟨holdsNotations_nil, by simp⟩⟩
  | append_singleton calls call ih =>
      rw [List.map_append, List.map_singleton] at short ⊢
      obtain ⟨err, entries, ran, reached⟩ := ih short.front
      rw [parseNotations_append, ran]
      by_cases failed : err = 0
      · obtain ⟨holds, sound⟩ := reached failed
        have texts
            : entries.map NotationObject.text = notationTexts (calls.map NotationCall.line) := by
          rw [← holds.texts, List.map_map]
          rfl
        have fits := short.fits texts
        obtain ⟨err', entries', parsed⟩ := call.parse_some sound fits.short
        by_cases failed' : err' = 0
        · subst failed'
          obtain ⟨change, sound'⟩ := (call.parse_cases parsed).sound sound fits
          refine ⟨0, entries', ?_, fun _ => ⟨change.holdsNotations holds, sound'⟩⟩
          simp [failed, parseNotations, parsed]
        · refine ⟨err', entries', ?_, fun zero => absurd zero failed'⟩
          simp [failed, parseNotations, parsed, failed']
      · exact ⟨err, entries, by simp [failed], fun zero => absurd zero failed⟩

theorem notationsAssembled_of_view {lines : List StatusLine} {entries : List NotationObject}
    (holds : HoldsNotations lines (entries.map NotationObject.view))
    (sound : ∀ entry ∈ entries, entry.Sound)
    : NotationsAssembled lines entries := by
  refine ⟨?_, fun entry member => (sound entry member).toComplete, ?_⟩
  · rw [← holds.texts, List.map_map]
    rfl
  · intro entry member
    have filled := holds.waiting entry.view (by
      rw [← List.map_dropLast]
      exact List.mem_map_of_mem member)
    simpa [NotationObject.view] using filled

theorem ObjectChange.short_of {call : NotationCall} {entries entries' : List NotationObject}
    (change : ObjectChange call entries entries') (sound : ∀ entry ∈ entries, entry.Sound)
    (complete : ∀ entry ∈ entries', entry.Complete)
    : (call.line.code = .notationData → call.Short) ∧ ∀ entry ∈ entries', entry.Sound := by
  cases change with
  | added entries block code filled text terminated =>
      refine ⟨?_, ?_⟩
      · intro data
        rcases code with code | code <;> exact absurd (code.symm.trans data) (by decide)
      · intro entry member
        refine ⟨complete entry member, ?_⟩
        rcases List.mem_append.mp member with old | new
        · exact (sound entry old).counted
        · rw [List.mem_singleton.mp new]
          unfold newObject
          split_ifs
          · norm_num
          · exact toInt_lt _
  | flags others last critical humanReadable code named fields =>
      refine ⟨fun data => absurd (code.symm.trans data) (by decide), ?_⟩
      intro entry member
      refine ⟨complete entry member, ?_⟩
      rcases List.mem_append.mp member with old | new
      · exact (sound entry (List.mem_append_left _ old)).counted
      · rw [List.mem_singleton.mp new]
        exact (sound last (by simp)).counted
  | data others last changed code named grown =>
      obtain ⟨counted, short⟩ := call.addValue_short_of (sound last (by simp)) grown
      refine ⟨?_, ?_⟩
      · intro _
        exact short fun block value => (complete changed (by simp)).room block (.inr value)
      · intro entry member
        refine ⟨complete entry member, ?_⟩
        rcases List.mem_append.mp member with old | new
        · exact (sound entry (List.mem_append_left _ old)).counted
        · rw [List.mem_singleton.mp new]
          exact counted

theorem parseNotations_short (calls : List NotationCall)
    (assembled
      : ∀ before after,
          calls = before ++ after →
          ∃ entries,
            parseNotations before [] = some (0, entries)
            ∧ NotationsAssembled (before.map NotationCall.line) entries)
    : ∃ entries,
        parseNotations calls [] = some (0, entries)
        ∧ (∀ entry ∈ entries, entry.Sound)
        ∧ ∀ call ∈ calls, call.line.code = .notationData → call.Short := by
  induction calls using List.reverseRecOn with
  | nil => exact ⟨[], rfl, by simp, by simp⟩
  | append_singleton calls call ih =>
      obtain ⟨entries, ran, sound, short⟩ := ih fun before after split =>
        assembled before (after ++ [call]) (by rw [split, List.append_assoc])
      obtain ⟨entries', ran', complete⟩ := assembled (calls ++ [call]) [] (by simp)
      have parsed : call.parse entries = some (0, entries') := by
        rw [parseNotations_append, ran] at ran'
        cases result : call.parse entries with
        | none => simp [parseNotations, result] at ran'
        | some result' =>
            obtain ⟨err, changed⟩ := result'
            by_cases failed : err = 0
            · simp_all [parseNotations]
            · simp [parseNotations, result, failed] at ran'
      obtain ⟨callShort, sound'⟩ := (call.parse_cases parsed).short_of sound complete.complete
      refine ⟨entries', ran', sound', ?_⟩
      intro other member
      rcases List.mem_append.mp member with old | new
      · exact short other old
      · rw [List.mem_singleton.mp new]
        exact callShort

/-- Lines that are handled without an error give the notations that they stand for, after each of
them, exactly if no chunk and no value reaches `INT_MAX` bytes.
-/
theorem notations_assembled_iff (calls : List NotationCall)
    (handled : ∀ err entries, parseNotations calls [] = some (err, entries) → err = 0)
    : (∀ before after,
          calls = before ++ after →
          ∃ entries,
            parseNotations before [] = some (0, entries)
            ∧ NotationsAssembled (before.map NotationCall.line) entries)
      ↔ ShortNotations (calls.map NotationCall.line) := by
  constructor
  · intro assembled
    obtain ⟨entries, ran, sound, short⟩ := parseNotations_short calls assembled
    obtain ⟨entries', ran', complete⟩ := assembled calls [] (by simp)
    obtain ⟨-, rfl⟩ := Prod.mk.inj (Option.some.inj (ran.symm.trans ran'))
    refine ⟨?_, ?_⟩
    · intro line member
      obtain ⟨call, inCalls, rfl⟩ := List.mem_map.mp member
      exact short call inCalls
    · intro text member
      rw [← complete.texts] at member
      obtain ⟨entry, inEntries, rfl⟩ := List.mem_map.mp member
      have counted := (sound entry inEntries).counted
      rw [(sound entry inEntries).length] at counted
      exact_mod_cast counted
  · rintro short before after rfl
    rw [List.map_append] at short
    obtain ⟨err, entries, ran, reached⟩ := parseNotations_sound before short.front
    have zero : err = 0 := by
      by_contra failed
      have whole : parseNotations (before ++ after) [] = some (err, entries) := by
        rw [parseNotations_append, ran]
        exact if_pos failed
      exact failed (handled err entries whole)
    obtain ⟨holds, sound⟩ := reached zero
    exact ⟨entries, zero ▸ ran, notationsAssembled_of_view holds sound⟩

/-- A line for which there is always memory. -/
def NotationCall.withMemory (line : StatusLine) (plain : ∀ c ∈ line.args, c ≠ 0)
    : NotationCall where
  line
  calloc := true
  malloc size := if size < 2 ^ 63 then some (List.replicate size 0) else none
  plain
  sized := by
    intro size block allocated
    split_ifs at allocated
    cases allocated
    exact List.length_replicate
  bounded := by
    intro size block allocated
    split_ifs at allocated with small
    exact small

/-- A notation with two chunks of its value. -/
def twoChunks (first second : Str) (plainFirst : ZeroFree first) (plainSecond : ZeroFree second)
    : List NotationCall :=
  [.withMemory { code := .notationName, args := str "a" } (by decide),
    .withMemory { code := .notationData, args := first } plainFirst,
    .withMemory { code := .notationData, args := second } plainSecond]

theorem NotationCall.withMemory_parse {args : Str} (plain : ZeroFree args)
    (short : args.length + 1 < 2 ^ 31) {entry : NotationObject} (sound : entry.Sound)
    (named : entry.name.isSome = true)
    : ∃ block,
        (NotationCall.withMemory { code := .notationData, args } plain).parse [entry]
          = some (0, [entry.grown block (decodePercentString args).length])
        ∧ bufferText block = entry.text.value.getD [] ++ decodePercentString args
        ∧ 0 ∈ block := by
  have length := sound.length
  have counted := sound.counted
  have small : args.length + 1 + (entry.text.value.getD []).length < 2 ^ 63 := by omega
  have callShort : (NotationCall.withMemory { code := .notationData, args } plain).Short := short
  rcases NotationCall.addValue_short callShort sound.toComplete counted with
    ⟨none, -⟩ | ⟨block, added, text, terminated⟩
  · exact absurd ((if_pos small).symm.trans none) (by simp)
  · refine ⟨block, ?_, text, terminated⟩
    have unnamed : entry.name.isNone = false := by
      rw [Option.isNone_eq_false_iff]
      exact named
    change
      (if entry.name.isNone then some (invEngine, [entry])
      else
        ((NotationCall.withMemory { code := .notationData, args } plain).addValue entry).map
          fun (err, changed) => (err, [changed])) = _
    rw [unnamed, added]
    rfl

theorem twoChunks_run {first second : Str} (plainFirst : ZeroFree first)
    (plainSecond : ZeroFree second) (shortFirst : first.length + 1 < 2 ^ 31)
    (shortSecond : second.length + 1 < 2 ^ 31)
    : ∃ entry,
        parseNotations (twoChunks first second plainFirst plainSecond) [] = some (0, [entry])
        ∧ entry.valueLen
          = CInt.toInt
              ((decodePercentString first).length + (decodePercentString second).length) := by
  have created
      : (NotationCall.withMemory { code := .notationName, args := str "a" } (by decide)).parse []
        = some (0, [newObject { code := .notationName, args := str "a" } [97, 0]]) := by
    rfl
  obtain ⟨namedSound, -⟩ :=
    @newObject_sound { code := .notationName, args := str "a" } [97, 0] (by simp) (.inl rfl)
      (by decide) (by decide)
  obtain ⟨block, parsed, text, terminated⟩ :=
    NotationCall.withMemory_parse plainFirst shortFirst namedSound rfl
  have decoded := decodePercentString_length_le first
  have waiting
      : ((newObject { code := .notationName, args := str "a" } [97, 0]).text.value.getD []).length
        = 0 := rfl
  have firstLength
      : CInt.toInt (0 + (decodePercentString first).length)
        = (decodePercentString first).length := by
    rw [zero_add]
    exact CInt.toInt_of_range (by omega) (by omega)
  obtain ⟨firstSound, -⟩ := namedSound.grown (by rw [waiting]; omega) text terminated
  obtain ⟨block', parsed', -, -⟩ :=
    NotationCall.withMemory_parse plainSecond shortSecond firstSound rfl
  have empty
      : (newObject { code := .notationName, args := str "a" } [97, 0]).valueLen = 0 := rfl
  refine
    ⟨((newObject { code := .notationName, args := str "a" } [97, 0]).grown block
      (decodePercentString first).length).grown block' (decodePercentString second).length, ?_, ?_⟩
  · unfold twoChunks
    rw [parseNotations_cons created, parseNotations_cons parsed, parseNotations_cons parsed']
    rfl
  · rw [NotationObject.grown_valueLen, NotationObject.grown_valueLen, empty, firstLength]

/-- Two chunks of a value with `2 ^ 31` bytes. -/
def hugeNotation : List NotationCall :=
  twoChunks (List.replicate (2 ^ 31 - 2) 97) (str "aa")
    (fun c member => by simp [List.eq_of_mem_replicate member]) (by decide)

theorem decodePercentString_unescaped {src : Str} (unescaped : ∀ c ∈ src, c ≠ 37)
    : decodePercentString src = src := by
  induction src with
  | nil => rfl
  | cons c rest ih =>
      obtain ⟨first, behind⟩ := List.forall_mem_cons.mp unescaped
      exact (decodedText_plain false first rest).trans (congrArg (c :: ·) (ih behind))

/-- The lines are handled without an error, and the length of the value is negative. -/
theorem value_length_negative
    : ∃ entry,
        parseNotations hugeNotation [] = some (0, [entry])
        ∧ entry.valueLen = -2147483648
        ∧ ¬∀ before after,
            hugeNotation = before ++ after →
            ∃ entries,
              parseNotations before [] = some (0, entries)
              ∧ NotationsAssembled (before.map NotationCall.line) entries := by
  have long : (List.replicate (2 ^ 31 - 2) (97 : UInt8)).length = 2 ^ 31 - 2 :=
    List.length_replicate
  have unescaped : ∀ c ∈ List.replicate (2 ^ 31 - 2) (97 : UInt8), c ≠ 37 := by
    intro c member
    rw [List.eq_of_mem_replicate member]
    decide
  have plain : ZeroFree (List.replicate (2 ^ 31 - 2) 97) :=
    fun c member => by simp [List.eq_of_mem_replicate member]
  have plainSecond : ZeroFree (str "aa") := by decide
  have second : decodePercentString (str "aa") = str "aa" := by decide
  obtain ⟨entry, ran, counted⟩ :=
    twoChunks_run plain plainSecond (by rw [long]; omega) (by decide)
  rw [decodePercentString_unescaped unescaped, long, second] at counted
  have two : (str "aa").length = 2 := rfl
  have wrapped : entry.valueLen = -2147483648 := by
    rw [counted, two]
    unfold CInt.toInt
    omega
  refine ⟨entry, ran, wrapped, ?_⟩
  intro assembled
  obtain ⟨entries, ran', complete⟩ := assembled hugeNotation [] (by simp)
  obtain ⟨-, rfl⟩ := Prod.mk.inj (Option.some.inj (ran.symm.trans ran'))
  have length := (complete.complete entry (by simp)).length
  omega

/-- Two chunks of which the second has an escaped zero byte. -/
def smallNotation : List NotationCall := twoChunks (str "b") (str "%00") (by decide) (by decide)

theorem small_notation_assembled
    : notationTexts (smallNotation.map NotationCall.line)
        = [{ name := some (str "a"), value := some (str "b\\0") }]
      ∧ ∀ before after,
          smallNotation = before ++ after →
          ∃ entries,
            parseNotations before [] = some (0, entries)
            ∧ NotationsAssembled (before.map NotationCall.line) entries := by
  have texts
      : notationTexts (smallNotation.map NotationCall.line)
        = [{ name := some (str "a"), value := some (str "b\\0") }] := by
    decide
  refine ⟨texts, (notations_assembled_iff smallNotation ?_).mpr ⟨by decide, ?_⟩⟩
  · intro err entries ran
    have plainFirst : ZeroFree (str "b") := by decide
    have plainSecond : ZeroFree (str "%00") := by decide
    obtain ⟨entry, ran', -⟩ := twoChunks_run plainFirst plainSecond (by decide) (by decide)
    exact (Prod.mk.inj (Option.some.inj (ran.symm.trans ran'))).1
  · rw [texts]
    decide

end Gpgme
