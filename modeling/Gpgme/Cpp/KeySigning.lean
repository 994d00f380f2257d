import Gpgme.Cpp.Interactor
import Gpgme.Lib.Decimal
import Gpgme.Lib.Numerals
import Mathlib.Tactic.MkIffOfInductiveProp

/-! The interactor that signs user IDs of a key, after `gpgsignkeyeditinteractor.cpp`. -/

namespace Gpgme.Interaction

open CString FaultMachine

/-- How many states there are for the user IDs, which gpg is told one by one. -/
@[irreducible]
def slots : Nat := 999997

theorem slots_pos : 0 < slots := by
  unfold slots
  decide

/-- `SignKeyState`: the free slots behind `UIDS_LIST_SEPARATELY` are numbered from it on. -/
inductive SignKeyState where
  | start | command | uidsAnswerSignAll
  | uidsListSeparately (slot : Fin slots)
  | uidsListSeparatelyDone | setExpire | setCheckLevel | setTrustValue | setTrustDepth
  | setTrustRegexp | confirm | confirm2 | quit | save | error
deriving DecidableEq

/-- The user IDs are being listed. -/
def SignKeyState.isSlot : SignKeyState → Bool
  | .uidsListSeparately _ => true
  | _ => false

/-- `GpgSignKeyEditInteractor::Private`; `nextId` counts the user IDs in front of the iterator. -/
structure SignKey where
  options : Nat := 0
  userIDs : List UInt32 := []
  nextId : Nat := 0
  checkLevel : Fin 4 := 0
deriving DecidableEq

namespace SignKey

/-- `command`, for the option bits `Exportable`, `NonRevocable` and `Trust`. -/
def command (d : SignKey) : Str :=
  let isLocal := !d.options.testBit 0
  let nonRevoc := d.options.testBit 1
  let trust := d.options.testBit 2
  if isLocal && nonRevoc && trust then str "ltnrsign"
  else if isLocal && nonRevoc then str "lnrsign"
  else if isLocal && trust then str "ltsign"
  else if isLocal then str "lsign"
  else if nonRevoc && trust then str "tnrsign"
  else if nonRevoc then str "nrsign"
  else if trust then str "tsign"
  else str "sign"

def signAll (d : SignKey) : Bool := d.userIDs.isEmpty

def allUserIDsListed (d : SignKey) : Bool := d.nextId == d.userIDs.length

/-- `nextUserID`, which asserts that there is one. -/
def nextUserID (d : SignKey) : Option (UInt32 × SignKey) :=
  d.userIDs[d.nextId]?.map fun uid => (uid + 1, { d with nextId := d.nextId + 1 })

/-- The static `answer`. -/
def answer (b : Bool) : Str := if b then str "Y" else str "N"

/-- The static `makeTable`; of two entries with one key the later one counts. -/
def makeTable : List ((SignKeyState × StatusCode × String) × SignKeyState) :=
  [ ((.start, .getLine, "keyedit.prompt"), .command),
    ((.command, .getBool, "keyedit.sign_all.okay"), .uidsAnswerSignAll),
    ((.command, .getBool, "sign_uid.okay"), .confirm),
    ((.command, .getBool, "sign_uid.local_promote_okay"), .confirm2),
    ((.uidsAnswerSignAll, .getBool, "sign_uid.okay"), .confirm),
    ((.uidsAnswerSignAll, .getLine, "sign_uid.expire"), .setExpire),
    ((.uidsAnswerSignAll, .getLine, "sign_uid.class"), .setCheckLevel),
    ((.setTrustValue, .getLine, "trustsign_prompt.trust_depth"), .setTrustDepth),
    ((.setTrustDepth, .getLine, "trustsign_prompt.trust_regexp"), .setTrustRegexp),
    ((.setTrustRegexp, .getLine, "sign_uid.okay"), .confirm),
    ((.setCheckLevel, .getBool, "sign_uid.okay"), .confirm),
    ((.setExpire, .getBool, "sign_uid.class"), .setCheckLevel),
    ((.confirm, .getBool, "sign_uid.local_promote_okay"), .confirm),
    ((.confirm, .getBool, "sign_uid.okay"), .confirm),
    ((.confirm2, .getBool, "sign_uid.okay"), .confirm),
    ((.confirm, .getLine, "keyedit.prompt"), .command),
    ((.confirm, .getLine, "trustsign_prompt.trust_value"), .setTrustValue),
    ((.confirm, .getLine, "sign_uid.expire"), .setExpire),
    ((.confirm, .getLine, "sign_uid.class"), .setCheckLevel),
    ((.uidsListSeparatelyDone, .getBool, "sign_uid.local_promote_okay"), .confirm),
    ((.uidsListSeparatelyDone, .getLine, "keyedit.prompt"), .command),
    ((.uidsListSeparatelyDone, .getLine, "trustsign_prompt.trust_value"), .setTrustValue),
    ((.uidsListSeparatelyDone, .getLine, "sign_uid.expire"), .setExpire),
    ((.uidsListSeparatelyDone, .getLine, "sign_uid.class"), .setCheckLevel),
    ((.uidsListSeparatelyDone, .getBool, "sign_uid.okay"), .confirm),
    ((.confirm, .getLine, "keyedit.prompt"), .quit),
    ((.error, .getLine, "keyedit.prompt"), .quit),
    ((.quit, .getBool, "keyedit.save.okay"), .save) ]

/-- `table.find`. -/
def lookup (state : SignKeyState) (status : StatusCode) (args : Str) : Option SignKeyState :=
  (makeTable.reverse.find? fun entry =>
    entry.1.1 == state && entry.1.2.1 == status && str entry.1.2.2 == args).map Prod.snd

/-- `GpgSignKeyEditInteractor::action`. -/
def action (d : SignKey) : SignKeyState → Option ((Option Str × Nat) × SignKey)
  | .command => some ((d.command, ErrCode.noError), d)
  | .uidsAnswerSignAll => some ((answer d.signAll, ErrCode.noError), d)
  | .uidsListSeparatelyDone => some ((d.command, ErrCode.noError), d)
  | .setExpire => some ((answer true, ErrCode.noError), d)
  | .setTrustValue | .setTrustDepth | .setTrustRegexp => some ((none, ErrCode.noError), d)
  | .setCheckLevel => some ((decimal d.checkLevel, ErrCode.noError), d)
  | .confirm2 | .confirm => some ((answer true, ErrCode.noError), d)
  | .quit => some ((str "quit", ErrCode.noError), d)
  | .save => some ((answer true, ErrCode.noError), d)
  | .uidsListSeparately _ =>
      d.nextUserID.map fun (number, d) => ((decimal number.toNat, ErrCode.noError), d)
  | .start | .error => some ((none, ErrCode.general), d)

/-- The state behind that of a user ID: the slots end where `UIDS_LIST_SEPARATELY_DONE` begins. -/
def nextSlot (slot : Fin slots) : SignKeyState :=
  if inside : slot + 1 < slots then .uidsListSeparately ⟨slot + 1, inside⟩
  else .uidsListSeparatelyDone

/-- `GpgSignKeyEditInteractor::nextState`. -/
def nextState (d : SignKey) (state : SignKeyState) (lastError : Nat) (status : StatusCode)
    (args : Str)
    : SignKeyState × Nat :=
  if needsNoResponse status then (state, ErrCode.noError)
  else
    match lookup state status args with
    | some state => (state, ErrCode.noError)
    | none =>
        match state with
        | .uidsAnswerSignAll =>
            if status = .getLine ∧ args = str "keyedit.prompt" then
              if !d.signAll then (.uidsListSeparately ⟨0, slots_pos⟩, ErrCode.noError)
              else (.error, ErrCode.unusablePubkey)
            else (.error, ErrCode.general)
        | .uidsListSeparately slot =>
            if status = .getLine ∧ args = str "keyedit.prompt" then
              (if d.allUserIDsListed then .uidsListSeparatelyDone else nextSlot slot,
                ErrCode.noError)
            else (.error, ErrCode.general)
        | .confirm | .error => (.error, lastError)
        | _ => (.error, ErrCode.general)

/-- `GpgSignKeyEditInteractor`. -/
def interactor : Interactor SignKeyState SignKey where
  startState := .start
  errorState := .error
  nextState d state lastError status args := (nextState d state lastError status args, d)
  action := action

variable {d members members' last : SignKey} {state state' : SignKeyState} {status : StatusCode}
  {args : Str} {error : Nat} {before : List (Str × Str)}

-----------------------------------------------------------------------------------------
-- The table
-----------------------------------------------------------------------------------------

/-- The questions about a trust signature, which have no answers. -/
def asksForTrust (args : Str) : Bool :=
  args == str "trustsign_prompt.trust_value" || args == str "trustsign_prompt.trust_depth"
  || args == str "trustsign_prompt.trust_regexp"

/-- The questions whether a signature is wanted. -/
def asksForConsent (args : Str) : Bool :=
  args == str "sign_uid.okay" || args == str "sign_uid.local_promote_okay"

/-- What all transitions of the table have in common. -/
@[mk_iff]
structure Regular (state : SignKeyState) (args : Str) (next : SignKeyState) : Prop where
  prompt : args = str "keyedit.prompt" → next = .command ∨ next = .quit
  saves : args = str "keyedit.save.okay" → state = .quit
  alive : next ≠ .error
  started : next ≠ .start
  outside : state.isSlot = false
  single : next.isSlot = false
  undone : next ≠ .uidsListSeparatelyDone
  commands : next = .command → state = .start ∨ state = .uidsListSeparatelyDone
  quits : next = .quit → state = .confirm ∨ state = .error
  confirms : next = .confirm → asksForConsent args = true
  trusts : next ∈ [.setTrustValue, .setTrustDepth, .setTrustRegexp] ↔ asksForTrust args = true
  still : next = state ↔ state = .confirm ∧ asksForConsent args = true

theorem regular_of_mem {entry : (SignKeyState × StatusCode × String) × SignKeyState}
    (member : entry ∈ makeTable)
    (counts : entry ≠ ((.confirm, .getLine, "keyedit.prompt"), .command))
    : Regular entry.1.1 (str entry.1.2.2) entry.2 := by
  have all : ∀ entry ∈ makeTable, entry ≠ ((.confirm, .getLine, "keyedit.prompt"), .command)
      → Regular entry.1.1 (str entry.1.2.2) entry.2 := by
    simp only [regular_iff]
    decide
  exact all entry member counts

theorem lookup_regular (found : lookup state status args = some state')
    : Regular state args state' := by
  unfold lookup at found
  obtain ⟨entry, first, rfl⟩ := Option.map_eq_some_iff.mp found
  have member := List.mem_reverse.mp (List.mem_of_find?_eq_some first)
  have same := List.find?_some first
  simp only [Bool.and_eq_true, beq_iff_eq] at same
  obtain ⟨⟨rfl, rfl⟩, rfl⟩ := same
  refine regular_of_mem member ?_
  rintro rfl
  exact absurd first (by decide)

theorem nextState_cases (needs : needsNoResponse status = false) (alive : state ≠ .error)
    (stated : nextState d state ErrCode.noError status args = (state', error))
    (fine : failed error = false)
    : Regular state args state'
      ∨ (args = str "keyedit.prompt"
        ∧ ((state = .uidsAnswerSignAll ∧ state' = .uidsListSeparately ⟨0, slots_pos⟩)
          ∨ ∃ slot,
              state = .uidsListSeparately slot
              ∧ state' = if d.allUserIDsListed then .uidsListSeparatelyDone else nextSlot slot))
      ∨ state' = .error := by
  cases found : lookup state status args with
  | some next =>
      simp only [nextState, needs, found, Bool.false_eq_true, if_false] at stated
      cases stated
      exact Or.inl (lookup_regular found)
  | none =>
      refine Or.inr ?_
      cases state with
      | uidsAnswerSignAll =>
          simp only [nextState, needs, found, Bool.false_eq_true, if_false] at stated
          split_ifs at stated with prompt all <;> cases stated
          · exact Or.inl ⟨prompt.2, Or.inl ⟨rfl, rfl⟩⟩
          · cases fine
          · cases fine
      | uidsListSeparately slot =>
          simp only [nextState, needs, found, Bool.false_eq_true, if_false] at stated
          by_cases prompt : status = .getLine ∧ args = str "keyedit.prompt"
          · rw [if_pos prompt] at stated
            cases stated
            exact Or.inl ⟨prompt.2, Or.inr ⟨slot, rfl, rfl⟩⟩
          · rw [if_neg prompt] at stated
            cases stated
            cases fine
      | error => exact absurd rfl alive
      | confirm =>
          simp only [nextState, needs, found, Bool.false_eq_true, if_false] at stated
          cases stated
          exact Or.inr rfl
      | _ =>
          simp only [nextState, needs, found, Bool.false_eq_true, if_false] at stated
          cases stated
          cases fine

-----------------------------------------------------------------------------------------
-- What gpg is told
-----------------------------------------------------------------------------------------

/-- The line selects the user ID with a number. -/
def selects (entry : Str × Str) : Bool :=
  entry.1 == str "keyedit.prompt" && entry.2.head?.any isDigit

/-- The lines that select the user IDs of the caller, in his order. -/
def chosen (d : SignKey) : List (Str × Str) :=
  d.userIDs.map fun uid => (str "keyedit.prompt", answerLine (decimal (uid + 1).toNat))

/-- So many user IDs are all, or more than there are slots. -/
def Listed (d : SignKey) (count : Nat) : Prop := count = d.userIDs.length ∨ slots ≤ count

/-- gpg was told that a signature is wanted. -/
def Confirmed (lines : List (Str × Str)) : Prop :=
  ∃ line ∈ lines, asksForConsent line.1 = true ∧ line.2 = answerLine (str "Y")

/-- A command to sign goes after no user ID or after all of them, and nothing is saved without a
confirmation.
-/
structure Right (d : SignKey) (before : List (Str × Str)) (entry : Str × Str) : Prop where
  commands
    : entry.2 = answerLine d.command
      → before.filter selects = [] ∨ d.Listed (before.filter selects).length
  saves : entry.1 = str "keyedit.save.okay" → Confirmed before

/-- What holds in every state of a dialogue. -/
structure Said (d members : SignKey) (state : SignKeyState) (before : List (Str × Str)) : Prop where
  same : members = { d with nextId := members.nextId }
  within : members.nextId ≤ d.userIDs.length
  selected : before.filter selects = d.chosen.take members.nextId
  listing : ∀ slot, state = .uidsListSeparately slot → slot + 1 ≤ members.nextId
  settled : state.isSlot = true ∨ members.nextId = 0 ∨ d.Listed members.nextId
  confirmed : state = .confirm ∨ state = .quit → Confirmed before
  justified : Interactor.Justified d.Right before

theorem action_cases {answer : Option Str} (single : state.isSlot = false)
    (acted : action members state = some ((answer, error), last))
    : last = members
      ∧ (state = .confirm → answer = some (str "Y"))
      ∧ (state = .command ∨ state = .uidsListSeparatelyDone → answer = some members.command)
      ∧ (state = .quit → answer = some (str "quit"))
      ∧ (answer = none ↔ state ∈ [.setTrustValue, .setTrustDepth, .setTrustRegexp, .start, .error])
      := by
  cases state with
  | uidsListSeparately slot => cases single
  | _ =>
      cases acted
      simp [SignKey.answer]

theorem action_slot {answer : Option Str} {slot : Fin slots}
    (acted : action members (.uidsListSeparately slot) = some ((answer, error), last))
    : last = { members with nextId := members.nextId + 1 }
      ∧ members.nextId < members.userIDs.length
      ∧ ∃ number, answer = some number
          ∧ members.chosen[members.nextId]? = some (str "keyedit.prompt", answerLine number) := by
  simp only [action, nextUserID, Option.map_map] at acted
  obtain ⟨uid, found, same⟩ := Option.map_eq_some_iff.mp acted
  cases same
  refine ⟨rfl, (List.getElem?_eq_some_iff.mp found).1, _, rfl, ?_⟩
  simp [chosen, found]

theorem selects_decimal (n : Nat)
    : selects (str "keyedit.prompt", answerLine (decimal n)) = true := by
  obtain ⟨first, rest, digits, below, _, _⟩ := decimal_digits n
  have digit : isDigit (digitCode first) = true := by
    rw [← digitValue_lt_ten_iff, digitValue_digitCode below]
    exact below
  simp [selects, answerLine, digits, digit]

theorem command_mem (d : SignKey)
    : d.command
      ∈ [str "ltnrsign", str "lnrsign", str "ltsign", str "lsign", str "tnrsign", str "nrsign",
        str "tsign", str "sign"] := by
  unfold command
  dsimp only
  split_ifs <;> simp

theorem selects_command (d : SignKey)
    : selects (str "keyedit.prompt", answerLine d.command) = false := by
  have plain : ∀ text ∈ [str "ltnrsign", str "lnrsign", str "ltsign", str "lsign", str "tnrsign",
      str "nrsign", str "tsign", str "sign"],
      selects (str "keyedit.prompt", answerLine text) = false := by decide
  exact plain d.command d.command_mem

theorem Said.answer {answer : Option Str} (said : d.Said members state before)
    (single : state'.isSlot = false)
    (settled : members.nextId = 0 ∨ d.Listed members.nextId)
    (acted : action members state' = some ((answer, error), last))
    (unselected : ∀ text ∈ answer, selects (args, answerLine text) = false)
    (saves : args = str "keyedit.save.okay" → Confirmed before)
    (confirmed
      : state' = .confirm ∨ state' = .quit
        → Confirmed (before ++ answer.toList.map fun text => (args, answerLine text)))
    : d.Said last state' (before ++ answer.toList.map fun text => (args, answerLine text)) := by
  obtain ⟨rfl, _⟩ := action_cases single acted
  refine ⟨said.same, said.within, ?_, ?_, Or.inr settled, confirmed, ?_⟩
  · rw [List.filter_append, said.selected]
    cases answer with
    | none => simp
    | some text => simp [unselected text rfl]
  · rintro slot rfl
    cases single
  · cases answer with
    | none => simpa using said.justified
    | some text =>
        refine said.justified.concat ⟨fun _ => ?_, saves⟩
        rw [said.selected]
        rcases settled with none | listed
        · exact Or.inl (by rw [none, List.take_zero])
        · refine Or.inr ?_
          rw [List.length_take, chosen, List.length_map, min_eq_left said.within]
          exact listed

theorem Said.select {answer : Option Str} {slot : Fin slots} (said : d.Said members state before)
    (next : (slot : Nat) ≤ members.nextId)
    (acted : action members (.uidsListSeparately slot) = some ((answer, error), last))
    : d.Said last (.uidsListSeparately slot)
        (before ++ answer.toList.map fun text => (str "keyedit.prompt", answerLine text)) := by
  obtain ⟨rfl, inside, number, rfl, entry⟩ := action_slot acted
  have listed : members.chosen = d.chosen := by rw [said.same]; rfl
  have userIDs : members.userIDs = d.userIDs := by rw [said.same]
  have digits : selects (str "keyedit.prompt", answerLine number) = true := by
    have found := List.mem_of_getElem? entry
    obtain ⟨uid, _, same⟩ := List.mem_map.mp found
    rw [← same]
    exact selects_decimal _
  rw [listed] at entry
  rw [userIDs] at inside
  refine ⟨?_, inside, ?_, ?_, Or.inl rfl, ?_, ?_⟩
  · rw [said.same]
  · rw [List.filter_append, said.selected, List.take_add_one, entry]
    simp [digits]
  · intro slot' same
    cases same
    exact Nat.succ_le_succ next
  · rintro (same | same) <;> cases same
  · have other : str "keyedit.prompt" ≠ str "keyedit.save.okay" := by decide
    refine said.justified.concat ⟨fun same => ?_, fun same => absurd same other⟩
    rw [show answerLine number = answerLine d.command from same, selects_command] at digits
    cases digits

theorem Said.turn {error' : Nat} {answer : Option Str} (said : d.Said members state before)
    (alive : state ≠ .error) (needs : needsNoResponse status = false)
    (stated : nextState members state ErrCode.noError status args = (state', error))
    (fine : failed error = false)
    (acted : action members state' = some ((answer, error'), last)) (quiet : failed error' = false)
    : state' ≠ .error
      ∧ d.Said last state' (before ++ answer.toList.map fun text => (args, answerLine text)) := by
  have commandOf : members.command = d.command := by rw [said.same]; rfl
  rcases nextState_cases needs alive stated fine with regular | ⟨rfl, listing⟩ | rfl
  · refine ⟨regular.alive, ?_⟩
    obtain ⟨_, confirms, commands, quits, _⟩ := action_cases regular.single acted
    refine said.answer regular.single (said.settled.resolve_left ?_) acted ?_ ?_ ?_
    · simp [regular.outside]
    · rintro text rfl
      by_cases prompt : args = str "keyedit.prompt"
      · rw [prompt]
        rcases regular.prompt prompt with next | next
        · rw [Option.some.inj (commands (Or.inl next)), selects_command]
        · rw [Option.some.inj (quits next)]
          decide
      · simp [selects, prompt]
    · exact fun saves => said.confirmed (Or.inr (regular.saves saves))
    · rintro (next | next)
      · rw [confirms next]
        exact ⟨(args, answerLine (str "Y")), by simp, regular.confirms next, rfl⟩
      · have confirm := (regular.quits next).resolve_right alive
        obtain ⟨line, member, right⟩ := said.confirmed (Or.inl confirm)
        exact ⟨line, List.mem_append_left _ member, right⟩
  · have done (listed : d.Listed members.nextId) (next : state' = .uidsListSeparatelyDone)
        : state' ≠ .error
          ∧ d.Said last state'
              (before ++ answer.toList.map fun text => (str "keyedit.prompt", answerLine text))
        := by
      subst next
      obtain ⟨_, _, commands, _⟩ := action_cases rfl acted
      refine ⟨SignKeyState.noConfusion, said.answer rfl (Or.inr listed) acted ?_ ?_ ?_⟩
      · rintro text rfl
        rw [Option.some.inj (commands (Or.inr rfl)), selects_command]
      · exact fun same => absurd same (by decide)
      · rintro (same | same) <;> cases same
    rcases listing with ⟨_, rfl⟩ | ⟨slot, rfl, next⟩
    · exact ⟨SignKeyState.noConfusion, said.select (Nat.zero_le _) acted⟩
    · have count := said.listing slot rfl
      cases all : members.allUserIDsListed with
      | true =>
          refine done (Or.inl ?_) (by simp [next, all])
          rw [eq_of_beq all, said.same]
      | false =>
          rw [all, if_neg Bool.false_ne_true] at next
          unfold nextSlot at next
          split at next
          · subst next
            exact ⟨SignKeyState.noConfusion, said.select count acted⟩
          · next outside => exact done (Or.inr (by omega)) next
  · cases acted
    cases quiet

theorem idle (quiet : needsNoResponse status = true)
    : interactor.nextState members state error status args
      = ((state, ErrCode.noError), members) := by
  simp [interactor, nextState, quiet]

theorem scripted (d : SignKey) : interactor.Scripted d.Said where
  alive := SignKeyState.noConfusion
  idle := idle
  stays := by
    intro members members' state status args error before said alive needs stated fine
    obtain ⟨_, rfl⟩ := Prod.mk.inj stated
    exact said
  turns := by
    intro members members' last state state' status args error error' answer before said alive needs
      stated fine moved acted quiet
    obtain ⟨named, rfl⟩ : nextState members state ErrCode.noError status args = (state', error)
        ∧ members = members' := Prod.mk.inj stated
    exact said.turn alive needs named fine acted quiet

theorem Said.start (fresh : d.nextId = 0) : d.Said d .start [] := by
  refine ⟨rfl, by omega, by simp [fresh], ?_, Or.inr (Or.inl fresh), ?_, ?_⟩
  · rintro slot ⟨⟩
  · rintro (same | same) <;> cases same
  · exact Interactor.justified_nil

/-- The user IDs are selected in the order of the caller, none twice; a command to sign comes before
all of them or behind, and nothing is saved that was not confirmed.
-/
theorem sign_dialogue (d : SignKey) (fresh : d.nextId = 0) (events : List Event)
    (delivers : Along interactor.callback interactor.Delivers (interactor.session d) events)
    : (Interactor.transcript (interactor.calls d events)).filter selects <+: d.chosen
      ∧ Interactor.Justified d.Right (Interactor.transcript (interactor.calls d events)) := by
  obtain ⟨⟨members, state, said⟩, _⟩ := (scripted d).dialogue (.start fresh) delivers
  exact ⟨said.selected ▸ List.take_prefix .., said.justified⟩

/-- A dialogue that signs two user IDs of a key. -/
def served : List Event :=
  [ ⟨.getLine, str "keyedit.prompt", [.ok 4, .ok 1]⟩,
    ⟨.getBool, str "keyedit.sign_all.okay", [.ok 1, .ok 1]⟩,
    ⟨.getLine, str "keyedit.prompt", [.ok 1, .ok 1]⟩,
    ⟨.getLine, str "keyedit.prompt", [.ok 1, .ok 1]⟩,
    ⟨.getLine, str "keyedit.prompt", [.ok 4, .ok 1]⟩,
    ⟨.getLine, str "sign_uid.class", [.ok 1, .ok 1]⟩,
    ⟨.getBool, str "sign_uid.okay", [.ok 1, .ok 1]⟩,
    ⟨.getLine, str "keyedit.prompt", [.ok 4, .ok 1]⟩,
    ⟨.getBool, str "keyedit.save.okay", [.ok 1, .ok 1]⟩ ]

/-- The signature of that dialogue, which can be exported. -/
def sample : SignKey where
  options := 1
  userIDs := [0, 2]

theorem sign_dialogue_served
    : (Interactor.transcript (interactor.calls sample served)).length = 9
      ∧ (Interactor.transcript (interactor.calls sample served)).filter selects <+: sample.chosen
      ∧ Interactor.Justified sample.Right
          (Interactor.transcript (interactor.calls sample served)) :=
  ⟨by decide +kernel, sign_dialogue sample rfl served (by decide +kernel)⟩

-----------------------------------------------------------------------------------------
-- Questions without an answer
-----------------------------------------------------------------------------------------

/-- The line is passed over although gpg waits for an answer: a question about a trust signature, or
one more about a confirmed signature.
-/
def PassedOver (state : SignKeyState) (args : Str) : Prop :=
  asksForTrust args = true ∨ (state = .confirm ∧ asksForConsent args = true)

theorem passedOver_of_still (alive : state ≠ .error) (needs : needsNoResponse status = false)
    (stated : nextState d state ErrCode.noError status args = (state, error))
    (fine : failed error = false)
    : PassedOver state args := by
  rcases nextState_cases needs alive stated fine with regular | ⟨_, ⟨rfl, same⟩ | ⟨slot, rfl, same⟩⟩
    | same
  · exact Or.inr (regular.still.mp rfl)
  · cases same
  · split_ifs at same
    unfold nextSlot at same
    split at same
    · have moved := congrArg Fin.val (SignKeyState.uidsListSeparately.inj same)
      simp at moved
    · cases same
  · exact absurd same alive

theorem answerless_iff {error' : Nat} {answer : Option Str} (alive : state ≠ .error)
    (needs : needsNoResponse status = false)
    (stated : nextState members state ErrCode.noError status args = (state', error))
    (fine : failed error = false) (moved : state' ≠ state)
    (acted : action members state' = some ((answer, error'), last)) (quiet : failed error' = false)
    : answer = none ↔ PassedOver state args := by
  have untrusted : asksForTrust (str "keyedit.prompt") = false := by decide
  have unasked : asksForConsent (str "keyedit.prompt") = false := by decide
  have onPrompt : ¬PassedOver state (str "keyedit.prompt") := by
    simp [PassedOver, untrusted, unasked]
  rcases nextState_cases needs alive stated fine with regular | ⟨rfl, listing⟩ | rfl
  · obtain ⟨_, _, _, _, none⟩ := action_cases regular.single acted
    have still : ¬(state = .confirm ∧ asksForConsent args = true) :=
      fun same => moved (regular.still.mpr same)
    rw [none, PassedOver, or_iff_left still, ← regular.trusts]
    simp [regular.started, regular.alive]
  · refine iff_of_false ?_ onPrompt
    cases single : state'.isSlot with
    | true =>
        cases state' with
        | uidsListSeparately slot =>
            obtain ⟨_, _, number, rfl, _⟩ := action_slot acted
            exact Option.some_ne_none number
        | _ => cases single
    | false =>
        have done : state' = .uidsListSeparatelyDone := by
          rcases listing with ⟨_, rfl⟩ | ⟨slot, _, rfl⟩
          · cases single
          · unfold nextSlot at single ⊢
            split_ifs at single ⊢ <;> first | rfl | cases single
        rw [(action_cases single acted).2.2.1 (Or.inr done)]
        exact Option.some_ne_none _
  · cases acted
    cases quiet

/-- Of the questions that are not rejected, exactly these are left without an answer. -/
theorem unanswered_iff (d : SignKey) (fresh : d.nextId = 0) (events : List Event)
    (delivers : Along interactor.callback interactor.Delivers (interactor.session d) events)
    : ∀ call ∈ interactor.calls d events,
        needsNoResponse call.input.status = false
        → call.output.1 = 0
        → (call.output.2 = [] ↔ PassedOver call.state.state call.input.args) := by
  rintro ⟨s, event, err, text⟩ member needs accepted
  obtain ⟨⟨next, responds⟩, living⟩ :=
    ((scripted d).dialogue (.start fresh) delivers).2 _ member
  dsimp only at accepted needs living responds ⊢
  cases responds with
  | rejects fails =>
      exact absurd accepted
        (Interactor.encodedError_ne_zero (Interactor.ne_noError_of_failed fails))
  | @passes state error members stated fine idle =>
      have clean : s.error = ErrCode.noError := by
        by_contra dead
        exact Interactor.encodedError_ne_zero dead accepted
      obtain rfl := idle.resolve_right (not_not_intro clean)
      rw [clean] at stated
      refine iff_of_true rfl (passedOver_of_still (living clean) needs (Prod.mk.inj stated).1 fine)
  | @acts state error error' members last answer clean stated fine moved acted quiet =>
      rw [clean] at stated
      obtain ⟨named, rfl⟩ : nextState s.members s.state ErrCode.noError event.status event.args
            = (state, error) ∧ s.members = members := Prod.mk.inj stated
      rw [← answerless_iff (living clean) needs named fine moved acted quiet]
      cases answer with
      | none => exact iff_of_true rfl rfl
      | some answer => exact iff_of_false answerLine_ne_nil (Option.some_ne_none answer)

/-- A dialogue about a trust signature, which gpg cannot go on with. -/
def stuck : List Event :=
  [ ⟨.getLine, str "keyedit.prompt", [.ok 4, .ok 1]⟩,
    ⟨.getBool, str "sign_uid.okay", [.ok 1, .ok 1]⟩,
    ⟨.getLine, str "trustsign_prompt.trust_value", [.ok 1, .ok 1]⟩ ]

theorem unanswered_iff_stuck
    : (interactor.calls sample stuck).map (fun call => call.output.2.isEmpty) = [false, false, true]
      ∧ ∀ call ∈ interactor.calls sample stuck,
          needsNoResponse call.input.status = false
          → call.output.1 = 0
          → (call.output.2 = [] ↔ PassedOver call.state.state call.input.args) :=
  ⟨by decide +kernel, unanswered_iff sample rfl stuck (by decide +kernel)⟩

end SignKey

end Gpgme.Interaction
