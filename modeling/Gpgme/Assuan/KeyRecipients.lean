import Gpgme.Assuan.Recipients
import Mathlib.Data.List.ReduceOption

/-! The recipients of an array of keys: which of them `set_recipients` tells the server, and what it
returns.
-/

namespace Gpgme.Assuan

open CString

-----------------------------------------------------------------------------------------
-- What is to be sent
-----------------------------------------------------------------------------------------

/-- An answer after which no other recipient is tried. -/
def stops (err : GpgError) : Bool := err != 0 && gpgErrCode err != ErrCode.noPubkey

/-- An answer that makes a recipient invalid. -/
def isUnknown (err : GpgError) : Bool := gpgErrCode err == ErrCode.noPubkey

/-- The commands for the recipients with an identifier, each with its answer, up to the first
answer that stops.
-/
def dialog (server : Server) : List Str → List Str → List (Str × GpgError)
  | _, [] => []
  | sent, name :: rest =>
      let command := recipientCommand name
      let err := server sent command
      (command, err) :: if stops err then [] else dialog server (sent ++ [command]) rest

/-- The result for the answers, when some recipients are known to be invalid. -/
def dialogResult (invalid : Bool) (answers : List (Str × GpgError)) : GpgError :=
  match answers.find? fun answer => stops answer.2 with
  | some (_, err) => err
  | none =>
      if invalid || answers.any fun answer => isUnknown answer.2 then
        gpgError ErrCode.unusablePubkey
      else
        0

/-- All recipients are tried, and the result tells whether one of them is invalid. -/
def TriesAll (server : Server) (names : List (Option Str)) (invalid : Bool) (sent : List Str)
    (outcome : GpgError × List Str)
    : Prop :=
  outcome.2 = sent ++ (dialog server sent names.reduceOption).map Prod.fst
  ∧ outcome.1
    = dialogResult (invalid || names.contains none) (dialog server sent names.reduceOption)

/-- Behind a recipient that the server does not know, the first answer that is none, no other has
an identifier.
-/
def LastUnknown (server : Server) (names : List (Option Str)) (sent : List Str) : Prop :=
  ∀ front name behind,
    names = front ++ some name :: behind
    → (∀ answer ∈ dialog server sent front.reduceOption, answer.2 = 0)
    → isUnknown (server (sent ++ front.reduceOption.map recipientCommand) (recipientCommand name))
      = true
    → behind.reduceOption = []

-----------------------------------------------------------------------------------------
-- One recipient
-----------------------------------------------------------------------------------------

section Recipient

variable {server : Server} {name : Str} {rest : List (Option Str)} {sent : List Str}

theorem isUnknown_ne_zero {err : GpgError} (unknown : isUnknown err = true) : err ≠ 0 := by
  rintro rfl
  revert unknown
  decide

theorem not_stops_of_unknown {err : GpgError} (unknown : isUnknown err = true)
    : stops err = false := by
  have code : gpgErrCode err = ErrCode.noPubkey := beq_iff_eq.mp unknown
  simp [stops, code]

theorem lastUnknown_none
    : LastUnknown server (none :: rest) sent ↔ LastUnknown server rest sent := by
  constructor
  · intro last front name behind split
    exact last (none :: front) name behind (congrArg (none :: ·) split)
  · intro last front name behind split
    cases front with
    | nil => cases split
    | cons first front =>
        obtain ⟨rfl, tail⟩ := List.cons.inj split
        exact last front name behind tail

theorem lastUnknown_unknown (unknown : isUnknown (server sent (recipientCommand name)) = true)
    : LastUnknown server (some name :: rest) sent ↔ rest.reduceOption = [] := by
  constructor
  · intro last
    exact last [] name rest rfl (by simp [dialog]) (by simpa using unknown)
  · intro empty front other behind split accepted _
    cases front with
    | nil =>
        obtain ⟨-, rfl⟩ := List.cons.inj split
        exact empty
    | cons first front =>
        obtain ⟨rfl, -⟩ := List.cons.inj split
        have zero := accepted (recipientCommand name, server sent (recipientCommand name))
          (by simp [dialog])
        exact absurd zero (isUnknown_ne_zero unknown)

theorem lastUnknown_stopped (stopped : stops (server sent (recipientCommand name)) = true)
    : LastUnknown server (some name :: rest) sent := by
  intro front other behind split accepted unknown
  cases front with
  | nil =>
      obtain ⟨same, -⟩ := List.cons.inj split
      cases same
      rw [List.reduceOption_nil, List.map_nil, List.append_nil] at unknown
      rw [not_stops_of_unknown unknown] at stopped
      cases stopped
  | cons first front =>
      obtain ⟨rfl, -⟩ := List.cons.inj split
      have zero : server sent (recipientCommand name) = 0 :=
        accepted (recipientCommand name, server sent (recipientCommand name)) (by simp [dialog])
      rw [zero] at stopped
      cases stopped

theorem lastUnknown_accepted (accepted : server sent (recipientCommand name) = 0)
    : LastUnknown server (some name :: rest) sent
      ↔ LastUnknown server rest (sent ++ [recipientCommand name]) := by
  have first : stops (0 : GpgError) = false := rfl
  constructor
  · intro last front other behind split answers unknown
    refine last (some name :: front) other behind (congrArg (some name :: ·) split) ?_ ?_
    · simpa [dialog, accepted, first] using answers
    · simpa using unknown
  · intro last front other behind split answers unknown
    cases front with
    | nil =>
        obtain ⟨same, -⟩ := List.cons.inj split
        cases same
        rw [List.reduceOption_nil, List.map_nil, List.append_nil, accepted] at unknown
        exact absurd rfl (isUnknown_ne_zero unknown)
    | cons head front =>
        obtain ⟨rfl, tail⟩ := List.cons.inj split
        refine last front other behind tail ?_ ?_
        · simpa [dialog, accepted, first] using answers
        · simpa using unknown

theorem dialog_eq_nil_iff {names : List Str} : dialog server sent names = [] ↔ names = [] := by
  cases names <;> simp [dialog]

theorem dialogResult_accepted (invalid : Bool) (command : Str) (answers : List (Str × GpgError))
    : dialogResult invalid ((command, 0) :: answers) = dialogResult invalid answers := by
  have goes : stops (0 : GpgError) = false := rfl
  have known : isUnknown (0 : GpgError) = false := rfl
  unfold dialogResult
  rw [List.find?_cons, List.any_cons, goes, known, Bool.false_or]

end Recipient

-----------------------------------------------------------------------------------------
-- The array
-----------------------------------------------------------------------------------------

theorem setRecipients_triesAll_iff (server : Server) (names : List (Option Str))
    (invalidRecipients : Nat) (sent : List Str)
    : TriesAll server names (invalidRecipients != 0) sent
        (setRecipients server names invalidRecipients sent)
      ↔ LastUnknown server names sent := by
  induction names generalizing invalidRecipients sent with
  | nil =>
      refine iff_of_true ⟨by simp [setRecipients, dialog], ?_⟩ ?_
      · by_cases zero : invalidRecipients = 0 <;>
          simp [setRecipients, dialog, dialogResult, zero]
      · intro front name behind split
        simp at split
  | cons first rest ih =>
      cases first with
      | none =>
          have next
              : setRecipients server (none :: rest) invalidRecipients sent
                = setRecipients server rest (invalidRecipients + 1) sent := rfl
          rw [lastUnknown_none, ← ih (invalidRecipients + 1) sent, next]
          simp [TriesAll]
      | some name =>
          generalize answer : server sent (recipientCommand name) = err
          by_cases unknown : isUnknown err = true
          · have code : gpgErrCode err = ErrCode.noPubkey := beq_iff_eq.mp unknown
            have goes := not_stops_of_unknown unknown
            have ended
                : setRecipients server (some name :: rest) invalidRecipients sent
                  = (gpgError ErrCode.unusablePubkey, sent ++ [recipientCommand name]) := by
              simp [setRecipients, answer, code]
            rw [lastUnknown_unknown (answer ▸ unknown), ended]
            unfold TriesAll
            rw [List.reduceOption_cons_of_some, dialog, answer, goes]
            constructor
            · rintro ⟨sentAll, -⟩
              have none_left : dialog server (sent ++ [recipientCommand name]) rest.reduceOption = [] := by
                simpa using sentAll
              exact dialog_eq_nil_iff.mp none_left
            · intro empty
              rw [empty]
              refine ⟨by simp [dialog], ?_⟩
              simp [dialog, dialogResult, goes, unknown]
          · by_cases stopped : stops err = true
            · have nonzero : err ≠ 0 := by
                rintro rfl
                cases stopped
              have code : gpgErrCode err ≠ ErrCode.noPubkey := fun same =>
                unknown (beq_iff_eq.mpr same)
              refine iff_of_true ?_ (lastUnknown_stopped (answer ▸ stopped))
              have ended
                  : setRecipients server (some name :: rest) invalidRecipients sent
                    = (err, sent ++ [recipientCommand name]) := by
                simp [setRecipients, answer, code, nonzero]
              unfold TriesAll
              rw [List.reduceOption_cons_of_some, dialog, answer, stopped, ended]
              exact ⟨rfl, by simp [dialogResult, stopped]⟩
            · have zero : err = 0 := by
                by_contra nonzero
                simp_all [stops, isUnknown]
              have next
                  : setRecipients server (some name :: rest) invalidRecipients sent
                    = setRecipients server rest invalidRecipients
                        (sent ++ [recipientCommand name]) := by
                have code : gpgErrCode 0 ≠ ErrCode.noPubkey := by decide
                simp [setRecipients, answer, zero, code]
              rw [lastUnknown_accepted (answer.trans zero),
                ← ih invalidRecipients (sent ++ [recipientCommand name]), next]
              unfold TriesAll
              rw [List.reduceOption_cons_of_some, dialog, answer, zero]
              have goes : stops (0 : GpgError) = false := rfl
              have valid : (some name :: rest).contains none = rest.contains none := by
                rw [List.contains_cons]
                rfl
              rw [goes, valid, dialogResult_accepted]
              simp

/-- Both engines try all recipients of an array exactly if one that the server does not know comes
last.
-/
theorem recipients_tried_iff (server : Server) (recp : List RecipientKey) (sent : List Str)
    : (TriesAll server (recp.map RecipientKey.fpr) false sent
          (setRecipients server (recp.map RecipientKey.fpr) 0 sent)
        ↔ LastUnknown server (recp.map RecipientKey.fpr) sent)
      ∧ (TriesAll server (recp.map RecipientKey.uid) false sent
          (setRecipients server (recp.map RecipientKey.uid) 0 sent)
        ↔ LastUnknown server (recp.map RecipientKey.uid) sent) :=
  ⟨setRecipients_triesAll_iff server _ 0 sent, setRecipients_triesAll_iff server _ 0 sent⟩

/-- A server that does not know one of the names. -/
def knowsAllBut (name : Str) : Server := fun _ command =>
  if command = recipientCommand name then gpgError ErrCode.noPubkey else 0

/-- The recipient behind one that the server does not know is not tried. -/
theorem later_recipient_skipped
    : setRecipients (knowsAllBut (str "a")) [some (str "a"), some (str "b")] 0 []
        = (gpgError ErrCode.unusablePubkey, [str "RECIPIENT a"])
      ∧ ¬TriesAll (knowsAllBut (str "a")) [some (str "a"), some (str "b")] false []
          (setRecipients (knowsAllBut (str "a")) [some (str "a"), some (str "b")] 0 []) := by
  have ended
      : setRecipients (knowsAllBut (str "a")) [some (str "a"), some (str "b")] 0 []
        = (gpgError ErrCode.unusablePubkey, [str "RECIPIENT a"]) := by
    decide
  refine ⟨ended, ?_⟩
  rintro ⟨sentAll, -⟩
  rw [ended] at sentAll
  revert sentAll
  decide

end Gpgme.Assuan
