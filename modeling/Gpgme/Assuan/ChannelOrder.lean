import Gpgme.Assuan.ChannelRuns

/-! The order of the calls of an operation on `engine-gpgsm.c`: no operation sets up a channel
twice, whatever its calls answer.
-/

namespace Gpgme.Channels

/-- The channel was not set up before. -/
def Unset (set : List FdType) : Call → Prop
  | .setFd channel _ _ => channel ∉ set
  | _ => True

/-- The channels that have been set up behind a call. -/
def setUp (set : List FdType) : Call → List FdType
  | .setFd channel _ _ => channel :: set
  | _ => set

/-- The call sets up no channel. -/
def Call.Still : Call → Prop
  | .setFd _ _ _ => False
  | _ => True

namespace Steps

variable {α β : Type} {set : List FdType}

/-- No channel is set up twice, or is one of those in the list. -/
abbrev Ordered (steps : Steps α) (set : List FdType) : Prop := steps.Follows Unset setUp set

abbrev Still (steps : Steps α) : Prop := steps.Only Call.Still

theorem Still.bind_ordered {steps : Steps α} {rest : α → Steps β} (still : steps.Still)
    (later : ∀ value, (rest value).Ordered set)
    : (steps >>= rest).Ordered set := by
  apply still.follows_bind _ later
  intro call none
  cases call with
  | setFd channel data opt => exact none.elim
  | _ => exact ⟨trivial, rfl⟩

theorem ordered_setFd_bind {channel : FdType} {data : Option DataObject} {opt : Option Str}
    {rest : GpgError → Steps α} (unset : channel ∉ set)
    (later : ∀ err, (rest err).Ordered (channel :: set))
    : (setFd channel data opt >>= rest).Ordered set :=
  Calls.follows_request_bind.mpr ⟨unset, later⟩

theorem still_request (call : Call) (still : call.Still) : Still (.request call) :=
  ⟨still, fun _ => trivial⟩

theorem still_pure (value : α) : Still (pure value) := trivial

theorem ordered_pure (value : α) : Ordered (pure value) set := trivial

theorem still_malloc : malloc.Still := still_request .malloc trivial

theorem still_command (line : Str) : (command line).Still := still_request (.command line) trivial

theorem still_addIoCb (callback : Callback) : (addIoCb callback).Still :=
  still_request (.addIoCb callback) trivial

theorem still_ite {condition : Prop} [Decidable condition] {steps other : Steps α}
    (first : steps.Still) (second : other.Still)
    : (if condition then steps else other).Still := by
  split
  · exact first
  · exact second

theorem ordered_ite {condition : Prop} [Decidable condition] {steps other : Steps α}
    (first : steps.Ordered set) (second : other.Ordered set)
    : (if condition then steps else other).Ordered set := by
  split
  · exact first
  · exact second

theorem still_andThen {err : GpgError} {steps : Steps GpgError} (still : steps.Still)
    : (andThen err steps).Still :=
  still_ite (still_pure _) still

theorem still_sendOrigin (origin : Str) : (sendOrigin origin).Still := by
  refine still_ite (still_pure _) ?_
  refine still_malloc.bind fun _ => still_ite (still_pure _) ?_
  exact (still_command _).bind fun _ => trivial

theorem still_start (origin line : Str) : (start origin line).Still := by
  refine (still_sendOrigin origin).bind fun _ => still_ite (still_pure _) ?_
  refine (still_request .openStatus trivial).bind fun _ => still_ite (still_pure _) ?_
  refine (still_addIoCb _).bind fun _ => ?_
  refine (still_andThen (still_addIoCb _)).bind fun _ => ?_
  refine (still_andThen (still_addIoCb _)).bind fun _ => ?_
  refine (still_andThen (still_addIoCb _)).bind fun _ => ?_
  exact still_andThen (still_request (.writeLine line) trivial)

theorem Still.ordered {steps : Steps α} (still : steps.Still) : steps.Ordered set := by
  have alone : (steps >>= pure).Ordered set := still.bind_ordered fun _ => trivial
  rwa [Calls.bind_pure'] at alone

theorem ordered_start (origin line : Str) : (start origin line).Ordered set :=
  (still_start origin line).ordered

theorem still_sendRecipients (recp : List (Option Str)) (linelen invalid : Nat)
    : (sendRecipients recp linelen invalid).Still := by
  induction recp generalizing linelen invalid with
  | nil => trivial
  | cons fpr rest ih =>
      cases fpr with
      | none => exact ih linelen (invalid + 1)
      | some fpr =>
          have sent (failed : GpgError) (linelen : Nat)
              : Still (if failed ≠ 0 then pure failed else do
                  let err ← command (Assuan.recipientCommand fpr)
                  if gpgErrCode err = ErrCode.noPubkey then
                    return gpgError ErrCode.unusablePubkey
                  if err ≠ 0 then return err
                  sendRecipients rest linelen invalid) := by
            refine still_ite (still_pure _) ?_
            refine (still_command _).bind fun _ => still_ite (still_pure _) ?_
            exact still_ite (still_pure _) (ih linelen invalid)
          exact still_ite (still_malloc.bind fun failed => sent failed _) (sent 0 _)

theorem still_setRecipients (recp : List (Option Str)) : (setRecipients recp).Still :=
  still_malloc.bind fun _ => still_ite (still_pure _) (still_sendRecipients recp _ _)

theorem still_sendSigners (signers : List (Option Str)) : (sendSigners signers).Still := by
  induction signers with
  | nil => trivial
  | cons fpr rest ih =>
      cases fpr with
      | none => trivial
      | some fpr =>
          refine still_ite (still_pure _) ?_
          exact (still_command _).bind fun _ => still_ite (still_pure _) ih

theorem still_sendIncludeCerts (includeCerts : Option Str)
    : (sendIncludeCerts includeCerts).Still := by
  cases includeCerts with
  | none => trivial
  | some count => exact still_malloc.bind fun _ => still_ite (still_pure _) (still_command _)

theorem still_commands (lines : List Str)
    : Still (.requests (lines.map Call.command)) := by
  apply Calls.only_requests
  intro call member
  obtain ⟨line, _, rfl⟩ := List.mem_map.mp member
  trivial

end Steps

namespace Operation

open Steps

theorem ordered_sendExport (origin line : Str) (keydata : Option DataObject) (useArmor : Bool)
    : (sendExport origin line keydata useArmor).Ordered [] :=
  ordered_setFd_bind List.not_mem_nil fun _ =>
    ordered_ite (ordered_pure _) (ordered_start origin line)

theorem still_sendListing (origin : Str) (args : ListingArgs) (flags : List Str) (line : Str)
    : (sendListing origin args flags line).Still := by
  refine still_malloc.bind fun _ => still_ite (still_pure _) ?_
  refine (still_command _).bind fun _ => still_ite (still_pure _) ?_
  refine (still_commands flags).bind fun _ => ?_
  exact still_malloc.bind fun _ => still_ite (still_pure _) (still_start origin line)

theorem ordered_pair {input output : Option DataObject} {opt opt' : Option Str}
    (failed failed' : GpgError → GpgError)
    {rest : Steps GpgError} (later : rest.Ordered [.output, .input])
    : (do
        let err ← setFd .input input opt
        if err ≠ 0 then return failed err
        let err ← setFd .output output opt'
        if err ≠ 0 then return failed' err
        rest).Ordered [] := by
  refine ordered_setFd_bind List.not_mem_nil fun _ => ordered_ite (ordered_pure _) ?_
  exact ordered_setFd_bind (by simp) fun _ => ordered_ite (ordered_pure _) later

theorem ordered_steps (origin : Str) (operation : Operation)
    : (operation.steps origin).Ordered [] := by
  cases operation with
  | decrypt ciph plain =>
      exact ordered_pair (fun _ => gpgError ErrCode.general) (fun _ => gpgError ErrCode.general)
        (ordered_start origin _)
  | delete fpr =>
      cases fpr with
      | none => trivial
      | some fpr =>
          refine still_malloc.bind_ordered fun _ => ordered_ite (ordered_pure _) ?_
          exact ordered_start origin _
  | encrypt recp noEncryptTo plain ciph useArmor =>
      cases recp with
      | none => trivial
      | some recp =>
          have last : (do
              let err ← setRecipients recp
              andThen err (start origin GpgsmCommand.encrypt.line)).Ordered [.output, .input] :=
            (still_setRecipients recp).bind_ordered fun _ =>
              ordered_ite (ordered_pure _) (ordered_start origin _)
          refine ordered_ite ?_ ?_
          · refine (still_command _).bind_ordered fun _ => ?_
            exact ordered_ite (ordered_pure _) (ordered_pair id id last)
          · exact ordered_pair id id last
  | exportKeys pattern mode keydata useArmor =>
      refine still_malloc.bind_ordered fun _ => ordered_ite (ordered_pure _) ?_
      exact ordered_sendExport origin _ keydata useArmor
  | exportExt patterns mode keydata useArmor =>
      refine still_malloc.bind_ordered fun _ => ordered_ite (ordered_pure _) ?_
      exact ordered_sendExport origin _ keydata useArmor
  | genkey helpData pubkey seckey useArmor =>
      cases helpData with
      | none => trivial
      | some helpData =>
          refine ordered_ite (ordered_pure _) ?_
          exact ordered_pair id id (ordered_start origin _)
  | importKeys keydata keyarray =>
      cases keyarray with
      | none =>
          refine ordered_ite (ordered_pure _) ?_
          refine ordered_setFd_bind List.not_mem_nil fun _ => ordered_ite (ordered_pure _) ?_
          exact ordered_start origin _
      | some keyarray =>
          refine ordered_ite (ordered_pure _) ?_
          refine (still_command _).bind_ordered fun _ => ordered_ite (ordered_pure _) ?_
          refine still_malloc.bind_ordered fun _ => ordered_ite (ordered_pure _) ?_
          refine (still_request (.newHelper _) trivial).bind_ordered fun _ => ?_
          refine ordered_ite (ordered_pure _) ?_
          refine ordered_setFd_bind List.not_mem_nil fun _ => ordered_ite ?_ ?_
          · exact (still_request .releaseHelper trivial).bind_ordered fun _ => trivial
          · exact ordered_start origin _
  | keylist args pattern =>
      refine (still_commands _).bind_ordered fun _ => ?_
      exact (still_sendListing origin args _ _).ordered
  | keylistExt args patterns reserved =>
      exact ordered_ite (ordered_pure _) (still_sendListing origin args _ _).ordered
  | sign input output detached useArmor includeCerts signers =>
      refine (still_sendIncludeCerts includeCerts).bind_ordered fun _ => ?_
      refine ordered_ite (ordered_pure _) ?_
      refine (still_sendSigners signers).bind_ordered fun _ => ordered_ite (ordered_pure _) ?_
      exact ordered_pair id id (ordered_start origin _)
  | verify sig signedText plaintext =>
      have last (err : GpgError) (set : List FdType)
          : (andThen err (start origin GpgsmCommand.verify.line)).Ordered set :=
        (still_andThen (still_start origin _)).ordered
      refine ordered_setFd_bind List.not_mem_nil fun _ => ordered_ite (ordered_pure _) ?_
      cases signedText with
      | some text => exact ordered_setFd_bind (by simp) fun err => last err _
      | none =>
          cases plaintext with
          | some plaintext => exact ordered_setFd_bind (by simp) fun err => last err _
          | none => exact last 0 _
  | getauditlog output diag html =>
      refine ordered_ite (ordered_pure _) (ordered_ite (ordered_pure _) ?_)
      refine ordered_setFd_bind List.not_mem_nil fun _ => ordered_ite (ordered_pure _) ?_
      exact ordered_start origin _

end Operation

end Gpgme.Channels
