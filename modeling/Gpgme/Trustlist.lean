import Gpgme.Keylist.Handler
import Gpgme.Lib.SignaledQueue
import Gpgme.Wait.Listing

/-! The trust item listing, after `trustlist.c`. Unlike the key listing it leaves its condition set
when the last item is taken from the queue, so that a wait that failed with items in the queue is
taken for one that found an item, later.
-/

namespace Gpgme

open CString FaultMachine SignaledQueue Wait

-----------------------------------------------------------------------------------------
-- Trust items
-----------------------------------------------------------------------------------------

/-- `gpgme_trust_item_t`. -/
structure TrustItem where
  keyid : Str := []
  type : Nat := 0
  level : Int := 0
  ownerTrust : Str := []
  validity : Str := []
  name : Option Str := none
deriving DecidableEq

/-- `DIM (item->keyid)`; the member is a pointer, and the size of that is taken. -/
def keyidDim : Nat := 8

/-- A field of a trust record, the first one being 1. -/
def TrustItem.setField (item : TrustItem) (field : Nat) (p : Str) : TrustItem :=
  match field with
  | 1 => { item with level := atoi p }
  | 2 => if p.length = keyidDim - 1 then { item with keyid := p } else item
  | 3 => { item with type := if p.head? = some 75 then 1 else if p.head? = some 85 then 2 else 0 }
  | 5 => { item with ownerTrust := p.take 1 }
  | 6 => { item with validity := p.take 1 }
  | 9 => { item with name := some p }
  | _ => item

/-- The item of a trust record. -/
def trustItemOf (line : Str) : TrustItem :=
  ((colonFields line).zipIdx 1).foldl (fun item (p, field) => item.setField field p) {}

/-- The operation data of `trustlist.c`. -/
structure TrustlistData where
  trustCond : Bool := false
  trustQueue : List TrustItem := []
deriving DecidableEq

/-- `_gpgme_op_trustlist_event_cb`. -/
def TrustlistData.queueItem (opd : TrustlistData) (item : TrustItem) : TrustlistData :=
  { trustCond := true, trustQueue := opd.trustQueue ++ [item] }

/-- `trustlist_colon_handler`, where its allocations succeed; every line has a first field. -/
def trustlistColonHandler (opd : TrustlistData) (line : Option Str) : TrustlistData :=
  match line with
  | none => opd
  | some line => opd.queueItem (trustItemOf line)

namespace TrustlistData

/-- The end of `gpgme_op_trustlist_next`, from the assertion on. -/
def takeItem (opd : TrustlistData) : Except ListingFault (NextResult TrustItem × TrustlistData) :=
  match opd.trustQueue with
  | [] => .error .assertion
  | item :: rest => .ok (.item item, { opd with trustQueue := rest })

/-- What `gpgme_op_trustlist_next` does after it has waited. -/
def afterWait (opd : TrustlistData) : Except ListingFault (NextResult TrustItem × TrustlistData) :=
  if opd.trustCond then takeItem { opd with trustCond := false }
  else .ok (.stopped (gpgError ErrCode.eof), opd)

end TrustlistData

/-- The trust item listing; `trustlist_status_handler` does nothing. -/
def trustlistOp : ListOp TrustlistData TrustItem where
  colonHandler := fun opd line => some (trustlistColonHandler opd line)
  statusHandler := fun opd _ _ => opd
  queue := TrustlistData.trustQueue
  cond := TrustlistData.trustCond
  take := TrustlistData.takeItem
  afterWait := TrustlistData.afterWait

/-- A trust item listing with its event loop and the calls of the application. -/
def trustlistSession (waitCtx : Nat) (context : Context) (fds : List (Nat × Nat)) (colonFd : Nat)
    (lines : List Str) (inputs : List ListingInput)
    : List (Executed (Listing TrustlistData) ListingInput (Option (NextResult TrustItem)))
      × Except ListingFault (Listing TrustlistData) :=
  run (Listing.step trustlistOp) (Listing.start waitCtx context fds colonFd {} lines) inputs

-----------------------------------------------------------------------------------------
-- The items in their order
-----------------------------------------------------------------------------------------

variable {opd next : TrustlistData} {result : NextResult TrustItem} {fault : ListingFault}
  {lines : List Str} {state : Listing TrustlistData}
  {history : List (Executed (Listing TrustlistData) ListingInput (Option (NextResult TrustItem)))}

/-- The first item is taken from the queue. -/
theorem takeItem_item (taken : opd.takeItem = .ok (result, next))
    : ∃ item,
        result = .item item
        ∧ opd.trustQueue = item :: next.trustQueue
        ∧ next.trustCond = opd.trustCond := by
  unfold TrustlistData.takeItem at taken
  split at taken
  · cases taken
  · next item rest queue =>
      cases taken
      exact ⟨item, rfl, queue, rfl⟩

/-- A wait takes the first item, or an error leaves the queue alone. -/
theorem trustlist_afterWait_cases (resumed : opd.afterWait = .ok (result, next))
    : next.trustCond = false
      ∧ ((∃ item, result = .item item ∧ opd.trustQueue = item :: next.trustQueue)
        ∨ (∃ err, result = .stopped err) ∧ next.trustQueue = opd.trustQueue) := by
  unfold TrustlistData.afterWait at resumed
  split at resumed
  · obtain ⟨item, isItem, queue, cond⟩ := takeItem_item resumed
    exact ⟨cond, Or.inl ⟨item, isItem, queue⟩⟩
  · next cond =>
      cases resumed
      exact ⟨by simpa using cond, Or.inr ⟨⟨_, rfl⟩, rfl⟩⟩

/-- The items that were returned and the queue are the items of the lines that were read. -/
structure DeliversTrust (lines : List Str)
    (history : List (Executed (Listing TrustlistData) ListingInput (Option (NextResult TrustItem))))
    (state : Listing TrustlistData)
    : Prop where
  attended : state.Attended
  made
    : ∃ read,
        lines = read ++ state.unread
        ∧ Listing.returned history ++ state.opd.trustQueue = read.map trustItemOf

/-- One step, whatever the condition says. -/
theorem DeliversTrust.step {input : ListingInput} {output : Option (NextResult TrustItem)}
    {stepped : Listing TrustlistData} (delivers : DeliversTrust lines history state)
    (attended : stepped.Attended) (steps : state.Steps trustlistOp input output stepped)
    : DeliversTrust lines (history ++ [⟨state, input, output⟩]) stepped := by
  obtain ⟨read, whole, delivered⟩ := delivers.made
  refine ⟨attended, ?_⟩
  rw [Listing.returned_concat]
  cases steps with
  | stays _ _ _ => exact ⟨read, whole, by simpa using delivered⟩
  | @reads line rest opd busy unread handled =>
      cases handled
      refine ⟨read ++ [line], by simp [whole, unread], ?_⟩
      simp [trustlistColonHandler, TrustlistData.queueItem, ← delivered]
  | ends busy loop unread handled =>
      cases handled
      exact ⟨read, whole, by simpa [trustlistColonHandler] using delivered⟩
  | status busy => exact ⟨read, whole, by simpa [trustlistOp] using delivered⟩
  | takes idle queued taken =>
      obtain ⟨item, rfl, queue, _⟩ := takeItem_item taken
      refine ⟨read, whole, ?_⟩
      rw [← delivered, queue]
      simp
  | resumes busy idle ready resumed =>
      refine ⟨read, whole, ?_⟩
      rcases trustlist_afterWait_cases resumed with
        ⟨_, ⟨item, rfl, queue⟩ | ⟨⟨err, rfl⟩, queue⟩⟩
      · rw [← delivered, queue]
        simp
      · simpa [queue] using delivered
  | fails idle failed => exact ⟨read, whole, by simpa using delivered⟩

-----------------------------------------------------------------------------------------
-- The assertion
-----------------------------------------------------------------------------------------

/-- No wait returns an error after an item has been put into the queue in it. -/
def KeepsItems (state : Listing TrustlistData) (input : ListingInput) : Prop :=
  state.waitFails input = true → state.opd.trustQueue = []

instance (state : Listing TrustlistData) (input : ListingInput)
    : Decidable (KeepsItems state input) :=
  inferInstanceAs (Decidable (_ → _))

/-- The condition is set only for items in the queue, and only while somebody waits for it. -/
structure SignalsItems (state : Listing TrustlistData) : Prop where
  attended : state.Attended
  cond : state.opd.trustCond = true → state.opd.trustQueue ≠ []
  idle : state.wait.loop = .idle → state.opd.trustCond = false

/-- A line puts its item behind the others. -/
theorem trustlistColonHandler_puts (opd : TrustlistData) (line : Option Str)
    : Puts opd.trustQueue opd.trustCond (line.toList.map trustItemOf)
        (trustlistColonHandler opd line).trustQueue
        (trustlistColonHandler opd line).trustCond := by
  cases line with
  | none => exact ⟨by simp [trustlistColonHandler], by simp [trustlistColonHandler]⟩
  | some line => exact ⟨rfl, by simp [trustlistColonHandler, TrustlistData.queueItem]⟩

/-- One step in which no items are left behind by a wait. -/
theorem SignalsItems.step {input : ListingInput} {output : Option (NextResult TrustItem)}
    {stepped : Listing TrustlistData} (signals : SignalsItems state)
    (keeps : KeepsItems state input) (attended : stepped.Attended)
    (steps : state.Steps trustlistOp input output stepped)
    : SignalsItems stepped := by
  cases steps with
  | stays idle _ _ => exact ⟨attended, signals.cond, fun isIdle => signals.idle (idle isIdle)⟩
  | reads busy unread handled =>
      cases handled
      exact ⟨attended, (trustlistColonHandler_puts _ _).nonempty signals.cond,
        fun idle => absurd idle busy⟩
  | ends busy loop unread handled =>
      cases handled
      refine ⟨attended, signals.cond, fun idle => ?_⟩
      rw [loop] at idle
      exact absurd idle busy
  | status busy => exact ⟨attended, signals.cond, signals.idle⟩
  | takes idle queued taken =>
      obtain ⟨_, _, _, cond⟩ := takeItem_item taken
      rw [signals.idle idle] at cond
      exact ⟨attended, by simp [cond], fun _ => cond⟩
  | resumes busy idle ready resumed =>
      obtain ⟨cond, _⟩ := trustlist_afterWait_cases resumed
      exact ⟨attended, by simp [cond], fun _ => cond⟩
  | fails idle failed =>
      have cond : state.opd.trustCond = false := by
        by_contra set
        exact signals.cond (by simpa using set) (keeps failed)
      exact ⟨attended, by simp [cond], fun _ => cond⟩

/-- Then nothing goes wrong. -/
theorem SignalsItems.faults (signals : SignalsItems state) (faults : state.Faults trustlistOp fault)
    : False := by
  have empty {opd : TrustlistData} (refused : opd.takeItem = .error fault)
      : opd.trustQueue = [] := by
    unfold TrustlistData.takeItem at refused
    split at refused
    · next none => exact none
    · cases refused
  cases faults with
  | colon refused => cases refused
  | take queued refused => exact queued (empty refused)
  | afterWait ready refused =>
      dsimp only [trustlistOp, TrustlistData.afterWait] at refused
      split at refused
      · next cond =>
          have none := empty refused
          exact signals.cond cond none
      · cases refused

/-- In every run the application gets the items of the lines in order; and the assertion that
there is an item does not fail in a run in which no wait returns an error after an item has been
put into the queue in it.
-/
theorem trustlist_next_delivers (waitCtx : Nat) (context : Context) (fds : List (Nat × Nat))
    (colonFd : Nat) (lines : List Str) (inputs : List ListingInput)
    : Listing.returned (trustlistSession waitCtx context fds colonFd lines inputs).1
        <+: lines.map trustItemOf
      ∧ (Along (Listing.step trustlistOp) KeepsItems
          (Listing.start waitCtx context fds colonFd {} lines) inputs
        → ∀ fault, (trustlistSession waitCtx context fds colonFd lines inputs).2 ≠ .error fault) := by
  have started := Listing.start_attended waitCtx context fds colonFd ({} : TrustlistData) lines
  constructor
  · obtain ⟨⟨last, delivers⟩, _⟩ := Listing.run_holds trustlistOp (DeliversTrust lines)
      (fun _ => True) DeliversTrust.attended (fun _ _ => trivial)
      (fun delivers _ => delivers.step) ⟨started, [], rfl, rfl⟩
      (along_of_forall (fun _ _ => trivial) inputs)
    obtain ⟨read, whole, delivered⟩ := delivers.made
    have items : lines.map trustItemOf
        = Listing.returned (trustlistSession waitCtx context fds colonFd lines inputs).1
          ++ (last.opd.trustQueue ++ last.unread.map trustItemOf) := by
      rw [← List.append_assoc, trustlistSession, delivered, ← List.map_append, ← whole]
    rw [items]
    exact List.prefix_append _ _
  · intro keeps
    obtain ⟨_, none⟩ := Listing.run_holds trustlistOp (fun _ state => SignalsItems state)
      (fun _ => False) SignalsItems.attended SignalsItems.faults
      (fun signals keeps => signals.step keeps)
      ⟨started, by simp [Listing.start], by simp [Listing.start]⟩ keeps
    exact none

/-- Both descriptors are signalled, the callback of the lines queues an item, and the other one
returns `err`. The application takes the item that is queued then, and asks again.
-/
def queuedThenReturns (err : GpgError) : List ListingInput := [
  .add 4 1, .next, .select (.ok [0, 1]), .dispatch .ready, .colon, .callbackReturns 0,
  .dispatch .ready, .callbackReturns err, .dispatch .ready, .scan, .next, .next,
  .select (.ok []), .dispatch .ready, .scan]

def oneTrustRecord : List Str := [str "1:68697734D3E2C6F5:K:7:u:u:"]

/-- When the other callback returns no error, nothing goes wrong. -/
theorem trustlist_next_delivers_queued
    : Along (Listing.step trustlistOp) KeepsItems
        (Listing.start 0 { events := .other } [] 3 {} oneTrustRecord) (queuedThenReturns 0)
      ∧ ∀ fault,
          (trustlistSession 0 { events := .other } [] 3 oneTrustRecord (queuedThenReturns 0)).2
          ≠ .error fault :=
  ⟨by decide +kernel,
    (trustlist_next_delivers 0 { events := .other } [] 3 oneTrustRecord (queuedThenReturns 0)).2
      (by decide +kernel)⟩

/-- When it does, the condition is still set after the item was taken, and the assertion fails. -/
theorem trustlist_asserts
    : ¬ ∀ (waitCtx : Nat) (context : Context) (fds : List (Nat × Nat)) (colonFd : Nat)
          (lines : List Str) (inputs : List ListingInput),
          (trustlistSession waitCtx context fds colonFd lines inputs).2 ≠ .error .assertion := by
  intro claimed
  exact claimed 0 { events := .other } [] 3 oneTrustRecord
    (queuedThenReturns (gpgError ErrCode.enomem)) rfl

end Gpgme
