import Gpgme.Wait.TagTable

/-! The table of close notifications of `posix-io.c`, and what the two tables of slots keep. -/

namespace Gpgme

open SlotTable Wait

-----------------------------------------------------------------------------------------
-- The functions
-----------------------------------------------------------------------------------------

/-- `struct notify_table_item_s`. -/
structure NotifySlot where
  fd : Int := -1
  handler : Option Nat := none
  value : Nat := 0
deriving DecidableEq

def notifyFree (slot : NotifySlot) : Bool := slot.fd == -1

/-- A call of a handler. -/
structure CloseCall where
  handler : Nat
  fd : Int
  value : Nat
deriving DecidableEq

/-- `_gpgme_io_set_close_notify`. A full table is copied into one with 64 more entries, if the
allocation of that succeeds.
-/
def setCloseNotify (table : List NotifySlot) (fd : Int) (handler value : Nat) (calloc : Bool)
    : Int × List NotifySlot :=
  if table.any notifyFree || calloc then
    (0, (put notifyFree (List.replicate 64 {}) { fd, handler := some handler, value } table).1)
  else
    (-1, table)

/-- `_gpgme_io_close`, as far as the handler that it calls and the table. -/
def ioClose (table : List NotifySlot) (fd : Int) : List CloseCall × List NotifySlot :=
  if fd = -1 then ([], table)
  else
    match table.findIdx? (fun slot => slot.fd == fd) with
    | none => ([], table)
    | some idx =>
        let slot := table.getD idx {}
        (slot.handler.toList.map fun handler => { handler, fd, value := slot.value },
          table.set idx {})

-----------------------------------------------------------------------------------------
-- Runs
-----------------------------------------------------------------------------------------

inductive NotifyEvent where
  | registered (fd : Int) (handler value : Nat)
  | refused (fd : Int)
  | closed (fd : Int) (calls : List CloseCall)

/-- The handler and value that were registered since a descriptor was closed; the last event comes
first.
-/
def pendingHandler : List NotifyEvent → Int → Option (Nat × Nat)
  | [], _ => none
  | .registered other handler value :: earlier, fd =>
      if other = fd then some (handler, value) else pendingHandler earlier fd
  | .refused _ :: earlier, fd => pendingHandler earlier fd
  | .closed other _ :: earlier, fd => if other = fd then none else pendingHandler earlier fd

/-- The descriptors with a pending registration. -/
def pendingFds : List NotifyEvent → List Int
  | [] => []
  | .registered fd _ _ :: earlier => fd :: pendingFds earlier
  | .refused _ :: earlier => pendingFds earlier
  | .closed fd _ :: earlier => (pendingFds earlier).filter (· != fd)

/-- Whenever a handler was registered, the number of the others was such that an `int` counts to the
end of a larger table.
-/
def FewHandlers : List NotifyEvent → Prop
  | [] => True
  | .registered _ _ _ :: earlier => (pendingFds earlier).length + 64 < 2 ^ 31 ∧ FewHandlers earlier
  | .refused _ :: earlier => FewHandlers earlier
  | .closed _ _ :: earlier => FewHandlers earlier

/-- The calls of the two functions, in any order. Only descriptors without a pending registration
are registered.
-/
inductive NotifyRun : List NotifyEvent → List NotifySlot → Prop where
  | start : NotifyRun [] []
  | register {history table fd handler value calloc table'} (run : NotifyRun history table)
    (valid : fd ≠ -1) (clear : pendingHandler history fd = none)
    (stored : setCloseNotify table fd handler value calloc = (0, table'))
    : NotifyRun (.registered fd handler value :: history) table'
  | refuse {history table fd handler value calloc table'} (run : NotifyRun history table)
    (valid : fd ≠ -1) (clear : pendingHandler history fd = none)
    (refused : setCloseNotify table fd handler value calloc = (-1, table'))
    : NotifyRun (.refused fd :: history) table'
  | close {history table fd calls table'} (run : NotifyRun history table)
    (closed : ioClose table fd = (calls, table'))
    : NotifyRun (.closed fd calls :: history) table'

-----------------------------------------------------------------------------------------
-- The invariant
-----------------------------------------------------------------------------------------

variable {history : List NotifyEvent} {table table' : List NotifySlot} {fd : Int}

/-- The slot of a descriptor with a pending registration. -/
def HoldsHandler (history : List NotifyEvent) (fd : Int) (slot : NotifySlot) : Prop :=
  ∃ handler value, pendingHandler history fd = some (handler, value)
    ∧ slot = { fd, handler := some handler, value }

/-- Every descriptor with a pending registration has one slot, at some place. -/
def NotifySound (history : List NotifyEvent) (table : List NotifySlot) : Prop :=
  ∃ place : Int → Option Nat,
    Owned notifyFree table place (HoldsHandler history)
    ∧ ∀ fd, pendingHandler history fd ≠ none → ∃ idx, place fd = some idx

/-- A handler is not registered, or it is put into a slot. -/
theorem setCloseNotify_cases {handler value : Nat} {calloc : Bool} {res : Int}
    (call : setCloseNotify table fd handler value calloc = (res, table'))
    : (res = -1 ∧ table' = table)
      ∨ (res = 0
        ∧ ∃ idx, Put notifyFree { fd, handler := some handler, value } table table' idx) := by
  unfold setCloseNotify at call
  split at call
  · next room =>
      obtain ⟨rfl, rfl⟩ := Prod.mk.inj call
      refine .inr ⟨rfl, _, put_spec ?_⟩
      exact .inr ⟨by simp, fun new member => by rw [List.eq_of_mem_replicate member]; rfl⟩
  · obtain ⟨rfl, rfl⟩ := Prod.mk.inj call
    exact .inl ⟨rfl, rfl⟩

/-- The slot that a call finds is the one of the descriptor. -/
theorem findIdx_place {place : Int → Option Nat}
    (owned : Owned notifyFree table place (HoldsHandler history)) (valid : fd ≠ -1)
    : table.findIdx? (fun slot => slot.fd == fd) = place fd := by
  have inUse : ∀ slot : NotifySlot, slot.fd = fd → notifyFree slot = false := by
    rintro slot rfl
    exact beq_eq_false_iff_ne.mpr valid
  cases found : table.findIdx? (fun slot => slot.fd == fd) with
  | none =>
      cases placed : place fd with
      | none => rfl
      | some idx =>
          obtain ⟨slot, here, -, _, _, -, rfl⟩ := owned.held fd idx placed
          have none := List.findIdx?_eq_none_iff.mp found _ (List.mem_of_getElem? here)
          exact absurd none (by simp)
  | some idx =>
      obtain ⟨inside, same, -⟩ := List.findIdx?_eq_some_iff_getElem.mp found
      have same : table[idx].fd = fd := beq_iff_eq.mp same
      have here := List.getElem?_eq_getElem inside
      obtain ⟨owner, placed⟩ := owned.covered idx _ here (inUse _ same)
      obtain ⟨slot, there, -, _, _, -, own⟩ := owned.held owner idx placed
      obtain rfl := Option.some.inj (here.symm.trans there)
      rw [own] at same
      rw [← same, placed]

/-- Closing a descriptor leaves the other handlers pending. -/
theorem pendingHandler_closed {other : Int} (different : other ≠ fd) (calls : List CloseCall)
    : pendingHandler (.closed fd calls :: history) other = pendingHandler history other := by
  rw [pendingHandler, if_neg (Ne.symm different)]

/-- A closed descriptor has no pending handler. -/
theorem pendingHandler_closed_self (history : List NotifyEvent) (fd : Int) (calls : List CloseCall)
    : pendingHandler (.closed fd calls :: history) fd = none := by
  rw [pendingHandler, if_pos rfl]

/-- Where a descriptor has no slot, closing it changes nothing. -/
theorem notifySound_unplaced {place : Int → Option Nat} {calls : List CloseCall}
    (owned : Owned notifyFree table place (HoldsHandler history))
    (present : ∀ fd, pendingHandler history fd ≠ none → ∃ idx, place fd = some idx)
    (unplaced : place fd = none)
    : NotifySound (.closed fd calls :: history) table := by
  refine ⟨place, owned.mono fun owner idx slot placed holds => ?_, fun other pending => ?_⟩
  · have different : owner ≠ fd := by
      rintro rfl
      exact absurd (unplaced.symm.trans placed) (by simp)
    obtain ⟨handler, value, pending, same⟩ := holds
    exact ⟨handler, value, by rw [pendingHandler_closed different, pending], same⟩
  · by_cases own : other = fd
    · exact absurd (own ▸ pendingHandler_closed_self history fd calls) pending
    · rw [pendingHandler_closed own] at pending
      exact present other pending

/-- A call of `_gpgme_io_close` calls the pending handler and frees its slot. -/
theorem NotifySound.close {calls : List CloseCall} (sound : NotifySound history table)
    (closed : ioClose table fd = (calls, table'))
    : calls = (pendingHandler history fd).toList.map
          (fun pending => { handler := pending.1, fd, value := pending.2 })
      ∧ NotifySound (.closed fd calls :: history) table' := by
  obtain ⟨place, owned, present⟩ := sound
  cases placed : place fd with
  | none =>
      have unregistered : pendingHandler history fd = none := by
        by_contra pending
        obtain ⟨idx, some⟩ := present fd pending
        exact absurd (placed.symm.trans some) (by simp)
      have unchanged : ioClose table fd = ([], table) := by
        unfold ioClose
        by_cases valid : fd = -1
        · rw [if_pos valid]
        · rw [if_neg valid, findIdx_place owned valid, placed]
      rw [unchanged] at closed
      obtain ⟨rfl, rfl⟩ := Prod.mk.inj closed
      exact ⟨by rw [unregistered]; rfl, notifySound_unplaced owned present placed⟩
  | some idx =>
      obtain ⟨slot, here, used, handler, value, pending, rfl⟩ := owned.held fd idx placed
      have valid : fd ≠ -1 := beq_eq_false_iff_ne.mp used
      rw [ioClose, if_neg valid, findIdx_place owned valid, placed] at closed
      dsimp only at closed
      rw [List.getD_eq_getElem?_getD, here] at closed
      obtain ⟨rfl, rfl⟩ := Prod.mk.inj closed
      have unused : notifyFree {} = true := rfl
      refine ⟨by rw [pending]; rfl, _, (owned.release placed unused).mono ?_, ?_⟩
      · intro owner place' slot placed' holds
        have different : owner ≠ fd := by
          rintro rfl
          rw [Function.update_self] at placed'
          cases placed'
        obtain ⟨handler, value, pending, same⟩ := holds
        exact ⟨handler, value, by rw [pendingHandler_closed different, pending], same⟩
      · intro other pending
        by_cases own : other = fd
        · exact absurd (own ▸ pendingHandler_closed_self history fd _) pending
        · rw [pendingHandler_closed own] at pending
          rw [Function.update_of_ne own]
          exact present other pending

/-- A registration keeps the table sound. -/
theorem NotifySound.register {handler value : Nat} {calloc : Bool}
    (sound : NotifySound history table) (valid : fd ≠ -1)
    (clear : pendingHandler history fd = none)
    (stored : setCloseNotify table fd handler value calloc = (0, table'))
    : NotifySound (.registered fd handler value :: history) table' := by
  obtain ⟨place, owned, present⟩ := sound
  rcases setCloseNotify_cases stored with ⟨failed, -⟩ | ⟨-, idx, put⟩
  · cases failed
  have absent : place fd = none := by
    by_contra placed
    obtain ⟨idx', placed⟩ := Option.ne_none_iff_exists'.mp placed
    obtain ⟨_, -, -, _, _, pending, -⟩ := owned.held fd idx' placed
    exact absurd (clear.symm.trans pending) (by simp)
  have others : ∀ other, other ≠ fd →
      pendingHandler (.registered fd handler value :: history) other
        = pendingHandler history other := by
    intro other different
    rw [pendingHandler, if_neg (Ne.symm different)]
  have own : pendingHandler (.registered fd handler value :: history) fd
      = some (handler, value) := by
    rw [pendingHandler, if_pos rfl]
  refine ⟨_, Owned.put (owned.mono ?_) put absent (beq_eq_false_iff_ne.mpr valid)
    ⟨handler, value, own, rfl⟩, ?_⟩
  · intro owner place' slot placed holds
    have different : owner ≠ fd := by
      rintro rfl
      exact absurd (absent.symm.trans placed) (by simp)
    obtain ⟨handler', value', pending, same⟩ := holds
    exact ⟨handler', value', by rw [others owner different, pending], same⟩
  · intro other pending
    by_cases same : other = fd
    · exact ⟨idx, by rw [same, Function.update_self]⟩
    · rw [others other same] at pending
      rw [Function.update_of_ne same]
      exact present other pending

/-- The invariant holds after every run, by induction on it. -/
theorem NotifyRun.sound (run : NotifyRun history table) : NotifySound history table := by
  induction run with
  | start => exact ⟨fun _ => none, owned_empty _, fun _ pending => absurd rfl pending⟩
  | register run valid clear stored ih => exact ih.register valid clear stored
  | refuse run valid clear refused ih =>
      rcases setCloseNotify_cases refused with ⟨-, rfl⟩ | ⟨succeeded, -⟩
      · exact ih
      · cases succeeded
  | close run closed ih => exact (ih.close closed).2

-----------------------------------------------------------------------------------------
-- The length of the table
-----------------------------------------------------------------------------------------

/-- A descriptor with a pending handler is listed. -/
theorem mem_pendingFds (pending : pendingHandler history fd ≠ none) : fd ∈ pendingFds history := by
  induction history with
  | nil => exact absurd rfl pending
  | cons event earlier ih =>
      cases event with
      | registered other handler value =>
          rw [pendingHandler] at pending
          rw [pendingFds, List.mem_cons]
          by_cases own : other = fd
          · exact .inl own.symm
          · rw [if_neg own] at pending
            exact .inr (ih pending)
      | refused other => exact ih pending
      | closed other calls =>
          rw [pendingHandler] at pending
          by_cases own : other = fd
          · rw [if_pos own] at pending
            exact absurd rfl pending
          · rw [if_neg own] at pending
            rw [pendingFds, List.mem_filter]
            exact ⟨ih pending, by simpa using Ne.symm own⟩

/-- Only a full table grows, and its slots have different owners. -/
theorem NotifySound.length_setCloseNotify {handler value : Nat} {calloc : Bool}
    (sound : NotifySound history table) (few : (pendingFds history).length + 64 < 2 ^ 31)
    (short : table.length < 2 ^ 31)
    : (setCloseNotify table fd handler value calloc).2.length < 2 ^ 31 := by
  obtain ⟨place, owned, -⟩ := sound
  unfold setCloseNotify
  split
  · unfold put
    split
    · rw [List.length_set]
      exact short
    · next full =>
        have used : ∀ i < table.length, ∃ old, table[i]? = some old ∧ notifyFree old = false :=
          fun i inside => ⟨table[i], List.getElem?_eq_getElem inside,
            List.findIdx?_eq_none_iff.mp full table[i] (List.getElem_mem inside)⟩
        have owners : table.length ≤ (pendingFds history).length := by
          refine owned.index_le (fun fd i placed => ?_) used
          obtain ⟨_, -, -, handler, value, pending, -⟩ := owned.held fd i placed
          exact mem_pendingFds (by rw [pending]; simp)
        rw [List.length_set, List.length_append, List.length_replicate]
        omega
  · exact short

/-- Closing keeps the length of the table. -/
theorem length_ioClose (table : List NotifySlot) (fd : Int)
    : (ioClose table fd).2.length = table.length := by
  unfold ioClose
  split
  · rfl
  split
  · rfl
  · exact List.length_set

/-- An `int` counts to the end of the table after every run in which there were never too many
handlers, by induction on it.
-/
theorem NotifyRun.length_lt (run : NotifyRun history table) (few : FewHandlers history)
    : table.length < 2 ^ 31 := by
  induction run with
  | start => exact Nat.two_pow_pos 31
  | @register history table fd handler value calloc table' run valid clear stored ih =>
      have length : (setCloseNotify table fd handler value calloc).2.length < 2 ^ 31 :=
        run.sound.length_setCloseNotify few.1 (ih few.2)
      rwa [stored] at length
  | refuse run valid clear refused ih =>
      rcases setCloseNotify_cases refused with ⟨-, rfl⟩ | ⟨succeeded, -⟩
      · exact ih few
      · cases succeeded
  | @close history table fd calls table' run closed ih =>
      have length := length_ioClose table fd
      rw [closed] at length
      exact length.trans_lt (ih few)

-----------------------------------------------------------------------------------------
-- Histories
-----------------------------------------------------------------------------------------

/-- A run can be cut behind any of its calls. -/
theorem NotifyRun.earlier {later : List NotifyEvent} (run : NotifyRun (later ++ history) table)
    : ∃ table', NotifyRun history table' := by
  induction later generalizing table with
  | nil => exact ⟨table, run⟩
  | cons event later ih =>
      cases run with
      | register run => exact ih run
      | refuse run => exact ih run
      | close run => exact ih run

/-- A closed descriptor was called for what was pending. -/
theorem NotifyRun.calls {calls : List CloseCall}
    (run : NotifyRun (.closed fd calls :: history) table)
    : calls = (pendingHandler history fd).toList.map
        (fun pending => { handler := pending.1, fd, value := pending.2 }) := by
  cases run with
  | close run closed => exact (run.sound.close closed).1

/-- What is pending was registered after the descriptor was closed for the last time. -/
theorem registered_of_pending {handler value : Nat}
    (pending : pendingHandler history fd = some (handler, value))
    : ∃ between earlier, history = between ++ .registered fd handler value :: earlier
        ∧ ∀ calls, .closed fd calls ∉ between := by
  induction history with
  | nil => cases pending
  | cons event history ih =>
      cases event with
      | registered other handler' value' =>
          rw [pendingHandler] at pending
          by_cases own : other = fd
          · rw [if_pos own] at pending
            cases pending
            exact ⟨[], history, by rw [own]; rfl, by simp⟩
          · rw [if_neg own] at pending
            obtain ⟨between, earlier, rfl, open'⟩ := ih pending
            exact ⟨_ :: between, earlier, rfl, by simpa using open'⟩
      | refused other =>
          obtain ⟨between, earlier, rfl, open'⟩ := ih pending
          exact ⟨_ :: between, earlier, rfl, by simpa using open'⟩
      | closed other calls' =>
          rw [pendingHandler] at pending
          by_cases own : other = fd
          · rw [if_pos own] at pending
            cases pending
          · rw [if_neg own] at pending
            obtain ⟨between, earlier, rfl, open'⟩ := ih pending
            refine ⟨_ :: between, earlier, rfl, fun calls member => ?_⟩
            rcases List.mem_cons.mp member with same | member
            · cases same
              exact own rfl
            · exact open' calls member

/-- A registration is pending until its descriptor is closed, by induction on the calls between. -/
theorem NotifyRun.pending {handler value : Nat} {between earlier : List NotifyEvent}
    (run : NotifyRun (between ++ .registered fd handler value :: earlier) table)
    (open' : ∀ calls, .closed fd calls ∉ between)
    : pendingHandler (between ++ .registered fd handler value :: earlier) fd
      = some (handler, value) := by
  induction between generalizing table with
  | nil => rw [List.nil_append, pendingHandler, if_pos rfl]
  | cons event between ih =>
      have open'' : ∀ calls, .closed fd calls ∉ between := fun calls member =>
        open' calls (List.mem_cons_of_mem _ member)
      cases run with
      | register run valid clear stored =>
          have pending := ih run open''
          rw [List.cons_append, pendingHandler, if_neg, pending]
          rintro rfl
          exact absurd (clear.symm.trans pending) (by simp)
      | refuse run valid clear refused => exact ih run open''
      | @close _ _ other calls _ run closed =>
          rw [List.cons_append, pendingHandler_closed, ih run open'']
          rintro rfl
          exact open' calls List.mem_cons_self

/-- What the file descriptor table of a context keeps. -/
structure TagTableKept (history : List TagEvent) (s : TagTable) : Prop where
  held
    : ∀ tag registration,
        liveRegistration history tag = some registration →
          ∃ (idx : Nat) (slot : FdSlot), s.tags tag = some (idx : Int) ∧ s.fdt[idx]? = some slot
            ∧ registration.HeldBy s slot
  apart : ∀ tag other idx, s.tags tag = some idx → s.tags other = some idx → tag = other
  add
    : (liveTags history).length < 2 ^ 31 →
        ∀ fd dir fnc fncData alloc,
          AddKeepsSlots history s (s.addIoCb fd dir fnc fncData alloc)
  remove
    : ∀ tag, (liveRegistration history tag).isSome →
        ∃ (idx : Nat) (s' : TagTable), s.tags tag = some (idx : Int)
          ∧ s.removeIoCb tag = some s'
          ∧ ∀ i, i ≠ idx → s'.fdt[i]? = s.fdt[i]?

/-- Handlers are called at the first close of their descriptor after the registration, with their
own value, and at no other time.
-/
structure HandlersCalledOnce (history : List NotifyEvent) : Prop where
  first
    : ∀ later fd (calls : List CloseCall) between handler value earlier,
        history = later ++ .closed fd calls :: between ++ .registered fd handler value :: earlier →
          (∀ calls', .closed fd calls' ∉ between) → calls = [{ handler, fd, value }]
  only
    : ∀ later fd (calls : List CloseCall) earlier call,
        history = later ++ .closed fd calls :: earlier → call ∈ calls →
          ∃ between before, earlier = between ++ .registered fd call.handler call.value :: before
            ∧ (∀ calls', .closed fd calls' ∉ between)
            ∧ calls = [{ handler := call.handler, fd, value := call.value }]

/-- Registrations keep their slots in the table of a context, and their handlers in the table of
close notifications, through every sequence of calls and every failure of an allocation, as long as
an `int` counts to the slots.
-/
theorem tables_keep_registrations {tags : List TagEvent} {s : TagTable} (tagRun : TagRun tags s)
    (fewTags : FewTags tags) (run : NotifyRun history table) (few : FewHandlers history)
    : TagTableKept tags s ∧ table.length < 2 ^ 31 ∧ HandlersCalledOnce history := by
  refine ⟨?_, run.length_lt few, ?_⟩
  · have sound := tagRun.sound fewTags
    exact ⟨fun _ _ => sound.heldBy, fun _ _ _ => sound.apart, sound.addKeepsSlots,
      fun _ => sound.removeKeepsSlots⟩
  · clear few
    constructor
    · rintro later fd calls between handler value earlier rfl open'
      rw [List.append_assoc, List.cons_append] at run
      obtain ⟨table', run⟩ := run.earlier
      rw [run.calls]
      cases run with
      | close run _ => rw [run.pending open']; rfl
    · rintro later fd calls earlier call rfl member
      obtain ⟨table', run⟩ := run.earlier
      have called := run.calls
      cases pending : pendingHandler earlier fd with
      | none =>
          rw [pending] at called
          rw [called] at member
          exact absurd member List.not_mem_nil
      | some registered =>
          obtain ⟨handler, value⟩ := registered
          rw [pending] at called
          rw [called] at member
          obtain rfl := List.mem_singleton.mp member
          obtain ⟨between, before, whole, open'⟩ := registered_of_pending pending
          exact ⟨between, before, whole, open', called⟩

/-- A registration for reading. -/
def reading (fd : Int) : Registration := ⟨fd, 1, 7, 8⟩

/-- Two registrations and the removal of the first one. -/
def removedFirst : TagTable :=
  ((({} : TagTable).adding (reading 5)).adding (reading 6)).removeIoCb 0 |>.getD {}

/-- Ten more registrations: the first one uses the free slot again, and for the last one the table
grows.
-/
def grownTable : TagTable := (List.range 10).foldl (fun s _ => s.adding (reading 9)) removedFirst

def grownHistory : List TagEvent :=
  (List.range 10).foldl (fun history i => .added (4 + 2 * i) (reading 9) :: history)
    [.removed 0, .added 2 (reading 6), .added 0 (reading 5)]

/-- The second tag and those that were added last have their own slots. A handler whose slot another
one has left is called once.
-/
theorem short_runs_keep_registrations
    : (grownTable.fdt.length = 20
        ∧ grownTable.tags 2 = some 1
        ∧ grownTable.tags 4 = some 0
        ∧ grownTable.tags 22 = some 10
        ∧ TagTableKept grownHistory grownTable)
      ∧ ∃ table,
          NotifyRun
              [.closed 7 [⟨3, 7, 4⟩], .registered 7 3 4, .closed 5 [⟨7, 5, 8⟩], .registered 6 1 2,
                .registered 5 7 8]
              table
          ∧ HandlersCalledOnce
              [.closed 7 [⟨3, 7, 4⟩], .registered 7 3 4, .closed 5 [⟨7, 5, 8⟩], .registered 6 1 2,
                .registered 5 7 8] := by
  have valid {fd : Int} (nonneg : 0 ≤ fd) : 0 ≤ (reading fd).fd := nonneg
  have nine : 0 ≤ (reading 9).fd := by decide
  have removed : TagRun [.removed 0, .added 2 (reading 6), .added 0 (reading 5)] removedFirst :=
    .remove ((TagRun.start.adds (valid (by decide))).adds (valid (by decide))) rfl rfl
  have grown : TagRun grownHistory grownTable :=
    removed.adds nine |>.adds nine |>.adds nine |>.adds nine |>.adds nine |>.adds nine
      |>.adds nine |>.adds nine |>.adds nine |>.adds nine
  have fewTags : FewTags grownHistory := by
    simp [grownHistory, List.range_succ, FewTags, liveTags]
  have first : NotifyRun [.closed 5 [⟨7, 5, 8⟩], .registered 6 1 2, .registered 5 7 8] _ :=
    .close (.register (.register .start (by decide) rfl
      (rfl : setCloseNotify [] 5 7 8 true = (0, _))) (by decide) rfl
      (rfl : setCloseNotify _ 6 1 2 false = (0, _))) rfl
  have second
      : NotifyRun
          [.closed 7 [⟨3, 7, 4⟩], .registered 7 3 4, .closed 5 [⟨7, 5, 8⟩], .registered 6 1 2,
            .registered 5 7 8]
          _ :=
    .close (.register first (by decide) rfl (rfl : setCloseNotify _ 7 3 4 false = (0, _))) rfl
  have fewHandlers
      : FewHandlers
          [.closed 7 [⟨3, 7, 4⟩], .registered 7 3 4, .closed 5 [⟨7, 5, 8⟩], .registered 6 1 2,
            .registered 5 7 8] := by
    simp [FewHandlers, pendingFds]
  have places
      : grownTable.fdt.length = 20
        ∧ grownTable.tags 2 = some 1
        ∧ grownTable.tags 4 = some 0
        ∧ grownTable.tags 22 = some 10 := by
    decide +kernel
  obtain ⟨length, two, four, last⟩ := places
  obtain ⟨kept, -, called⟩ := tables_keep_registrations grown fewTags second fewHandlers
  exact ⟨⟨length, two, four, last, kept⟩, _, second, called⟩

/-- The tag of the registration behind 2^31 others has a negative index, and cannot be removed. -/
theorem many_tags_lose_registration
    : ∃ history s tag registration,
        TagRun history s
        ∧ liveRegistration history tag = some registration
        ∧ s.tags tag = some (-2147483648)
        ∧ s.removeIoCb tag = none
        ∧ ¬TagTableKept history s := by
  obtain ⟨history, s, run, filled, inside⟩ := exists_filled (2 ^ 31)
  have valid : 0 ≤ (reading 5).fd := by decide
  obtain ⟨-, -, index⟩ := TagTable.adding_filled filled inside valid
  have negative : CInt.toInt ((2 ^ 31 : Nat) : Int) = -2147483648 := by decide
  rw [negative] at index
  have stuck : (s.adding (reading 5)).removeIoCb s.nextAlloc = none := by
    simp [TagTable.removeIoCb, index, guard]
  have live
      : liveRegistration (.added s.nextAlloc (reading 5) :: history) s.nextAlloc
        = some (reading 5) := by
    rw [liveRegistration, if_pos rfl]
  refine ⟨_, _, s.nextAlloc, reading 5, run.adds valid, live, index, stuck, fun kept => ?_⟩
  obtain ⟨idx, slot, here, -⟩ := kept.held s.nextAlloc (reading 5) live
  rw [index] at here
  cases here

end Gpgme
