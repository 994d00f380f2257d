import Gpgme.Lib.Machine

/-! The writer thread of `w32-io.c` and `_gpgme_io_write`, which hands it its bytes in a buffer.
A section under the lock is one step of the party that runs it; so is a call of the system.
-/

namespace Gpgme.W32

/-- `WRITEBUF_SIZE`. -/
def writebufSize : Nat := 4096

/-- Where the writer thread stands. -/
inductive WriterPc where
  /-- In front of the lock at the start of the loop. -/
  | top
  /-- Waiting for `have_data`. -/
  | idle
  /-- In front of the lock behind the wait. -/
  | woken
  /-- In front of the call that writes. -/
  | writing
  /-- In front of the lock behind the call, with the number of bytes that it wrote. -/
  | wrote (nwritten : Nat)
  /-- Behind the loop. -/
  | leaving
  /-- Waiting for `close_ev`. -/
  | closing
  | ended
deriving DecidableEq

/-- Where the other party stands. -/
inductive CallerPc where
  | ready
  /-- In `_gpgme_io_write`, waiting for `is_empty`. -/
  | waiting (bytes : List UInt8)
  /-- In `_gpgme_io_write`, in front of the lock behind the wait. -/
  | relocking (bytes : List UInt8)
  /-- In `destroy_writer`, waiting for `is_empty`. -/
  | destroying
  | gone
deriving DecidableEq

/-- `struct writer_context_s` and where the two parties stand. The bytes that successful calls
of `_gpgme_io_write` have accepted and those that the system has got are recorded, and whether
the assertion has failed.
-/
structure Writer where
  refcount : Nat := 1
  stopMe : Bool := false
  error : Bool := false
  errorCode : Nat := 0
  haveData : Bool := false
  isEmpty : Bool := true
  closeEv : Bool := false
  nbytes : Nat := 0
  buffer : List UInt8 := List.replicate writebufSize 0
  thread : WriterPc := .top
  caller : CallerPc := .ready
  accepted : List UInt8 := []
  sent : List UInt8 := []
  assertFailed : Bool := false
deriving DecidableEq

/-- What `WriteFile` or `send` answers. -/
inductive WriteAnswer where
  | wrote (nwritten : Nat)
  /-- `WriteFile` fails with `ERROR_BUSY`. -/
  | busy
  | failed (code : Nat)
deriving DecidableEq

/-- What happens next: the thread goes on, the system answers its call, or the other party
begins or goes on.
-/
inductive WriterEvent where
  | thread
  | answer (answer : WriteAnswer)
  | write (bytes : List UInt8)
  | caller
  | dup
  | destroy
deriving DecidableEq

/-- What a call of `_gpgme_io_write` returns. -/
inductive WriteResult where
  | written (count : Nat)
  | failed (code : Nat)
deriving DecidableEq

-----------------------------------------------------------------------------------------
-- The writer thread
-----------------------------------------------------------------------------------------

/-- The next section of `writer`; a wait ends when its event is set. -/
def Writer.stepThread (ctx : Writer) : Option Writer :=
  match ctx.thread with
  | .top =>
      if ctx.stopMe ∧ ctx.nbytes = 0 then some { ctx with thread := .leaving }
      else if ctx.nbytes = 0 then
        some { ctx with isEmpty := true, haveData := false, thread := .idle }
      else
        some { ctx with thread := .writing }
  | .idle => if ctx.haveData then some { ctx with thread := .woken } else none
  | .woken =>
      if ctx.stopMe ∧ ctx.nbytes = 0 then some { ctx with thread := .leaving }
      else some { ctx with thread := .writing }
  | .writing => none
  | .wrote nwritten => some { ctx with nbytes := ctx.nbytes - nwritten, thread := .top }
  | .leaving => some { ctx with isEmpty := true, thread := .closing }
  | .closing => if ctx.closeEv then some { ctx with thread := .ended } else none
  | .ended => none

/-- The call that writes the first `nbytes` bytes of the buffer. At least one byte is written
when the call succeeds.
-/
def Writer.stepAnswer (ctx : Writer) (answer : WriteAnswer) : Option Writer :=
  match ctx.thread, answer with
  | .writing, .wrote nwritten =>
      if 0 < nwritten ∧ nwritten ≤ ctx.nbytes then
        some { ctx with
          sent := ctx.sent ++ ctx.buffer.take nwritten
          thread := .wrote nwritten }
      else
        none
  | .writing, .busy => some { ctx with thread := .top }
  | .writing, .failed code =>
      some { ctx with errorCode := code, error := true, thread := .leaving }
  | _, _ => none

-----------------------------------------------------------------------------------------
-- The other party
-----------------------------------------------------------------------------------------

/-- The rest of `_gpgme_io_write` under the lock. -/
def Writer.fill (ctx : Writer) (bytes : List UInt8) : Option WriteResult × Writer :=
  if ctx.error then (some (.failed ctx.errorCode), { ctx with caller := .ready })
  else if ctx.nbytes ≠ 0 then (none, { ctx with assertFailed := true, caller := .gone })
  else
    let bytes := bytes.take writebufSize
    (some (.written bytes.length),
      { ctx with
        buffer := bytes ++ ctx.buffer.drop bytes.length
        nbytes := bytes.length
        isEmpty := false
        haveData := true
        accepted := ctx.accepted ++ bytes
        caller := .ready })

/-- `_gpgme_io_write` up to its wait, or up to its end. -/
def Writer.ioWrite (ctx : Writer) (bytes : List UInt8) : Option WriteResult × Writer :=
  if bytes = [] then (some (.written 0), ctx)
  else if ¬ ctx.error ∧ ctx.nbytes ≠ 0 then
    (none, { ctx with isEmpty := false, caller := .waiting bytes })
  else
    ctx.fill bytes

/-- `destroy_writer` up to its wait. -/
def Writer.destroyWriter (ctx : Writer) : Writer :=
  let ctx := { ctx with refcount := ctx.refcount - 1 }
  if ctx.refcount ≠ 0 then ctx
  else { ctx with stopMe := true, haveData := true, caller := .destroying }

/-- One step of either party. -/
def Writer.step (ctx : Writer) : WriterEvent → Option (Option WriteResult × Writer)
  | .thread => ctx.stepThread.map (none, ·)
  | .answer answer => (ctx.stepAnswer answer).map (none, ·)
  | .write bytes => if ctx.caller = .ready then some (ctx.ioWrite bytes) else none
  | .caller =>
      match ctx.caller with
      | .waiting bytes =>
          if ctx.isEmpty then some (none, { ctx with caller := .relocking bytes }) else none
      | .relocking bytes => some (ctx.fill bytes)
      | .destroying =>
          if ctx.isEmpty then some (none, { ctx with closeEv := true, caller := .gone }) else none
      | .ready => none
      | .gone => none
  | .dup =>
      if ctx.caller = .ready then some (none, { ctx with refcount := ctx.refcount + 1 }) else none
  | .destroy => if ctx.caller = .ready then some (none, ctx.destroyWriter) else none

-----------------------------------------------------------------------------------------
-- What a step does
-----------------------------------------------------------------------------------------

/-- The ways in which a step changes the context, with the reason for which it is taken. -/
inductive Writer.Moves (ctx : Writer) : WriterEvent → Writer → Prop
  | stop {event : WriterEvent} (pc : ctx.thread = .top ∨ ctx.thread = .woken)
      (stopped : ctx.stopMe = true ∧ ctx.nbytes = 0) :
      Writer.Moves ctx event { ctx with thread := .leaving }
  | rest {event : WriterEvent} (pc : ctx.thread = .top) (empty : ctx.nbytes = 0) :
      Writer.Moves ctx event { ctx with isEmpty := true, haveData := false, thread := .idle }
  | wake {event : WriterEvent} (pc : ctx.thread = .idle) :
      Writer.Moves ctx event { ctx with thread := .woken }
  | write {event : WriterEvent} (pc : ctx.thread = .top ∨ ctx.thread = .woken) :
      Writer.Moves ctx event { ctx with thread := .writing }
  | count {event : WriterEvent} {nwritten : Nat} (pc : ctx.thread = .wrote nwritten) :
      Writer.Moves ctx event { ctx with nbytes := ctx.nbytes - nwritten, thread := .top }
  | leave {event : WriterEvent} (pc : ctx.thread = .leaving) :
      Writer.Moves ctx event { ctx with isEmpty := true, thread := .closing }
  | close {event : WriterEvent} (pc : ctx.thread = .closing) :
      Writer.Moves ctx event { ctx with thread := .ended }
  | wrote {nwritten : Nat} (pc : ctx.thread = .writing) (positive : 0 < nwritten) :
      Writer.Moves ctx (.answer (.wrote nwritten))
        { ctx with
          sent := ctx.sent ++ ctx.buffer.take nwritten
          thread := .wrote nwritten }
  | busy {event : WriterEvent} (pc : ctx.thread = .writing) :
      Writer.Moves ctx event { ctx with thread := .top }
  | failed {event : WriterEvent} (code : Nat) (pc : ctx.thread = .writing) :
      Writer.Moves ctx event { ctx with errorCode := code, error := true, thread := .leaving }
  | nothing {event : WriterEvent} : Writer.Moves ctx event ctx
  | wait {event : WriterEvent} {bytes : List UInt8} (pc : ctx.caller = .ready) :
      Writer.Moves ctx event { ctx with isEmpty := false, caller := .waiting bytes }
  | emptied {event : WriterEvent} {bytes : List UInt8} (pc : ctx.caller = .waiting bytes)
      (set : ctx.isEmpty = true) :
      Writer.Moves ctx event { ctx with caller := .relocking bytes }
  | refuse {event : WriterEvent} (pc : ctx.caller ≠ .destroying ∧ ctx.caller ≠ .gone) :
      Writer.Moves ctx event { ctx with caller := .ready }
  | assertion {event : WriterEvent} {bytes : List UInt8} (pc : ctx.caller = .relocking bytes)
      (fine : ctx.error = false) (filled : ctx.nbytes ≠ 0) :
      Writer.Moves ctx event { ctx with assertFailed := true, caller := .gone }
  | fill {event : WriterEvent} (bytes : List UInt8)
      (pc : ctx.caller ≠ .destroying ∧ ctx.caller ≠ .gone) (fine : ctx.error = false)
      (empty : ctx.nbytes = 0) :
      Writer.Moves ctx event
        { ctx with
          buffer := bytes ++ ctx.buffer.drop bytes.length
          nbytes := bytes.length
          isEmpty := false
          haveData := true
          accepted := ctx.accepted ++ bytes
          caller := .ready }
  | destroyed {event : WriterEvent} (pc : ctx.caller = .destroying) :
      Writer.Moves ctx event { ctx with closeEv := true, caller := .gone }
  | share {event : WriterEvent} (refcount : Nat) : Writer.Moves ctx event { ctx with refcount }
  | destroy {event : WriterEvent} (refcount : Nat) :
      Writer.Moves ctx event
        { ctx with refcount, stopMe := true, haveData := true, caller := .destroying }

/-- The steps of the thread are moves. -/
theorem Writer.Moves.ofThread {ctx next : Writer} {event : WriterEvent}
    (stepped : ctx.stepThread = some next)
    : ctx.Moves event next := by
  unfold Writer.stepThread at stepped
  split at stepped
  · next pc =>
      split at stepped
      · next stopped =>
          cases stepped
          exact .stop (Or.inl pc) stopped
      split at stepped
      · next empty =>
          cases stepped
          exact .rest pc empty
      · cases stepped
        exact .write (Or.inl pc)
  · next pc =>
      split at stepped
      · cases stepped
        exact .wake pc
      · cases stepped
  · next pc =>
      split at stepped
      · next stopped =>
          cases stepped
          exact .stop (Or.inr pc) stopped
      · cases stepped
        exact .write (Or.inr pc)
  · cases stepped
  · next nwritten pc =>
      cases stepped
      exact .count pc
  · next pc =>
      cases stepped
      exact .leave pc
  · next pc =>
      split at stepped
      · cases stepped
        exact .close pc
      · cases stepped
  · cases stepped

/-- The answers of the system are moves. -/
theorem Writer.Moves.ofAnswer {ctx next : Writer} {answer : WriteAnswer}
    (stepped : ctx.stepAnswer answer = some next)
    : ctx.Moves (.answer answer) next := by
  unfold Writer.stepAnswer at stepped
  split at stepped
  · next pc =>
      split at stepped
      · next inside =>
          cases stepped
          exact .wrote pc inside.1
      · cases stepped
  · next pc =>
      cases stepped
      exact .busy pc
  · next pc =>
      cases stepped
      exact .failed _ pc
  · cases stepped

/-- The rest of `_gpgme_io_write` is refused, fails its assertion or fills the buffer. -/
theorem Writer.Moves.ofFill {ctx : Writer} {event : WriterEvent} {bytes : List UInt8}
    (pc : ctx.caller = .ready ∧ (ctx.nbytes = 0 ∨ ctx.error = true)
      ∨ ctx.caller = .relocking bytes)
    : ctx.Moves event (ctx.fill bytes).2 := by
  have active : ctx.caller ≠ .destroying ∧ ctx.caller ≠ .gone := by
    rcases pc with ⟨pc, _⟩ | pc <;> simp [pc]
  unfold Writer.fill
  split
  · exact .refuse active
  · next fine =>
      have fine : ctx.error = false := by simpa using fine
      split
      · next filled =>
          refine .assertion (pc.resolve_left fun ready => ?_) fine filled
          rcases ready.2 with empty | failed
          · exact filled empty
          · rw [fine] at failed
            cases failed
      · next empty => exact .fill _ active fine (not_not.mp empty)

/-- Every step is one of them. -/
theorem Writer.step_moves {ctx next : Writer} {event : WriterEvent} {result : Option WriteResult}
    (stepped : ctx.step event = some (result, next))
    : ctx.Moves event next := by
  cases event with
  | thread =>
      obtain ⟨after, went, same⟩ := Option.map_eq_some_iff.mp stepped
      cases same
      exact .ofThread went
  | answer answer =>
      obtain ⟨after, went, same⟩ := Option.map_eq_some_iff.mp stepped
      cases same
      exact .ofAnswer went
  | write bytes =>
      simp only [Writer.step] at stepped
      split at stepped
      · next ready =>
          have after : (ctx.ioWrite bytes).2 = next := congrArg Prod.snd (Option.some.inj stepped)
          rw [← after]
          unfold Writer.ioWrite
          split
          · exact .nothing
          split
          · exact .wait ready
          · next free =>
              refine .ofFill (Or.inl ⟨ready, ?_⟩)
              by_contra pending
              rw [not_or] at pending
              exact free ⟨pending.2, pending.1⟩
      · cases stepped
  | caller =>
      simp only [Writer.step] at stepped
      split at stepped
      · next bytes pc =>
          split at stepped
          · next set =>
              cases stepped
              exact .emptied pc set
          · cases stepped
      · next bytes pc =>
          have after : (ctx.fill bytes).2 = next := congrArg Prod.snd (Option.some.inj stepped)
          rw [← after]
          exact .ofFill (Or.inr pc)
      · next pc =>
          split at stepped
          · cases stepped
            exact .destroyed pc
          · cases stepped
      · cases stepped
      · cases stepped
  | dup =>
      simp only [Writer.step] at stepped
      split at stepped
      · cases stepped
        exact .share _
      · cases stepped
  | destroy =>
      simp only [Writer.step] at stepped
      split at stepped
      · cases stepped
        unfold Writer.destroyWriter
        dsimp only
        split
        · exact .share _
        · exact .destroy _
      · cases stepped

-----------------------------------------------------------------------------------------
-- The buffer is empty when it is filled
-----------------------------------------------------------------------------------------

/-- What the two parties agree on. The event `is_empty` is set only when the buffer is empty or
the thread has failed, and the thread is told to stop only when nothing will be written any
more.
-/
structure Writer.Agreed (ctx : Writer) : Prop where
  empty : ctx.isEmpty = true → ctx.nbytes = 0 ∨ ctx.error = true
  relocking : ∀ bytes, ctx.caller = .relocking bytes → ctx.nbytes = 0 ∨ ctx.error = true
  stopped : ctx.stopMe = true → ctx.caller = .destroying ∨ ctx.caller = .gone
  left
    : ctx.thread = .leaving ∨ ctx.thread = .closing ∨ ctx.thread = .ended
      → (ctx.nbytes = 0 ∧ ctx.stopMe = true) ∨ ctx.error = true
  asserted : ctx.assertFailed = false

/-- Only a party that writes no more has told the thread to stop. -/
theorem Writer.Agreed.running {ctx : Writer} (agreed : ctx.Agreed)
    (writes : ctx.caller ≠ .destroying ∧ ctx.caller ≠ .gone)
    : ctx.stopMe = false := by
  cases stop : ctx.stopMe with
  | false => rfl
  | true =>
      rcases agreed.stopped stop with destroying | gone
      · exact absurd destroying writes.1
      · exact absurd gone writes.2

/-- A step keeps what the two parties agree on. -/
theorem Writer.Agreed.moves {ctx next : Writer} {event : WriterEvent} (agreed : ctx.Agreed)
    (moved : ctx.Moves event next)
    : next.Agreed := by
  cases moved with
  | stop pc stopped => exact { agreed with left := fun _ => Or.inl stopped.symm }
  | rest pc empty => exact { agreed with empty := fun _ => Or.inl empty, left := by simp }
  | wake pc => exact { agreed with left := by simp }
  | write pc => exact { agreed with left := by simp }
  | @count _ nwritten pc =>
      have drained (before : ctx.nbytes = 0 ∨ ctx.error = true)
          : ctx.nbytes - nwritten = 0 ∨ ctx.error = true :=
        before.imp_left fun none => by omega
      exact { agreed with
        empty := fun set => drained (agreed.empty set)
        relocking := fun bytes waits => drained (agreed.relocking bytes waits)
        left := by simp }
  | leave pc =>
      have left := agreed.left (Or.inl pc)
      exact { agreed with empty := fun _ => left.imp_left And.left, left := fun _ => left }
  | close pc =>
      have left := agreed.left (Or.inr (Or.inl pc))
      exact { agreed with left := fun _ => left }
  | wrote pc positive => exact { agreed with left := by simp }
  | busy pc => exact { agreed with left := by simp }
  | failed code pc =>
      exact { agreed with
        empty := fun _ => Or.inr rfl
        relocking := fun _ _ => Or.inr rfl
        left := fun _ => Or.inr rfl }
  | nothing => exact agreed
  | wait pc =>
      have running := agreed.running (by simp [pc])
      exact { agreed with empty := by simp, relocking := by simp, stopped := by simp [running] }
  | emptied pc set =>
      have running := agreed.running (by simp [pc])
      exact { agreed with
        relocking := fun _ _ => agreed.empty set
        stopped := by simp [running] }
  | refuse pc =>
      exact { agreed with relocking := by simp, stopped := by simp [agreed.running pc] }
  | assertion pc fine filled =>
      rcases agreed.relocking _ pc with empty | failed
      · exact absurd empty filled
      · rw [fine] at failed
        cases failed
  | fill bytes pc fine empty =>
      have running := agreed.running pc
      refine ⟨by simp, by simp, by simp [running], fun left => ?_, agreed.asserted⟩
      rcases agreed.left left with ⟨_, stopped⟩ | failed
      · rw [running] at stopped
        cases stopped
      · exact Or.inr failed
  | destroyed pc => exact { agreed with relocking := by simp, stopped := by simp }
  | share refcount => exact { agreed with }
  | destroy refcount =>
      exact { agreed with
        relocking := by simp
        stopped := by simp
        left := fun left => (agreed.left left).imp_left fun stop => ⟨stop.1, rfl⟩ }

-----------------------------------------------------------------------------------------
-- The bytes that the system gets
-----------------------------------------------------------------------------------------

/-- Every call that writes, writes all bytes of the buffer. -/
def WritesAll (ctx : Writer) (event : WriterEvent) : Prop :=
  ∀ nwritten, event = .answer (.wrote nwritten) → nwritten = ctx.nbytes

/-- The system has got all bytes that were accepted, apart from those in the buffer. Behind the
call these are no longer missing.
-/
structure Writer.InOrder (ctx : Writer) : Prop where
  wrote
    : ∀ nwritten,
        ctx.thread = .wrote nwritten
        → 0 < nwritten ∧ nwritten = ctx.nbytes ∧ ctx.accepted = ctx.sent
  waiting
    : (∀ nwritten, ctx.thread ≠ .wrote nwritten)
      → ctx.accepted = ctx.sent ++ ctx.buffer.take ctx.nbytes

/-- What was sent is a prefix of what was accepted. -/
theorem Writer.InOrder.accepted_eq {ctx : Writer} (inOrder : ctx.InOrder)
    : ∃ rest, ctx.accepted = ctx.sent ++ rest := by
  by_cases written : ∃ nwritten, ctx.thread = .wrote nwritten
  · obtain ⟨nwritten, pc⟩ := written
    exact ⟨[], by rw [(inOrder.wrote nwritten pc).2.2, List.append_nil]⟩
  · exact ⟨_, inOrder.waiting (not_exists.mp written)⟩

/-- The thread goes from one place to another that is not behind the call. -/
theorem Writer.InOrder.goes {ctx : Writer} (inOrder : ctx.InOrder)
    (before : ∀ nwritten, ctx.thread ≠ .wrote nwritten) {after : WriterPc}
    (elsewhere : ∀ nwritten, after ≠ .wrote nwritten)
    : Writer.InOrder { ctx with thread := after } :=
  ⟨fun nwritten pc => absurd pc (elsewhere nwritten), fun _ => inOrder.waiting before⟩

/-- A step keeps the order of the bytes, if a call that writes, writes all of them. -/
theorem Writer.InOrder.moves {ctx next : Writer} {event : WriterEvent} (inOrder : ctx.InOrder)
    (all : WritesAll ctx event) (moved : ctx.Moves event next)
    : next.InOrder := by
  cases moved with
  | stop pc stopped =>
      exact inOrder.goes (by rcases pc with pc | pc <;> simp [pc]) (by simp)
  | rest pc empty =>
      have rests : Writer.InOrder { ctx with thread := .idle } :=
        inOrder.goes (by simp [pc]) (by simp)
      exact { rests with }
  | wake pc => exact inOrder.goes (by simp [pc]) (by simp)
  | write pc => exact inOrder.goes (by rcases pc with pc | pc <;> simp [pc]) (by simp)
  | @count _ nwritten pc =>
      obtain ⟨_, written, accepted⟩ := inOrder.wrote nwritten pc
      refine ⟨by simp, fun _ => ?_⟩
      simp [accepted, written]
  | leave pc =>
      have leaves : Writer.InOrder { ctx with thread := .closing } :=
        inOrder.goes (by simp [pc]) (by simp)
      exact { leaves with }
  | close pc => exact inOrder.goes (by simp [pc]) (by simp)
  | @wrote nwritten pc positive =>
      have accepted := inOrder.waiting (by simp [pc])
      refine ⟨?_, fun elsewhere => absurd rfl (elsewhere nwritten)⟩
      rintro _ ⟨⟩
      refine ⟨positive, all nwritten rfl, ?_⟩
      dsimp only
      rw [accepted, all nwritten rfl]
  | busy pc => exact inOrder.goes (by simp [pc]) (by simp)
  | failed code pc =>
      have leaves : Writer.InOrder { ctx with thread := .leaving } :=
        inOrder.goes (by simp [pc]) (by simp)
      exact { leaves with }
  | nothing => exact inOrder
  | wait pc => exact { inOrder with }
  | emptied pc set => exact { inOrder with }
  | refuse pc => exact { inOrder with }
  | assertion pc fine filled => exact { inOrder with }
  | fill bytes pc fine empty =>
      have elsewhere : ∀ nwritten, ctx.thread ≠ .wrote nwritten := by
        intro nwritten pc
        obtain ⟨positive, written, _⟩ := inOrder.wrote nwritten pc
        omega
      have accepted := inOrder.waiting elsewhere
      rw [empty, List.take_zero, List.append_nil] at accepted
      refine ⟨fun nwritten pc => absurd pc (elsewhere nwritten), fun _ => ?_⟩
      dsimp only
      rw [accepted, List.take_left]
  | destroyed pc => exact { inOrder with }
  | share refcount => exact { inOrder with }
  | destroy refcount => exact { inOrder with }

-----------------------------------------------------------------------------------------
-- What the calls accept
-----------------------------------------------------------------------------------------

/-- The bytes with which `_gpgme_io_write` is called. -/
def WriterEvent.call : WriterEvent → Option (List UInt8)
  | .write bytes => some bytes
  | _ => none

/-- Of the bytes with which it was called, those that a call has accepted. -/
def acceptedOf (bytes : List UInt8) : WriteResult → List UInt8
  | .written count => bytes.take count
  | .failed _ => []

/-- The bytes that the calls of a run have accepted, one after the other. The calls return in the
order in which they were made.
-/
def acceptedBytes (events : List WriterEvent) (results : List (Option WriteResult))
    : List UInt8 :=
  (List.zipWith acceptedOf (events.filterMap WriterEvent.call) (results.filterMap id)).flatten

/-- The call that has not returned. -/
def Writer.pending (ctx : Writer) : List (List UInt8) :=
  match ctx.caller with
  | .waiting bytes | .relocking bytes => [bytes]
  | .ready | .destroying | .gone => []

/-- A step goes on with the calls that have not returned, or one of them returns and what it has
accepted is recorded.
-/
def Writer.Accepts (ctx : Writer) (event : WriterEvent) (outcome : Option WriteResult × Writer)
    : Prop :=
  (outcome.1 = none
      ∧ outcome.2.accepted = ctx.accepted
      ∧ outcome.2.pending = ctx.pending ++ event.call.toList)
    ∨ ∃ bytes result,
        outcome.1 = some result
        ∧ ctx.pending ++ event.call.toList = [bytes]
        ∧ outcome.2.pending = []
        ∧ outcome.2.accepted = ctx.accepted ++ acceptedOf bytes result

/-- The rest of `_gpgme_io_write` returns, as its assertion holds. -/
theorem Writer.fill_accepts {ctx : Writer} {event : WriterEvent} {bytes : List UInt8}
    (called : ctx.pending ++ event.call.toList = [bytes])
    (free : ctx.nbytes = 0 ∨ ctx.error = true)
    : ctx.Accepts event (ctx.fill bytes) := by
  unfold Writer.fill
  split
  · exact Or.inr ⟨bytes, _, rfl, called, rfl, by simp [acceptedOf]⟩
  split
  · next fine filled =>
      rcases free with empty | failed
      · exact absurd empty filled
      · exact absurd failed fine
  · refine Or.inr ⟨bytes, _, rfl, called, rfl, ?_⟩
    simp [acceptedOf]

/-- The steps of the thread accept nothing. -/
theorem Writer.stepThread_accepts {ctx next : Writer} (stepped : ctx.stepThread = some next)
    : ctx.Accepts .thread (none, next) := by
  unfold Writer.stepThread at stepped
  left
  grind [Writer.pending, WriterEvent.call]

/-- The answers of the system accept nothing. -/
theorem Writer.stepAnswer_accepts {ctx next : Writer} {answer : WriteAnswer}
    (stepped : ctx.stepAnswer answer = some next)
    : ctx.Accepts (.answer answer) (none, next) := by
  unfold Writer.stepAnswer at stepped
  left
  grind [Writer.pending, WriterEvent.call]

/-- A step records what the call that returns has accepted. -/
theorem Writer.step_accepts {ctx : Writer} {event : WriterEvent}
    {outcome : Option WriteResult × Writer} (agreed : ctx.Agreed)
    (stepped : ctx.step event = some outcome)
    : ctx.Accepts event outcome := by
  cases event with
  | thread =>
      obtain ⟨after, went, same⟩ := Option.map_eq_some_iff.mp stepped
      cases same
      exact Writer.stepThread_accepts went
  | answer answer =>
      obtain ⟨after, went, same⟩ := Option.map_eq_some_iff.mp stepped
      cases same
      exact Writer.stepAnswer_accepts went
  | write bytes =>
      simp only [Writer.step] at stepped
      split at stepped
      · next ready =>
          have called : ctx.pending ++ (WriterEvent.write bytes).call.toList = [bytes] := by
            simp [Writer.pending, ready, WriterEvent.call]
          rw [← Option.some.inj stepped]
          unfold Writer.ioWrite
          split
          · refine Or.inr ⟨bytes, _, rfl, called, by simp [Writer.pending, ready], ?_⟩
            simp [acceptedOf]
          split
          · exact Or.inl ⟨rfl, rfl, called.symm⟩
          · next free =>
              refine Writer.fill_accepts called ?_
              by_contra pending
              rw [not_or] at pending
              exact free ⟨pending.2, pending.1⟩
      · cases stepped
  | caller =>
      simp only [Writer.step] at stepped
      split at stepped
      · next bytes pc =>
          split at stepped
          · cases stepped
            exact Or.inl ⟨rfl, rfl, by simp [Writer.pending, pc, WriterEvent.call]⟩
          · cases stepped
      · next bytes pc =>
          rw [← Option.some.inj stepped]
          exact Writer.fill_accepts (by simp [Writer.pending, pc, WriterEvent.call])
            (agreed.relocking bytes pc)
      · next pc =>
          split at stepped
          · cases stepped
            exact Or.inl ⟨rfl, rfl, by simp [Writer.pending, pc, WriterEvent.call]⟩
          · cases stepped
      · cases stepped
      · cases stepped
  | dup =>
      left
      grind [Writer.step, Writer.pending, WriterEvent.call]
  | destroy =>
      left
      grind [Writer.step, Writer.destroyWriter, Writer.pending, WriterEvent.call]

/-- A run records what its calls have accepted, by induction on the events. -/
theorem Writer.run_accepts {events : List WriterEvent} {results : List (Option WriteResult)}
    {first last : Writer} (agreed : first.Agreed)
    (ran : Machine.run Writer.step first events = some (results, last))
    : last.accepted
      = first.accepted
        ++ (List.zipWith acceptedOf (first.pending ++ events.filterMap WriterEvent.call)
          (results.filterMap id)).flatten := by
  induction events generalizing first results with
  | nil =>
      cases ran
      simp
  | cons event rest ih =>
      obtain ⟨result, next, later, stepped, tail, rfl⟩ := Machine.run_cons_iff.mp ran
      have calls
          : first.pending ++ (event :: rest).filterMap WriterEvent.call
            = (first.pending ++ event.call.toList) ++ rest.filterMap WriterEvent.call := by
        cases called : event.call <;> simp [called]
      rw [ih (agreed.moves (Writer.step_moves stepped)) tail, calls]
      rcases Writer.step_accepts agreed stepped with
        ⟨silent, kept, pending⟩ | ⟨bytes, accepted, returns, called, pending, recorded⟩
      · dsimp only at silent kept pending
        rw [kept, pending, silent]
        rfl
      · dsimp only at returns pending recorded
        rw [recorded, pending, called, returns]
        simp

/-- The events at the start. -/
theorem Writer.agreed_new : ({} : Writer).Agreed :=
  ⟨fun _ => Or.inl rfl, by simp, by simp, by simp, rfl⟩

/-- The order at the start. -/
theorem Writer.inOrder_new : ({} : Writer).InOrder :=
  ⟨by simp, fun _ => by simp⟩

/-- The assertion never fails. When every successful call of the system writes all bytes of the
buffer, the bytes that the system has got are at all times the first of those that the calls have
accepted.
-/
theorem writer_sends_in_order {events : List WriterEvent} {results : List (Option WriteResult)}
    {last : Writer} (ran : Machine.run Writer.step {} events = some (results, last))
    : last.assertFailed = false
      ∧ last.accepted = acceptedBytes events results
      ∧ (Machine.Along Writer.step WritesAll {} events → last.sent <+: last.accepted) := by
  have agreed : last.Agreed :=
    Machine.run_preserves (fun agreed stepped => agreed.moves (Writer.step_moves stepped))
      Writer.agreed_new ran
  refine ⟨agreed.asserted, Writer.run_accepts Writer.agreed_new ran, fun all => ?_⟩
  have inOrder : last.InOrder :=
    Machine.run_invariant
      (fun before here stepped => before.moves here (Writer.step_moves stepped))
      Writer.inOrder_new all ran
  obtain ⟨rest, accepted⟩ := inOrder.accepted_eq
  exact ⟨rest, accepted.symm⟩

/-- Two bytes are handed over while the thread is idle, and the system takes some of them. -/
def handOver (nwritten : Nat) : List WriterEvent :=
  [.thread, .write [97, 98], .thread, .thread, .answer (.wrote nwritten)]

/-- The system takes both bytes at once. -/
theorem writer_sends_in_order_both
    : ∃ results last,
        Machine.run Writer.step {} (handOver 2) = some (results, last)
        ∧ last.sent = [97, 98]
        ∧ last.sent <+: last.accepted := by
  have all : Machine.Along Writer.step WritesAll {} (handOver 2) := by
    unfold handOver
    refine ⟨nofun, ?_⟩
    rintro _ _ ⟨⟩
    refine ⟨nofun, ?_⟩
    rintro _ _ ⟨⟩
    refine ⟨nofun, ?_⟩
    rintro _ _ ⟨⟩
    refine ⟨nofun, ?_⟩
    rintro _ _ ⟨⟩
    refine ⟨?_, fun _ _ _ => trivial⟩
    rintro nwritten ⟨⟩
    rfl
  obtain ⟨⟨results, last⟩, ran⟩ :
      ∃ ended, Machine.run Writer.step {} (handOver 2) = some ended := ⟨_, rfl⟩
  have both : last.sent = [97, 98] := by
    cases ran
    rfl
  exact ⟨results, last, ran, both, (writer_sends_in_order ran).2.2 all⟩

/-- The system takes one byte after the other, and gets the first one twice. -/
theorem writer_repeats_byte
    : ∃ results last,
        Machine.run Writer.step {} (handOver 1 ++ [.thread, .thread, .answer (.wrote 1)])
          = some (results, last)
        ∧ last.accepted = [97, 98]
        ∧ last.sent = [97, 97]
        ∧ ¬ last.sent <+: last.accepted := by
  refine ⟨_, _, rfl, rfl, rfl, ?_⟩
  decide

end Gpgme.W32
