import Gpgme.Lib.Machine
import Gpgme.Lib.Ring

/-! The reader thread of `w32-io.c` and `_gpgme_io_read`, which takes the bytes that the thread
has received out of a ring buffer. A section under the lock is one step of the party that runs it;
so is a call of the system.
-/

namespace Gpgme.W32

/-- Where the reader thread stands. -/
inductive ReaderPc where
  /-- In front of the lock at the start of the loop. -/
  | top
  /-- Waiting for `have_space_ev`. -/
  | waiting
  /-- In front of the lock behind the wait. -/
  | gotSpace
  /-- In front of the call that receives at most `nbytes` bytes. -/
  | receiving (nbytes : Nat)
  /-- In front of the lock behind the call. -/
  | received (bytes : List UInt8)
  /-- Behind the loop. -/
  | leaving
  /-- Waiting for `close_ev`. -/
  | closing
  | ended
deriving DecidableEq

/-- The thread is behind the loop. -/
def ReaderPc.left : ReaderPc → Bool
  | .leaving | .closing | .ended => true
  | _ => false

/-- The bytes that have been received and do not count yet. -/
def ReaderPc.arriving : ReaderPc → List UInt8
  | .received bytes => bytes
  | _ => []

/-- Where the other party stands. -/
inductive ReadingPc where
  | ready
  /-- In `_gpgme_io_read`, waiting for `have_data_ev`. -/
  | waiting (count : Nat)
  /-- In `_gpgme_io_read`, in front of the lock behind the wait. -/
  | relocking (count : Nat)
  /-- In `_gpgme_io_read`, behind the lock, with no byte to return. -/
  | atEnd
  /-- In `destroy_reader`, behind the lock. -/
  | destroying
  | gone
deriving DecidableEq

/-- `struct reader_context_s` and where the two parties stand. The bytes that were received and
those that were returned are recorded, the bytes that the thread has thrown away because it was
told to stop, and whether the end of file was received.
-/
structure Reader where
  sock : Bool := false
  refcount : Nat := 1
  stopMe : Bool := false
  eof : Bool := false
  eofShortcut : Bool := false
  error : Bool := false
  errorCode : Nat := 0
  haveData : Bool := false
  haveSpace : Bool := true
  closeEv : Bool := false
  readpos : Nat := 0
  writepos : Nat := 0
  buffer : Nat → UInt8 := fun _ => 0
  thread : ReaderPc := .top
  caller : ReadingPc := .ready
  received : List UInt8 := []
  returned : List UInt8 := []
  lost : List UInt8 := []
  eofReceived : Bool := false

/-- What `ReadFile` or `recv` answers; no bytes are the end of file. -/
inductive ReceiveAnswer where
  | data (bytes : List UInt8)
  | failed (code : Nat)
deriving DecidableEq

/-- What happens next: the thread goes on, the system answers its call, or the other party
begins or goes on.
-/
inductive ReaderEvent where
  | thread
  | answer (answer : ReceiveAnswer)
  | read (count : Nat)
  | caller
  | dup
  | destroy
deriving DecidableEq

/-- What a call of `_gpgme_io_read` returns. -/
inductive ReadResult where
  | data (bytes : List UInt8)
  | zero
  | failed (code : Nat)
deriving DecidableEq

-----------------------------------------------------------------------------------------
-- The reader thread
-----------------------------------------------------------------------------------------

/-- The span behind the write position that does not wrap. -/
def Reader.span (size : Nat) (ctx : Reader) : Nat :=
  let nbytes := (ctx.readpos + size - ctx.writepos - 1) % size
  if size - ctx.writepos < nbytes then size - ctx.writepos else nbytes

/-- Under the lock, in front of the call. -/
def Reader.prepare (size : Nat) (ctx : Reader) : Reader :=
  if ctx.stopMe then { ctx with thread := .leaving }
  else { ctx with thread := .receiving (ctx.span size) }

/-- The next section of `reader`; a wait ends when its event is set, and the event
`have_space_ev` is then reset.
-/
def Reader.stepThread (size : Nat) (ctx : Reader) : Option Reader :=
  match ctx.thread with
  | .top =>
      if (ctx.writepos + 1) % size = ctx.readpos then
        some { ctx with haveSpace := false, thread := .waiting }
      else
        some (ctx.prepare size)
  | .waiting =>
      if ctx.haveSpace then some { ctx with haveSpace := false, thread := .gotSpace } else none
  | .gotSpace => some (ctx.prepare size)
  | .receiving _ => none
  | .received bytes =>
      if ctx.stopMe then some { ctx with lost := bytes, thread := .leaving }
      else if bytes = [] then some { ctx with eof := true, thread := .leaving }
      else
        some { ctx with
          writepos := (ctx.writepos + bytes.length) % size
          haveData := true
          thread := .top }
  | .leaving => some { ctx with haveData := true, thread := .closing }
  | .closing => if ctx.closeEv then some { ctx with thread := .ended } else none
  | .ended => none

/-- `ERROR_BROKEN_PIPE`, which is the end of file; for a handle `ERROR_OPERATION_ABORTED` is so,
too.
-/
def Reader.isEof (ctx : Reader) (code : Nat) : Bool :=
  code = 109 || (!ctx.sock && code = 995)

/-- The call has failed. A connection that was aborted or reset is no error when it was shut down
by `destroy_reader`.
-/
def Reader.receiveFailed (ctx : Reader) (code : Nat) : Reader :=
  if ctx.isEof code then
    { ctx with errorCode := code, eof := true, eofReceived := true, thread := .leaving }
  else if ctx.sock ∧ (code = 10053 ∨ code = 10054) ∧ ctx.stopMe then
    { ctx with errorCode := code, thread := .leaving }
  else
    { ctx with errorCode := code, error := true, thread := .leaving }

/-- The call that receives at most `nbytes` bytes at the write position. -/
def Reader.stepAnswer (ctx : Reader) (answer : ReceiveAnswer) : Option Reader :=
  match ctx.thread, answer with
  | .receiving nbytes, .data bytes =>
      if bytes.length ≤ nbytes then
        some { ctx with
          buffer := Ring.put ctx.buffer ctx.writepos bytes
          received := ctx.received ++ bytes
          eofReceived := ctx.eofReceived || bytes == []
          thread := .received bytes }
      else
        none
  | .receiving _, .failed code => some (ctx.receiveFailed code)
  | _, _ => none

-----------------------------------------------------------------------------------------
-- The other party
-----------------------------------------------------------------------------------------

/-- The number of bytes that can be copied at once. -/
def Reader.available (size : Nat) (ctx : Reader) : Nat :=
  if ctx.readpos < ctx.writepos then ctx.writepos - ctx.readpos else size - ctx.readpos

/-- The rest of `_gpgme_io_read` under the lock. -/
def Reader.take (size : Nat) (ctx : Reader) (count : Nat) : Option ReadResult × Reader :=
  if ctx.readpos = ctx.writepos ∨ ctx.error then (none, { ctx with caller := .atEnd })
  else
    let nread := min (ctx.available size) count
    let bytes := (List.range nread).map (fun i => ctx.buffer (ctx.readpos + i))
    let readpos := (ctx.readpos + nread) % size
    (some (.data bytes),
      { ctx with
        readpos
        haveData := if readpos = ctx.writepos ∧ ¬ ctx.eof then false else ctx.haveData
        haveSpace := true
        returned := ctx.returned ++ bytes
        caller := .ready })

/-- `_gpgme_io_read` up to its wait, or up to its end. -/
def Reader.ioRead (size : Nat) (ctx : Reader) (count : Nat) : Option ReadResult × Reader :=
  if ctx.eofShortcut then (some .zero, ctx)
  else if ctx.readpos = ctx.writepos ∧ ¬ ctx.error then (none, { ctx with caller := .waiting count })
  else ctx.take size count

/-- The end of `_gpgme_io_read` when there is no byte to return. -/
def Reader.finish (ctx : Reader) : Option ReadResult × Reader :=
  let next := { ctx with eofShortcut := true, caller := .ready }
  if ctx.eof then (some .zero, next)
  else if ¬ ctx.error then (some .zero, next)
  else (some (.failed ctx.errorCode), next)

/-- `destroy_reader` under the lock. -/
def Reader.destroyReader (ctx : Reader) : Reader :=
  let ctx := { ctx with refcount := ctx.refcount - 1 }
  if ctx.refcount ≠ 0 then ctx
  else { ctx with stopMe := true, haveSpace := true, caller := .destroying }

/-- One step of either party. -/
def Reader.step (size : Nat) (ctx : Reader) : ReaderEvent → Option (Option ReadResult × Reader)
  | .thread => (ctx.stepThread size).map (none, ·)
  | .answer answer => (ctx.stepAnswer answer).map (none, ·)
  | .read count => if ctx.caller = .ready ∧ 0 < count then some (ctx.ioRead size count) else none
  | .caller =>
      match ctx.caller with
      | .waiting count =>
          if ctx.haveData then some (none, { ctx with caller := .relocking count }) else none
      | .relocking count => some (ctx.take size count)
      | .atEnd => some ctx.finish
      | .destroying => some (none, { ctx with closeEv := true, caller := .gone })
      | .ready => none
      | .gone => none
  | .dup =>
      if ctx.caller = .ready then some (none, { ctx with refcount := ctx.refcount + 1 }) else none
  | .destroy => if ctx.caller = .ready then some (none, ctx.destroyReader) else none

-----------------------------------------------------------------------------------------
-- What a step does
-----------------------------------------------------------------------------------------

/-- The other party is in `_gpgme_io_read`, in front of the wait or behind it. -/
def ReadingPc.Takes (pc : ReadingPc) (count : Nat) : Prop :=
  pc = .ready ∧ 0 < count ∨ pc = .relocking count

/-- The ways in which a step changes the context, with the reason for which it is taken. -/
inductive Reader.Moves (size : Nat) (ctx : Reader) : Option ReadResult × Reader → Prop
  | full (pc : ctx.thread = .top) :
      Reader.Moves size ctx (none, { ctx with haveSpace := false, thread := .waiting })
  | space (pc : ctx.thread = .waiting) (set : ctx.haveSpace = true) :
      Reader.Moves size ctx (none, { ctx with haveSpace := false, thread := .gotSpace })
  | stop (stopped : ctx.stopMe = true) (pc : ctx.thread = .top ∨ ctx.thread = .gotSpace) :
      Reader.Moves size ctx (none, { ctx with thread := .leaving })
  | prepare (running : ctx.stopMe = false) (pc : ctx.thread = .top ∨ ctx.thread = .gotSpace)
      (room : (ctx.writepos + 1) % size ≠ ctx.readpos ∨ ctx.thread = .gotSpace) :
      Reader.Moves size ctx (none, { ctx with thread := .receiving (ctx.span size) })
  | discard {bytes : List UInt8} (pc : ctx.thread = .received bytes)
      (stopped : ctx.stopMe = true) :
      Reader.Moves size ctx (none, { ctx with lost := bytes, thread := .leaving })
  | eof (pc : ctx.thread = .received []) :
      Reader.Moves size ctx (none, { ctx with eof := true, thread := .leaving })
  | advance {bytes : List UInt8} (pc : ctx.thread = .received bytes) (filled : bytes ≠ []) :
      Reader.Moves size ctx
        (none, { ctx with
          writepos := (ctx.writepos + bytes.length) % size
          haveData := true
          thread := .top })
  | leave (pc : ctx.thread = .leaving) :
      Reader.Moves size ctx (none, { ctx with haveData := true, thread := .closing })
  | close (pc : ctx.thread = .closing) :
      Reader.Moves size ctx (none, { ctx with thread := .ended })
  | receive {nbytes : Nat} {bytes : List UInt8} (pc : ctx.thread = .receiving nbytes)
      (fits : bytes.length ≤ nbytes) :
      Reader.Moves size ctx
        (none, { ctx with
          buffer := Ring.put ctx.buffer ctx.writepos bytes
          received := ctx.received ++ bytes
          eofReceived := ctx.eofReceived || bytes == []
          thread := .received bytes })
  | broken {nbytes : Nat} (code : Nat) (pc : ctx.thread = .receiving nbytes) :
      Reader.Moves size ctx
        (none, { ctx with errorCode := code, eof := true, eofReceived := true, thread := .leaving })
  | shutDown {nbytes : Nat} (code : Nat) (pc : ctx.thread = .receiving nbytes)
      (stopped : ctx.stopMe = true) :
      Reader.Moves size ctx (none, { ctx with errorCode := code, thread := .leaving })
  | error {nbytes : Nat} (code : Nat) (pc : ctx.thread = .receiving nbytes) :
      Reader.Moves size ctx
        (none, { ctx with errorCode := code, error := true, thread := .leaving })
  | shortcut (pc : ctx.caller = .ready) (set : ctx.eofShortcut = true) :
      Reader.Moves size ctx (some .zero, ctx)
  | wait {count : Nat} (pc : ctx.caller = .ready) (positive : 0 < count) :
      Reader.Moves size ctx (none, { ctx with caller := .waiting count })
  | announced {count : Nat} (pc : ctx.caller = .waiting count) (set : ctx.haveData = true) :
      Reader.Moves size ctx (none, { ctx with caller := .relocking count })
  | noData (pc : ctx.caller = .ready ∧ ctx.error = true ∨ ∃ count, ctx.caller = .relocking count)
      (empty : ctx.readpos = ctx.writepos ∨ ctx.error = true) :
      Reader.Moves size ctx (none, { ctx with caller := .atEnd })
  | copy {count : Nat} (pc : ctx.caller.Takes count) (filled : ctx.readpos ≠ ctx.writepos)
      (fine : ctx.error = false) :
      Reader.Moves size ctx (ctx.take size count)
  | finish (pc : ctx.caller = .atEnd) :
      Reader.Moves size ctx (ctx.finish.1, { ctx with eofShortcut := true, caller := .ready })
  | destroyed (pc : ctx.caller = .destroying) :
      Reader.Moves size ctx (none, { ctx with closeEv := true, caller := .gone })
  | count (refcount : Nat) : Reader.Moves size ctx (none, { ctx with refcount })
  | destroy (refcount : Nat) :
      Reader.Moves size ctx
        (none, { ctx with refcount, stopMe := true, haveSpace := true, caller := .destroying })

/-- The step that looks for free space. -/
theorem Reader.Moves.ofPrepare {size : Nat} {ctx : Reader}
    (pc : ctx.thread = .top ∨ ctx.thread = .gotSpace)
    (room : (ctx.writepos + 1) % size ≠ ctx.readpos ∨ ctx.thread = .gotSpace)
    : ctx.Moves size (none, ctx.prepare size) := by
  unfold Reader.prepare
  split
  · next stopped => exact .stop stopped pc
  · next running => exact .prepare (by simpa using running) pc room

/-- The other steps of the thread. -/
theorem Reader.Moves.ofThread {size : Nat} {ctx next : Reader}
    (stepped : ctx.stepThread size = some next)
    : ctx.Moves size (none, next) := by
  unfold Reader.stepThread at stepped
  split at stepped
  · next pc =>
      split at stepped
      · cases stepped
        exact .full pc
      · next room =>
          cases stepped
          exact .ofPrepare (Or.inl pc) (Or.inl room)
  · next pc =>
      split at stepped
      · next set =>
          cases stepped
          exact .space pc set
      · cases stepped
  · next pc =>
      cases stepped
      exact .ofPrepare (Or.inr pc) (Or.inr pc)
  · cases stepped
  · next bytes pc =>
      split at stepped
      · next stopped =>
          cases stepped
          exact .discard pc stopped
      split at stepped
      · next none =>
          cases stepped
          rw [none] at pc
          exact .eof pc
      · next some =>
          cases stepped
          exact .advance pc some
  · next pc =>
      cases stepped
      exact .leave pc
  · next pc =>
      split at stepped
      · cases stepped
        exact .close pc
      · cases stepped
  · cases stepped

/-- An answer of the system. -/
theorem Reader.Moves.ofAnswer {size : Nat} {ctx next : Reader} {answer : ReceiveAnswer}
    (stepped : ctx.stepAnswer answer = some next)
    : ctx.Moves size (none, next) := by
  unfold Reader.stepAnswer at stepped
  split at stepped
  · next nbytes bytes pc =>
      split at stepped
      · next fits =>
          cases stepped
          exact .receive pc fits
      · cases stepped
  · next nbytes code pc =>
      cases stepped
      unfold Reader.receiveFailed
      split
      · exact .broken code pc
      split
      · next stopped => exact .shutDown code pc stopped.2.2
      · exact .error code pc
  · cases stepped

/-- The rest of `_gpgme_io_read` either copies bytes or goes to its end. -/
theorem Reader.Moves.ofTake {size : Nat} {ctx : Reader} {count : Nat}
    (pc : ctx.caller.Takes count)
    (filled : ctx.caller = .ready → ctx.readpos = ctx.writepos → ctx.error = true)
    : ctx.Moves size (ctx.take size count) := by
  by_cases empty : ctx.readpos = ctx.writepos ∨ ctx.error = true
  · have taken : ctx.take size count = (none, { ctx with caller := .atEnd }) := if_pos empty
    rw [taken]
    refine .noData ?_ empty
    rcases pc with ⟨ready, _⟩ | relocks
    · exact Or.inl ⟨ready, empty.elim (filled ready) id⟩
    · exact Or.inr ⟨count, relocks⟩
  · rw [not_or] at empty
    exact .copy pc empty.1 (by simpa using empty.2)

/-- Every step is one of them. -/
theorem Reader.step_moves {size : Nat} {ctx : Reader} {event : ReaderEvent}
    {outcome : Option ReadResult × Reader}
    (stepped : ctx.step size event = some outcome)
    : ctx.Moves size outcome := by
  cases event with
  | thread =>
      obtain ⟨after, went, same⟩ := Option.map_eq_some_iff.mp stepped
      cases same
      exact .ofThread went
  | answer answer =>
      obtain ⟨after, went, same⟩ := Option.map_eq_some_iff.mp stepped
      cases same
      exact .ofAnswer went
  | read count =>
      simp only [Reader.step] at stepped
      split at stepped
      · next ready =>
          rw [← Option.some.inj stepped]
          unfold Reader.ioRead
          split
          · next set => exact .shortcut ready.1 set
          split
          · exact .wait ready.1 ready.2
          · next filled =>
              refine .ofTake (Or.inl ready) fun _ empty => ?_
              by_contra fine
              exact filled ⟨empty, fine⟩
      · cases stepped
  | caller =>
      simp only [Reader.step] at stepped
      split at stepped
      · next count pc =>
          split at stepped
          · next set =>
              cases stepped
              exact .announced pc set
          · cases stepped
      · next count pc =>
          rw [← Option.some.inj stepped]
          exact .ofTake (Or.inr pc) fun ready => by simp [pc] at ready
      · next pc =>
          have finished
              : ctx.finish
                = (ctx.finish.1, { ctx with eofShortcut := true, caller := .ready }) := by
            unfold Reader.finish
            split
            · rfl
            split <;> rfl
          rw [← Option.some.inj stepped, finished]
          exact .finish pc
      · next pc =>
          cases stepped
          exact .destroyed pc
      · cases stepped
      · cases stepped
  | dup =>
      simp only [Reader.step] at stepped
      split at stepped
      · cases stepped
        exact .count _
      · cases stepped
  | destroy =>
      simp only [Reader.step] at stepped
      split at stepped
      · cases stepped
        unfold Reader.destroyReader
        dsimp only
        split
        · exact .count _
        · exact .destroy _
      · cases stepped

-----------------------------------------------------------------------------------------
-- What the calls return and the system answers
-----------------------------------------------------------------------------------------

/-- The bytes that a call of `_gpgme_io_read` returns. -/
def ReadResult.bytes : ReadResult → List UInt8
  | .data bytes => bytes
  | .zero => []
  | .failed _ => []

/-- The bytes that the calls of a run have returned, one after the other. -/
def returnedBytes (results : List (Option ReadResult)) : List UInt8 :=
  results.flatMap fun result => result.elim [] ReadResult.bytes

/-- The bytes that the system hands over. -/
def ReaderEvent.bytes : ReaderEvent → List UInt8
  | .answer (.data bytes) => bytes
  | _ => []

/-- The bytes that the system has handed over in a run, one after the other. -/
def receivedBytes (events : List ReaderEvent) : List UInt8 := events.flatMap ReaderEvent.bytes

/-- The system answers that the end of file is reached. -/
def ReaderEvent.endsFile (sock : Bool) : ReaderEvent → Bool
  | .answer (.data bytes) => bytes == []
  | .answer (.failed code) => Reader.isEof { sock } code
  | _ => false

/-- What the context records of the answers. -/
def Reader.arrivals (ctx : Reader) : Bool × List UInt8 × Bool :=
  (ctx.sock, ctx.received, ctx.eofReceived)

/-- What an event adds to the record. -/
def ReaderEvent.note (arrivals : Bool × List UInt8 × Bool) (event : ReaderEvent)
    : Bool × List UInt8 × Bool :=
  (arrivals.1, arrivals.2.1 ++ event.bytes, arrivals.2.2 || event.endsFile arrivals.1)

/-- The steps of the thread receive nothing. -/
theorem Reader.stepThread_arrivals {size : Nat} {ctx next : Reader}
    (stepped : ctx.stepThread size = some next)
    : next.arrivals = ctx.arrivals := by
  have prepared : (ctx.prepare size).arrivals = ctx.arrivals := by
    unfold Reader.prepare
    split <;> rfl
  unfold Reader.stepThread at stepped
  grind [Reader.arrivals]

/-- An answer is noted in what has arrived. -/
theorem Reader.stepAnswer_arrivals {ctx next : Reader} {answer : ReceiveAnswer}
    (stepped : ctx.stepAnswer answer = some next)
    : next.arrivals = (ReaderEvent.answer answer).note ctx.arrivals := by
  unfold Reader.stepAnswer at stepped
  split at stepped
  · split at stepped
    · cases stepped
      rfl
    · cases stepped
  · next nbytes code pc =>
      cases stepped
      have same : Reader.isEof { sock := ctx.sock } code = ctx.isEof code := rfl
      unfold Reader.receiveFailed
      split
      · next ends =>
          simp [Reader.arrivals, ReaderEvent.note, ReaderEvent.bytes, ReaderEvent.endsFile, same,
            ends]
      · next goesOn =>
          split <;>
            simp [Reader.arrivals, ReaderEvent.note, ReaderEvent.bytes, ReaderEvent.endsFile, same,
              goesOn]
  · cases stepped

/-- Taking bytes receives nothing. -/
theorem Reader.take_arrivals (size : Nat) (ctx : Reader) (count : Nat)
    : (ctx.take size count).2.arrivals = ctx.arrivals := by
  unfold Reader.take
  split <;> rfl

/-- A step records what the system answers. -/
theorem Reader.step_arrivals {size : Nat} {ctx next : Reader} {event : ReaderEvent}
    {result : Option ReadResult} (stepped : ctx.step size event = some (result, next))
    : next.arrivals = event.note ctx.arrivals := by
  have unrecorded (silent : event.bytes = [] ∧ event.endsFile ctx.sock = false)
      (same : next.arrivals = ctx.arrivals)
      : next.arrivals = event.note ctx.arrivals := by
    rw [same]
    simp [ReaderEvent.note, Reader.arrivals, silent]
  cases event with
  | thread =>
      obtain ⟨after, went, same⟩ := Option.map_eq_some_iff.mp stepped
      cases same
      exact unrecorded ⟨rfl, rfl⟩ (Reader.stepThread_arrivals went)
  | answer answer =>
      obtain ⟨after, went, same⟩ := Option.map_eq_some_iff.mp stepped
      cases same
      exact Reader.stepAnswer_arrivals went
  | read count =>
      refine unrecorded ⟨rfl, rfl⟩ ?_
      have reads : (ctx.ioRead size count).2.arrivals = ctx.arrivals := by
        unfold Reader.ioRead
        split
        · rfl
        split
        · rfl
        · exact ctx.take_arrivals size count
      grind [Reader.step]
  | caller =>
      refine unrecorded ⟨rfl, rfl⟩ ?_
      have finished : ctx.finish.2.arrivals = ctx.arrivals := by
        unfold Reader.finish
        split
        · rfl
        split <;> rfl
      grind [Reader.step, Reader.arrivals, Reader.take_arrivals]
  | dup =>
      refine unrecorded ⟨rfl, rfl⟩ ?_
      grind [Reader.step, Reader.arrivals]
  | destroy =>
      refine unrecorded ⟨rfl, rfl⟩ ?_
      grind [Reader.step, Reader.destroyReader, Reader.arrivals]

/-- A step records what its call returns. -/
theorem Reader.Moves.returned {size : Nat} {ctx : Reader} {outcome : Option ReadResult × Reader}
    (moved : ctx.Moves size outcome)
    : outcome.2.returned = ctx.returned ++ outcome.1.elim [] ReadResult.bytes := by
  cases moved with
  | copy pc filled fine =>
      unfold Reader.take
      simp [filled, fine, ReadResult.bytes]
  | finish pc =>
      unfold Reader.finish
      split
      · simp [ReadResult.bytes]
      split <;> simp [ReadResult.bytes]
  | _ => simp [ReadResult.bytes]

/-- In every run the record holds what the system has answered and what the calls have returned. -/
theorem Reader.run_records {size : Nat} {first last : Reader} {events : List ReaderEvent}
    {results : List (Option ReadResult)}
    (ran : Machine.run (Reader.step size) first events = some (results, last))
    : last.returned = first.returned ++ returnedBytes results
      ∧ last.arrivals = events.foldl ReaderEvent.note first.arrivals :=
  ⟨Machine.run_collects (fun stepped => (Reader.step_moves stepped).returned) ran,
    Machine.run_view Reader.step_arrivals ran⟩

/-- The record of the answers, by induction on the events. -/
theorem ReaderEvent.foldl_note (sock : Bool) (received : List UInt8) (ended : Bool)
    (events : List ReaderEvent)
    : events.foldl ReaderEvent.note (sock, received, ended)
      = (sock, received ++ receivedBytes events, ended || events.any (·.endsFile sock)) := by
  induction events generalizing received ended with
  | nil => simp [receivedBytes]
  | cons event rest ih =>
      rw [List.foldl_cons, ReaderEvent.note, ih]
      simp [receivedBytes, Bool.or_assoc]

-----------------------------------------------------------------------------------------
-- What holds in every state
-----------------------------------------------------------------------------------------

/-- The number of bytes that have not been read. -/
def Reader.used (size : Nat) (ctx : Reader) : Nat := Ring.used size ctx.readpos ctx.writepos

/-- The bytes that have not been read. -/
def Reader.unread (size : Nat) (ctx : Reader) : List UInt8 :=
  Ring.contents size ctx.buffer ctx.readpos (ctx.used size)

/-- The ring: the bytes that were received are those that were returned, those in the ring and
those that are arriving, and there is room for what the thread receives.
-/
structure Reader.Flows (size : Nat) (ctx : Reader) : Prop where
  read : ctx.readpos < size
  write : ctx.writepos < size
  flow : ctx.received = ctx.returned ++ ctx.unread size ++ ctx.thread.arriving ++ ctx.lost
  lost : ctx.lost = [] ∨ (ctx.stopMe = true ∧ ctx.thread.left = true)
  room
    : ∀ nbytes,
        ctx.thread = .receiving nbytes
        → 0 < nbytes ∧ ctx.writepos + nbytes ≤ size ∧ ctx.used size + nbytes < size
  arrived
    : ∀ bytes,
        ctx.thread = .received bytes
        → ctx.writepos + bytes.length ≤ size
          ∧ ctx.used size + bytes.length < size
          ∧ Ring.contents size ctx.buffer ctx.writepos bytes.length = bytes
  space
    : (ctx.thread = .waiting ∧ ctx.haveSpace = true) ∨ ctx.thread = .gotSpace
      → ctx.used size + 1 < size ∨ ctx.stopMe = true
  pending
    : ∀ count, ctx.caller = .waiting count ∨ ctx.caller = .relocking count → 0 < count

/-- The events: data is announced when there is some, at the end of file and after an error, and
the end is reached only there.
-/
structure Reader.Announces (size : Nat) (ctx : Reader) : Prop where
  data
    : ctx.haveData = true
      → ctx.used size ≠ 0 ∨ ctx.eof = true ∨ ctx.error = true ∨ ctx.stopMe = true
  relocking
    : ∀ count,
        ctx.caller = .relocking count
        → ctx.used size ≠ 0 ∨ ctx.eof = true ∨ ctx.error = true
  atEnd : ctx.caller = .atEnd → ctx.error = true ∨ (ctx.eof = true ∧ ctx.used size = 0)
  shortcut : ctx.eofShortcut = true → ctx.error = true ∨ (ctx.eof = true ∧ ctx.used size = 0)
  finished : ctx.eof = true ∨ ctx.error = true → ctx.thread.left = true
  left : ctx.thread.left = true → ctx.eof = true ∨ ctx.error = true ∨ ctx.stopMe = true
  eof : ctx.eof = true → ctx.eofReceived = true
  ending : ctx.thread = .received [] → ctx.eofReceived = true
  stopped : ctx.stopMe = true → ctx.caller = .destroying ∨ ctx.caller = .gone

section Moves

variable {size : Nat} {ctx : Reader} {outcome : Option ReadResult × Reader}

/-- While nothing arrives the bytes received are returned, unread or lost. -/
theorem Reader.Flows.quiet (inv : ctx.Flows size) (pc : ctx.thread.arriving = [])
    : ctx.received = ctx.returned ++ ctx.unread size ++ [] ++ ctx.lost := by
  have flow := inv.flow
  rwa [pc] at flow

/-- Before the thread leaves nothing is lost. -/
theorem Reader.Flows.notLost (inv : ctx.Flows size) (pc : ctx.thread.left = false)
    : ctx.lost = [] := by
  refine inv.lost.resolve_right fun left => ?_
  simp [pc] at left

/-- The thread may leave whenever no bytes are arriving. -/
theorem Reader.Flows.leaves (inv : ctx.Flows size) (pc : ctx.thread.arriving = [])
    {after : ReaderPc} (left : after.left = true)
    : Reader.Flows size { ctx with thread := after } := by
  refine ⟨inv.read, inv.write, ?_, inv.lost.imp_right fun lost => ⟨lost.1, left⟩, ?_, ?_, ?_,
    inv.pending⟩
  · have quiet : after.arriving = [] := by
      cases after with
      | received bytes => cases left
      | _ => rfl
    change _ = ctx.returned ++ ctx.unread size ++ after.arriving ++ ctx.lost
    rw [quiet]
    exact inv.quiet pc
  · rintro nbytes rfl
    cases left
  · rintro bytes rfl
    cases left
  · rintro (⟨rfl, _⟩ | rfl)
    · cases left
    · cases left

/-- The free span ends at the end of the buffer or in front of the unread bytes. -/
theorem Reader.Flows.span_eq (inv : ctx.Flows size)
    : ctx.span size = min (size - ctx.writepos) (size - 1 - ctx.used size) := by
  unfold Reader.span Reader.used
  dsimp only
  rw [Ring.free_eq inv.read inv.write]
  split <;> omega

/-- The span is not empty, does not wrap, and lies in the free part of the ring. -/
theorem Reader.Flows.span (inv : ctx.Flows size) (free : ctx.used size + 1 < size)
    : 0 < ctx.span size
      ∧ ctx.writepos + ctx.span size ≤ size
      ∧ ctx.used size + ctx.span size < size := by
  have write := inv.write
  rw [inv.span_eq]
  omega

/-- The thread goes on with the call only if there is room. -/
theorem Reader.Flows.prepare (inv : ctx.Flows size) (running : ctx.stopMe = false)
    (pc : ctx.thread = .top ∨ ctx.thread = .gotSpace)
    (room : (ctx.writepos + 1) % size ≠ ctx.readpos ∨ ctx.thread = .gotSpace)
    : Reader.Flows size { ctx with thread := .receiving (ctx.span size) } := by
  have free : ctx.used size + 1 < size := by
    rcases room with notFull | gotSpace
    · have below := Ring.used_lt inv.read inv.write
      rw [Ne, Ring.full_iff inv.read inv.write] at notFull
      unfold Reader.used
      omega
    · rcases inv.space (Or.inr gotSpace) with free | stopped
      · exact free
      · rw [running] at stopped
        cases stopped
  have quiet : ctx.thread.arriving = [] := by rcases pc with pc | pc <;> rw [pc] <;> rfl
  have active : ctx.thread.left = false := by rcases pc with pc | pc <;> rw [pc] <;> rfl
  refine ⟨inv.read, inv.write, inv.quiet quiet, Or.inl (inv.notLost active), ?_, nofun, by simp,
    inv.pending⟩
  rintro _ ⟨⟩
  exact inv.span free

/-- What is received does not touch the bytes that have not been read. -/
theorem Reader.Flows.unread_put (inv : ctx.Flows size) (bytes : List UInt8)
    (room : ctx.used size + bytes.length < size)
    : Ring.contents size (Ring.put ctx.buffer ctx.writepos bytes) ctx.readpos (ctx.used size)
      = ctx.unread size := by
  refine Ring.contents_congr fun i inside => ?_
  rcases Ring.span_unused inv.read inv.write room inside with before | behind
  · exact Ring.put_of_lt before
  · exact Ring.put_of_ge behind

/-- The flow of bytes is kept when some are received. -/
theorem Reader.Flows.receive (inv : ctx.Flows size) {nbytes : Nat} {bytes : List UInt8}
    (pc : ctx.thread = .receiving nbytes) (fits : bytes.length ≤ nbytes) (eofReceived : Bool)
    : Reader.Flows size
        { ctx with
          buffer := Ring.put ctx.buffer ctx.writepos bytes
          received := ctx.received ++ bytes
          eofReceived
          thread := .received bytes } := by
  obtain ⟨_, inside, room⟩ := inv.room nbytes pc
  have kept := inv.notLost (by rw [pc]; rfl)
  have flow := inv.quiet (by rw [pc]; rfl)
  have unread := inv.unread_put bytes (by omega)
  refine ⟨inv.read, inv.write, ?_, Or.inl kept, nofun, ?_, by simp, inv.pending⟩
  · change ctx.received ++ bytes
      = ctx.returned
        ++ Ring.contents size (Ring.put ctx.buffer ctx.writepos bytes) ctx.readpos (ctx.used size)
        ++ bytes ++ ctx.lost
    rw [unread, flow, kept, List.append_nil, List.append_nil, List.append_nil]
  · rintro _ ⟨⟩
    exact ⟨by dsimp only; omega, by change ctx.used size + _ < _; omega,
      Ring.contents_put _ (by omega)⟩

/-- The bytes that have arrived are behind those that have not been read. -/
theorem Reader.Flows.advance (inv : ctx.Flows size) {bytes : List UInt8}
    (pc : ctx.thread = .received bytes)
    : Reader.Flows size
        { ctx with
          writepos := (ctx.writepos + bytes.length) % size
          haveData := true
          thread := .top } := by
  obtain ⟨_, room, arrived⟩ := inv.arrived bytes pc
  have kept := inv.notLost (by rw [pc]; rfl)
  have flow := inv.flow
  rw [pc] at flow
  have used
      : Ring.used size ctx.readpos ((ctx.writepos + bytes.length) % size)
        = ctx.used size + bytes.length :=
    Ring.used_write inv.read inv.write room
  have positive : 0 < size := by have := inv.read; omega
  refine ⟨inv.read, Nat.mod_lt _ positive, ?_, Or.inl kept, nofun, nofun, by simp, inv.pending⟩
  change ctx.received
    = ctx.returned
      ++ Ring.contents size ctx.buffer ctx.readpos
          (Ring.used size ctx.readpos ((ctx.writepos + bytes.length) % size))
      ++ [] ++ ctx.lost
  rw [used, Ring.contents_add, Reader.used, Ring.readpos_add_used inv.read inv.write, arrived, flow,
    List.append_nil, ← List.append_assoc]
  rfl

/-- The number of bytes that a call copies. -/
theorem Reader.Flows.available (inv : ctx.Flows size) (filled : ctx.readpos ≠ ctx.writepos)
    : 0 < ctx.available size
      ∧ ctx.available size ≤ ctx.used size
      ∧ ctx.readpos + ctx.available size ≤ size := by
  have read := inv.read
  have write := inv.write
  unfold Reader.available Reader.used
  rw [Ring.used_eq read write]
  split <;> split <;> omega

/-- What the rest of `_gpgme_io_read` does when there are bytes and no error. -/
theorem Reader.Flows.take_eq (inv : ctx.Flows size) (filled : ctx.readpos ≠ ctx.writepos)
    (fine : ctx.error = false) {count : Nat} (positive : 0 < count)
    : ∃ nread,
        0 < nread
        ∧ nread ≤ ctx.used size
        ∧ ctx.take size count
          = (some (.data (Ring.contents size ctx.buffer ctx.readpos nread)),
              { ctx with
                readpos := (ctx.readpos + nread) % size
                haveData :=
                  if (ctx.readpos + nread) % size = ctx.writepos ∧ ¬ ctx.eof then false
                  else ctx.haveData
                haveSpace := true
                returned := ctx.returned ++ Ring.contents size ctx.buffer ctx.readpos nread
                caller := .ready }) := by
  obtain ⟨some, inside, straight⟩ := inv.available filled
  refine ⟨min (ctx.available size) count, by omega, by omega, ?_⟩
  have copied
      : (List.range (min (ctx.available size) count)).map (fun i => ctx.buffer (ctx.readpos + i))
        = Ring.contents size ctx.buffer ctx.readpos (min (ctx.available size) count) := by
    refine List.map_congr_left fun i member => ?_
    rw [List.mem_range] at member
    rw [Nat.mod_eq_of_lt (by omega)]
  unfold Reader.take
  rw [if_neg (by simp [filled, fine])]
  dsimp only
  rw [copied]

/-- The bytes that are copied are the first of those that have not been read. -/
theorem Reader.Flows.copy (inv : ctx.Flows size) {nread : Nat} (positive : 0 < nread)
    (inside : nread ≤ ctx.used size) (haveData : Bool)
    : Reader.Flows size
        { ctx with
          readpos := (ctx.readpos + nread) % size
          haveData
          haveSpace := true
          returned := ctx.returned ++ Ring.contents size ctx.buffer ctx.readpos nread
          caller := .ready } := by
  have below := Ring.used_lt inv.read inv.write
  have used
      : Ring.used size ((ctx.readpos + nread) % size) ctx.writepos = ctx.used size - nread :=
    Ring.used_read inv.read inv.write inside
  have unread
      : ctx.unread size
        = Ring.contents size ctx.buffer ctx.readpos nread
          ++ Ring.contents size ctx.buffer ((ctx.readpos + nread) % size)
              (ctx.used size - nread) := by
    unfold Reader.unread
    rw [← Ring.contents_add, Nat.add_sub_cancel' inside]
  have flow := inv.flow
  rw [unread] at flow
  refine ⟨Nat.mod_lt _ (by omega), inv.write, ?_, inv.lost, ?_, ?_, ?_, by simp⟩
  · change ctx.received
      = ctx.returned ++ _
        ++ Ring.contents size ctx.buffer ((ctx.readpos + nread) % size)
            (Ring.used size ((ctx.readpos + nread) % size) ctx.writepos)
        ++ ctx.thread.arriving ++ ctx.lost
    rw [flow, used]
    simp only [List.append_assoc]
  · intro nbytes pc
    obtain ⟨some, straight, room⟩ := inv.room nbytes pc
    refine ⟨some, straight, ?_⟩
    change Ring.used size _ ctx.writepos + nbytes < size
    rw [used]
    omega
  · intro bytes pc
    obtain ⟨straight, room, arrived⟩ := inv.arrived bytes pc
    refine ⟨straight, ?_, arrived⟩
    change Ring.used size _ ctx.writepos + _ < size
    rw [used]
    omega
  · intro _
    left
    change Ring.used size _ ctx.writepos + 1 < size
    rw [used]
    change ctx.used size < size at below
    omega

/-- The waits of both parties end with something to do, so a step keeps the order of the bytes. -/
theorem Reader.Flows.moves (inv : ctx.Flows size) (moved : ctx.Moves size outcome)
    : outcome.2.Flows size := by
  cases moved with
  | full pc =>
      exact ⟨inv.read, inv.write, inv.quiet (by rw [pc]; rfl),
        Or.inl (inv.notLost (by rw [pc]; rfl)), nofun, nofun, by simp, inv.pending⟩
  | space pc set =>
      have free := inv.space (Or.inl ⟨pc, set⟩)
      exact ⟨inv.read, inv.write, inv.quiet (by rw [pc]; rfl),
        Or.inl (inv.notLost (by rw [pc]; rfl)), nofun, nofun, fun _ => free, inv.pending⟩
  | stop stopped pc => exact inv.leaves (by rcases pc with pc | pc <;> rw [pc] <;> rfl) rfl
  | prepare running pc room => exact inv.prepare running pc room
  | discard pc stopped =>
      have kept := inv.notLost (by rw [pc]; rfl)
      have flow := inv.flow
      rw [pc, kept, List.append_nil] at flow
      refine ⟨inv.read, inv.write, ?_, Or.inr ⟨stopped, rfl⟩, nofun, nofun, by simp, inv.pending⟩
      rw [flow]
      simp only [ReaderPc.arriving, List.append_nil]
      rfl
  | eof pc => exact { inv.leaves (by rw [pc]; rfl) rfl with }
  | advance pc filled => exact inv.advance pc
  | leave pc => exact { inv.leaves (by rw [pc]; rfl) rfl with }
  | close pc => exact { inv.leaves (by rw [pc]; rfl) rfl with }
  | receive pc fits => exact inv.receive pc fits _
  | broken code pc => exact { inv.leaves (by rw [pc]; rfl) rfl with }
  | shutDown code pc stopped => exact { inv.leaves (by rw [pc]; rfl) rfl with }
  | error code pc => exact { inv.leaves (by rw [pc]; rfl) rfl with }
  | shortcut pc set => exact inv
  | wait pc positive =>
      refine { inv with pending := ?_ }
      rintro _ (⟨⟨⟩⟩ | ⟨⟨⟩⟩)
      exact positive
  | announced pc set =>
      refine { inv with pending := ?_ }
      rintro _ (⟨⟨⟩⟩ | ⟨⟨⟩⟩)
      exact inv.pending _ (Or.inl pc)
  | noData pc empty => exact { inv with pending := by simp }
  | copy pc filled fine =>
      have positive := pc.elim And.right fun relocks => inv.pending _ (Or.inr relocks)
      obtain ⟨nread, some, inside, taken⟩ := inv.take_eq filled fine positive
      rw [taken]
      exact inv.copy some inside _
  | finish pc => exact { inv with pending := by simp }
  | destroyed pc => exact { inv with pending := by simp }
  | count refcount => exact { inv with }
  | destroy refcount =>
      exact { inv with
        lost := inv.lost.imp_right fun left => ⟨rfl, left.2⟩
        space := fun _ => Or.inr rfl
        pending := by simp }

/-- Only a party that reads no more has told the thread to stop. -/
theorem Reader.Announces.running (inv : ctx.Announces size)
    (reads : ctx.caller ≠ .destroying ∧ ctx.caller ≠ .gone)
    : ctx.stopMe = false := by
  cases stop : ctx.stopMe with
  | false => rfl
  | true =>
      rcases inv.stopped stop with destroying | gone
      · exact absurd destroying reads.1
      · exact absurd gone reads.2

/-- While the thread is in the loop there is neither an end of file nor an error. -/
theorem Reader.Announces.active (inv : ctx.Announces size) (pc : ctx.thread.left = false)
    : ctx.eof = false ∧ ctx.error = false := by
  have running : ¬ (ctx.eof = true ∨ ctx.error = true) := by
    intro ended
    have left := inv.finished ended
    rw [pc] at left
    cases left
  simpa using running

/-- The party at the end of `_gpgme_io_read` is there for a reason. -/
theorem Reader.Announces.atEnd_of_empty (inv : ctx.Announces size) (flows : ctx.Flows size)
    (pc : ctx.caller = .ready ∧ ctx.error = true ∨ ∃ count, ctx.caller = .relocking count)
    (empty : ctx.readpos = ctx.writepos ∨ ctx.error = true)
    : ctx.error = true ∨ (ctx.eof = true ∧ ctx.used size = 0) := by
  have unused (same : ctx.readpos = ctx.writepos) : ctx.used size = 0 :=
    (Ring.used_eq_zero_iff flows.read flows.write).mpr same
  rcases empty with empty | failed
  · rcases pc with ⟨_, failed⟩ | ⟨count, relocks⟩
    · exact Or.inl failed
    · rcases inv.relocking count relocks with filled | ended | failed
      · exact absurd (unused empty) filled
      · exact Or.inr ⟨ended, unused empty⟩
      · exact Or.inl failed
  · exact Or.inl failed

/-- The events are kept when the bytes are announced. -/
theorem Reader.Announces.advance (inv : ctx.Announces size) (flows : ctx.Flows size)
    {bytes : List UInt8} (pc : ctx.thread = .received bytes) (filled : bytes ≠ [])
    : Reader.Announces size
        { ctx with
          writepos := (ctx.writepos + bytes.length) % size
          haveData := true
          thread := .top } := by
  obtain ⟨_, room, _⟩ := flows.arrived bytes pc
  obtain ⟨running, fine⟩ := inv.active (by rw [pc]; rfl)
  have some : bytes.length ≠ 0 := fun none => filled (List.eq_nil_of_length_eq_zero none)
  have used
      : Ring.used size ctx.readpos ((ctx.writepos + bytes.length) % size) ≠ 0 := by
    rw [Ring.used_write flows.read flows.write room]
    omega
  exact {
    data := fun _ => Or.inl used
    relocking := fun _ _ => Or.inl used
    atEnd := fun ends => by
      rcases inv.atEnd ends with failed | ⟨ended, _⟩
      · rw [fine] at failed
        cases failed
      · rw [running] at ended
        cases ended
    shortcut := fun set => by
      rcases inv.shortcut set with failed | ⟨ended, _⟩
      · rw [fine] at failed
        cases failed
      · rw [running] at ended
        cases ended
    finished := fun ended => by simp [running, fine] at ended
    left := nofun
    eof := inv.eof
    ending := nofun
    stopped := inv.stopped }

/-- The events are kept when bytes are copied. -/
theorem Reader.Announces.copy (inv : ctx.Announces size) (flows : ctx.Flows size)
    (filled : ctx.readpos ≠ ctx.writepos) (fine : ctx.error = false) (running : ctx.stopMe = false)
    {nread : Nat}
    : Reader.Announces size
        { ctx with
          readpos := (ctx.readpos + nread) % size
          haveData :=
            if (ctx.readpos + nread) % size = ctx.writepos ∧ ¬ ctx.eof then false else ctx.haveData
          haveSpace := true
          returned := ctx.returned ++ Ring.contents size ctx.buffer ctx.readpos nread
          caller := .ready } := by
  have positive : 0 < size := by have := flows.read; omega
  refine { inv with
    data := fun set => ?_
    relocking := nofun
    atEnd := nofun
    shortcut := fun set => ?_
    stopped := by simp [running] }
  · by_cases ended : ctx.eof = true
    · exact Or.inr (Or.inl ended)
    · left
      change Ring.used size ((ctx.readpos + nread) % size) ctx.writepos ≠ 0
      rw [Ne, Ring.used_eq_zero_iff (Nat.mod_lt _ positive) flows.write]
      intro same
      simp [same, ended] at set
  · rcases inv.shortcut set with failed | ⟨_, none⟩
    · rw [fine] at failed
      cases failed
    · exact absurd ((Ring.used_eq_zero_iff flows.read flows.write).mp none) filled

/-- A step keeps what the events stand for. -/
theorem Reader.Announces.moves (inv : ctx.Announces size) (flows : ctx.Flows size)
    (moved : ctx.Moves size outcome)
    : outcome.2.Announces size := by
  cases moved with
  | full pc =>
      have active := inv.active (by rw [pc]; rfl)
      exact { inv with finished := by simp [active], left := nofun, ending := nofun }
  | space pc set =>
      have active := inv.active (by rw [pc]; rfl)
      exact { inv with finished := by simp [active], left := nofun, ending := nofun }
  | stop stopped pc =>
      exact { inv with
        finished := fun _ => rfl
        left := fun _ => Or.inr (Or.inr stopped)
        ending := nofun }
  | prepare running pc room =>
      have active := inv.active (by rcases pc with pc | pc <;> rw [pc] <;> rfl)
      exact { inv with finished := by simp [active], left := nofun, ending := nofun }
  | discard pc stopped =>
      exact { inv with
        finished := fun _ => rfl
        left := fun _ => Or.inr (Or.inr stopped)
        ending := nofun }
  | eof pc =>
      have active := inv.active (by rw [pc]; rfl)
      exact { inv with
        data := fun _ => Or.inr (Or.inl rfl)
        relocking := fun _ _ => Or.inr (Or.inl rfl)
        atEnd := fun ends => by simpa [active] using inv.atEnd ends
        shortcut := fun set => by simpa [active] using inv.shortcut set
        finished := fun _ => rfl
        left := fun _ => Or.inl rfl
        eof := fun _ => inv.ending pc
        ending := nofun }
  | advance pc filled => exact inv.advance flows pc filled
  | leave pc =>
      have left := inv.left (by rw [pc]; rfl)
      exact { inv with
        data := fun _ => Or.inr left
        finished := fun _ => rfl
        left := fun _ => left
        ending := nofun }
  | close pc =>
      have left := inv.left (by rw [pc]; rfl)
      exact { inv with
        finished := fun _ => rfl
        left := fun _ => left
        ending := nofun }
  | receive pc fits =>
      have active := inv.active (by rw [pc]; rfl)
      refine { inv with
        finished := by simp [active]
        left := nofun
        eof := by simp [active]
        ending := ?_ }
      rintro ⟨⟩
      simp
  | broken code pc =>
      have active := inv.active (by rw [pc]; rfl)
      exact { inv with
        data := fun _ => Or.inr (Or.inl rfl)
        relocking := fun _ _ => Or.inr (Or.inl rfl)
        atEnd := fun ends => by simpa [active] using inv.atEnd ends
        shortcut := fun set => by simpa [active] using inv.shortcut set
        finished := fun _ => rfl
        left := fun _ => Or.inl rfl
        eof := fun _ => rfl
        ending := nofun }
  | shutDown code pc stopped =>
      exact { inv with
        finished := fun _ => rfl
        left := fun _ => Or.inr (Or.inr stopped)
        ending := nofun }
  | error code pc =>
      exact { inv with
        data := fun _ => Or.inr (Or.inr (Or.inl rfl))
        relocking := fun _ _ => Or.inr (Or.inr rfl)
        atEnd := fun _ => Or.inl rfl
        shortcut := fun _ => Or.inl rfl
        finished := fun _ => rfl
        left := fun _ => Or.inr (Or.inl rfl)
        ending := nofun }
  | shortcut pc set => exact inv
  | wait pc positive =>
      have running := inv.running (by simp [pc])
      exact { inv with relocking := nofun, atEnd := nofun, stopped := by simp [running] }
  | announced pc set =>
      have running := inv.running (by simp [pc])
      have reason : ctx.used size ≠ 0 ∨ ctx.eof = true ∨ ctx.error = true := by
        simpa [running] using inv.data set
      exact { inv with
        relocking := fun _ _ => reason
        atEnd := nofun
        stopped := by simp [running] }
  | noData pc empty =>
      have running := inv.running (by rcases pc with ⟨pc, _⟩ | ⟨_, pc⟩ <;> simp [pc])
      exact { inv with
        relocking := nofun
        atEnd := fun _ => inv.atEnd_of_empty flows pc empty
        stopped := by simp [running] }
  | copy pc filled fine =>
      have running := inv.running (by rcases pc with ⟨pc, _⟩ | pc <;> simp [pc])
      have positive := pc.elim And.right fun relocks => flows.pending _ (Or.inr relocks)
      obtain ⟨nread, _, _, taken⟩ := flows.take_eq filled fine positive
      rw [taken]
      exact inv.copy flows filled fine running
  | finish pc =>
      have running := inv.running (by simp [pc])
      exact { inv with
        relocking := nofun
        atEnd := nofun
        shortcut := fun _ => inv.atEnd pc
        stopped := by simp [running] }
  | destroyed pc =>
      exact { inv with relocking := nofun, atEnd := nofun, stopped := fun _ => Or.inr rfl }
  | count refcount => exact { inv with }
  | destroy refcount =>
      exact { inv with
        data := fun _ => Or.inr (Or.inr (Or.inr rfl))
        relocking := nofun
        atEnd := nofun
        left := fun _ => Or.inr (Or.inr rfl)
        stopped := fun _ => Or.inl rfl }

/-- A call returns zero only at the end of file, when all bytes have been returned. -/
theorem Reader.Announces.zero (inv : ctx.Announces size) (flows : ctx.Flows size)
    (moved : ctx.Moves size outcome) (zero : outcome.1 = some .zero) (fine : ctx.error = false)
    : ctx.eofReceived = true ∧ ctx.returned = ctx.received := by
  -- The thread has left, so no bytes are arriving, and none were thrown away.
  have all (ended : ctx.eof = true ∧ ctx.used size = 0)
      (reads : ctx.caller ≠ .destroying ∧ ctx.caller ≠ .gone)
      : ctx.eofReceived = true ∧ ctx.returned = ctx.received := by
    have left := inv.finished (Or.inl ended.1)
    have quiet : ctx.thread.arriving = [] := by
      cases pc : ctx.thread with
      | received bytes =>
          rw [pc] at left
          cases left
      | _ => rfl
    have kept : ctx.lost = [] := by
      refine flows.lost.resolve_right fun lost => ?_
      rw [inv.running reads] at lost
      cases lost.1
    have flow := flows.quiet quiet
    rw [Reader.unread, ended.2, kept] at flow
    refine ⟨inv.eof ended.1, ?_⟩
    simpa using flow.symm
  cases moved with
  | shortcut pc set =>
      refine all ((inv.shortcut set).resolve_left ?_) (by simp [pc])
      simp [fine]
  | finish pc =>
      refine all ((inv.atEnd pc).resolve_left ?_) (by simp [pc])
      simp [fine]
  | copy pc filled fine =>
      have positive := pc.elim And.right fun relocks => flows.pending _ (Or.inr relocks)
      obtain ⟨nread, _, _, taken⟩ := flows.take_eq filled fine positive
      rw [taken] at zero
      cases zero
  | _ => cases zero

end Moves

/-- The flow of bytes at the start. -/
theorem Reader.flows_new {size : Nat} (large : 2 ≤ size) (sock : Bool)
    : Reader.Flows size { sock } where
  read := by change 0 < size; omega
  write := by change 0 < size; omega
  flow := by simp [Reader.unread, Reader.used, Ring.used, ReaderPc.arriving]
  lost := Or.inl rfl
  room := nofun
  arrived := nofun
  space := by simp
  pending := by simp

/-- The events at the start. -/
theorem Reader.announces_new (size : Nat) (sock : Bool) : Reader.Announces size { sock } := by
  constructor <;> simp [ReaderPc.left]

/-- A ring of three bytes wraps: two bytes and then one are received and read, and the end of file
follows.
-/
def wraps : List ReaderEvent :=
  [.thread, .answer (.data [97, 98]), .thread, .read 1, .thread, .answer (.data [99]), .thread,
    .read 7, .read 7, .thread, .answer (.data []), .thread, .thread, .caller, .caller]

end Gpgme.W32
