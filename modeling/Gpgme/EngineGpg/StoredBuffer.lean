import Mathlib.Tactic
import Gpgme.EngineGpg.ReadPipes

/-! The buffers of the pipes as the engine object stores them. `read_status` and
`read_colon_line` work on copies of the pointer, the size and the position, and write them back
when all bytes of a read have been handled. An allocation has an identity, which `realloc`
replaces.
-/

namespace Gpgme

open CString LineBuffer

variable {σ : Type}

/-- The live allocations and their bytes, and the identity of the next allocation. -/
structure Memory where
  block : Nat → Option (List UInt8)
  next : Nat
  unused : ∀ id, next ≤ id → block id = none

/-- A successful `realloc`: the old allocation is gone, and the new one has the next identity. -/
def Memory.realloc (memory : Memory) (old : Nat) (contents : List UInt8) : Memory where
  block id := if id = memory.next then some contents else if id = old then none else memory.block id
  next := memory.next + 1
  unused := by
    intro id beyond
    have unused := memory.unused id (by omega)
    rw [if_neg (by omega)]
    split
    · rfl
    · exact unused

/-- Change the bytes of an allocation that is live. -/
def Memory.write (memory : Memory) (id : Nat) (contents : List UInt8) : Memory where
  block other :=
    if other = id then (memory.block id).map (fun _ => contents) else memory.block other
  next := memory.next
  unused := by
    intro other beyond
    have unused := memory.unused other beyond
    split
    · next same => simp [← same, unused]
    · exact unused

/-- The fields `buffer`, `bufsize` and `readpos` of a pipe in `struct engine_gpg`. -/
structure PipeBuffer where
  buffer : Nat
  bufsize : Nat
  readpos : Nat

/-- The pointer and the size are those of a live allocation that holds the unfinished line. -/
def PipeBuffer.Live (held : PipeBuffer) (memory : Memory) : Prop :=
  ∃ contents,
    memory.block held.buffer = some contents
    ∧ contents.length = held.bufsize
    ∧ held.readpos ≤ held.bufsize

/-- More room is needed for the read. -/
def PipeBuffer.needsRoom (held : PipeBuffer) : Bool := held.bufsize - held.readpos < 256

/-- The answer of `_gpgme_io_read`; no bytes are the end of file. -/
inductive ReadAnswer where
  | failed (errno : Nat)
  | data (bytes : List UInt8)

/-- What the system answers during a call: what stands in the memory by which the buffer grows,
if `realloc` succeeds, and the result of the read.
-/
structure PipeAnswers where
  realloc : Option (Fin 1024 → UInt8)
  read : ReadAnswer

/-- What a call returns, the state of the callbacks, and the memory and the engine object as
they are left.
-/
structure Returned (σ : Type) where
  err : GpgError
  state : σ
  memory : Memory
  held : PipeBuffer

/-- The memory and the local copies once there is room for the read. -/
def PipeBuffer.makeRoom (held : PipeBuffer) (memory : Memory) (contents : List UInt8)
    (realloc : Option (Fin 1024 → UInt8))
    : Option (Memory × PipeBuffer) :=
  if held.needsRoom then
    match realloc with
    | none => none
    | some fresh =>
        some (memory.realloc held.buffer (contents ++ List.ofFn fresh),
          { held with buffer := memory.next, bufsize := held.bufsize + 1024 })
  else
    some (memory, held)

/-- The common course of the two functions; the use of memory that is not allocated is a fault.
A read returns no more than there is room for. The bytes of the buffer after an error are not
followed.
-/
def readPipe (handle : LineHandler σ (GpgError × σ)) (atEof : σ → GpgError × σ) (state : σ)
    (memory : Memory) (held : PipeBuffer) (answers : PipeAnswers)
    : Option (Returned σ) :=
  match memory.block held.buffer with
  | none => none
  | some contents =>
      match held.makeRoom memory contents answers.realloc with
      | none => some { err := gpgError ErrCode.enomem, state, memory, held }
      | some (memory, locals) =>
          match memory.block locals.buffer, answers.read with
          | none, _ => none
          | some _, .failed errno =>
              some { err := gpgErrorFromSyserror errno, state, memory, held }
          | some contents, .data bytes =>
              let bytes := bytes.take (locals.bufsize - locals.readpos)
              if bytes = [] then
                some { err := (atEof state).1, state := (atEof state).2, memory, held }
              else
                let reader := { buffer := contents, readpos := locals.readpos }
                match fill handle state reader bytes with
                | none => none
                | some (.error (err, state)) => some { err, state, memory, held }
                | some (.ok (state, reader)) =>
                    -- Only here is the engine object updated.
                    some {
                      err := 0
                      state
                      memory := memory.write locals.buffer reader.buffer
                      held := { locals with readpos := reader.readpos } }

/-- The copy of the keyword of a command may fail. -/
def copyCommand (copies : List (StatusCode × Str) → Bool) (before after : StatusPipe)
    : Except (GpgError × StatusPipe) StatusPipe :=
  if before.commands.length < after.commands.length ∧ copies after.commands = false then
    .error (gpgError ErrCode.enomem, { after with commands := before.commands })
  else
    .ok after

/-- What `read_status` does at a line feed, with the copy of the keyword of a command. -/
def copyingLineHandler (unsignedCode : Bool) (copies : List (StatusCode × Str) → Bool)
    : LineHandler StatusPipe (GpgError × StatusPipe) :=
  fun pipe buffer p =>
    match statusLineHandler unsignedCode pipe buffer p with
    | .error e => .error e
    | .ok (next, left) =>
        match copyCommand copies pipe next with
        | .error e => .error e
        | .ok next => .ok (next, left)

/-- What `read_status` does with a line. -/
def StatusPipe.actOnLine (unsignedCode : Bool) (copies : List (StatusCode × Str) → Bool)
    (pipe : StatusPipe) (line : Str)
    : Except (GpgError × StatusPipe) StatusPipe :=
  match pipe.handleText unsignedCode (lineString line) with
  | .error e => .error e
  | .ok next => copyCommand copies pipe next

/-- What `read_status` does at the end of file. -/
def StatusPipe.atEof (pipe : StatusPipe) : GpgError × StatusPipe :=
  let (_, pipe) := StatusPipe.callMonitor { pipe with eof := true } [] []
  match pipe.callFnc (some .eof) [] with
  | .error e => e
  | .ok pipe => (0, pipe)

/-- `read_status` with the engine object. -/
def StatusPipe.readStored (unsignedCode : Bool) (copies : List (StatusCode × Str) → Bool)
    (pipe : StatusPipe) (memory : Memory) (held : PipeBuffer) (answers : PipeAnswers)
    : Option (Returned StatusPipe) :=
  readPipe (copyingLineHandler unsignedCode copies) StatusPipe.atEof pipe memory held answers

/-- What `read_colon_line` does with a line. -/
def ColonPipe.actOnLine (pipe : ColonPipe) (line : Str)
    : Except (GpgError × ColonPipe) ColonPipe :=
  pipe.handleText (cstring line)

/-- What `read_colon_line` does at the end of file. -/
def ColonPipe.atEof (pipe : ColonPipe) : GpgError × ColonPipe :=
  (0, { pipe with eof := true, lines := pipe.lines ++ [none] })

/-- `read_colon_line` with the engine object. -/
def ColonPipe.readStored (pipe : ColonPipe) (memory : Memory) (held : PipeBuffer)
    (answers : PipeAnswers)
    : Option (Returned ColonPipe) :=
  readPipe colonLineHandler ColonPipe.atEof pipe memory held answers

-----------------------------------------------------------------------------------------
-- When the engine object keeps a live buffer
-----------------------------------------------------------------------------------------

/-- The bytes of the unfinished line. -/
def PipeBuffer.pending (held : PipeBuffer) (memory : Memory) : Str :=
  ((memory.block held.buffer).getD []).take held.readpos

/-- The room for a read, once the buffer is large enough. -/
def PipeBuffer.room (held : PipeBuffer) : Nat :=
  if held.needsRoom then held.bufsize + 1024 - held.readpos else held.bufsize - held.readpos

/-- The buffer need not grow, or it cannot grow, or the read returns bytes and no callback
returns an error for a line that they complete.
-/
def KeepsBuffer (act : σ → Str → Except (GpgError × σ) σ) (state : σ) (memory : Memory)
    (held : PipeBuffer) (answers : PipeAnswers)
    : Prop :=
  held.needsRoom = false
  ∨ answers.realloc = none
  ∨ ∃ bytes,
      answers.read = .data bytes
      ∧ bytes ≠ []
      ∧ ∃ next,
          (Lines.complete (held.pending memory) (bytes.take held.room)).foldlM act state
            = .ok next

/-- A live block holds what was written to it. -/
theorem Memory.write_block {memory : Memory} {id : Nat} {before after : List UInt8}
    (live : memory.block id = some before)
    : (memory.write id after).block id = some after := by
  simp [Memory.write, live]

/-- An allocation that has been replaced is not live. -/
theorem PipeBuffer.Live.stale {held : PipeBuffer} {memory : Memory} (live : held.Live memory)
    (contents : List UInt8)
    : ¬ held.Live (memory.realloc held.buffer contents) := by
  obtain ⟨before, found, _⟩ := live
  rintro ⟨after, replaced, _⟩
  have old : held.buffer ≠ memory.next := by
    intro same
    rw [memory.unused held.buffer same.ge] at found
    cases found
  simp [Memory.realloc, old] at replaced

/-- There is no room only when there is no memory. -/
theorem PipeBuffer.makeRoom_none {held : PipeBuffer} {memory : Memory} {contents : List UInt8}
    {realloc : Option (Fin 1024 → UInt8)}
    (made : held.makeRoom memory contents realloc = none)
    : realloc = none := by
  unfold PipeBuffer.makeRoom at made
  cases realloc with
  | none => rfl
  | some fresh => split at made <;> cases made

/-- The local copies are those of the engine object, or the buffer has grown. -/
theorem PipeBuffer.makeRoom_cases {held locals : PipeBuffer} {memory memory' : Memory}
    {contents : List UInt8} {realloc : Option (Fin 1024 → UInt8)}
    (made : held.makeRoom memory contents realloc = some (memory', locals))
    : (held.needsRoom = false ∧ memory' = memory ∧ locals = held)
      ∨ ∃ fresh,
          held.needsRoom = true
          ∧ realloc = some fresh
          ∧ memory' = memory.realloc held.buffer (contents ++ List.ofFn fresh)
          ∧ locals = { held with buffer := memory.next, bufsize := held.bufsize + 1024 } := by
  unfold PipeBuffer.makeRoom at made
  split at made
  · next needs =>
      cases realloc with
      | none => cases made
      | some fresh =>
          cases made
          exact Or.inr ⟨fresh, needs, rfl, rfl, rfl⟩
  · next enough =>
      cases made
      exact Or.inl ⟨by simpa using enough, rfl, rfl⟩

/-- The local copies are those of a live buffer with room for the read, which holds the same
unfinished line.
-/
theorem PipeBuffer.Live.makeRoom {held locals : PipeBuffer} {memory memory' : Memory}
    {contents : List UInt8} {realloc : Option (Fin 1024 → UInt8)} (live : held.Live memory)
    (found : memory.block held.buffer = some contents)
    (made : held.makeRoom memory contents realloc = some (memory', locals))
    : ∃ after,
        memory'.block locals.buffer = some after
        ∧ after.length = locals.bufsize
        ∧ locals.bufsize - locals.readpos = held.room
        ∧ ({ buffer := after, readpos := locals.readpos } : Reader).Holds
            (held.pending memory) := by
  obtain ⟨before, found', length, within⟩ := live
  obtain rfl : before = contents := Option.some.inj (found'.symm.trans found)
  have pending : held.pending memory = before.take held.readpos := by
    simp [PipeBuffer.pending, found]
  rw [← length] at within
  obtain ⟨enough, rfl, rfl⟩ | ⟨fresh, needs, _, rfl, rfl⟩ := PipeBuffer.makeRoom_cases made
  · refine ⟨before, found, length, ?_, within, pending.symm⟩
    simp [PipeBuffer.room, enough]
  · have grown : (before ++ List.ofFn fresh).length = before.length + 1024 := by
      rw [List.length_append, List.length_ofFn]
    refine ⟨before ++ List.ofFn fresh, if_pos rfl, ?_, ?_, ?_, ?_⟩
    · rw [grown, length]
    · rw [PipeBuffer.room, if_pos needs]
    · exact within.trans (grown.symm ▸ Nat.le_add_right before.length 1024)
    · rw [pending]
      exact List.take_append_of_le_length within

/-- A live buffer has room for a byte. -/
theorem PipeBuffer.Live.room_pos {held : PipeBuffer} {memory : Memory} (live : held.Live memory)
    : 0 < held.room := by
  obtain ⟨_, _, _, within⟩ := live
  unfold PipeBuffer.room PipeBuffer.needsRoom
  simp only [decide_eq_true_eq]
  split <;> omega

/-- After an early return the engine object is as it was before, and so it fits the memory only
if the buffer has not grown.
-/
theorem PipeBuffer.Live.early {act : σ → Str → Except (GpgError × σ) σ} {state : σ}
    {held locals : PipeBuffer} {memory memory' : Memory} {contents : List UInt8}
    {answers : PipeAnswers} (live : held.Live memory)
    (made : held.makeRoom memory contents answers.realloc = some (memory', locals))
    (early : ∀ bytes,
      answers.read = .data bytes
      → bytes ≠ []
      → ∀ next,
          (Lines.complete (held.pending memory) (bytes.take held.room)).foldlM act state
            ≠ .ok next)
    : held.Live memory' ↔ KeepsBuffer act state memory held answers := by
  obtain ⟨enough, rfl, _⟩ | ⟨fresh, needs, answer, rfl, _⟩ := PipeBuffer.makeRoom_cases made
  · exact iff_of_true live (Or.inl enough)
  · refine iff_of_false (live.stale _) ?_
    rintro (enough | failed | ⟨bytes, data, nonempty, next, handled⟩)
    · rw [needs] at enough
      cases enough
    · rw [answer] at failed
      cases failed
    · exact early bytes data nonempty next handled

/-- A call leaves a live buffer in the engine object exactly when the buffer has not been
replaced or the call gets to its end.
-/
theorem readPipe_live_iff {handle : LineHandler σ (GpgError × σ)}
    {act : σ → Str → Except (GpgError × σ) σ} (handles : Handles handle act)
    (atEof : σ → GpgError × σ) (state : σ) {memory : Memory} {held : PipeBuffer}
    (live : held.Live memory) (answers : PipeAnswers)
    : ∃ returned,
        readPipe handle atEof state memory held answers = some returned
        ∧ (returned.held.Live returned.memory ↔ KeepsBuffer act state memory held answers) := by
  obtain ⟨contents, found, _, _⟩ := id live
  simp only [readPipe, found]
  cases made : held.makeRoom memory contents answers.realloc with
  | none =>
      exact ⟨_, rfl, iff_of_true live (Or.inr (Or.inl (PipeBuffer.makeRoom_none made)))⟩
  | some room =>
      obtain ⟨memory', locals⟩ := room
      obtain ⟨after, found', length, room, holds⟩ := live.makeRoom found made
      simp only [found', room]
      cases read : answers.read with
      | failed errno =>
          refine ⟨_, rfl, live.early made ?_⟩
          intro bytes data
          rw [read] at data
          cases data
      | data bytes =>
          dsimp only
          split
          · next ended =>
              refine ⟨_, rfl, live.early made ?_⟩
              intro bytes' data nonempty
              rw [read] at data
              cases data
              rcases List.take_eq_nil_iff.mp ended with none | none
              · exact absurd none live.room_pos.ne'
              · exact absurd none nonempty
          · next nonempty =>
              have fits : (bytes.take held.room).length ≤ after.length - locals.readpos := by
                rw [length, room, List.length_take]
                exact Nat.min_le_left _ _
              obtain ⟨result, filled, agrees⟩ := fill_agrees (s := state) handles holds fits
              rw [filled]
              cases handled : (Lines.complete (held.pending memory)
                  (bytes.take held.room)).foldlM act state with
              | error e =>
                  rw [handled] at agrees
                  cases result with
                  | ok ended => exact absurd agrees id
                  | error e' =>
                      refine ⟨_, rfl, live.early made ?_⟩
                      intro bytes' data _ next
                      rw [read] at data
                      cases data
                      rw [handled]
                      simp
              | ok next =>
                  rw [handled] at agrees
                  cases result with
                  | error e => exact absurd agrees id
                  | ok ended =>
                      obtain ⟨state', reader⟩ := ended
                      obtain ⟨rfl, inside, _⟩ := agrees
                      have kept : reader.buffer.length = after.length :=
                        fill_length handles holds.1 filled
                      refine ⟨_, rfl, iff_of_true ?_ (Or.inr (Or.inr ⟨bytes, read, ?_, _, handled⟩))⟩
                      · refine ⟨reader.buffer, Memory.write_block found', ?_, ?_⟩
                        · rw [kept, length]
                        · exact inside.trans_eq (kept.trans length)
                      · rintro rfl
                        exact nonempty List.take_nil

/-- The handler that copies keywords acts on the text of the line. -/
theorem copyingLineHandler_handles (unsignedCode : Bool)
    (copies : List (StatusCode × Str) → Bool)
    : Handles (copyingLineHandler unsignedCode copies)
        (StatusPipe.actOnLine unsignedCode copies) := by
  intro pipe buffer p inside
  have handled := statusLineHandler_handles unsignedCode pipe buffer p inside
  unfold copyingLineHandler StatusPipe.actOnLine
  dsimp only at handled ⊢
  cases acted : pipe.handleText unsignedCode (lineString (buffer.take p)) with
  | error e =>
      rw [acted] at handled
      dsimp only at handled ⊢
      rw [handled]
  | ok next =>
      rw [acted] at handled
      obtain ⟨left, done, length, rest⟩ := handled
      rw [done]
      dsimp only
      cases copied : copyCommand copies pipe next with
      | error e => rfl
      | ok next => exact ⟨left, rfl, length, rest⟩

/-- Both functions leave a live buffer in the engine object exactly when the buffer has not
been replaced, or when they reach their end.
-/
theorem readers_keep_buffer_iff (unsignedCode : Bool) (copies : List (StatusCode × Str) → Bool)
    (pipe : StatusPipe) (colon : ColonPipe) {memory : Memory} {held : PipeBuffer}
    (live : held.Live memory) (answers : PipeAnswers)
    : (∃ returned,
        pipe.readStored unsignedCode copies memory held answers = some returned
        ∧ (returned.held.Live returned.memory
          ↔ KeepsBuffer (StatusPipe.actOnLine unsignedCode copies) pipe memory held answers))
      ∧ ∃ returned,
          colon.readStored memory held answers = some returned
          ∧ (returned.held.Live returned.memory
            ↔ KeepsBuffer ColonPipe.actOnLine colon memory held answers) := by
  constructor
  · exact readPipe_live_iff (copyingLineHandler_handles unsignedCode copies) _ pipe live answers
  · exact readPipe_live_iff colonLineHandler_handles _ colon live answers

/-- One allocation of 1024 bytes. -/
def newMemory : Memory where
  block id := if id = 0 then some (List.replicate 1024 0) else none
  next := 1
  unused := by
    intro id beyond
    exact if_neg (by omega)

/-- The first bytes of a line, with its length. -/
def partialLine (length : Nat) : PipeBuffer := { buffer := 0, bufsize := 1024, readpos := length }

/-- A line that is not finished lies in a live buffer. -/
theorem partialLine_live {length : Nat} (short : length ≤ 1024)
    : (partialLine length).Live newMemory :=
  ⟨List.replicate 1024 0, rfl, List.length_replicate, short⟩

/-- A pipe whose colon handler leaves the lines alone. -/
def newColonPipe : ColonPipe := { writes := fun _ => [] }

/-- A failed read with an empty buffer. -/
theorem readers_keep_buffer_failed
    : (partialLine 0).Live newMemory
      ∧ ∃ returned,
          newColonPipe.readStored newMemory (partialLine 0)
              { realloc := none, read := .failed 5 }
            = some returned
          ∧ returned.held.Live returned.memory := by
  have live := partialLine_live (Nat.zero_le 1024)
  obtain ⟨_, returned, ran, kept⟩ :=
    readers_keep_buffer_iff true (fun _ => true) newPipe newColonPipe live
      { realloc := none, read := .failed 5 }
  exact ⟨live, returned, ran, kept.mpr (Or.inl rfl)⟩

/-- A read that fails behind 800 bytes of a line leaves a buffer that has been freed. -/
theorem readers_lose_buffer
    : (partialLine 800).Live newMemory
      ∧ (∃ returned,
          newPipe.readStored true (fun _ => true) newMemory (partialLine 800)
              { realloc := some (fun _ => 0), read := .failed 5 }
            = some returned
          ∧ ¬ returned.held.Live returned.memory)
      ∧ ∃ returned,
          newColonPipe.readStored newMemory (partialLine 800)
              { realloc := some (fun _ => 0), read := .failed 5 }
            = some returned
          ∧ ¬ returned.held.Live returned.memory := by
  have live := partialLine_live (show 800 ≤ 1024 by decide)
  refine ⟨live, ⟨_, rfl, ?_⟩, ⟨_, rfl, ?_⟩⟩
  · exact live.stale _
  · exact live.stale _

end Gpgme
