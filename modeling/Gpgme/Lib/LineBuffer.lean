import Mathlib.Tactic
import Gpgme.Lib.Lines

/-! A buffer in which the lines of a byte stream are put together. The stream arrives in
chunks; the bytes of an unfinished line stay at the start of the buffer, and the rest of the
buffer holds what earlier lines have left there.
-/

namespace LineBuffer

variable {σ ε : Type}

-----------------------------------------------------------------------------------------
-- The loop over the bytes of a chunk
-----------------------------------------------------------------------------------------

/-- The bytes of the buffer, and how many of them belong to an unfinished line. -/
structure Reader where
  buffer : List UInt8
  readpos : Nat

/-- The bytes of a read, and what stands in the memory by which the buffer may grow. -/
structure Chunk where
  bytes : List UInt8
  fresh : Fin 1024 → UInt8

/-- Handle a line that ends in front of a position: an error, or the state and the buffer as
they are left.
-/
abbrev LineHandler (σ ε : Type) := σ → List UInt8 → Nat → Except ε (σ × List UInt8)

/-- `memmove (buffer, buffer + start, count)`. -/
def memmove (buffer : List UInt8) (start count : Nat) : List UInt8 :=
  (buffer.drop start).take count ++ buffer.drop count

/-- The two loops over `nread` new bytes from the position `p` on. A byte outside of the buffer
is a fault; a line handler that fails leaves the loops.
-/
def loop (handle : LineHandler σ ε)
    : Nat → List UInt8 → Nat → Nat → σ → Option (Except ε (σ × Reader))
  | 0, buffer, _, readpos, s => some (.ok (s, { buffer, readpos }))
  | nread + 1, buffer, p, readpos, s =>
      match buffer[p]? with
      | none => none
      | some c =>
          if c = Lines.lineFeed then
            match handle s buffer p with
            | .error e => some (.error e)
            | .ok (s, buffer) =>
                loop handle nread (if nread = 0 then buffer else memmove buffer (p + 1) nread) 0 0 s
          else
            loop handle nread buffer (p + 1) (readpos + 1) s

/-- Grow the buffer when less than 256 bytes are free. -/
def Reader.grow (reader : Reader) (fresh : Fin 1024 → UInt8) : Reader :=
  if reader.buffer.length - reader.readpos < 256 then
    { reader with buffer := reader.buffer ++ List.ofFn fresh }
  else
    reader

/-- The free space that is offered to a read. -/
def Reader.room (reader : Reader) : Nat :=
  if reader.buffer.length - reader.readpos < 256 then
    reader.buffer.length + 1024 - reader.readpos
  else
    reader.buffer.length - reader.readpos

/-- The read puts its bytes behind those of the unfinished line. -/
def Reader.store (reader : Reader) (bytes : List UInt8) : Reader :=
  { reader with
    buffer := reader.buffer.take reader.readpos ++ bytes
      ++ reader.buffer.drop (reader.readpos + bytes.length) }

/-- One read and the loops over its bytes. More bytes than there is room for would be written
outside of the buffer.
-/
def read (handle : LineHandler σ ε) (s : σ) (reader : Reader) (chunk : Chunk)
    : Option (Except ε (σ × Reader)) :=
  let reader := reader.grow chunk.fresh
  if reader.buffer.length - reader.readpos < chunk.bytes.length then none
  else
    let reader := reader.store chunk.bytes
    loop handle chunk.bytes.length reader.buffer reader.readpos reader.readpos s

/-- Put bytes behind those of the unfinished line and loop over them. -/
def fill (handle : LineHandler σ ε) (s : σ) (reader : Reader) (bytes : List UInt8)
    : Option (Except ε (σ × Reader)) :=
  if reader.buffer.length - reader.readpos < bytes.length then none
  else loop handle bytes.length (reader.store bytes).buffer reader.readpos reader.readpos s

theorem read_eq_fill (handle : LineHandler σ ε) (s : σ) (reader : Reader) (chunk : Chunk)
    : read handle s reader chunk = fill handle s (reader.grow chunk.fresh) chunk.bytes := rfl

/-- Reads one after the other, up to the first error. -/
def readAll (step : σ → Reader → Chunk → Option (Except ε (σ × Reader)))
    : σ → Reader → List Chunk → Option (Except ε (σ × Reader))
  | s, reader, [] => some (.ok (s, reader))
  | s, reader, chunk :: rest =>
      match step s reader chunk with
      | none => none
      | some (.error e) => some (.error e)
      | some (.ok (s, reader)) => readAll step s reader rest

/-- Every read returns something and fits into the space that it is offered. -/
def FitsAll (step : σ → Reader → Chunk → Option (Except ε (σ × Reader)))
    : σ → Reader → List Chunk → Prop
  | _, _, [] => True
  | s, reader, chunk :: rest =>
      chunk.bytes ≠ []
      ∧ chunk.bytes.length ≤ reader.room
      ∧ ∀ s' reader', step s reader chunk = some (.ok (s', reader')) →
          FitsAll step s' reader' rest

-----------------------------------------------------------------------------------------
-- The lines of the stream
-----------------------------------------------------------------------------------------

/-- The reader holds the bytes of an unfinished line. -/
def Reader.Holds (reader : Reader) (pending : Str) : Prop :=
  reader.readpos ≤ reader.buffer.length ∧ reader.buffer.take reader.readpos = pending

/-- A line handler acts on the text of the line, and it may write into the line and its
terminator.
-/
def Handles (handle : LineHandler σ ε) (act : σ → Str → Except ε σ) : Prop :=
  ∀ s buffer p,
    p < buffer.length
    → match act s (buffer.take p) with
      | .error e => handle s buffer p = .error e
      | .ok s' =>
          ∃ left,
            handle s buffer p = .ok (s', left)
            ∧ left.length = buffer.length
            ∧ left.drop (p + 1) = buffer.drop (p + 1)

/-- The result of reading agrees with that of acting on the lines: the same error, or the same
state and the unfinished line in the buffer.
-/
def Agrees (pending : Str) : Except ε (σ × Reader) → Except ε σ → Prop
  | .error e, .error e' => e = e'
  | .ok (s, reader), .ok s' => s = s' ∧ reader.Holds pending
  | _, _ => False

@[simp]
theorem length_memmove {buffer : List UInt8} {start count : Nat}
    (inside : start + count ≤ buffer.length)
    : (memmove buffer start count).length = buffer.length := by
  simp only [memmove, List.length_append, List.length_take, List.length_drop]
  omega

theorem take_memmove {buffer : List UInt8} {start count : Nat}
    (inside : start + count ≤ buffer.length)
    : (memmove buffer start count).take count = (buffer.drop start).take count := by
  unfold memmove
  refine List.take_left' ?_
  simp only [List.length_take, List.length_drop]
  omega

theorem loop_agrees {handle : LineHandler σ ε} {act : σ → Str → Except ε σ}
    (handles : Handles handle act) {nread p : Nat} {buffer : List UInt8} {s : σ}
    (inside : p + nread ≤ buffer.length)
    : ∃ result,
        loop handle nread buffer p p s = some result
        ∧ Agrees (Lines.unfinished (buffer.take p) ((buffer.drop p).take nread)) result
            ((Lines.complete (buffer.take p) ((buffer.drop p).take nread)).foldlM act s) := by
  induction nread generalizing buffer p s with
  | zero =>
      refine ⟨_, rfl, rfl, ?_, ?_⟩
      · simpa using inside
      · simp [Lines.unfinished]
  | succ nread ih =>
      have here : p < buffer.length := by omega
      obtain ⟨c, found⟩ : ∃ c, buffer[p]? = some c := ⟨_, List.getElem?_eq_getElem here⟩
      have split : (buffer.drop p).take (nread + 1) = c :: (buffer.drop (p + 1)).take nread := by
        obtain ⟨_, value⟩ := List.getElem?_eq_some_iff.mp found
        rw [List.drop_eq_getElem_cons here, List.take_succ_cons, value]
      simp only [loop, found, split, Lines.complete, Lines.unfinished]
      by_cases ends : c = Lines.lineFeed
      · rw [if_pos ends, if_pos ends, if_pos ends, List.foldlM_cons]
        have handled := handles s buffer p here
        cases acted : act s (buffer.take p) with
        | error e =>
            rw [acted] at handled
            dsimp only at handled
            rw [handled]
            exact ⟨.error e, rfl, show e = e from rfl⟩
        | ok s' =>
            rw [acted] at handled
            obtain ⟨left, done, length, rest⟩ := handled
            rw [done]
            have moved : ∃ next, (if nread = 0 then left else memmove left (p + 1) nread) = next
                ∧ next.length = buffer.length
                ∧ next.take nread = (buffer.drop (p + 1)).take nread := by
              refine ⟨_, rfl, ?_, ?_⟩
              · split
                · exact length
                · rw [length_memmove (by omega), length]
              · split
                · next none => simp [none]
                · rw [take_memmove (by omega), rest]
            obtain ⟨next, moved, length, kept⟩ := moved
            have ran := @ih 0 next s' (by omega)
            rw [List.drop_zero, List.take_zero, kept] at ran
            rw [← moved] at ran
            exact ran
      · rw [if_neg ends, if_neg ends, if_neg ends]
        have extended : buffer.take p ++ [c] = buffer.take (p + 1) := by
          rw [List.take_add_one, found]
          rfl
        rw [extended]
        exact ih (by omega)

theorem loop_length {handle : LineHandler σ ε} {act : σ → Str → Except ε σ}
    (handles : Handles handle act) {nread p readpos : Nat} {buffer : List UInt8} {s s' : σ}
    {reader : Reader} (inside : p + nread ≤ buffer.length)
    (looped : loop handle nread buffer p readpos s = some (.ok (s', reader)))
    : reader.buffer.length = buffer.length := by
  induction nread generalizing buffer p readpos s with
  | zero =>
      simp only [loop, Option.some.injEq, Except.ok.injEq, Prod.mk.injEq] at looped
      rw [← looped.2]
  | succ nread ih =>
      have here : p < buffer.length := by omega
      rw [loop, List.getElem?_eq_getElem here] at looped
      dsimp only at looped
      split at looped
      · have handled := handles s buffer p here
        split at handled
        · rw [handled] at looped
          cases looped
        · obtain ⟨left, done, length, _⟩ := handled
          rw [done] at looped
          dsimp only at looped
          split at looped
          · rw [ih (by omega) looped, length]
          · have moved : (memmove left (p + 1) nread).length = left.length :=
              length_memmove (by omega)
            rw [ih (by omega) looped, moved, length]
      · exact ih (by omega) looped

theorem fill_length {handle : LineHandler σ ε} {act : σ → Str → Except ε σ}
    (handles : Handles handle act) {s s' : σ} {reader reader' : Reader} {bytes : List UInt8}
    (within : reader.readpos ≤ reader.buffer.length)
    (filled : fill handle s reader bytes = some (.ok (s', reader')))
    : reader'.buffer.length = reader.buffer.length := by
  unfold fill at filled
  split at filled
  · cases filled
  · have length : (reader.store bytes).buffer.length = reader.buffer.length := by
      simp only [Reader.store, List.length_append, List.length_take, List.length_drop]
      omega
    rw [loop_length handles (by omega) filled, length]

theorem Reader.room_eq (reader : Reader) (fresh : Fin 1024 → UInt8)
    : (reader.grow fresh).buffer.length - reader.readpos = reader.room := by
  unfold Reader.grow Reader.room
  split <;> simp only [List.length_append, List.length_ofFn]

theorem fill_agrees {handle : LineHandler σ ε} {act : σ → Str → Except ε σ}
    (handles : Handles handle act) {s : σ} {reader : Reader} {pending bytes : Str}
    (holds : reader.Holds pending) (fits : bytes.length ≤ reader.buffer.length - reader.readpos)
    : ∃ result,
        fill handle s reader bytes = some result
        ∧ Agrees (Lines.unfinished pending bytes) result
            ((Lines.complete pending bytes).foldlM act s) := by
  obtain ⟨within, held⟩ := holds
  unfold fill Reader.store
  dsimp only
  rw [held, if_neg (by omega)]
  have length : pending.length = reader.readpos := by
    rw [← held, List.length_take]
    omega
  have inside : reader.readpos + bytes.length
      ≤ (pending ++ bytes ++ reader.buffer.drop (reader.readpos + bytes.length)).length := by
    simp only [List.length_append, List.length_drop]
    omega
  have early : (pending ++ bytes ++ reader.buffer.drop (reader.readpos + bytes.length)).take
      reader.readpos = pending := by
    rw [List.append_assoc]
    exact List.take_left' length
  have new : ((pending ++ bytes ++ reader.buffer.drop (reader.readpos + bytes.length)).drop
      reader.readpos).take bytes.length = bytes := by
    rw [List.append_assoc, List.drop_left' length]
    exact List.take_left' rfl
  have ran := loop_agrees (s := s) handles inside
  rwa [early, new] at ran

theorem Reader.Holds.grow {reader : Reader} {pending : Str} (holds : reader.Holds pending)
    (fresh : Fin 1024 → UInt8)
    : (reader.grow fresh).Holds pending ∧ (reader.grow fresh).readpos = reader.readpos := by
  obtain ⟨within, held⟩ := holds
  unfold Reader.grow
  split
  · refine ⟨⟨?_, ?_⟩, rfl⟩
    · simp only [List.length_append]
      omega
    · rw [← held]
      exact List.take_append_of_le_length within
  · exact ⟨⟨within, held⟩, rfl⟩

theorem read_agrees {handle : LineHandler σ ε} {act : σ → Str → Except ε σ}
    (handles : Handles handle act) {s : σ} {reader : Reader} {pending : Str} {chunk : Chunk}
    (holds : reader.Holds pending) (fits : chunk.bytes.length ≤ reader.room)
    : ∃ result,
        read handle s reader chunk = some result
        ∧ Agrees (Lines.unfinished pending chunk.bytes) result
            ((Lines.complete pending chunk.bytes).foldlM act s) := by
  obtain ⟨grown, position⟩ := holds.grow chunk.fresh
  rw [← reader.room_eq chunk.fresh, ← position] at fits
  rw [read_eq_fill]
  exact fill_agrees handles grown fits

/-- The bytes of the chunks. -/
def stream (chunks : List Chunk) : Str := chunks.flatMap Chunk.bytes

theorem readAll_agrees {step : σ → Reader → Chunk → Option (Except ε (σ × Reader))}
    {handle : LineHandler σ ε} {act : σ → Str → Except ε σ}
    (reads : ∀ s reader chunk, chunk.bytes ≠ [] → step s reader chunk = read handle s reader chunk)
    (handles : Handles handle act) {s : σ} {reader : Reader} {pending : Str}
    {chunks : List Chunk} (holds : reader.Holds pending) (fits : FitsAll step s reader chunks)
    : ∃ result,
        readAll step s reader chunks = some result
        ∧ Agrees (Lines.unfinished pending (stream chunks)) result
            ((Lines.complete pending (stream chunks)).foldlM act s) := by
  induction chunks generalizing s reader pending with
  | nil => exact ⟨_, rfl, rfl, holds⟩
  | cons chunk rest ih =>
      obtain ⟨nonempty, room, fits⟩ := fits
      have streamed : stream (chunk :: rest) = chunk.bytes ++ stream rest := List.flatMap_cons
      rw [streamed]
      rw [Lines.complete_append, Lines.unfinished_append, List.foldlM_append]
      obtain ⟨result, ran, agrees⟩ := read_agrees (s := s) handles holds room
      rw [← reads s reader chunk nonempty] at ran
      simp only [readAll, ran]
      cases acted : (Lines.complete pending chunk.bytes).foldlM act s with
      | error e =>
          rw [acted] at agrees
          cases result with
          | error e' => exact ⟨.error e', rfl, agrees⟩
          | ok _ => exact absurd agrees id
      | ok s' =>
          rw [acted] at agrees
          cases result with
          | error e' => exact absurd agrees id
          | ok ended =>
              obtain ⟨s'', reader'⟩ := ended
              obtain ⟨rfl, holds'⟩ := agrees
              exact ih holds' (fits s'' reader' ran)

theorem fitsAll_of_short {step : σ → Reader → Chunk → Option (Except ε (σ × Reader))}
    {handle : LineHandler σ ε} {act : σ → Str → Except ε σ}
    (reads : ∀ s reader chunk, chunk.bytes ≠ [] → step s reader chunk = read handle s reader chunk)
    (handles : Handles handle act) {s : σ} {reader : Reader} {pending : Str}
    {chunks : List Chunk} (holds : reader.Holds pending)
    (short : ∀ chunk ∈ chunks, chunk.bytes ≠ [] ∧ chunk.bytes.length ≤ 256)
    : FitsAll step s reader chunks := by
  induction chunks generalizing s reader pending with
  | nil => trivial
  | cons chunk rest ih =>
      obtain ⟨nonempty, few⟩ := short chunk List.mem_cons_self
      have room : chunk.bytes.length ≤ reader.room := by
        have within := holds.1
        unfold Reader.room
        split <;> omega
      refine ⟨nonempty, room, fun s' reader' ran => ?_⟩
      obtain ⟨result, ran', agrees⟩ := read_agrees (s := s) handles holds room
      rw [reads s reader chunk nonempty, ran'] at ran
      cases ran
      cases acted : (Lines.complete pending chunk.bytes).foldlM act s with
      | error e =>
          rw [acted] at agrees
          exact absurd agrees id
      | ok last =>
          rw [acted] at agrees
          exact ih agrees.2 (fun later member => short later (List.mem_cons_of_mem _ member))

end LineBuffer
