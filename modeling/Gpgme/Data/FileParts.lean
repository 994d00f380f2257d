import Gpgme.Data.MemRefinement
import Gpgme.Error

/-! Data objects that are made from a file, in `data-compat.c`. -/

namespace Gpgme.Data

-----------------------------------------------------------------------------------------
-- Streams
-----------------------------------------------------------------------------------------

/-- The index of `EINTR`. -/
def eintr : Nat := 44

/-- The index of `EINVAL`. -/
def einval : Nat := 45

/-- A stream, and `errno`. Its error indicator is cleared neither by a read nor by a seek. -/
structure FileStream where
  content : List UInt8
  position : Nat := 0
  error : Bool := false
  errno : Nat := 0

/-- What happens during a read: nothing, or an error after some bytes were taken. -/
inductive ReadEvent where
  | plain
  | broken (taken errno : Nat)

/-- The bytes that a read takes: all there are up to the request, or fewer than that. -/
def ReadEvent.amount (event : ReadEvent) (available length : Nat) : Nat :=
  match event with
  | plain => min length available
  | broken taken _ => min taken (min (length - 1) available)

/-- `fread` of one item with `length` bytes, into the start of the block. -/
def fread (event : ReadEvent) (stream : FileStream) (buf : List UInt8) (length : Nat)
    : Nat × FileStream × List UInt8 :=
  if length = 0 then (0, stream, buf)
  else
    let amount := event.amount (stream.content.length - stream.position) length
    let bytes := (stream.content.drop stream.position).take amount
    let buf := SeekableArray.overwrite buf 0 bytes
    let stream := { stream with position := stream.position + amount }
    match event with
    | .plain => (if amount = length then 1 else 0, stream, buf)
    | .broken _ errno => (0, { stream with error := true, errno }, buf)

/-- The loop repeats after this result of `fread`. -/
def repeats (ret : Nat) (stream : FileStream) : Bool :=
  ret < 1 && stream.error && stream.errno == eintr

/-- The loop around `fread`, where nothing happens behind the given events. It has no result if it
does not end.
-/
def readLoop (length : Nat) : List ReadEvent → FileStream → List UInt8
    → Option (FileStream × List UInt8)
  | [], stream, buf =>
      let (ret, stream, buf) := fread .plain stream buf length
      if repeats ret stream then none else some (stream, buf)
  | event :: events, stream, buf =>
      let (ret, stream, buf) := fread event stream buf length
      if repeats ret stream then readLoop length events stream buf else some (stream, buf)

-----------------------------------------------------------------------------------------
-- New data objects
-----------------------------------------------------------------------------------------

/-- What the system contributes: `errno` before the call, an error of `fseeko`, the allocator,
whether there is memory for a data object, and what happens during the reads.
-/
structure FileRun where
  alloc : Alloc
  errno : Nat := 0
  seekError : Option Nat := none
  dataMemory : Bool := true
  events : List ReadEvent := []

/-- The part of `gpgme_data_new_from_filepart` behind the opening of the stream. There is no result
if the function does not return.
-/
def readPart (run : FileRun) (stream : FileStream) (offset : Int) (length : Nat)
    : Option (Except GpgError Mem) :=
  if offset < 0 then some (.error (gpgErrorFromSyserror einval))
  else
    match run.seekError with
    | some errno => some (.error (gpgErrorFromSyserror errno))
    | none =>
        match run.alloc.malloc length with
        | none => some (.error (gpgError ErrCode.enomem))
        | some buf =>
            match readLoop length run.events { stream with position := offset.toNat } buf with
            | none => none
            | some (stream, buf) =>
                if stream.error then some (.error (gpgErrorFromSyserror stream.errno))
                else if run.dataMemory then
                  some (.ok { buffer := some buf, size := length, length := length })
                else some (.error (gpgError ErrCode.enomem))

/-- `gpgme_data_new_from_filepart`; a file name is the content of the file that it opens, if it
does.
-/
def gpgmeDataNewFromFilepart (run : FileRun) (fname : Option (Option (List UInt8)))
    (stream : Option FileStream) (offset : Int) (length : Nat)
    : Option (Except GpgError Mem) :=
  match fname, stream with
  | some _, some _ => some (.error (gpgError ErrCode.invValue))
  | some (some content), none => readPart run { content, errno := run.errno } offset length
  | none, some stream => readPart run stream offset length
  | _, none => some (.error (gpgErrorFromSyserror run.errno))

/-- `gpgme_data_new_from_file`; a file name is what `stat` gives as the size, if it succeeds, and
what the file then contains.
-/
def gpgmeDataNewFromFile (run : FileRun) (fname : Option (Option Int × Option (List UInt8)))
    (copy : Bool)
    : Option (Except GpgError Mem) :=
  match fname with
  | none => some (.error (gpgError ErrCode.invValue))
  | some (stat, opened) =>
      if !copy then some (.error (gpgError ErrCode.invValue))
      else
        match stat with
        | none => some (.error (gpgErrorFromSyserror run.errno))
        | some size => gpgmeDataNewFromFilepart run (some opened) none 0 (CInt.toSize size)

-----------------------------------------------------------------------------------------
-- Reading the file
-----------------------------------------------------------------------------------------

/-- A read never clears the error indicator. -/
theorem fread_error {event : ReadEvent} {stream : FileStream} {buf : List UInt8} {length : Nat}
    (seen : stream.error = true)
    : (fread event stream buf length).2.1.error = true := by
  unfold fread
  split_ifs
  · exact seen
  · cases event with
    | plain => exact seen
    | broken taken errno => rfl

/-- The loop never clears the error indicator, by induction on what happens. -/
theorem readLoop_error {length : Nat} {events : List ReadEvent} {stream last : FileStream}
    {buf bytes : List UInt8} (seen : stream.error = true)
    (ended : readLoop length events stream buf = some (last, bytes))
    : last.error = true := by
  induction events generalizing stream buf with
  | nil =>
      rw [readLoop] at ended
      dsimp only at ended
      split_ifs at ended
      cases ended
      exact fread_error seen
  | cons event events ih =>
      rw [readLoop] at ended
      dsimp only at ended
      split_ifs at ended
      · exact ih (fread_error seen) ended
      · cases ended
        exact fread_error seen

/-- A read that leaves no error takes the bytes of the file up to the request. -/
theorem fread_bytes (event : ReadEvent) (stream : FileStream) (buf : List UInt8) (length : Nat)
    (noError : (fread event stream buf length).2.1.error = false)
    : (fread event stream buf length).2.2
      = SeekableArray.overwrite buf 0 ((stream.content.drop stream.position).take length) := by
  unfold fread at noError ⊢
  by_cases none : length = 0
  · rw [if_pos none, none]
    simp [SeekableArray.overwrite]
  · rw [if_neg none] at noError ⊢
    cases event with
    | plain =>
        dsimp only [ReadEvent.amount]
        congr 1
        rw [List.take_eq_take_iff, List.length_drop]
        omega
    | broken taken errno => cases noError

/-- A loop that ends without an error has read once, by cases on what happens first. -/
theorem readLoop_read {length : Nat} {events : List ReadEvent} {stream last : FileStream}
    {buf bytes : List UInt8} (ended : readLoop length events stream buf = some (last, bytes))
    (noError : last.error = false)
    : bytes
      = SeekableArray.overwrite buf 0 ((stream.content.drop stream.position).take length) := by
  have once {event : ReadEvent}
      (left : (fread event stream buf length).2 = (last, bytes))
      : bytes
        = SeekableArray.overwrite buf 0 ((stream.content.drop stream.position).take length) := by
    have read := fread_bytes event stream buf length
    rw [left] at read
    exact read noError
  cases events with
  | nil =>
      rw [readLoop] at ended
      dsimp only at ended
      split_ifs at ended
      exact once (Option.some.inj ended)
  | cons event events =>
      rw [readLoop] at ended
      dsimp only at ended
      split_ifs at ended with again
      · -- The loop goes on only behind an error.
        have seen : (fread event stream buf length).2.1.error = true := by
          rw [repeats, Bool.and_eq_true, Bool.and_eq_true] at again
          exact again.1.2
        rw [readLoop_error seen ended] at noError
        cases noError
      · exact once (Option.some.inj ended)

-----------------------------------------------------------------------------------------
-- The content of the object
-----------------------------------------------------------------------------------------

/-- A call of one of the two functions with its arguments. -/
inductive FileCall where
  | part (fname : Option (Option (List UInt8))) (stream : Option FileStream) (offset : Int)
    (length : Nat)
  | whole (fname : Option (Option Int × Option (List UInt8))) (copy : Bool)

namespace FileCall

def run (call : FileCall) (system : FileRun) : Option (Except GpgError Mem) :=
  match call with
  | part fname stream offset length =>
      gpgmeDataNewFromFilepart system fname stream offset length
  | whole fname copy => gpgmeDataNewFromFile system fname copy

/-- The content of the file that is read. -/
def file : FileCall → List UInt8
  | part (some opened) _ _ _ => opened.getD []
  | part none stream _ _ => (stream.map FileStream.content).getD []
  | whole fname _ => (fname.bind Prod.snd).getD []

def offset : FileCall → Nat
  | part _ _ offset _ => offset.toNat
  | whole _ _ => 0

/-- The length that is asked for, or that `stat` announces. -/
def length : FileCall → Nat
  | part _ _ _ length => length
  | whole fname _ => CInt.toSize ((fname.bind Prod.fst).getD 0)

/-- The bytes of the file that are asked for, as far as they are there. -/
def bytes (call : FileCall) : List UInt8 := (call.file.drop call.offset).take call.length

end FileCall

/-- An object of a number of bytes that starts with those that were read. -/
structure HoldsRead (mem : Mem) (read : List UInt8) (size : Nat) : Prop where
  wellFormed : mem.WellFormed
  start : mem.offset = 0
  length : mem.length = size
  starts : read <+: mem.contents

/-- An object in a block that the read bytes were written to holds them. -/
theorem holdsRead_of_block {alloc : Alloc} {block read : List UInt8} {size : Nat}
    (granted : alloc.malloc size = some block) (fits : read.length ≤ size)
    : HoldsRead
        { buffer := some (SeekableArray.overwrite block 0 read), size := size, length := size }
        read size := by
  obtain ⟨blockLength, small⟩ := Alloc.malloc_length granted
  have stored : (SeekableArray.overwrite block 0 read).length = size := by
    rw [SeekableArray.length_overwrite read (Nat.zero_le _)]
    omega
  refine ⟨⟨le_rfl, Int.natCast_nonneg size, le_rfl, small, stored⟩, rfl, rfl, ?_⟩
  have contents
      : Mem.contents
          { buffer := some (SeekableArray.overwrite block 0 read), size := size, length := size }
        = SeekableArray.overwrite block 0 read :=
    List.take_of_length_le (le_of_eq stored)
  rw [contents, SeekableArray.overwrite, List.take_zero, List.nil_append]
  exact List.prefix_append _ _

/-- A part that is returned without an error holds what was read of the stream. -/
theorem readPart_holds {system : FileRun} {stream : FileStream} {offset : Int} {length : Nat}
    {mem : Mem} (made : readPart system stream offset length = some (.ok mem))
    : HoldsRead mem ((stream.content.drop offset.toNat).take length) length := by
  unfold readPart at made
  split at made
  · cases made
  split at made
  · cases made
  split at made
  · cases made
  next block granted =>
  split at made
  · cases made
  next last bytes ended =>
  split at made
  · cases made
  next noError =>
  split at made
  · have same := Except.ok.inj (Option.some.inj made)
    subst same
    rw [readLoop_read ended (by simpa using noError)]
    exact holdsRead_of_block granted (List.length_take_le _ _)
  · cases made

/-- An object from a part of a file holds the bytes that were read. -/
theorem newFromFilepart_holds {system : FileRun} {fname : Option (Option (List UInt8))}
    {stream : Option FileStream} {offset : Int} {length : Nat} {mem : Mem}
    (made : gpgmeDataNewFromFilepart system fname stream offset length = some (.ok mem))
    : HoldsRead mem (FileCall.part fname stream offset length).bytes length := by
  unfold gpgmeDataNewFromFilepart at made
  split at made
  · cases made
  · exact readPart_holds made
  · exact readPart_holds made
  · cases made

/-- An object that is returned without an error holds what was read of the file. -/
theorem FileCall.run_holds {call : FileCall} {system : FileRun} {mem : Mem}
    (made : call.run system = some (.ok mem))
    : HoldsRead mem call.bytes call.length := by
  cases call with
  | part fname stream offset length => exact newFromFilepart_holds made
  | whole fname copy =>
      change gpgmeDataNewFromFile system fname copy = some (.ok mem) at made
      unfold gpgmeDataNewFromFile at made
      split at made
      · cases made
      · next stat opened =>
          split at made
          · cases made
          split at made
          · cases made
          · exact newFromFilepart_holds made

-----------------------------------------------------------------------------------------
-- What can be read
-----------------------------------------------------------------------------------------

/-- The bytes that are read in turn with some sizes. -/
def readRun (mem : Mem) : List Nat → Option (List UInt8)
  | [] => some []
  | size :: sizes =>
      (memRead mem size).bind (fun (_, bytes, mem) => (readRun mem sizes).map (bytes ++ ·))

/-- Reads in turn give the bytes of the array from its position on, by induction on the sizes. -/
theorem readRun_refines {mem : Mem} {array : SeekableArray UInt8} (refines : mem.Refines array)
    (sizes : List Nat)
    : readRun mem sizes = some ((array.contents.drop array.pos).take sizes.sum) := by
  induction sizes generalizing mem array with
  | nil => simp [readRun]
  | cons size sizes ih =>
      obtain ⟨next, read, refines, -⟩ := memRead_refines refines size
      rw [readRun, read, Option.bind_some]
      dsimp only
      rw [ih refines, Option.map_some, List.sum_cons, List.take_add]
      have behind
          : array.contents.drop (array.pos + min size (array.contents.length - array.pos))
            = (array.contents.drop array.pos).drop size := by
        rw [List.drop_drop]
        rcases Nat.le_total size (array.contents.length - array.pos) with inside | beyond
        · rw [Nat.min_eq_left inside]
        · rw [Nat.min_eq_right beyond, List.drop_eq_nil_of_le (by omega),
            List.drop_eq_nil_of_le (by omega)]
      rw [SeekableArray.next, SeekableArray.read, behind]

/-- All that can be read is in the part of the file, and is the whole part if the file has it. -/
def HoldsPart (mem : Mem) (call : FileCall) : Prop :=
  ∀ sizes,
    ∃ bytes,
      readRun mem sizes = some bytes
      ∧ bytes <+: call.file.drop call.offset
      ∧ (call.offset + call.length ≤ call.file.length → call.length ≤ sizes.sum →
          bytes = call.bytes)

/-- The reads of a new object give its bytes from the first one on. -/
theorem HoldsRead.readRun {mem : Mem} {read : List UInt8} {size : Nat}
    (holds : HoldsRead mem read size) (sizes : List Nat)
    : readRun mem sizes = some (mem.contents.take sizes.sum) := by
  have refines : mem.Refines (.start mem.contents) :=
    Mem.refines_iff.mpr ⟨holds.wellFormed, rfl, holds.start⟩
  rw [readRun_refines refines]
  rfl

/-- Where the file has the bytes that are asked for, the object holds them. -/
theorem HoldsRead.contents_eq {mem : Mem} {call : FileCall}
    (holds : HoldsRead mem call.bytes call.length)
    (there : call.offset + call.length ≤ call.file.length ∨ call.length = 0)
    : mem.contents = call.bytes := by
  have available : call.bytes.length = call.length := by
    rw [FileCall.bytes, List.length_take, List.length_drop]
    omega
  have size : mem.contents.length = call.length := by
    rw [holds.wellFormed.length_contents, holds.length]
  exact (holds.starts.eq_of_length (by rw [available, size])).symm

/-- An object holds the part exactly where the file has as many bytes as it has. -/
theorem HoldsRead.holdsPart_iff {mem : Mem} {call : FileCall}
    (holds : HoldsRead mem call.bytes call.length)
    : HoldsPart mem call
      ↔ call.offset + call.length ≤ call.file.length ∨ call.length = 0 := by
  constructor
  · intro part
    obtain ⟨bytes, read, inFile, -⟩ := part [call.length]
    have size : mem.contents.length = call.length := by
      rw [holds.wellFormed.length_contents, holds.length]
    rw [holds.readRun, List.sum_singleton, ← size, List.take_length] at read
    cases read
    have short := inFile.length_le
    rw [size, List.length_drop] at short
    omega
  · intro there sizes
    have whole := holds.contents_eq there
    refine ⟨_, holds.readRun sizes, ?_, ?_⟩
    · rw [whole]
      exact (List.take_prefix _ _).trans (List.take_prefix _ _)
    · intro _ enough
      have short : call.bytes.length ≤ call.length := List.length_take_le _ _
      rw [whole, List.take_of_length_le (by omega)]

/-- Objects that two calls return for the same file hold only bytes of the file, the same ones for
both systems, exactly where the file has the bytes that are asked for or announced, or none are.
-/
theorem file_data_holds_file_iff (call : FileCall) (first second : FileRun) (left right : Mem)
    (leftMade : call.run first = some (.ok left)) (rightMade : call.run second = some (.ok right))
    : (HoldsPart left call
        ∧ HoldsPart right call
        ∧ ∀ sizes, readRun left sizes = readRun right sizes)
      ↔ call.offset + call.length ≤ call.file.length ∨ call.length = 0 := by
  have leftHolds := call.run_holds leftMade
  have rightHolds := call.run_holds rightMade
  constructor
  · rintro ⟨part, -, -⟩
    exact leftHolds.holdsPart_iff.mp part
  · intro there
    refine ⟨leftHolds.holdsPart_iff.mpr there, rightHolds.holdsPart_iff.mpr there, ?_⟩
    intro sizes
    rw [leftHolds.readRun, rightHolds.readRun, leftHolds.contents_eq there,
      rightHolds.contents_eq there]

/-- A system whose memory holds one byte everywhere. -/
def filledWith (junk : UInt8) : FileRun where
  alloc :=
    { grant := fun size => if size < 2 ^ 63 then some (fun _ => junk) else none
      bounded := fun _ large => if_neg (Nat.not_lt.mpr large) }

/-- The second and the third byte of a file. -/
def middlePart : FileCall := .part (some (some [97, 98, 99, 100])) none 1 2

/-- Two bytes in the middle of a file are the same for all systems. -/
theorem middle_part_held
    : ∃ left right,
        middlePart.run (filledWith 0) = some (.ok left)
        ∧ middlePart.run (filledWith 120) = some (.ok right)
        ∧ HoldsPart left middlePart
        ∧ HoldsPart right middlePart
        ∧ ∀ sizes, readRun left sizes = readRun right sizes :=
  ⟨{ buffer := some [98, 99], size := 2, length := 2 },
    { buffer := some [98, 99], size := 2, length := 2 }, rfl, rfl,
    (file_data_holds_file_iff middlePart (filledWith 0) (filledWith 120)
      { buffer := some [98, 99], size := 2, length := 2 }
      { buffer := some [98, 99], size := 2, length := 2 } rfl rfl).mpr (by decide)⟩

/-- With a file that is shorter than the request, what was in the memory can be read. -/
theorem short_file_shows_memory
    : ¬∀ (call : FileCall) (first second : FileRun) (left right : Mem),
        call.run first = some (.ok left) →
        call.run second = some (.ok right) →
        HoldsPart left call
        ∧ HoldsPart right call
        ∧ ∀ sizes, readRun left sizes = readRun right sizes := by
  intro all
  obtain ⟨-, -, same⟩ :=
    all (.part (some (some [97])) none 0 2) (filledWith 0) (filledWith 120)
      { buffer := some [97, 0], size := 2, length := 2 }
      { buffer := some [97, 120], size := 2, length := 2 } rfl rfl
  exact absurd (same [2]) (by decide)

end Gpgme.Data
