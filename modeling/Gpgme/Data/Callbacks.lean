import Gpgme.Data.MemRefinement

/-! `gpgme_data_read`, `gpgme_data_write`, `gpgme_data_seek` and `gpgme_data_rewind` over the
callbacks of any data object. A call on a handle has no result (`none`) while a callback fails
with EINTR more often than the call is followed.
-/

namespace Gpgme.Data

-----------------------------------------------------------------------------------------
-- Data objects
-----------------------------------------------------------------------------------------

inductive Errno where
  | eintr | eagain | epipe | einval | enosys | enomem
  | other (code : Nat)
deriving DecidableEq

/-- What a callback returns: its result, `errno`, and the bytes that a read left in the buffer. -/
structure CbAnswer where
  ret : Int
  errno : Errno := .other 0
  bytes : List UInt8 := []
deriving DecidableEq

/-- `struct _gpgme_data_cbs`, where a callback may be missing, over the object's own state. -/
structure DataCbs (σ : Type) where
  read : Option (σ → Nat → Option (CbAnswer × σ))
  write : Option (σ → List UInt8 → Option (CbAnswer × σ))
  seek : Option (σ → Int → Int → Option (CbAnswer × σ))

/-- The part of `struct gpgme_data` that the calls use. `pending` are the first `pending_len`
bytes of the array, `blankout` is what `_gpgme_data_get_prop` finds; the last two fields record
what the callbacks delivered and took.
-/
structure DataObject (σ : Type) where
  state : σ
  pending : List UInt8 := []
  blankout : Bool := false
  delivered : List UInt8 := []
  stored : List UInt8 := []

-----------------------------------------------------------------------------------------
-- The calls
-----------------------------------------------------------------------------------------

/-- `do res = call (); while (res < 0 && errno == EINTR);` -/
def retry {σ : Type} (call : σ → Option (CbAnswer × σ)) : Nat → σ → Option (CbAnswer × σ)
  | 0, _ => none
  | rounds + 1, state =>
      match call state with
      | none => none
      | some (answer, state) =>
          if answer.ret < 0 ∧ answer.errno = .eintr then retry call rounds state
          else some (answer, state)

/-- `return TRACE_SYSRES ((int)res);`: the tracing function takes and returns an `int`. -/
def traceSysres (answer : CbAnswer) : CbAnswer := { answer with ret := CInt.toInt answer.ret }

section Calls

variable {σ : Type} (cbs : DataCbs σ) (rounds : Nat) (dh : DataObject σ)

/-- `gpgme_data_read`. -/
def gpgmeDataRead (size : Nat) : Option (CbAnswer × DataObject σ) :=
  match cbs.read with
  | none => some (traceSysres { ret := -1, errno := .enosys }, dh)
  | some read =>
      if dh.blankout then some (traceSysres { ret := 0 }, dh)
      else
        (retry (fun state => read state size) rounds dh.state).map (fun (answer, state) =>
          (traceSysres answer, { dh with state, delivered := dh.delivered ++ answer.bytes }))

/-- `gpgme_data_write`. -/
def gpgmeDataWrite (buffer : List UInt8) : Option (CbAnswer × DataObject σ) :=
  match cbs.write with
  | none => some (traceSysres { ret := -1, errno := .enosys }, dh)
  | some write =>
      (retry (fun state => write state buffer) rounds dh.state).map (fun (answer, state) =>
        (traceSysres answer,
          { dh with state, stored := dh.stored ++ buffer.take answer.ret.toNat }))

/-- `gpgme_data_seek`: a relative movement starts at the first byte that is not pending. -/
def gpgmeDataSeek (offset whence : Int) : Option (CbAnswer × DataObject σ) :=
  match cbs.seek with
  | none => some (traceSysres { ret := -1, errno := .enosys }, dh)
  | some seek =>
      let offset := if whence = seekCur then CInt.toOff (offset - dh.pending.length) else offset
      (seek dh.state offset whence).map (fun (answer, state) =>
        (traceSysres answer,
          { dh with state, pending := if 0 ≤ answer.ret then [] else dh.pending }))

/-- `gpgme_data_rewind`: the error, if there is one. -/
def gpgmeDataRewind : Option (Option Errno × DataObject σ) :=
  (gpgmeDataSeek cbs dh 0 seekSet).map (fun (answer, dh) =>
    (if answer.ret = -1 then some answer.errno else none, dh))

end Calls

-----------------------------------------------------------------------------------------
-- Results of the callbacks
-----------------------------------------------------------------------------------------

/-- A call on a data object. -/
inductive DataCall where
  | read (size : Nat)
  | write (buffer : List UInt8)
  | seek (offset whence : Int)

section Results

variable {σ : Type} (cbs : DataCbs σ) (rounds : Nat) (dh : DataObject σ)

/-- The value that a call returns. -/
def DataCall.returned : DataCall → Option Int
  | .read size => (gpgmeDataRead cbs rounds dh size).map (·.1.ret)
  | .write buffer => (gpgmeDataWrite cbs rounds dh buffer).map (·.1.ret)
  | .seek offset whence => (gpgmeDataSeek cbs dh offset whence).map (·.1.ret)

/-- The value that the object's own callback returns to it, if it is called at all. -/
def DataCall.answered : DataCall → Option Int
  | .read size =>
      cbs.read.bind fun read =>
        if dh.blankout then none
        else (retry (fun state => read state size) rounds dh.state).map (·.1.ret)
  | .write buffer =>
      cbs.write.bind fun write =>
        (retry (fun state => write state buffer) rounds dh.state).map (·.1.ret)
  | .seek offset whence =>
      cbs.seek.bind fun seek =>
        (seek dh.state
          (if whence = seekCur then CInt.toOff (offset - dh.pending.length) else offset)
          whence).map (·.1.ret)

/-- Rewinding fails only when the callback fails. -/
def RewindsUnlessFailed : Prop :=
  ∀ err next,
    gpgmeDataRewind cbs dh = some (some err, next)
    → ∀ own, DataCall.answered cbs rounds dh (.seek 0 seekSet) = some own → own < 0

end Results

section Results

variable {σ : Type} {cbs : DataCbs σ} {rounds : Nat} {dh : DataObject σ}

/-- What the callback answers is returned as an `int`. -/
theorem DataCall.returned_eq {call : DataCall} {own : Int}
    (answered : call.answered cbs rounds dh = some own)
    : call.returned cbs rounds dh = some (CInt.toInt own) := by
  cases call with
  | read size =>
      simp only [DataCall.answered, Option.bind_eq_some_iff] at answered
      obtain ⟨read, found, answered⟩ := answered
      split at answered
      · cases answered
      · next allowed =>
          obtain ⟨⟨answer, state⟩, tried, rfl⟩ := Option.map_eq_some_iff.mp answered
          simp [DataCall.returned, gpgmeDataRead, found, allowed, tried, traceSysres]
  | write buffer =>
      simp only [DataCall.answered, Option.bind_eq_some_iff] at answered
      obtain ⟨write, found, answered⟩ := answered
      obtain ⟨⟨answer, state⟩, tried, rfl⟩ := Option.map_eq_some_iff.mp answered
      simp [DataCall.returned, gpgmeDataWrite, found, tried, traceSysres]
  | seek offset whence =>
      simp only [DataCall.answered, Option.bind_eq_some_iff] at answered
      obtain ⟨seek, found, answered⟩ := answered
      obtain ⟨⟨answer, state⟩, moved, rfl⟩ := Option.map_eq_some_iff.mp answered
      simp [DataCall.returned, gpgmeDataSeek, found, moved, traceSysres]

/-- Exactly the values of an `int` are kept. -/
theorem toInt_eq_self_iff {value : Int}
    : CInt.toInt value = value ↔ -2 ^ 31 ≤ value ∧ value < 2 ^ 31 := by
  constructor
  · intro kept
    unfold CInt.toInt at kept
    omega
  · rintro ⟨low, high⟩
    exact CInt.toInt_of_range low high

/-- An error of a rewind is the result -1 of a seek. -/
theorem gpgmeDataRewind_failed {err : Errno} {next : DataObject σ}
    (failed : gpgmeDataRewind cbs dh = some (some err, next))
    : DataCall.returned cbs rounds dh (.seek 0 seekSet) = some (-1) := by
  obtain ⟨⟨answer, moved⟩, sought, outcome⟩ := Option.map_eq_some_iff.mp failed
  simp only [DataCall.returned, sought, Option.map_some, Option.some.injEq]
  dsimp only at outcome
  split at outcome
  · next minus => exact minus
  · cases outcome

/-- A call returns what the callback of the object returns, and a rewind fails with the callback
only, exactly if an `int` can hold that value.
-/
theorem data_results_true_iff (cbs : DataCbs σ) (rounds : Nat) (dh : DataObject σ)
    (call : DataCall)
    : ((∀ own,
          call.answered cbs rounds dh = some own → call.returned cbs rounds dh = some own)
        ∧ (call = .seek 0 seekSet → RewindsUnlessFailed cbs rounds dh))
      ↔ ∀ own, call.answered cbs rounds dh = some own → -2 ^ 31 ≤ own ∧ own < 2 ^ 31 := by
  constructor
  · rintro ⟨same, -⟩ own answered
    have returned := same own answered
    rw [DataCall.returned_eq answered, Option.some.injEq] at returned
    exact toInt_eq_self_iff.mp returned
  · intro fits
    have same (own : Int) (answered : call.answered cbs rounds dh = some own)
        : call.returned cbs rounds dh = some own := by
      rw [DataCall.returned_eq answered, toInt_eq_self_iff.mpr (fits own answered)]
    refine ⟨same, ?_⟩
    rintro rfl err next failed own answered
    have returned := same own answered
    rw [gpgmeDataRewind_failed failed, Option.some.injEq] at returned
    omega

end Results

/-- A file, as far as its position: a seek from the start goes wherever it is asked to. -/
def fileCbs : DataCbs Int where
  read := none
  write := none
  seek := some fun position offset whence =>
    some (if whence = seekSet then ({ ret := offset }, offset) else ({ ret := position }, position))

/-- A position of almost 4 GiB is reported as an error. -/
theorem large_position_lost
    : DataCall.answered fileCbs 1 { state := 0 } (.seek 4294967295 seekSet) = some 4294967295
      ∧ DataCall.returned fileCbs 1 { state := 0 } (.seek 4294967295 seekSet) = some (-1)
      ∧ ¬((∀ own,
            DataCall.answered fileCbs 1 { state := 0 } (.seek 4294967295 seekSet) = some own
            → DataCall.returned fileCbs 1 { state := 0 } (.seek 4294967295 seekSet) = some own)
          ∧ (DataCall.seek 4294967295 seekSet = .seek 0 seekSet
            → RewindsUnlessFailed fileCbs 1 { state := 0 })) := by
  have answered
      : DataCall.answered fileCbs 1 { state := 0 } (.seek 4294967295 seekSet)
        = some 4294967295 := by
    simp [DataCall.answered, fileCbs, seekSet, seekCur]
  have returned
      : DataCall.returned fileCbs 1 { state := 0 } (.seek 4294967295 seekSet) = some (-1) := by
    rw [DataCall.returned_eq answered]
    rfl
  refine ⟨answered, returned, ?_⟩
  rintro ⟨same, -⟩
  have wrong := same _ answered
  rw [returned] at wrong
  simp at wrong

/-- A position below 2 GiB is returned as it is. -/
theorem small_position_kept
    : (∀ own,
        DataCall.answered fileCbs 1 { state := 0 } (.seek 0 seekSet) = some own
        → DataCall.returned fileCbs 1 { state := 0 } (.seek 0 seekSet) = some own)
      ∧ (DataCall.seek 0 seekSet = .seek 0 seekSet
        → RewindsUnlessFailed fileCbs 1 { state := 0 }) := by
  refine (data_results_true_iff fileCbs 1 { state := 0 } (.seek 0 seekSet)).mpr ?_
  intro own answered
  have zero : own = 0 := by
    simpa [DataCall.answered, fileCbs, seekSet, seekCur] using answered.symm
  omega

end Gpgme.Data
