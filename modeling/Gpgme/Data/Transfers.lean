import Gpgme.Data.Handlers

/-! Transfers from a data object in memory, which can be asked for its position at any time. -/

namespace Gpgme.Data

-----------------------------------------------------------------------------------------
-- Memory as a data object
-----------------------------------------------------------------------------------------

/-- `mem_cbs` with one behaviour of the allocator. -/
def memCbs (alloc : Alloc) : DataCbs Mem where
  read := some fun mem size =>
    (memRead mem size).map fun (ret, bytes, next) => ({ ret, bytes }, next)
  write := some fun mem buffer =>
    (memWrite alloc mem buffer).map fun (ret, next) => ({ ret, errno := .enomem }, next)
  seek := some fun mem offset whence =>
    some ({ ret := (memSeek mem offset whence).1, errno := .einval },
      (memSeek mem offset whence).2)

/-- A read from memory delivers the next bytes, unless the object is blanked. -/
theorem gpgmeDataRead_mem {alloc : Alloc} {rounds size : Nat} {dh next : DataObject Mem}
    {array : SeekableArray UInt8} (refines : dh.state.Refines array) (small : size < 2 ^ 31)
    {answer : CbAnswer}
    (called : gpgmeDataRead (memCbs alloc) rounds dh size = some (answer, next))
    : (dh.blankout = true ∧ answer.ret = 0 ∧ next = dh)
      ∨ (dh.blankout = false
        ∧ answer.ret = (array.next size).length
        ∧ answer.bytes = array.next size
        ∧ next.state.Refines (array.read size)
        ∧ next.pending = dh.pending
        ∧ next.blankout = dh.blankout) := by
  simp only [gpgmeDataRead, memCbs] at called
  split at called
  · next blanked =>
      cases called
      exact .inl ⟨blanked, rfl, rfl⟩
  · next plain =>
      obtain ⟨⟨own, mem⟩, tried, same⟩ := Option.map_eq_some_iff.mp called
      cases same
      obtain ⟨moved, read, kept, -⟩ := memRead_refines refines size
      have short : (array.next size).length ≤ size := by
        rw [array.length_next]
        omega
      cases rounds with
      | zero => cases tried
      | succ rounds =>
          rw [retry, read] at tried
          simp only [Option.map_some] at tried
          rw [if_neg (by omega)] at tried
          cases tried
          rw [traceSysres_of_range (by dsimp only; omega) (by dsimp only; omega)]
          exact .inr ⟨by simpa using plain, rfl, rfl, kept, rfl, rfl⟩

-----------------------------------------------------------------------------------------
-- Positions during a transfer
-----------------------------------------------------------------------------------------

/-- A call of the handler, or the question for the position. -/
inductive MemEvent where
  | transfer (rounds : Nat) (io : IoWrite)
  | tell

/-- An event; the output is the position that was asked for. -/
def memStep (alloc : Alloc) (out : Outbound Mem)
    : MemEvent → Option (Option Int × Outbound Mem)
  | .transfer rounds io =>
      (outboundStep (memCbs alloc) out (rounds, io)).map fun (_, next) => (none, next)
  | .tell =>
      (gpgmeDataSeek (memCbs alloc) out.dh 0 seekCur).map fun (answer, dh) =>
        (some answer.ret, { out with dh })

/-- The bytes from `start` on were read, and they are written or pending. -/
structure MemExact (whole : List UInt8) (start : Nat) (out : Outbound Mem)
    (array : SeekableArray UInt8) : Prop where
  refines : out.dh.state.Refines array
  contents : array.contents = whole
  later : start ≤ array.pos
  moved : out.pipe.written ++ out.dh.pending = (whole.drop start).take (array.pos - start)

section Positions

variable {alloc : Alloc} {whole : List UInt8} {start : Nat} {out : Outbound Mem}
  {array : SeekableArray UInt8}

/-- The first byte that was not written stands behind the written ones. -/
theorem MemExact.position (exact : MemExact whole start out array)
    : start + out.pipe.written.length + out.dh.pending.length = array.pos := by
  have moved := congrArg List.length exact.moved
  have bounded := array.bounded
  have later := exact.later
  rw [exact.contents] at bounded
  rw [List.length_append, List.length_take, List.length_drop] at moved
  omega

/-- What was written is the start of what there was to write. -/
theorem MemExact.written (exact : MemExact whole start out array)
    : out.pipe.written = (whole.drop start).take out.pipe.written.length := by
  have cut := congrArg (List.take out.pipe.written.length) exact.moved
  have position := exact.position
  rwa [List.take_left, List.take_take, Nat.min_eq_left (by omega)] at cut

/-- Asking for the position answers that of the first byte that was not written, and the
pending bytes are read again.
-/
theorem MemExact.tell (alloc : Alloc) (exact : MemExact whole start out array)
    : ∃ next array',
        gpgmeDataSeek (memCbs alloc) out.dh 0 seekCur
          = some (traceSysres {
              ret := ((start + out.pipe.written.length : Nat) : Int)
              errno := .einval }, next)
        ∧ MemExact whole start { out with dh := next } array'
        ∧ next.pending = []
        ∧ next.blankout = out.dh.blankout := by
  have position := exact.position
  have bounded := array.bounded
  obtain ⟨wf, -, -⟩ := Mem.refines_iff.mp exact.refines
  obtain ⟨-, kept, pos⟩ := Mem.refines_iff.mp exact.refines
  have size := wf.length_contents
  rw [kept] at size
  have small : array.pos < 2 ^ 63 := by
    have := wf.lengthLe
    have := wf.sizeLt
    omega
  have back : CInt.toOff (0 - out.dh.pending.length) = -(out.dh.pending.length : Int) := by
    rw [CInt.toOff_of_range (by omega) (by omega)]
    omega
  obtain ⟨mem, sought, refines, -⟩ :=
    memSeek_refines exact.refines seekCur
      (show -2 ^ 63 < -(out.dh.pending.length : Int) by omega) (by omega)
  have asked
      : seekTarget array (-(out.dh.pending.length : Int)) seekCur
        = some ((start + out.pipe.written.length : Nat) : Int) := by
    rw [seekTarget, if_neg (show ¬seekCur = seekSet by decide), if_pos rfl, Option.some.injEq]
    omega
  have inside : start + out.pipe.written.length ≤ array.contents.length := by omega
  have moved
      : (seekTarget array (-(out.dh.pending.length : Int)) seekCur).bind array.seek
        = some ⟨array.contents, start + out.pipe.written.length, inside⟩ := by
    rw [asked, Option.bind_some, SeekableArray.seek, dif_pos ⟨by omega, by omega⟩]
    simp only [Int.toNat_natCast]
  refine ⟨{ out.dh with state := mem, pending := [] },
    ⟨array.contents, start + out.pipe.written.length, inside⟩, ?_, ⟨?_, exact.contents, ?_, ?_⟩,
    rfl, rfl⟩
  · simp only [gpgmeDataSeek, memCbs, if_true, back, Option.map_some, sought, seekAnswer, moved]
    rw [if_pos (by omega)]
  · rwa [seekArray, moved] at refines
  · exact Nat.le_add_right _ _
  · dsimp only
    rw [List.append_nil, Nat.add_sub_cancel_left]
    exact exact.written

/-- Closing the pipe moves nothing. -/
theorem MemExact.close (exact : MemExact whole start out array)
    : MemExact whole start { out with pipe := { out.pipe with closed := true } } array :=
  ⟨exact.refines, exact.contents, exact.later, exact.moved⟩

/-- What a write leaves of an exact transfer. -/
theorem MemExact.writePending {io : IoWrite} {err : Option Errno} {next : Outbound Mem}
    (exact : MemExact whole start out array) (wrote : Data.writePending out io = (err, next))
    : MemExact whole start next array
      ∧ next.dh.blankout = out.dh.blankout
      ∧ (next.pipe.closed = true → out.pipe.closed = true ∨ io = .failed .epipe) := by
  obtain ⟨moved, -, state, blankout, closing⟩ := writePending_spec wrote
  refine ⟨⟨state ▸ exact.refines, exact.contents, exact.later, ?_⟩, blankout, ?_⟩
  · rw [moved]
    exact exact.moved
  · intro closed
    rcases closing with same | broken
    · exact .inl (same.symm.trans closed)
    · exact .inr broken

/-- The bytes that a read takes from the array are the next ones of the transfer. -/
theorem MemExact.read {dh : DataObject Mem} {size : Nat}
    (exact : MemExact whole start out array) (nothing : out.dh.pending = [])
    (refines : dh.state.Refines (array.read size))
    : MemExact whole start
        { out with dh := { dh with pending := array.next size } } (array.read size) := by
  have later := exact.later
  refine ⟨refines, exact.contents, Nat.le_trans later (Nat.le_add_right _ _), ?_⟩
  have moved := exact.moved
  rw [nothing, List.append_nil] at moved
  have position : start + (array.pos - start) = array.pos := Nat.add_sub_cancel' later
  simp only [SeekableArray.read, SeekableArray.next, moved, exact.contents]
  rw [Nat.sub_add_comm later, List.take_add, List.drop_drop, position]
  congr 1
  rw [List.take_eq_take_iff, List.length_drop]
  omega

/-- A call of the handler moves on over the bytes that it takes. -/
theorem MemExact.transfer {rounds : Nat} {io : IoWrite} {err : Option Errno} {next : Outbound Mem}
    (exact : MemExact whole start out array)
    (handled : outboundHandler (memCbs alloc) rounds out io = some (err, next))
    : (∃ array', MemExact whole start next array')
      ∧ next.dh.blankout = out.dh.blankout
      ∧ (next.pipe.closed = true
        → out.pipe.closed = true ∨ io = .failed .epipe ∨ out.dh.blankout = true
          ∨ next.pipe.written = whole.drop start) := by
  unfold outboundHandler at handled
  split at handled
  · next nothing =>
      split at handled
      · cases handled
      · next answer dh called =>
          rcases gpgmeDataRead_mem exact.refines (by decide) called with
            ⟨blanked, zero, rfl⟩ | ⟨-, ret, bytes, refines, pending, blankout⟩
          · rw [if_neg (by omega), if_pos zero] at handled
            cases handled
            exact ⟨⟨array, exact.close⟩, rfl, fun _ => .inr (.inr (.inl blanked))⟩
          · rw [if_neg (by omega)] at handled
            have taken := exact.read nothing refines
            split at handled
            · next atEnd =>
                cases handled
                have nothingLeft : array.next bufferSize = [] :=
                  List.eq_nil_of_length_eq_zero (by omega)
                have final : array.pos = array.contents.length := by
                  have length := array.length_next bufferSize
                  have bounded := array.bounded
                  have positive : 0 < bufferSize := by decide
                  rw [nothingLeft, List.length_nil] at length
                  omega
                rw [nothingLeft, ← nothing, ← pending] at taken
                refine ⟨⟨_, taken.close⟩, blankout, fun _ => .inr (.inr (.inr ?_))⟩
                have moved := exact.moved
                rw [nothing, List.append_nil, final, exact.contents] at moved
                rw [moved, List.take_of_length_le (by rw [List.length_drop])]
            · have whole : answer.bytes.take answer.ret.toNat = array.next bufferSize := by
                rw [bytes, ret, Int.toNat_natCast, List.take_length]
              rw [whole] at handled
              obtain ⟨kept, same, closing⟩ := taken.writePending (Option.some.inj handled)
              refine ⟨⟨_, kept⟩, same.trans blankout, ?_⟩
              intro closed
              rcases closing closed with already | broken
              · exact .inl already
              · exact .inr (.inl broken)
  · obtain ⟨kept, same, closing⟩ := exact.writePending (Option.some.inj handled)
    refine ⟨⟨_, kept⟩, same, ?_⟩
    intro closed
    rcases closing closed with already | broken
    · exact .inl already
    · exact .inr (.inl broken)

/-- An event keeps an exact transfer exact. -/
theorem MemExact.step {event : MemEvent} {told : Option Int} {next : Outbound Mem}
    (exact : MemExact whole start out array) (stepped : memStep alloc out event = some (told, next))
    : ∃ array', MemExact whole start next array' := by
  cases event with
  | tell =>
      obtain ⟨dh, array', sought, kept, -, -⟩ := exact.tell alloc
      simp only [memStep, sought, Option.map_some, Option.some.injEq, Prod.mk.injEq] at stepped
      obtain ⟨-, rfl⟩ := stepped
      exact ⟨array', kept⟩
  | transfer rounds io =>
      obtain ⟨⟨err, after⟩, handled, same⟩ := Option.map_eq_some_iff.mp stepped
      cases same
      rw [outboundStep] at handled
      split at handled
      · cases handled
      · exact (exact.transfer handled).1

/-- No write to the pipe finds its other end closed. -/
def MemEvent.Unbroken : MemEvent → Prop
  | .transfer _ io => io ≠ .failed .epipe
  | .tell => True

/-- A closed pipe got everything, unless the object was blanked. -/
def WrittenAtEof (whole : List UInt8) (start : Nat) (out : Outbound Mem) : Prop :=
  out.pipe.closed = true → out.dh.blankout = true ∨ out.pipe.written = whole.drop start

/-- A step of a transfer closes the descriptor only when everything was written. -/
theorem MemExact.step_eof {event : MemEvent} {told : Option Int} {next : Outbound Mem}
    (exact : MemExact whole start out array) (complete : WrittenAtEof whole start out)
    (unbroken : event.Unbroken) (stepped : memStep alloc out event = some (told, next))
    : WrittenAtEof whole start next := by
  intro now
  cases event with
  | tell =>
      obtain ⟨dh, array', sought, -, -, blank⟩ := exact.tell alloc
      simp only [memStep, sought, Option.map_some, Option.some.injEq, Prod.mk.injEq] at stepped
      obtain ⟨-, rfl⟩ := stepped
      rw [blank]
      exact complete now
  | transfer rounds io =>
      obtain ⟨⟨err, after⟩, handled, same⟩ := Option.map_eq_some_iff.mp stepped
      cases same
      rw [outboundStep] at handled
      split at handled
      · cases handled
      · next isOpen =>
          obtain ⟨-, blankout, closing⟩ := exact.transfer handled
          rw [blankout]
          rcases closing now with already | broken | blanked | all
          · exact absurd already isOpen
          · exact absurd broken unbroken
          · exact .inl blanked
          · exact .inr all

/-- What one event keeps, any events keep, by induction on them. -/
theorem mem_run {events : List MemEvent} {told : List (Option Int)} {last : Outbound Mem}
    (exact : MemExact whole start out array)
    (ran : Machine.run (memStep alloc) out events = some (told, last))
    : (∃ array', MemExact whole start last array')
      ∧ (WrittenAtEof whole start out
        → (∀ event ∈ events, event.Unbroken) → WrittenAtEof whole start last) := by
  induction events generalizing out array told with
  | nil =>
      cases ran
      exact ⟨⟨array, exact⟩, fun complete _ => complete⟩
  | cons event rest ih =>
      obtain ⟨first, next, later, stepped, tail, -⟩ := Machine.run_cons_iff.mp ran
      obtain ⟨array', kept⟩ := exact.step stepped
      obtain ⟨final, complete⟩ := ih kept tail
      refine ⟨final, fun before unbroken => ?_⟩
      exact complete (exact.step_eof before (unbroken event List.mem_cons_self) stepped)
        fun event member => unbroken event (List.mem_cons_of_mem _ member)

end Positions

-----------------------------------------------------------------------------------------
-- Both directions
-----------------------------------------------------------------------------------------

/-- Transfers between pipes and data objects are exact, for all callbacks that count right and
all answers of the pipe: the pipe gets what the object delivers, and the object takes what the
pipe delivers.
-/
theorem transfers_exact {σ : Type} {cbs : DataCbs σ} (counts : cbs.CountsRight)
    : (∀ out calls errs last,
        Outbound.Exact out
        → out.pipe.closed = false
        → Machine.run (outboundStep cbs) out calls = some (errs, last)
        → last.pipe.written ++ last.dh.pending = last.dh.delivered
          ∧ ((∀ call ∈ calls, call.2 ≠ .failed .epipe)
            → last.pipe.closed = true → last.pipe.written = last.dh.delivered))
      ∧ (∀ alloc mem blankout events told last,
        Mem.WellFormed mem
        → Machine.run (memStep alloc) { dh := { state := mem, blankout } } events
          = some (told, last)
        → last.pipe.written <+: mem.contents.drop mem.offset.toNat
          ∧ (mem.offset + last.pipe.written.length < 2 ^ 31
            → ∃ answer next,
                gpgmeDataSeek (memCbs alloc) last.dh 0 seekCur = some (answer, next)
                ∧ answer.ret = mem.offset + last.pipe.written.length
                ∧ next.pending = [])
          ∧ ((∀ event ∈ events, event.Unbroken)
            → last.pipe.closed = true
            → last.dh.blankout = true
              ∨ last.pipe.written = mem.contents.drop mem.offset.toNat))
      ∧ (∀ into calls errs last,
        DataObject.Takes into.dh
        → Machine.run (inboundStep cbs.recorded) into calls = some (errs, last)
        → (∀ err ∈ errs, err = none)
        → last.dh.state.2 = into.dh.state.2 ++ calls.flatMap (·.2.bytes))
      ∧ ∀ rounds into io,
        (∀ dh buffer, gpgmeDataWrite cbs rounds dh buffer ≠ none)
        → ∃ err next, inboundHandler cbs rounds into io = some (err, next) := by
  refine ⟨?_, ?_, ?_, ?_⟩
  · intro out calls errs last exact isOpen ran
    exact outbound_run counts exact isOpen ran
  · intro alloc mem blankout events told last wf ran
    have nonneg := wf.offsetNonneg
    have start
        : MemExact mem.contents mem.offset.toNat { dh := { state := mem, blankout } }
            (mem.view wf) :=
      ⟨⟨wf, rfl⟩, rfl, Nat.le_refl _, by simp [Mem.view]⟩
    obtain ⟨⟨array, exact⟩, complete⟩ := mem_run start ran
    refine ⟨List.prefix_iff_eq_take.mpr exact.written, ?_, ?_⟩
    · intro small
      obtain ⟨next, -, sought, -, nothing, -⟩ := exact.tell alloc
      refine ⟨_, next, sought, ?_, nothing⟩
      simp only [traceSysres]
      rw [CInt.toInt_of_range (by omega) (by omega)]
      omega
    · intro unbroken closed
      exact complete (fun early => absurd early Bool.false_ne_true) unbroken closed
  · intro into calls errs last takes ran succeeded
    exact inbound_taken counts takes ran succeeded
  · intro rounds into io answers
    exact inboundHandler_total counts answers into io

/-- An object that moves two bytes at a time. -/
def pairCbs : DataCbs (List UInt8) where
  read := some fun state size =>
    let bytes := state.take (min 2 size)
    some ({ ret := bytes.length, bytes }, state.drop (min 2 size))
  write := some fun state buffer =>
    some ({ ret := (buffer.take 2).length }, state ++ buffer.take 2)
  seek := none

/-- The callbacks of the sample count what they give and take. -/
theorem pairCbs_countsRight : pairCbs.CountsRight where
  read read found state size answer next small answered := by
    cases found
    cases answered
    refine .inr ⟨rfl, ?_⟩
    dsimp only
    rw [List.length_take]
    omega
  write write found state buffer answer next small answered := by
    cases found
    cases answered
    refine .inr ⟨Int.natCast_nonneg _, ?_⟩
    dsimp only
    rw [List.length_take]
    omega

/-- Three bytes on their way out, with a full pipe and a partial write. -/
def pairCalls : List (Nat × IoWrite) :=
  [(1, .takes 1), (1, .failed .eagain), (1, .takes 9), (1, .takes 9), (1, .takes 9)]

/-- A transfer of two bytes out and in. -/
theorem pair_transfers_exact
    : (∃ errs last,
        Machine.run (outboundStep pairCbs) { dh := { state := [1, 2, 3] } } pairCalls
          = some (errs, last)
        ∧ last.pipe.written = [1, 2, 3]
        ∧ last.pipe.written ++ last.dh.pending = last.dh.delivered)
      ∧ ∃ errs last,
        Machine.run (inboundStep pairCbs.recorded) { dh := { state := ([], []) } }
            [(1, .got [1, 2, 3]), (1, .got [])]
          = some (errs, last)
        ∧ last.dh.state.1 = [1, 2, 3]
        ∧ last.dh.state.2 = [1, 2, 3] := by
  have counts := pairCbs_countsRight
  refine ⟨⟨_, _, rfl, rfl, ?_⟩, _, _, rfl, rfl, ?_⟩
  · exact ((transfers_exact counts).1 { dh := { state := [1, 2, 3] } } pairCalls _ _ rfl rfl rfl).1
  · exact (transfers_exact counts).2.2.1 { dh := { state := ([], []) } }
      [(1, .got [1, 2, 3]), (1, .got [])] _ _ rfl rfl (by simp)

end Gpgme.Data
