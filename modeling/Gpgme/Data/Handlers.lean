import Gpgme.Data.Callbacks

/-! The wait handlers of `data.c` that move bytes between a pipe and a data object. -/

namespace Gpgme.Data

/-- `BUFFER_SIZE`, which is `PIPE_BUF`. -/
def bufferSize : Nat := 4096

-----------------------------------------------------------------------------------------
-- From the object to the pipe
-----------------------------------------------------------------------------------------

/-- What `_gpgme_io_write` answers: it takes some of the bytes, or fails. -/
inductive IoWrite where
  | takes (count : Nat)
  | failed (errno : Errno)
deriving DecidableEq

/-- The written end of a pipe: the bytes that were written to it, and whether it is closed. -/
structure WriteEnd where
  written : List UInt8 := []
  closed : Bool := false

/-- A data object with the pipe that it is written to. -/
structure Outbound (σ : Type) where
  dh : DataObject σ
  pipe : WriteEnd := {}

/-- The part of `_gpgme_data_outbound_handler` that writes what is pending. -/
def writePending {σ : Type} (out : Outbound σ) (io : IoWrite) : Option Errno × Outbound σ :=
  match io with
  | .failed .eagain => (none, out)
  | .failed .epipe => (none, { out with pipe := { out.pipe with closed := true } })
  | .failed errno => (some errno, out)
  | .takes count =>
      let nwritten := min count out.dh.pending.length
      if nwritten = 0 then (some (.other 0), out)
      else
        (none, {
          dh := { out.dh with pending := out.dh.pending.drop nwritten }
          pipe := { out.pipe with
            written := out.pipe.written ++ out.dh.pending.take nwritten } })

/-- `_gpgme_data_outbound_handler`: the error and what is left. -/
def outboundHandler {σ : Type} (cbs : DataCbs σ) (rounds : Nat) (out : Outbound σ) (io : IoWrite)
    : Option (Option Errno × Outbound σ) :=
  if out.dh.pending = [] then
    match gpgmeDataRead cbs rounds out.dh bufferSize with
    | none => none
    | some (answer, dh) =>
        if answer.ret < 0 then some (some answer.errno, { out with dh })
        else if answer.ret = 0 then
          some (none, { dh, pipe := { out.pipe with closed := true } })
        else
          some (writePending
            { out with dh := { dh with pending := answer.bytes.take answer.ret.toNat } } io)
  else
    some (writePending out io)

-----------------------------------------------------------------------------------------
-- From the pipe to the object
-----------------------------------------------------------------------------------------

/-- What `_gpgme_io_read` answers: at most a buffer of bytes, none of them at the end of file,
or an error.
-/
inductive IoRead where
  | got (bytes : List UInt8)
  | failed (errno : Errno)
deriving DecidableEq

/-- The bytes that a read of a buffer brings. -/
def IoRead.bytes : IoRead → List UInt8
  | .got bytes => bytes.take bufferSize
  | .failed _ => []

/-- A data object with the pipe that it is filled from, and whether that is closed. -/
structure Inbound (σ : Type) where
  dh : DataObject σ
  closed : Bool := false

/-- The loop of `_gpgme_data_inbound_handler`. Each round stores a byte, so that the number of
bytes bounds the rounds; a pointer in front of the buffer has no result.
-/
def storeLoop {σ : Type} (cbs : DataCbs σ) (rounds : Nat)
    : Nat → DataObject σ → List UInt8 → Option (Option Errno × DataObject σ)
  | 0, _, _ => none
  | left + 1, dh, buffer =>
      match gpgmeDataWrite cbs rounds dh buffer with
      | none => none
      | some (answer, dh) =>
          if answer.ret = 0 ∨ (answer.ret < 0 ∧ answer.errno ≠ .eintr) then
            some (some answer.errno, dh)
          else if answer.ret < 0 then none
          else
            match buffer.drop answer.ret.toNat with
            | [] => some (none, dh)
            | rest => storeLoop cbs rounds left dh rest

/-- `_gpgme_data_inbound_handler`. -/
def inboundHandler {σ : Type} (cbs : DataCbs σ) (rounds : Nat) (into : Inbound σ) (io : IoRead)
    : Option (Option Errno × Inbound σ) :=
  match io with
  | .failed errno => some (some errno, into)
  | .got [] => some (none, { into with closed := true })
  | .got bytes =>
      let buffer := bytes.take bufferSize
      (storeLoop cbs rounds buffer.length into.dh buffer).map (fun (err, dh) =>
        (err, { into with dh }))

-----------------------------------------------------------------------------------------
-- Objects whose callbacks count right
-----------------------------------------------------------------------------------------

/-- A callback moves at most the bytes that it is asked to move and says how many, or it fails
and moves none. It may move fewer, and fail with any error.
-/
structure DataCbs.CountsRight {σ : Type} (cbs : DataCbs σ) : Prop where
  read
    : ∀ read, cbs.read = some read →
        ∀ state size answer next,
          size < 2 ^ 31
          → read state size = some (answer, next)
          → (answer.ret = -1 ∧ answer.bytes = [])
            ∨ (answer.ret = answer.bytes.length ∧ answer.bytes.length ≤ size)
  write
    : ∀ write, cbs.write = some write →
        ∀ state buffer answer next,
          buffer.length < 2 ^ 31
          → write state buffer = some (answer, next)
          → answer.ret = -1 ∨ (0 ≤ answer.ret ∧ answer.ret ≤ buffer.length)

-----------------------------------------------------------------------------------------
-- A record of what the callbacks take
-----------------------------------------------------------------------------------------

/-- A write callback that records what it takes: as many of the bytes with which it is called as it
says.
-/
def recordTaken {σ : Type} (write : σ → List UInt8 → Option (CbAnswer × σ))
    (state : σ × List UInt8) (buffer : List UInt8)
    : Option (CbAnswer × (σ × List UInt8)) :=
  (write state.1 buffer).map fun (answer, next) =>
    (answer, next, state.2 ++ buffer.take answer.ret.toNat)

/-- The callbacks, over a state that also records the bytes that the object has taken. -/
def DataCbs.recorded {σ : Type} (cbs : DataCbs σ) : DataCbs (σ × List UInt8) where
  read := cbs.read.map fun read state size =>
    (read state.1 size).map fun (answer, next) => (answer, next, state.2)
  write := cbs.write.map recordTaken
  seek := cbs.seek.map fun seek state offset whence =>
    (seek state.1 offset whence).map fun (answer, next) => (answer, next, state.2)

/-- Recording does not change what the callbacks count. -/
theorem DataCbs.CountsRight.recorded {σ : Type} {cbs : DataCbs σ} (counts : cbs.CountsRight)
    : cbs.recorded.CountsRight where
  read read found state size answer next small answered := by
    obtain ⟨own, present, rfl⟩ := Option.map_eq_some_iff.mp found
    obtain ⟨⟨own', after⟩, called, same⟩ := Option.map_eq_some_iff.mp answered
    cases same
    exact counts.read own present state.1 size answer after small called
  write write found state buffer answer next small answered := by
    obtain ⟨own, present, rfl⟩ := Option.map_eq_some_iff.mp found
    obtain ⟨⟨own', after⟩, called, same⟩ := Option.map_eq_some_iff.mp answered
    cases same
    exact counts.write own present state.1 buffer answer after small called

/-- The object has taken what the calls have stored. -/
def DataObject.Takes {σ : Type} (dh : DataObject (σ × List UInt8)) : Prop :=
  dh.state.2 = dh.stored

section Callbacks

variable {σ : Type} {cbs : DataCbs σ} {rounds : Nat} {dh : DataObject σ}

/-- The answer that ends the retries is one of the callback, and not the error EINTR. -/
theorem retry_answer {call : σ → Option (CbAnswer × σ)} {state next : σ} {answer : CbAnswer}
    (ended : retry call rounds state = some (answer, next))
    : ¬(answer.ret < 0 ∧ answer.errno = .eintr) ∧ ∃ state, call state = some (answer, next) := by
  induction rounds generalizing state with
  | zero => cases ended
  | succ rounds ih =>
      rw [retry] at ended
      split at ended
      · cases ended
      · next answered =>
          split at ended
          · exact ih ended
          · next done =>
              cases ended
              exact ⟨done, state, answered⟩

/-- A result within the range of an `int` is returned as it is. -/
theorem traceSysres_of_range {answer : CbAnswer} (low : -2 ^ 31 ≤ answer.ret)
    (high : answer.ret < 2 ^ 31)
    : traceSysres answer = answer := by
  unfold traceSysres
  rw [CInt.toInt_of_range low high]

/-- A read fails, or it delivers as many bytes as it says. -/
theorem gpgmeDataRead_counts (counts : cbs.CountsRight) {size : Nat} (small : size < 2 ^ 31)
    {answer : CbAnswer} {next : DataObject σ}
    (called : gpgmeDataRead cbs rounds dh size = some (answer, next))
    : ((answer.ret = -1 ∧ answer.bytes = []) ∨ answer.ret = answer.bytes.length)
      ∧ next.delivered = dh.delivered ++ answer.bytes
      ∧ next.pending = dh.pending := by
  unfold gpgmeDataRead at called
  split at called
  · cases called
    exact ⟨.inl ⟨rfl, rfl⟩, by simp [traceSysres], rfl⟩
  · next read found =>
      split at called
      · cases called
        exact ⟨.inr rfl, by simp [traceSysres], rfl⟩
      · obtain ⟨⟨own, state⟩, tried, same⟩ := Option.map_eq_some_iff.mp called
        cases same
        obtain ⟨-, before, answered⟩ := retry_answer tried
        rcases counts.read read found before size own state small answered with
          ⟨failed, empty⟩ | ⟨count, fits⟩
        · rw [traceSysres_of_range (by omega) (by omega)]
          exact ⟨.inl ⟨failed, empty⟩, rfl, rfl⟩
        · rw [traceSysres_of_range (by omega) (by omega)]
          exact ⟨.inr count, rfl, rfl⟩

/-- A write fails with another error than EINTR, or it takes as many bytes as it says. -/
theorem gpgmeDataWrite_counts (counts : cbs.CountsRight) {buffer : List UInt8}
    (small : buffer.length < 2 ^ 31) {answer : CbAnswer} {next : DataObject σ}
    (called : gpgmeDataWrite cbs rounds dh buffer = some (answer, next))
    : ((answer.ret = -1 ∧ answer.errno ≠ .eintr) ∨ (0 ≤ answer.ret ∧ answer.ret ≤ buffer.length))
      ∧ next.stored = dh.stored ++ buffer.take answer.ret.toNat := by
  unfold gpgmeDataWrite at called
  split at called
  · cases called
    exact ⟨.inl ⟨rfl, by simp [traceSysres]⟩, by simp [traceSysres, CInt.toInt]⟩
  · next write found =>
      obtain ⟨⟨own, state⟩, tried, same⟩ := Option.map_eq_some_iff.mp called
      cases same
      obtain ⟨other, before, answered⟩ := retry_answer tried
      have ranges := counts.write write found before buffer own state small answered
      rw [traceSysres_of_range (by omega) (by omega)]
      refine ⟨?_, rfl⟩
      rcases ranges with failed | ranges
      · exact .inl ⟨failed, fun interrupted => other ⟨by omega, interrupted⟩⟩
      · exact .inr ranges

/-- A call that fails takes nothing, so that only the answer that ends the retries is recorded; by
induction on the retries.
-/
theorem retry_recorded {write : σ → List UInt8 → Option (CbAnswer × σ)} {buffer : List UInt8}
    {state next : σ × List UInt8} {answer : CbAnswer}
    (ended : retry (fun state => recordTaken write state buffer) rounds state = some (answer, next))
    : next.2 = state.2 ++ buffer.take answer.ret.toNat := by
  induction rounds generalizing state with
  | zero => cases ended
  | succ rounds ih =>
      rw [retry] at ended
      split at ended
      · cases ended
      · next tried after answered =>
          obtain ⟨⟨own, own'⟩, _, same⟩ := Option.map_eq_some_iff.mp answered
          cases same
          split at ended
          · next interrupted =>
              have none : tried.ret.toNat = 0 := Int.toNat_of_nonpos (by omega)
              simpa [none] using ih ended
          · cases ended
            rfl

/-- A write takes what is recorded of it. -/
theorem gpgmeDataWrite_takes {dh next : DataObject (σ × List UInt8)} {buffer : List UInt8}
    {answer : CbAnswer} (takes : dh.Takes)
    (called : gpgmeDataWrite cbs.recorded rounds dh buffer = some (answer, next))
    : next.Takes := by
  unfold DataObject.Takes at takes ⊢
  unfold gpgmeDataWrite at called
  split at called
  · cases called
    exact takes
  · next write found =>
      obtain ⟨own, _, rfl⟩ := Option.map_eq_some_iff.mp found
      obtain ⟨⟨tried, state⟩, ended, same⟩ := Option.map_eq_some_iff.mp called
      cases same
      dsimp only
      rw [retry_recorded ended, takes]

end Callbacks

-----------------------------------------------------------------------------------------
-- Outbound transfers
-----------------------------------------------------------------------------------------

section Outbound

variable {σ : Type} {cbs : DataCbs σ} {rounds : Nat} {out : Outbound σ}

/-- What was written and what is pending is what was read from the object. -/
def Outbound.Exact (out : Outbound σ) : Prop :=
  out.pipe.written ++ out.dh.pending = out.dh.delivered

/-- Writing moves bytes from the pending ones to the pipe, or it leaves both as they are. -/
theorem writePending_spec {io : IoWrite} {err : Option Errno} {next : Outbound σ}
    (wrote : writePending out io = (err, next))
    : next.pipe.written ++ next.dh.pending = out.pipe.written ++ out.dh.pending
      ∧ next.dh.delivered = out.dh.delivered
      ∧ next.dh.state = out.dh.state
      ∧ next.dh.blankout = out.dh.blankout
      ∧ (next.pipe.closed = out.pipe.closed ∨ io = .failed .epipe) := by
  unfold writePending at wrote
  split at wrote
  · cases wrote
    exact ⟨rfl, rfl, rfl, rfl, .inl rfl⟩
  · cases wrote
    exact ⟨rfl, rfl, rfl, rfl, .inr rfl⟩
  · cases wrote
    exact ⟨rfl, rfl, rfl, rfl, .inl rfl⟩
  · dsimp only at wrote
    split at wrote
    · cases wrote
      exact ⟨rfl, rfl, rfl, rfl, .inl rfl⟩
    · cases wrote
      refine ⟨?_, rfl, rfl, rfl, .inl rfl⟩
      rw [List.append_assoc, List.take_append_drop]

/-- One call of the handler keeps the transfer exact; without EPIPE it closes the pipe only when
everything was written.
-/
theorem outboundHandler_exact (counts : cbs.CountsRight) {io : IoWrite} {err : Option Errno}
    {next : Outbound σ} (exact : out.Exact)
    (handled : outboundHandler cbs rounds out io = some (err, next))
    : next.Exact
      ∧ (next.pipe.closed = true
        → out.pipe.closed = true ∨ io = .failed .epipe ∨ next.pipe.written = next.dh.delivered) := by
  unfold outboundHandler at handled
  split at handled
  · next nothing =>
      split at handled
      · cases handled
      · next answer dh called =>
          obtain ⟨ranges, delivered, pending⟩ := gpgmeDataRead_counts counts (by decide) called
          have before : out.pipe.written = out.dh.delivered := by
            rw [← exact, nothing, List.append_nil]
          split at handled
          · next failed =>
              cases handled
              have empty : answer.bytes = [] := by
                rcases ranges with ⟨-, empty⟩ | count
                · exact empty
                · omega
              refine ⟨?_, fun closed => .inl closed⟩
              unfold Outbound.Exact
              rw [delivered, pending, nothing, empty, before]
          · split at handled
            · next atEnd =>
                cases handled
                have empty : answer.bytes = [] := by
                  rcases ranges with ⟨failed, -⟩ | count
                  · omega
                  · exact List.eq_nil_of_length_eq_zero (by omega)
                have same : out.pipe.written = dh.delivered := by
                  rw [delivered, empty, List.append_nil, before]
                refine ⟨?_, fun _ => .inr (.inr same)⟩
                unfold Outbound.Exact
                rw [pending, nothing, List.append_nil]
                exact same
            · next notFailed notEnd =>
                have whole : answer.bytes.take answer.ret.toNat = answer.bytes := by
                  rcases ranges with ⟨failed, -⟩ | count
                  · omega
                  · rw [count, Int.toNat_natCast, List.take_length]
                obtain ⟨moved, kept, -, -, closing⟩ := writePending_spec (Option.some.inj handled)
                refine ⟨?_, ?_⟩
                · unfold Outbound.Exact
                  rw [moved, kept]
                  dsimp only
                  rw [whole, delivered, before]
                · intro closed
                  rcases closing with same | pipe
                  · rw [same] at closed
                    exact .inl closed
                  · exact .inr (.inl pipe)
  · obtain ⟨moved, kept, -, -, closing⟩ := writePending_spec (Option.some.inj handled)
    refine ⟨?_, ?_⟩
    · unfold Outbound.Exact
      rw [moved, kept]
      exact exact
    · intro closed
      rcases closing with same | pipe
      · rw [same] at closed
        exact .inl closed
      · exact .inr (.inl pipe)

/-- A call of the handler with a number of retries; a closed pipe has no handler. -/
def outboundStep (cbs : DataCbs σ) (out : Outbound σ) (call : Nat × IoWrite)
    : Option (Option Errno × Outbound σ) :=
  if out.pipe.closed then none else outboundHandler cbs call.1 out call.2

/-- After any calls the transfer is exact, and a pipe that was closed at the end of the object
got everything.
-/
theorem outbound_run (counts : cbs.CountsRight) {calls : List (Nat × IoWrite)}
    {errs : List (Option Errno)} {last : Outbound σ} (exact : out.Exact)
    (isOpen : out.pipe.closed = false)
    (ran : Machine.run (outboundStep cbs) out calls = some (errs, last))
    : last.Exact
      ∧ ((∀ call ∈ calls, call.2 ≠ .failed .epipe)
        → last.pipe.closed = true → last.pipe.written = last.dh.delivered) := by
  induction calls generalizing out errs with
  | nil =>
      cases ran
      exact ⟨exact, fun _ closed => absurd (isOpen.symm.trans closed) Bool.false_ne_true⟩
  | cons call rest ih =>
      obtain ⟨err, next, later, stepped, tail, -⟩ := Machine.run_cons_iff.mp ran
      rw [outboundStep, if_neg (by simp [isOpen])] at stepped
      obtain ⟨kept, closing⟩ := outboundHandler_exact counts exact stepped
      cases state : next.pipe.closed with
      | false =>
          obtain ⟨final, whole⟩ := ih kept state tail
          exact ⟨final, fun others => whole fun call member =>
            others call (List.mem_cons_of_mem _ member)⟩
      | true =>
          -- Nothing follows a call that closes the pipe.
          cases rest with
          | cons second rest =>
              obtain ⟨_, _, _, refused, -⟩ := Machine.run_cons_iff.mp tail
              rw [outboundStep, if_pos state] at refused
              cases refused
          | nil =>
              cases tail
              refine ⟨kept, ?_⟩
              intro others closed
              rcases closing closed with already | broken | whole
              · exact absurd (isOpen.symm.trans already) Bool.false_ne_true
              · exact absurd broken (others call List.mem_cons_self)
              · exact whole

end Outbound

-----------------------------------------------------------------------------------------
-- Inbound transfers
-----------------------------------------------------------------------------------------

section Inbound

variable {σ : Type} {cbs : DataCbs σ} {rounds : Nat} {into : Inbound σ}

/-- The loop stores the bytes from the first one on, and without an error all of them; by
induction on its rounds.
-/
theorem storeLoop_stores (counts : cbs.CountsRight) {left : Nat} {dh next : DataObject σ}
    {buffer : List UInt8} {err : Option Errno} (small : buffer.length < 2 ^ 31)
    (ended : storeLoop cbs rounds left dh buffer = some (err, next))
    : ∃ count,
        next.stored = dh.stored ++ buffer.take count
        ∧ (err = none → buffer.length ≤ count) := by
  induction left generalizing dh buffer with
  | zero => cases ended
  | succ left ih =>
      rw [storeLoop] at ended
      split at ended
      · cases ended
      · next answer dh' called =>
          obtain ⟨ranges, stored⟩ := gpgmeDataWrite_counts counts small called
          split at ended
          · cases ended
            exact ⟨answer.ret.toNat, stored, by simp⟩
          · split at ended
            · cases ended
            · split at ended
              · next all =>
                  cases ended
                  exact ⟨answer.ret.toNat, stored, fun _ => List.drop_eq_nil_iff.mp all⟩
              · next rest more =>
                  obtain ⟨count, later, whole⟩ := ih (by simp; omega) ended
                  refine ⟨answer.ret.toNat + count, ?_, ?_⟩
                  · rw [later, stored, List.append_assoc, List.take_add]
                  · intro ok
                    have := whole ok
                    rw [List.length_drop] at this
                    omega

/-- The pointer never leaves the buffer: EINTR does not get through to the loop. -/
theorem storeLoop_total (counts : cbs.CountsRight)
    (answers : ∀ dh buffer, gpgmeDataWrite cbs rounds dh buffer ≠ none) {left : Nat}
    (dh : DataObject σ) {buffer : List UInt8} (small : buffer.length < 2 ^ 31)
    (filled : buffer ≠ []) (enough : buffer.length ≤ left)
    : ∃ err next, storeLoop cbs rounds left dh buffer = some (err, next) := by
  induction left generalizing dh buffer with
  | zero => exact absurd (List.eq_nil_of_length_eq_zero (by omega)) filled
  | succ left ih =>
      rw [storeLoop]
      split
      · next silent => exact absurd silent (answers dh buffer)
      · next answer dh' called =>
          obtain ⟨ranges, -⟩ := gpgmeDataWrite_counts counts small called
          split
          · exact ⟨_, _, rfl⟩
          · next going =>
              have positive : 0 < answer.ret ∧ answer.ret ≤ buffer.length := by
                rcases ranges with ⟨failed, other⟩ | ranges
                · exact absurd (.inr ⟨by omega, other⟩) going
                · exact ⟨by omega, ranges.2⟩
              rw [if_neg (by omega)]
              split
              · exact ⟨_, _, rfl⟩
              · next rest more =>
                  exact ih dh' (by simp; omega) more (by simp; omega)

/-- One call of the handler stores the bytes that it read, in their order, or it returns an
error.
-/
theorem inboundHandler_stores (counts : cbs.CountsRight) {io : IoRead} {next : Inbound σ}
    (handled : inboundHandler cbs rounds into io = some (none, next))
    : next.dh.stored = into.dh.stored ++ io.bytes
      ∧ (next.closed = true → into.closed = true ∨ io = .got []) := by
  unfold inboundHandler at handled
  split at handled
  · cases handled
  · cases handled
    exact ⟨by simp [IoRead.bytes], fun _ => .inr rfl⟩
  · next bytes filled =>
      obtain ⟨⟨err, dh⟩, stored, same⟩ := Option.map_eq_some_iff.mp handled
      cases same
      have small : (bytes.take bufferSize).length < 2 ^ 31 :=
        Nat.lt_of_le_of_lt (List.length_take_le _ _) (by decide)
      obtain ⟨count, later, whole⟩ := storeLoop_stores counts small stored
      refine ⟨?_, fun closed => .inl closed⟩
      rw [later, List.take_of_length_le (whole rfl)]
      rfl

/-- The handler returns as soon as the callbacks do. -/
theorem inboundHandler_total (counts : cbs.CountsRight)
    (answers : ∀ dh buffer, gpgmeDataWrite cbs rounds dh buffer ≠ none) (into : Inbound σ)
    (io : IoRead)
    : ∃ err next, inboundHandler cbs rounds into io = some (err, next) := by
  unfold inboundHandler
  split
  · exact ⟨_, _, rfl⟩
  · exact ⟨_, _, rfl⟩
  · next bytes filled =>
      have small : (bytes.take bufferSize).length < 2 ^ 31 :=
        Nat.lt_of_le_of_lt (List.length_take_le _ _) (by decide)
      have nonempty : bytes.take bufferSize ≠ [] := by
        rw [Ne, List.take_eq_nil_iff, not_or]
        exact ⟨by decide, filled⟩
      obtain ⟨err, next, stored⟩ :=
        storeLoop_total counts answers into.dh small nonempty (Nat.le_refl _)
      dsimp only
      rw [stored]
      exact ⟨_, _, rfl⟩

/-- A call of the handler with a number of retries; a closed pipe has no handler. -/
def inboundStep (cbs : DataCbs σ) (into : Inbound σ) (call : Nat × IoRead)
    : Option (Option Errno × Inbound σ) :=
  if into.closed then none else inboundHandler cbs call.1 into call.2

/-- Calls without an error store everything that they read, by induction on the calls. -/
theorem inbound_run (counts : cbs.CountsRight) {calls : List (Nat × IoRead)}
    {errs : List (Option Errno)} {last : Inbound σ}
    (ran : Machine.run (inboundStep cbs) into calls = some (errs, last))
    (succeeded : ∀ err ∈ errs, err = none)
    : last.dh.stored = into.dh.stored ++ calls.flatMap (·.2.bytes) := by
  induction calls generalizing into errs with
  | nil =>
      cases ran
      simp
  | cons call rest ih =>
      obtain ⟨err, next, later, stepped, tail, rfl⟩ := Machine.run_cons_iff.mp ran
      rw [inboundStep] at stepped
      split at stepped
      · cases stepped
      · rw [succeeded err List.mem_cons_self] at stepped
        have stored := (inboundHandler_stores counts stepped).1
        have after := ih tail fun err member => succeeded err (List.mem_cons_of_mem _ member)
        rw [after, stored, List.flatMap_cons, List.append_assoc]

/-- The loop gives the object what it stores, by induction on its rounds. -/
theorem storeLoop_takes {left : Nat} {dh next : DataObject (σ × List UInt8)}
    {buffer : List UInt8} {err : Option Errno} (takes : dh.Takes)
    (ended : storeLoop cbs.recorded rounds left dh buffer = some (err, next))
    : next.Takes := by
  induction left generalizing dh buffer with
  | zero => cases ended
  | succ left ih =>
      rw [storeLoop] at ended
      split at ended
      · cases ended
      · next answer dh' called =>
          have taken := gpgmeDataWrite_takes takes called
          split at ended
          · cases ended
            exact taken
          · split at ended
            · cases ended
            · split at ended
              · cases ended
                exact taken
              · exact ih taken ended

/-- A step of the inbound handler takes what is recorded of it. -/
theorem inboundStep_takes {into : Inbound (σ × List UInt8)} {call : Nat × IoRead}
    {outcome : Option Errno × Inbound (σ × List UInt8)} (takes : into.dh.Takes)
    (stepped : inboundStep cbs.recorded into call = some outcome)
    : outcome.2.dh.Takes := by
  unfold inboundStep inboundHandler at stepped
  split at stepped
  · cases stepped
  split at stepped
  · cases stepped
    exact takes
  · cases stepped
    exact takes
  · obtain ⟨⟨err, dh⟩, stored, same⟩ := Option.map_eq_some_iff.mp stepped
    cases same
    exact storeLoop_takes takes stored

/-- Calls without an error give the object everything that they read. -/
theorem inbound_taken (counts : cbs.CountsRight) {into last : Inbound (σ × List UInt8)}
    (takes : into.dh.Takes) {calls : List (Nat × IoRead)} {errs : List (Option Errno)}
    (ran : Machine.run (inboundStep cbs.recorded) into calls = some (errs, last))
    (succeeded : ∀ err ∈ errs, err = none)
    : last.dh.state.2 = into.dh.state.2 ++ calls.flatMap (·.2.bytes) := by
  have taken : last.dh.Takes := Machine.run_preserves inboundStep_takes takes ran
  rw [taken, inbound_run counts.recorded ran succeeded, takes]

end Inbound

end Gpgme.Data
