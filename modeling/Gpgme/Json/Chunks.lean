import Gpgme.Error
import Gpgme.Lib.Base64
import Gpgme.Lib.CString

/-! The chunks of `gpgme-json.c`: `encode_and_chunk` keeps a response in a global variable and
sends its first chunk, and each `getmore` request sends the next one.
-/

namespace Gpgme.Json

/-- The "chunksize" item of a request. -/
inductive ChunksizeItem where
  | missing
  | number (valueint : Int)
  | other
deriving DecidableEq

/-- `pending_data`. -/
structure PendingData where
  buffer : Option Str := none
  length : Nat := 0
  written : Nat := 0
deriving DecidableEq

/-- What a request is answered with: the response as it is, an object with a chunk in base64 and a
flag, or an error object.
-/
inductive Reply where
  | whole (data : Str)
  | chunk (more : Bool) (response : Str)
  | failed (err : GpgError)
deriving DecidableEq

def minReplyChunkSize : Nat := 30
def defReplyChunkSize : Nat := 0
def maxReplyChunkSize : Nat := 10 * 1024 * 1024

/-- The conversion to `size_t`. -/
def sizeT (value : Int) : Nat := (value % 2 ^ 64).toNat

/-- The chunk size of a request that asks for one. -/
def clampChunksize (valueint : Int) : Nat :=
  if sizeT valueint < minReplyChunkSize then minReplyChunkSize
  else if maxReplyChunkSize < sizeT valueint then maxReplyChunkSize
  else sizeT valueint

/-- `get_chunksize`. -/
def getChunksize : ChunksizeItem → Except GpgError Nat
  | .missing => .ok defReplyChunkSize
  | .other => .error (gpgError ErrCode.invValue)
  | .number valueint => .ok (clampChunksize valueint)

/-- How many bytes fit into a chunk: 41 bytes are taken off for the meta data, and four characters
stand for three bytes.
-/
def chunkBytes (chunksize : Nat) : Nat := sizeT ((chunksize : Int) - 41) / 4 * 3

/-- `op_getmore`. -/
def opGetmore (base64 : Base64) (item : ChunksizeItem) (pending : PendingData)
    : Reply × PendingData :=
  match getChunksize item with
  | .error err => (.failed err, pending)
  | .ok chunksize =>
      match pending.buffer with
      | none => (.failed (gpgError ErrCode.noData), pending)
      | some buffer =>
          if pending.length ≤ pending.written then
            (.chunk false [], { pending with buffer := none })
          else
            let left := pending.length - pending.written
            let more := decide (chunkBytes chunksize < left)
            let n := if more then chunkBytes chunksize else left
            let response := base64.encode ((buffer.drop pending.written).take n)
            let written := pending.written + n
            (.chunk more response,
              { pending with
                written
                buffer := if pending.length ≤ written then none else some buffer })

/-- `encode_and_chunk`, for a response that is printed as `data`. The chunk size is printed into a
request and read from it again.
-/
def encodeAndChunk (base64 : Base64) (request : Option ChunksizeItem) (data : Str)
    (pending : PendingData)
    : Reply × PendingData :=
  match request with
  | none => (.whole data, pending)
  | some item =>
      match getChunksize item with
      | .error _ => (.failed (UInt32.ofNat ErrCode.invValue), pending)
      | .ok chunksize =>
          if chunksize = 0 then (.whole data, pending)
          else
            opGetmore base64 (.number chunksize)
              { buffer := some data, length := data.length, written := 0 }

/-- The replies to a request and to the `getmore` requests that follow, when each asks for the
given chunk size, and the data that is then pending.
-/
def session (base64 : Base64) (data : Str) (sizes : Nat → Int) (before : PendingData)
    : Nat → Reply × PendingData
  | 0 => encodeAndChunk base64 (some (.number (sizes 0))) data before
  | i + 1 => opGetmore base64 (.number (sizes (i + 1))) (session base64 data sizes before i).2

/-- The bytes that a reply stands for. -/
def Reply.bytes (base64 : Base64) : Reply → Str
  | .chunk _ response => base64.decode response
  | _ => []

/-- The replies up to the first one without more give the response, each but the last one has at
least a byte, and nothing is left behind them.
-/
def Complete (base64 : Base64) (data : Str) (sizes : Nat → Int) (before : PendingData) : Prop :=
  ∃ count,
    (∀ i < count,
      ∃ response,
        (session base64 data sizes before i).1 = .chunk true response
        ∧ base64.decode response ≠ [])
    ∧ (∃ response, (session base64 data sizes before count).1 = .chunk false response)
    ∧ (List.range (count + 1)).flatMap
        (fun i => (session base64 data sizes before i).1.bytes base64)
      = data
    ∧ ∀ size,
        (opGetmore base64 (.number size) (session base64 data sizes before count).2).1
        = .failed (gpgError ErrCode.noData)

/-- The number of bytes that the first requests ask for. -/
def requested (sizes : Nat → Int) (count : Nat) : Nat :=
  ∑ i ∈ Finset.range count, chunkBytes (clampChunksize (sizes i))

/-- A chunk size is brought into its range. -/
theorem clampChunksize_range (valueint : Int)
    : 30 ≤ clampChunksize valueint ∧ clampChunksize valueint ≤ 10485760 := by
  unfold clampChunksize minReplyChunkSize maxReplyChunkSize
  split
  · omega
  split <;> omega

/-- Printing the chunk size and reading it again changes nothing. -/
theorem clampChunksize_idem (valueint : Int)
    : clampChunksize (clampChunksize valueint) = clampChunksize valueint := by
  obtain ⟨low, high⟩ := clampChunksize_range valueint
  have same : sizeT (clampChunksize valueint) = clampChunksize valueint := by
    unfold sizeT
    omega
  rw [clampChunksize, same]
  unfold minReplyChunkSize maxReplyChunkSize
  rw [if_neg (by omega), if_neg (by omega)]

/-- Chunk sizes just above the meta data have no room for a byte, and those below it wrap. -/
theorem chunkBytes_eq_zero_iff {chunksize : Nat} (low : 30 ≤ chunksize)
    (high : chunksize ≤ 10485760)
    : chunkBytes chunksize = 0 ↔ 41 ≤ chunksize ∧ chunksize ≤ 44 := by
  unfold chunkBytes sizeT
  omega

/-- The bytes of a chunk that has room for the frame. -/
theorem chunkBytes_of_ge {chunksize : Nat} (low : 41 ≤ chunksize) (high : chunksize ≤ 10485760)
    : chunkBytes chunksize = (chunksize - 41) / 4 * 3 := by
  unfold chunkBytes sizeT
  omega

/-- What was requested with one more chunk. -/
theorem requested_succ (sizes : Nat → Int) (count : Nat)
    : requested sizes (count + 1)
      = requested sizes count + chunkBytes (clampChunksize (sizes count)) :=
  Finset.sum_range_succ _ _

/-- Later more has been requested. -/
theorem requested_mono (sizes : Nat → Int) {first second : Nat} (before : first ≤ second)
    : requested sizes first ≤ requested sizes second :=
  Finset.sum_le_sum_of_subset (Finset.range_mono before)

section Session

variable (base64 : Base64) (data : Str) (sizes : Nat → Int) (before : PendingData)

/-- The data in front of a request. -/
def pendingAt (written : Nat) : PendingData :=
  { buffer := some data, length := data.length, written }

/-- A chunk that is not the last one. -/
theorem opGetmore_more {size : Int} {written : Nat}
    (left : written + chunkBytes (clampChunksize size) < data.length)
    : opGetmore base64 (.number size) (pendingAt data written)
      = (.chunk true
          (base64.encode ((data.drop written).take (chunkBytes (clampChunksize size)))),
        pendingAt data (written + chunkBytes (clampChunksize size))) := by
  have pending : ¬ data.length ≤ written := by omega
  have more : chunkBytes (clampChunksize size) < data.length - written := by omega
  simp only [opGetmore, getChunksize, pendingAt, if_neg pending, more, decide_true, if_true]
  rw [if_neg (by omega)]

/-- The last chunk. -/
theorem opGetmore_last {size : Int} {written : Nat}
    (last : data.length ≤ written + chunkBytes (clampChunksize size))
    : ∃ rest : PendingData,
        opGetmore base64 (.number size) (pendingAt data written)
        = (.chunk false (base64.encode (data.drop written)), { rest with buffer := none }) := by
  by_cases pending : data.length ≤ written
  · refine ⟨pendingAt data written, ?_⟩
    rw [List.drop_eq_nil_of_le pending, base64.encode_nil]
    exact if_pos pending
  · have final : ¬ chunkBytes (clampChunksize size) < data.length - written := by omega
    have whole : written + (data.length - written) = data.length := by omega
    refine ⟨pendingAt data data.length, ?_⟩
    simp only [opGetmore, getChunksize, pendingAt, if_neg pending, final, decide_false,
      Bool.false_eq_true, if_false, whole, le_refl, if_true]
    rw [List.take_of_length_le (by simp)]

/-- Nothing is pending without a buffer. -/
theorem opGetmore_none (item : Int) (pending : PendingData)
    : (opGetmore base64 (.number item) { pending with buffer := none }).1
      = .failed (gpgError ErrCode.noData) :=
  rfl

/-- The first reply of a session. -/
theorem session_zero
    : session base64 data sizes before 0
      = opGetmore base64 (.number (sizes 0)) (pendingAt data 0) := by
  have positive : clampChunksize (sizes 0) ≠ 0 := by
    have range := clampChunksize_range (sizes 0)
    omega
  have again
      : getChunksize (.number (clampChunksize (sizes 0))) = getChunksize (.number (sizes 0)) := by
    rw [getChunksize, getChunksize, clampChunksize_idem]
  rw [session, encodeAndChunk]
  simp only [getChunksize]
  rw [if_neg positive, opGetmore, again]
  rfl

/-- While bytes are left, a request finds the data behind those that the requests before it have
asked for, by induction on the number of requests.
-/
theorem session_eq {i : Nat} (left : i = 0 ∨ requested sizes i < data.length)
    : session base64 data sizes before i
      = opGetmore base64 (.number (sizes i)) (pendingAt data (requested sizes i)) := by
  induction i with
  | zero => exact session_zero base64 data sizes before
  | succ i ih =>
      have more : requested sizes (i + 1) < data.length := left.resolve_left (by omega)
      have earlier : requested sizes i < data.length :=
        (requested_mono sizes (Nat.le_succ i)).trans_lt more
      rw [requested_succ] at more
      rw [session, ih (Or.inr earlier), opGetmore_more base64 data more, requested_succ]

/-- The replies in front of the last one. -/
theorem session_more {i : Nat} (more : requested sizes (i + 1) < data.length)
    : (session base64 data sizes before i).1
      = .chunk true
          (base64.encode
            ((data.drop (requested sizes i)).take (chunkBytes (clampChunksize (sizes i))))) := by
  have earlier : requested sizes i < data.length :=
    (requested_mono sizes (Nat.le_succ i)).trans_lt more
  rw [requested_succ] at more
  rw [session_eq base64 data sizes before (Or.inr earlier), opGetmore_more base64 data more]

/-- The last reply. -/
theorem session_last {i : Nat} (left : i = 0 ∨ requested sizes i < data.length)
    (last : data.length ≤ requested sizes (i + 1))
    : ∃ rest : PendingData,
        session base64 data sizes before i
        = (.chunk false (base64.encode (data.drop (requested sizes i))),
          { rest with buffer := none }) := by
  rw [requested_succ] at last
  rw [session_eq base64 data sizes before left]
  exact opGetmore_last base64 data last

/-- The bytes of the replies in front of the last one are the first of the response, by induction
on their number.
-/
theorem flatMap_bytes {count : Nat} (left : count = 0 ∨ requested sizes count < data.length)
    : (List.range count).flatMap (fun i => (session base64 data sizes before i).1.bytes base64)
      = data.take (requested sizes count) := by
  induction count with
  | zero => simp [requested]
  | succ count ih =>
      have more : requested sizes (count + 1) < data.length := left.resolve_left (by omega)
      have earlier : requested sizes count < data.length :=
        (requested_mono sizes (Nat.le_succ count)).trans_lt more
      rw [List.range_succ, List.flatMap_append, ih (Or.inr earlier), requested_succ,
        List.take_add]
      simp [session_more base64 data sizes before more, Reply.bytes, base64.decode_encode]

/-- While bytes are left, the last reply has not been sent. -/
theorem le_of_last {i count : Nat} (left : requested sizes i < data.length)
    (last : ∃ response, (session base64 data sizes before count).1 = .chunk false response)
    : i ≤ count := by
  by_contra behind
  have more : requested sizes (count + 1) < data.length :=
    (requested_mono sizes (by omega)).trans_lt left
  obtain ⟨response, last⟩ := last
  rw [session_more base64 data sizes before more] at last
  cases last

/-- If every request has room for a byte while bytes are left, enough requests ask for all bytes,
by induction on their number.
-/
theorem le_requested
    (room
      : ∀ i, requested sizes i < data.length → chunkBytes (clampChunksize (sizes i)) ≠ 0)
    (count : Nat)
    : min count data.length ≤ requested sizes count := by
  induction count with
  | zero => simp
  | succ count ih =>
      by_cases left : requested sizes count < data.length
      · have some := room count left
        rw [requested_succ]
        omega
      · have kept := requested_mono sizes (show count ≤ count + 1 by omega)
        omega

end Session

/-- Only chunk sizes from 41 to 44 have no bytes. -/
theorem chunkBytes_clamp_ne_zero_iff (size : Int)
    : chunkBytes (clampChunksize size) ≠ 0
      ↔ clampChunksize size < 41 ∨ 44 < clampChunksize size := by
  obtain ⟨low, high⟩ := clampChunksize_range size
  rw [Ne, chunkBytes_eq_zero_iff low high]
  omega

/-- Where every request takes a byte while bytes are left, there is a first one behind which none
are left.
-/
theorem exists_last_request (data : Str) (sizes : Nat → Int)
    (room : ∀ i, requested sizes i < data.length → chunkBytes (clampChunksize (sizes i)) ≠ 0)
    : ∃ count,
        data.length ≤ requested sizes (count + 1)
        ∧ (count = 0 ∨ requested sizes count < data.length)
        ∧ ∀ i < count, requested sizes (i + 1) < data.length := by
  have covered : ∃ count, data.length ≤ requested sizes (count + 1) := by
    have all := le_requested data sizes room (data.length + 1)
    exact ⟨data.length, by omega⟩
  have first : ∀ i < Nat.find covered, requested sizes (i + 1) < data.length :=
    fun i earlier => not_le.mp (Nat.find_min covered earlier)
  refine ⟨Nat.find covered, Nat.find_spec covered, ?_, first⟩
  cases found : Nat.find covered with
  | zero => exact Or.inl rfl
  | succ count => exact Or.inr (first count (by rw [found]; exact Nat.lt_succ_self count))

/-- A chunked response is complete if and only if no request asks for a chunk size of 41 to 44
while bytes are left.
-/
theorem session_complete_iff (base64 : Base64) (data : Str) (sizes : Nat → Int)
    (before : PendingData)
    : Complete base64 data sizes before
      ↔ ∀ i,
          requested sizes i < data.length
          → clampChunksize (sizes i) < 41 ∨ 44 < clampChunksize (sizes i) := by
  constructor
  · rintro ⟨count, replies, last, _, _⟩ i left
    rw [← chunkBytes_clamp_ne_zero_iff]
    intro none
    have more : requested sizes (i + 1) < data.length := by
      rw [requested_succ, none]
      exact left
    have reply := session_more base64 data sizes before more
    have position := le_of_last base64 data sizes before left last
    rcases position.lt_or_eq with earlier | rfl
    · obtain ⟨response, here, filled⟩ := replies i earlier
      rw [reply, none, List.take_zero] at here
      cases here
      exact filled (base64.decode_encode [])
    · obtain ⟨response, here⟩ := last
      rw [reply] at here
      cases here
  · intro sizesFit
    have room (i : Nat) (left : requested sizes i < data.length)
        : chunkBytes (clampChunksize (sizes i)) ≠ 0 :=
      (chunkBytes_clamp_ne_zero_iff _).mpr (sizesFit i left)
    obtain ⟨count, last, left, first⟩ := exists_last_request data sizes room
    obtain ⟨rest, final⟩ := session_last base64 data sizes before left last
    refine ⟨count, ?_, ⟨_, congrArg Prod.fst final⟩, ?_, ?_⟩
    · intro i earlier
      have more := first i earlier
      refine ⟨_, session_more base64 data sizes before more, ?_⟩
      rw [base64.decode_encode]
      have here : requested sizes i < data.length :=
        (requested_mono sizes (Nat.le_succ i)).trans_lt more
      have some := room i here
      intro none
      have length := congrArg List.length none
      rw [List.length_take, List.length_drop, List.length_nil] at length
      omega
    · rw [List.range_succ, List.flatMap_append, flatMap_bytes base64 data sizes before left]
      simp [final, Reply.bytes, base64.decode_encode]
    · intro size
      rw [final]
      exact opGetmore_none base64 size rest

/-- The response to a `delete` request. -/
def successText : Str := CString.str "\x7b\"success\":true\x7d"

/-- A client that always asks for 44 bytes gets chunks without a byte. -/
theorem session_incomplete : ¬ Complete Base64.standard successText (fun _ => 44) {} := by
  rintro ⟨count, replies, ⟨response, last⟩, _⟩
  have first
      : (session Base64.standard successText (fun _ => 44) {} 0).1 = .chunk true [] := by
    decide
  cases count with
  | zero =>
      rw [first] at last
      cases last
  | succ count =>
      obtain ⟨response, here, filled⟩ := replies 0 (Nat.succ_pos count)
      rw [first] at here
      cases here
      exact filled rfl

end Gpgme.Json
