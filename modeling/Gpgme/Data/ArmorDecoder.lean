import Gpgme.Error
import Gpgme.Lib.Base64
import Gpgme.Lib.CString

/-! `b64dec.c`: the decoder for armored data, which works in place. -/

namespace Gpgme

open CString (str)

-----------------------------------------------------------------------------------------
-- The function
-----------------------------------------------------------------------------------------

/-- The reverse base-64 list. -/
def asctobin : List UInt8 :=
  List.replicate 43 255 ++ [62] ++ List.replicate 3 255 ++ [63]
    ++ [52, 53, 54, 55, 56, 57, 58, 59, 60, 61] ++ List.replicate 7 255
    ++ [0, 1, 2, 3, 4, 5, 6, 7, 8, 9, 10, 11, 12, 13, 14, 15, 16, 17, 18, 19, 20, 21, 22, 23, 24,
      25]
    ++ List.replicate 6 255
    ++ [26, 27, 28, 29, 30, 31, 32, 33, 34, 35, 36, 37, 38, 39, 40, 41, 42, 43, 44, 45, 46, 47, 48,
      49, 50, 51]
    ++ List.replicate 5 255

/-- `enum decoder_states`. -/
inductive DecoderState where
  | sInit | sIdle | sLfseen | sBeginseen | sWaitheader | sWaitblank | sBegin
  | sB640 | sB641 | sB642 | sB643
  | sWaitendtitle | sWaitend
deriving DecidableEq

/-- `struct b64state`; of `radbuf` only the first byte is used. -/
structure B64State where
  idx : DecoderState
  quadCount : Nat := 0
  title : Option Str := none
  radbuf : UInt8 := 0
  stopSeen : Bool := false
  invalidEncoding : Bool := false
  lasterr : GpgError := 0

/-- `_gpgme_b64dec_start`; `memory` is whether the title can be copied. -/
def b64decStart (memory : Bool) (title : Option Str) : B64State :=
  match title with
  | none => { idx := .sB640 }
  | some title =>
      if memory then { idx := .sInit, title := some title }
      else { idx := .sInit, lasterr := gpgError ErrCode.enomem }

def beginMark : Str := str "-----BEGIN "
def pgpMark : Str := str "PGP "

/-- A state between two lines in front of the armor. -/
def idleStep (st : B64State) (c : UInt8) : B64State :=
  if c = 10 then { st with idx := .sLfseen, quadCount := 0 } else { st with idx := .sIdle }

/-- A state with the first characters of a line that may be a begin line. -/
def lfseenStep (st : B64State) (c : UInt8) : B64State :=
  if beginMark[st.quadCount]? ≠ some c then idleStep st c
  else if st.quadCount = 10 then { st with idx := .sBeginseen, quadCount := 0 }
  else { st with idx := .sLfseen, quadCount := st.quadCount + 1 }

/-- A base64 digit: the next state, and the byte that it completes. -/
def digitStep (st : B64State) (c : UInt8) : B64State × Option UInt8 :=
  match st.idx with
  | .sB640 => ({ st with radbuf := c <<< 2, idx := .sB641 }, none)
  | .sB641 =>
      ({ st with radbuf := c <<< 4 &&& (240 : UInt8), idx := .sB642 },
        some (st.radbuf ||| (c >>> 4 &&& (3 : UInt8))))
  | .sB642 =>
      ({ st with radbuf := c <<< 6 &&& (192 : UInt8), idx := .sB643 },
        some (st.radbuf ||| (c >>> 2 &&& (15 : UInt8))))
  | _ =>
      let val := st.radbuf ||| (c &&& (63 : UInt8))
      ({ st with radbuf := val, idx := .sB640 }, some val)

def isWhite (c : UInt8) : Bool := c == 10 || c == 32 || c == 13 || c == 9

/-- A character of the encoded data. -/
def dataStep (st : B64State) (c : UInt8) : B64State × Option UInt8 :=
  if c = 45 ∧ st.title.isSome = true then ({ st with idx := .sWaitend }, none)
  else if c = 61 then
    ({ st with idx := if st.title.isSome = true then .sWaitendtitle else .sWaitend },
      if st.idx = .sB641 then some st.radbuf else none)
  else if isWhite c then (st, none)
  else
    match asctobin[c.toNat]? with
    | none | some 255 => ({ st with invalidEncoding := true }, none)
    | some c => digitStep st c

/-- The body of the loop: the next state, and the byte that is stored. -/
def b64Step (st : B64State) (c : UInt8) : B64State × Option UInt8 :=
  match st.idx with
  | .sIdle => (idleStep st c, none)
  | .sInit | .sLfseen => (lfseenStep st c, none)
  | .sBeginseen =>
      if pgpMark[st.quadCount]? ≠ some c then ({ st with idx := .sBegin }, none)
      else if st.quadCount = 3 then ({ st with idx := .sWaitheader }, none)
      else ({ st with quadCount := st.quadCount + 1 }, none)
  | .sWaitheader => (if c = 10 then { st with idx := .sWaitblank } else st, none)
  | .sWaitblank =>
      if c = 10 then ({ st with idx := .sB640 }, none)
      else if c = 32 ∨ c = 13 ∨ c = 9 then (st, none)
      else ({ st with idx := .sWaitheader }, none)
  | .sBegin => (if c = 10 then { st with idx := .sB640 } else st, none)
  | .sB640 | .sB641 | .sB642 | .sB643 => dataStep st c
  | .sWaitendtitle => (if c = 45 then { st with idx := .sWaitend } else st, none)
  | .sWaitend => (if c = 10 then { st with stopSeen := true } else st, none)

/-- The loop of `_gpgme_b64dec_proc`; `s` and `d` are offsets in the buffer. There is no result if
the buffer is left.
-/
def b64Loop : Nat → List UInt8 → Nat → Nat → B64State → Option (List UInt8 × Nat × B64State)
  | 0, buffer, _, d, st => some (buffer, d, st)
  | length + 1, buffer, s, d, st =>
      if st.stopSeen then some (buffer, d, st)
      else
        match buffer[s]? with
        | none => none
        | some c =>
            let (st, stored) := b64Step st c
            match stored with
            | none => b64Loop length buffer (s + 1) d st
            | some byte => b64Loop length (buffer.set d byte) (s + 1) (d + 1) st

/-- What `_gpgme_b64dec_proc` returns and stores. -/
structure Decoded where
  err : GpgError
  state : B64State
  buffer : List UInt8
  nbytes : Option Nat := none

/-- `_gpgme_b64dec_proc`. -/
def b64decProc (state : B64State) (buffer : List UInt8) (length : Nat) : Option Decoded :=
  if state.lasterr ≠ 0 then some { err := state.lasterr, state, buffer }
  else if state.stopSeen then
    let state := { state with lasterr := gpgError ErrCode.eof, title := none }
    some { err := state.lasterr, state, buffer, nbytes := some 0 }
  else
    (b64Loop length buffer 0 0 state).map fun (buffer, d, state) =>
      { err := 0, state, buffer, nbytes := some d }

-----------------------------------------------------------------------------------------
-- Decoding without a buffer
-----------------------------------------------------------------------------------------

/-- The bytes that are stored for some characters, and the state behind them. -/
def decodeRun (st : B64State) : List UInt8 → List UInt8 × B64State
  | [] => ([], st)
  | c :: rest =>
      if st.stopSeen then ([], st)
      else
        let (next, stored) := b64Step st c
        let (out, last) := decodeRun next rest
        (stored.toList ++ out, last)

/-- The loop stores just these bytes, by induction on the characters. What it has not read yet is
behind what it writes.
-/
theorem b64Loop_run (out : List UInt8) (gap : List UInt8) (rest behind : List UInt8)
    (st : B64State)
    : ∃ junk,
        b64Loop rest.length (out ++ gap ++ rest ++ behind) (out.length + gap.length) out.length st
        = some (out ++ (decodeRun st rest).1 ++ junk ++ behind,
            out.length + (decodeRun st rest).1.length, (decodeRun st rest).2)
        ∧ (decodeRun st rest).1.length + junk.length = gap.length + rest.length := by
  induction rest generalizing out gap st with
  | nil => exact ⟨gap, by simp [b64Loop, decodeRun], by simp [decodeRun]⟩
  | cons c rest ih =>
      rw [List.length_cons, b64Loop, decodeRun]
      by_cases stop : st.stopSeen = true
      · rw [if_pos stop, if_pos stop]
        refine ⟨gap ++ c :: rest, by simp, ?_⟩
        simp
      rw [if_neg stop, if_neg stop]
      have read : (out ++ gap ++ c :: rest ++ behind)[out.length + gap.length]? = some c := by
        rw [List.append_assoc, ← List.length_append, List.getElem?_append_right (Nat.le_refl _),
          Nat.sub_self]
        rfl
      rw [read]
      dsimp only
      generalize b64Step st c = made
      obtain ⟨next, stored⟩ := made
      cases stored with
      | none =>
          obtain ⟨junk, loop, total⟩ := ih out (gap ++ [c]) next
          refine ⟨junk, ?_, ?_⟩
          · simpa [Nat.add_assoc] using loop
          · simp only [List.length_append, List.length_cons, List.length_nil] at total
            simpa [Nat.add_assoc, Nat.add_comm, Nat.add_left_comm] using total
      | some byte =>
          dsimp only
          cases gap with
          | nil =>
              obtain ⟨junk, loop, total⟩ := ih (out ++ [byte]) [] next
              refine ⟨junk, ?_, ?_⟩
              · have stored : (out ++ [] ++ c :: rest ++ behind).set out.length byte
                    = out ++ [byte] ++ [] ++ rest ++ behind := by simp
                rw [stored]
                simpa [Nat.add_assoc, Nat.add_comm, Nat.add_left_comm] using loop
              · simp only [List.length_nil, Nat.zero_add] at total
                simp only [Option.toList_some, List.cons_append, List.nil_append,
                  List.length_cons, List.length_nil]
                omega
          | cons first gap =>
              obtain ⟨junk, loop, total⟩ := ih (out ++ [byte]) (gap ++ [c]) next
              refine ⟨junk, ?_, ?_⟩
              · have stored : (out ++ first :: gap ++ c :: rest ++ behind).set out.length byte
                    = out ++ [byte] ++ (gap ++ [c]) ++ rest ++ behind := by simp
                rw [stored]
                simpa [Nat.add_assoc, Nat.add_comm, Nat.add_left_comm] using loop
              · simp only [List.length_append, List.length_cons, List.length_nil] at total
                simp only [Option.toList_some, List.cons_append, List.nil_append,
                  List.length_cons]
                omega

/-- Characters are decoded one after the other, wherever they are split. -/
theorem decodeRun_append (st : B64State) (front rest : List UInt8)
    : decodeRun st (front ++ rest)
      = ((decodeRun st front).1 ++ (decodeRun (decodeRun st front).2 rest).1,
          (decodeRun (decodeRun st front).2 rest).2) := by
  induction front generalizing st with
  | nil => rfl
  | cons c front ih =>
      rw [List.cons_append, decodeRun, decodeRun]
      by_cases stop : st.stopSeen = true
      · have stopped : decodeRun st rest = ([], st) := by
          cases rest with
          | nil => rfl
          | cons c rest => exact if_pos stop
        rw [if_pos stop, if_pos stop, stopped]
        rfl
      · rw [if_neg stop, if_neg stop]
        dsimp only
        rw [ih, List.append_assoc]

/-- Some characters without a byte in them. -/
theorem decodeRun_silent {st next : B64State} {front : List UInt8}
    (silent : decodeRun st front = ([], next)) (rest : List UInt8)
    : decodeRun st (front ++ rest) = decodeRun next rest := by
  rw [decodeRun_append, silent]
  rfl

/-- One byte and then the others. -/
theorem decodeRun_step {st : B64State} (goes : st.stopSeen = false) (c : UInt8) (rest : List UInt8)
    : decodeRun st (c :: rest)
      = ((b64Step st c).2.toList ++ (decodeRun (b64Step st c).1 rest).1,
          (decodeRun (b64Step st c).1 rest).2) := by
  rw [decodeRun, if_neg (by rw [goes]; exact Bool.false_ne_true)]

/-- A byte without an output byte. -/
theorem decodeRun_cons {st next : B64State} {c : UInt8} (goes : st.stopSeen = false)
    (step : b64Step st c = (next, none)) (rest : List UInt8)
    : decodeRun st (c :: rest) = decodeRun next rest := by
  rw [decodeRun_step goes, step]
  rfl

-----------------------------------------------------------------------------------------
-- Lines in front of the data
-----------------------------------------------------------------------------------------

/-- A state of a decoder with an empty title that has not reached the data. -/
def waiting (idx : DecoderState) (quadCount : Nat) : B64State where
  idx := idx
  quadCount := quadCount
  title := some []

def isSpacing (c : UInt8) : Bool := c == 32 || c == 13 || c == 9

/-- A line in front of the armor is passed over. -/
theorem idle_line {line : Str} (plain : 10 ∉ line) (count : Nat)
    : decodeRun (waiting .sIdle count) (line ++ [10]) = ([], waiting .sLfseen 0) := by
  induction line with
  | nil => rfl
  | cons c line ih =>
      obtain ⟨other, plain⟩ := not_or.mp (mt List.mem_cons.mpr plain)
      have step : b64Step (waiting .sIdle count) c = (waiting .sIdle count, none) := by
        change (idleStep _ c, _) = _
        rw [idleStep, if_neg (Ne.symm other)]
        rfl
      rw [List.cons_append, decodeRun_cons rfl step]
      exact ih plain

/-- A character that may belong to the mark of a begin line. -/
theorem lfseen_step {idx : DecoderState} (start : idx = .sInit ∨ idx = .sLfseen) {count : Nat}
    (small : count ≤ 10)
    : ∃ mark,
        beginMark.drop count = mark :: beginMark.drop (count + 1)
        ∧ mark ≠ 10
        ∧ (∀ c, c ≠ mark
          → b64Step (waiting idx count) c = (idleStep (waiting idx count) c, none))
        ∧ (count ≠ 10
          → b64Step (waiting idx count) mark = (waiting .sLfseen (count + 1), none)) := by
  obtain ⟨mark, found, noLineFeed, rest⟩
      : ∃ mark, beginMark[count]? = some mark ∧ mark ≠ 10
          ∧ beginMark.drop count = mark :: beginMark.drop (count + 1) := by
    interval_cases count <;> exact ⟨_, rfl, by decide, rfl⟩
  have scan (c : UInt8)
      : b64Step (waiting idx count) c = (lfseenStep (waiting idx count) c, none) := by
    rcases start with rfl | rfl <;> rfl
  refine ⟨mark, rest, noLineFeed, fun c differs => ?_, fun more => ?_⟩
  · have other : beginMark[(waiting idx count).quadCount]? ≠ some c := fun same =>
      differs (Option.some.inj (found.symm.trans same)).symm
    rw [scan, lfseenStep, if_pos other]
  · have same : ¬beginMark[(waiting idx count).quadCount]? ≠ some mark := not_not.mpr found
    rw [scan, lfseenStep, if_neg same]
    exact congrArg (·, none) (if_neg more)

/-- A line that is not a begin line, by induction on it: as long as it agrees with the mark, it has
to differ from what is left of the mark.
-/
theorem other_line {idx : DecoderState} (start : idx = .sInit ∨ idx = .sLfseen) {count : Nat}
    (small : count ≤ 10) {line : Str} (plain : 10 ∉ line)
    (other : ¬beginMark.drop count <+: line)
    : decodeRun (waiting idx count) (line ++ [10]) = ([], waiting .sLfseen 0) := by
  induction line generalizing idx count with
  | nil =>
      obtain ⟨mark, -, noLineFeed, differs, -⟩ := lfseen_step start small
      rw [List.nil_append, decodeRun_cons rfl (differs 10 (Ne.symm noLineFeed))]
      rfl
  | cons c line ih =>
      obtain ⟨mark, rest, -, differs, agrees⟩ := lfseen_step start small
      obtain ⟨first, plain⟩ := not_or.mp (mt List.mem_cons.mpr plain)
      by_cases same : c = mark
      · subst same
        have more : count ≠ 10 := by
          rintro rfl
          exact other (rest ▸ List.prefix_append [c] line)
        have behind : ¬beginMark.drop (count + 1) <+: line := fun starts =>
          other (rest ▸ (List.prefix_cons_inj c).mpr starts)
        rw [List.cons_append, decodeRun_cons rfl (agrees more)]
        exact ih (.inr rfl) (by omega) plain behind
      · have idle : idleStep (waiting idx count) c = waiting .sIdle count := if_neg (Ne.symm first)
        rw [List.cons_append, decodeRun_cons rfl (differs c same), idle]
        exact idle_line plain count

/-- The lines in front of the armor. -/
theorem other_lines {lines : List Str} (plain : ∀ line ∈ lines, 10 ∉ line)
    (other : ∀ line ∈ lines, ¬beginMark <+: line) {idx : DecoderState}
    (start : idx = .sInit ∨ idx = .sLfseen)
    : ∃ last, (last = .sInit ∨ last = .sLfseen)
        ∧ decodeRun (waiting idx 0) (lines.flatMap (· ++ [10])) = ([], waiting last 0) := by
  induction lines generalizing idx with
  | nil => exact ⟨idx, start, rfl⟩
  | cons line lines ih =>
      have first := other_line start (Nat.zero_le 10) (plain line List.mem_cons_self)
        (other line List.mem_cons_self)
      rw [List.flatMap_cons, decodeRun_silent first]
      exact ih (fun line member => plain line (List.mem_cons_of_mem _ member))
        (fun line member => other line (List.mem_cons_of_mem _ member)) (.inr rfl)

/-- The start of the begin line. -/
theorem begin_mark {idx : DecoderState} (start : idx = .sInit ∨ idx = .sLfseen)
    : decodeRun (waiting idx 0) (beginMark ++ pgpMark) = ([], waiting .sWaitheader 3) := by
  rcases start with rfl | rfl <;> rfl

/-- The rest of a line whose start has been seen. -/
theorem rest_line {line : Str} (plain : 10 ∉ line)
    : decodeRun (waiting .sWaitheader 3) (line ++ [10]) = ([], waiting .sWaitblank 3) := by
  induction line with
  | nil => rfl
  | cons c line ih =>
      obtain ⟨other, plain⟩ := not_or.mp (mt List.mem_cons.mpr plain)
      have step : b64Step (waiting .sWaitheader 3) c = (waiting .sWaitheader 3, none) :=
        congrArg (·, none) (if_neg (Ne.symm other))
      rw [List.cons_append, decodeRun_cons rfl step]
      exact ih plain

/-- A blank does not end the wait for a blank line. -/
theorem waitblank_spacing {c : UInt8} (spacing : isSpacing c = true)
    : b64Step (waiting .sWaitblank 3) c = (waiting .sWaitblank 3, none) := by
  have cases_ : c = 32 ∨ c = 13 ∨ c = 9 := by simpa [isSpacing, or_assoc] using spacing
  rcases cases_ with rfl | rfl | rfl <;> rfl

/-- A header line: it may start with spaces, but does not consist of them. -/
theorem header_line {line : Str} (plain : 10 ∉ line) (filled : ∃ c ∈ line, isSpacing c = false)
    : decodeRun (waiting .sWaitblank 3) (line ++ [10]) = ([], waiting .sWaitblank 3) := by
  induction line with
  | nil =>
      obtain ⟨c, member, -⟩ := filled
      exact absurd member List.not_mem_nil
  | cons c line ih =>
      obtain ⟨other, plain⟩ := not_or.mp (mt List.mem_cons.mpr plain)
      by_cases spacing : isSpacing c = true
      · rw [List.cons_append, decodeRun_cons rfl (waitblank_spacing spacing)]
        refine ih plain ?_
        obtain ⟨d, member, letter⟩ := filled
        rcases List.mem_cons.mp member with rfl | member
        · rw [spacing] at letter
          cases letter
        · exact ⟨d, member, letter⟩
      · have letter : ¬(c = 32 ∨ c = 13 ∨ c = 9) := by simpa [isSpacing, or_assoc] using spacing
        have step : b64Step (waiting .sWaitblank 3) c = (waiting .sWaitheader 3, none) := by
          change (if c = 10 then _ else if c = 32 ∨ c = 13 ∨ c = 9 then _ else _) = _
          rw [if_neg (Ne.symm other), if_neg letter]
          rfl
        rw [List.cons_append, decodeRun_cons rfl step]
        exact rest_line plain

/-- The headers are passed over. -/
theorem header_lines {lines : List Str}
    (headers : ∀ line ∈ lines, 10 ∉ line ∧ ∃ c ∈ line, isSpacing c = false)
    : decodeRun (waiting .sWaitblank 3) (lines.flatMap (· ++ [10]))
      = ([], waiting .sWaitblank 3) := by
  induction lines with
  | nil => rfl
  | cons line lines ih =>
      obtain ⟨plain, filled⟩ := headers line List.mem_cons_self
      rw [List.flatMap_cons, decodeRun_silent (header_line plain filled)]
      exact ih fun line member => headers line (List.mem_cons_of_mem _ member)

/-- The blank line behind the headers. -/
theorem blank_line {line : Str} (blank : ∀ c ∈ line, isSpacing c = true)
    : decodeRun (waiting .sWaitblank 3) (line ++ [10]) = ([], waiting .sB640 3) := by
  induction line with
  | nil => rfl
  | cons c line ih =>
      rw [List.cons_append,
        decodeRun_cons rfl (waitblank_spacing (blank c List.mem_cons_self))]
      exact ih fun c member => blank c (List.mem_cons_of_mem _ member)

-----------------------------------------------------------------------------------------
-- The data
-----------------------------------------------------------------------------------------

/-- The decoder has reached the data and has not seen their end. -/
structure B64State.InData (st : B64State) : Prop where
  state
    : st.idx = .sB640 ∨ st.idx = .sB641 ∨ st.idx = .sB642 ∨ st.idx = .sB643
      ∨ st.idx = .sWaitendtitle
  titled : st.title.isSome = true
  goes : st.stopSeen = false

/-- In the data a step is one of two. -/
theorem B64State.InData.step_cases {st : B64State} (inData : st.InData) (c : UInt8)
    : (st.idx = .sWaitendtitle
        ∧ b64Step st c = (if c = 45 then { st with idx := .sWaitend } else st, none))
      ∨ (st.idx ≠ .sWaitendtitle ∧ b64Step st c = dataStep st c) := by
  obtain ⟨idx, quadCount, title, radbuf, stopSeen, invalidEncoding, lasterr⟩ := st
  rcases inData.state with rfl | rfl | rfl | rfl | rfl
  · exact .inr ⟨DecoderState.noConfusion, rfl⟩
  · exact .inr ⟨DecoderState.noConfusion, rfl⟩
  · exact .inr ⟨DecoderState.noConfusion, rfl⟩
  · exact .inr ⟨DecoderState.noConfusion, rfl⟩
  · exact .inl ⟨rfl, rfl⟩


/-- White space within the data is passed over. -/
theorem B64State.InData.white {st : B64State} (inData : st.InData) {c : UInt8}
    (white : isWhite c = true)
    : b64Step st c = (st, none) := by
  have codes : c = 10 ∨ c = 32 ∨ c = 13 ∨ c = 9 := by simpa [isWhite, or_assoc] using white
  have noDash : c ≠ 45 := by rcases codes with rfl | rfl | rfl | rfl <;> decide
  have noPad : c ≠ 61 := by rcases codes with rfl | rfl | rfl | rfl <;> decide
  rcases inData.step_cases c with ⟨-, step⟩ | ⟨-, step⟩
  · rw [step, if_neg noDash]
  · rw [step, dataStep, if_neg fun dash => noDash dash.1, if_neg noPad, if_pos white]

/-- A digit leaves the decoder in the data. -/
theorem digitStep_inData {st : B64State} (inData : st.InData) (c : UInt8)
    : (digitStep st c).1.InData := by
  obtain ⟨state, titled, goes⟩ := inData
  unfold digitStep
  split
  · exact ⟨.inr (.inl rfl), titled, goes⟩
  · exact ⟨.inr (.inr (.inl rfl)), titled, goes⟩
  · exact ⟨.inr (.inr (.inr (.inl rfl))), titled, goes⟩
  · exact ⟨.inl rfl, titled, goes⟩

/-- Only a dash ends the data. -/
theorem B64State.InData.step {st : B64State} (inData : st.InData) {c : UInt8} (noDash : c ≠ 45)
    : (b64Step st c).1.InData := by
  rcases inData.step_cases c with ⟨-, step⟩ | ⟨-, step⟩
  · rw [step, if_neg noDash]
    exact inData
  · rw [step, dataStep, if_neg fun dash => noDash dash.1]
    by_cases padded : c = 61
    · rw [if_pos padded, if_pos inData.titled]
      exact ⟨.inr (.inr (.inr (.inr rfl))), inData.titled, inData.goes⟩
    · rw [if_neg padded]
      split
      · exact inData
      · split
        · exact ⟨inData.state, inData.titled, inData.goes⟩
        · exact ⟨inData.state, inData.titled, inData.goes⟩
        · exact digitStep_inData inData _

/-- Without a dash the decoder stays in the data. -/
theorem B64State.InData.run {st : B64State} (inData : st.InData) {body : List UInt8}
    (noDash : 45 ∉ body)
    : (decodeRun st body).2.InData := by
  induction body generalizing st with
  | nil => exact inData
  | cons c body ih =>
      obtain ⟨first, noDash⟩ := not_or.mp (mt List.mem_cons.mpr noDash)
      rw [decodeRun_step inData.goes]
      exact ih (inData.step (Ne.symm first)) noDash

/-- White space in the data does not matter. -/
theorem decodeRun_filter {st : B64State} (inData : st.InData) {body : List UInt8}
    (noDash : 45 ∉ body)
    : decodeRun st body = decodeRun st (body.filter (fun c => !isWhite c)) := by
  induction body generalizing st with
  | nil => rfl
  | cons c body ih =>
      obtain ⟨first, noDash⟩ := not_or.mp (mt List.mem_cons.mpr noDash)
      by_cases white : isWhite c = true
      · rw [List.filter_cons_of_neg (by simp [white]),
          decodeRun_cons inData.goes (inData.white white)]
        exact ih inData noDash
      · rw [List.filter_cons_of_pos (by simp [white]), decodeRun_step inData.goes,
          decodeRun_step inData.goes, ih (inData.step (Ne.symm first)) noDash]

/-- The characters of the alphabet. -/
theorem character_digit
    : ∀ value < 64,
        Base64.character value ≠ 45
        ∧ Base64.character value ≠ 61
        ∧ isWhite (Base64.character value) = false
        ∧ asctobin[(Base64.character value).toNat]? = some (UInt8.ofNat value)
        ∧ UInt8.ofNat value ≠ 255 := by
  decide +kernel

/-- A character of the alphabet is its value. -/
theorem B64State.InData.digit {st : B64State} (inData : st.InData) (more : st.idx ≠ .sWaitendtitle)
    {value : Nat} (small : value < 64)
    : b64Step st (Base64.character value) = digitStep st (UInt8.ofNat value) := by
  obtain ⟨noDash, noPad, noWhite, code, valid⟩ := character_digit value small
  rcases inData.step_cases (Base64.character value) with ⟨ended, -⟩ | ⟨-, step⟩
  · exact absurd ended more
  rw [step, dataStep, if_neg fun dash => noDash dash.1, if_neg noPad,
    if_neg (by rw [noWhite]; exact Bool.false_ne_true), code]
  split
  · next impossible => cases impossible
  · next reserved => exact absurd (Option.some.inj reserved) valid
  · next found => rw [Option.some.inj found]

/-- The bits of a digit that become the high or the low bits of a byte. -/
theorem digit_parts
    : ∀ value < 64,
        UInt8.ofNat value <<< 2 = UInt8.ofNat (value * 2 ^ 2)
        ∧ UInt8.ofNat value >>> 4 &&& (3 : UInt8) = UInt8.ofNat (value / 16)
        ∧ UInt8.ofNat value <<< 4 &&& (240 : UInt8) = UInt8.ofNat (value % 16 * 2 ^ 4)
        ∧ UInt8.ofNat value >>> 2 &&& (15 : UInt8) = UInt8.ofNat (value / 4)
        ∧ UInt8.ofNat value <<< 6 &&& (192 : UInt8) = UInt8.ofNat (value % 4 * 2 ^ 6)
        ∧ UInt8.ofNat value &&& (63 : UInt8) = UInt8.ofNat value := by
  decide +kernel

/-- Bits that do not overlap are joined by adding. -/
theorem ofNat_or {high low shift : Nat} (small : low < 2 ^ shift)
    (byte : high * 2 ^ shift + low < 256)
    : UInt8.ofNat (high * 2 ^ shift) ||| UInt8.ofNat low = UInt8.ofNat (high * 2 ^ shift + low) := by
  apply UInt8.toNat_inj.mp
  rw [UInt8.toNat_or, UInt8.toNat_ofNat_of_lt' (by change _ < 256; omega),
    UInt8.toNat_ofNat_of_lt' (by change _ < 256; omega), UInt8.toNat_ofNat_of_lt' byte,
    ← Nat.shiftLeft_eq, Nat.shiftLeft_add_eq_or_of_lt small]

/-- How two digits are joined to a byte, for each of its three places in a group. -/
theorem digits_joined {v w : Nat} (first : v < 64) (second : w < 64)
    : UInt8.ofNat v <<< 2 ||| (UInt8.ofNat w >>> 4 &&& (3 : UInt8)) = UInt8.ofNat (v * 4 + w / 16)
      ∧ UInt8.ofNat v <<< 4 &&& (240 : UInt8) ||| (UInt8.ofNat w >>> 2 &&& (15 : UInt8))
        = UInt8.ofNat (v % 16 * 16 + w / 4)
      ∧ UInt8.ofNat v <<< 6 &&& (192 : UInt8) ||| (UInt8.ofNat w &&& (63 : UInt8))
        = UInt8.ofNat (v % 4 * 64 + w) := by
  obtain ⟨high, -, highest, -, top, -⟩ := digit_parts v first
  obtain ⟨-, low, -, lower, -, lowest⟩ := digit_parts w second
  rw [high, low, highest, lower, top, lowest]
  exact ⟨ofNat_or (by omega) (by omega), ofNat_or (by omega) (by omega),
    ofNat_or (by omega) (by omega)⟩

/-- The padding ends the data. -/
theorem B64State.InData.pad {st : B64State} (inData : st.InData) (other : st.idx ≠ .sB641)
    : b64Step st Base64.pad = ({ st with idx := .sWaitendtitle }, none) := by
  have noDash : Base64.pad ≠ 45 := by decide
  have isPad : Base64.pad = 61 := rfl
  rcases inData.step_cases Base64.pad with ⟨ended, step⟩ | ⟨-, step⟩
  · rw [step, if_neg noDash, ← ended]
  · rw [step, dataStep, if_neg fun dash => noDash dash.1, if_pos isPad, if_pos inData.titled,
      if_neg other]

/-- The state behind a digit. -/
def B64State.behind (st : B64State) (idx : DecoderState) (radbuf : UInt8) : B64State :=
  { st with idx, radbuf }

/-- A decoder in front of a digit is in the data. -/
theorem B64State.InData.behind {st : B64State} (inData : st.InData) {idx : DecoderState}
    (state
      : idx = .sB640 ∨ idx = .sB641 ∨ idx = .sB642 ∨ idx = .sB643 ∨ idx = .sWaitendtitle)
    (radbuf : UInt8)
    : (st.behind idx radbuf).InData :=
  ⟨state, inData.titled, inData.goes⟩

/-- A byte with an output byte. -/
theorem decodeRun_stored {st next : B64State} {c byte : UInt8} (goes : st.stopSeen = false)
    (step : b64Step st c = (next, some byte)) (rest : List UInt8)
    : decodeRun st (c :: rest) = (byte :: (decodeRun next rest).1, (decodeRun next rest).2) := by
  rw [decodeRun_step goes, step]
  rfl

section Digits

variable {st : B64State} (inData : st.InData) {v w : Nat} (first : v < 64) (second : w < 64)

include inData first

/-- The first digit of a group gives the high six bits. -/
theorem decodeRun_digit0 (state : st.idx = .sB640) (rest : List UInt8)
    : decodeRun st (Base64.character v :: rest)
      = decodeRun (st.behind .sB641 (UInt8.ofNat v <<< 2)) rest := by
  have more : st.idx ≠ .sWaitendtitle := by rw [state]; exact DecoderState.noConfusion
  refine decodeRun_cons inData.goes ?_ rest
  rw [inData.digit more first, digitStep, state]
  rfl

include second

/-- The second digit completes the first byte. -/
theorem decodeRun_digit1 (rest : List UInt8)
    : decodeRun (st.behind .sB641 (UInt8.ofNat v <<< 2)) (Base64.character w :: rest)
      = (UInt8.ofNat (v * 4 + w / 16)
            :: (decodeRun (st.behind .sB642 (UInt8.ofNat w <<< 4 &&& (240 : UInt8))) rest).1,
          (decodeRun (st.behind .sB642 (UInt8.ofNat w <<< 4 &&& (240 : UInt8))) rest).2) := by
  have inData' := inData.behind (.inr (.inl rfl)) (UInt8.ofNat v <<< 2)
  refine decodeRun_stored inData'.goes ?_ rest
  rw [inData'.digit DecoderState.noConfusion second, ← (digits_joined first second).1]
  rfl

/-- The third digit completes the second byte. -/
theorem decodeRun_digit2 (rest : List UInt8)
    : decodeRun (st.behind .sB642 (UInt8.ofNat v <<< 4 &&& (240 : UInt8)))
        (Base64.character w :: rest)
      = (UInt8.ofNat (v % 16 * 16 + w / 4)
            :: (decodeRun (st.behind .sB643 (UInt8.ofNat w <<< 6 &&& (192 : UInt8))) rest).1,
          (decodeRun (st.behind .sB643 (UInt8.ofNat w <<< 6 &&& (192 : UInt8))) rest).2) := by
  have inData' := inData.behind (.inr (.inr (.inl rfl))) (UInt8.ofNat v <<< 4 &&& (240 : UInt8))
  refine decodeRun_stored inData'.goes ?_ rest
  rw [inData'.digit DecoderState.noConfusion second, ← (digits_joined first second).2.1]
  rfl

/-- The fourth digit completes the third byte. -/
theorem decodeRun_digit3 (rest : List UInt8)
    : ∃ radbuf,
        decodeRun (st.behind .sB643 (UInt8.ofNat v <<< 6 &&& (192 : UInt8)))
          (Base64.character w :: rest)
        = (UInt8.ofNat (v % 4 * 64 + w) :: (decodeRun (st.behind .sB640 radbuf) rest).1,
            (decodeRun (st.behind .sB640 radbuf) rest).2) := by
  have inData' := inData.behind (.inr (.inr (.inr (.inl rfl))))
    (UInt8.ofNat v <<< 6 &&& (192 : UInt8))
  refine ⟨UInt8.ofNat (v % 4 * 64 + w), decodeRun_stored inData'.goes ?_ rest⟩
  rw [inData'.digit DecoderState.noConfusion second, ← (digits_joined first second).2.2]
  rfl

end Digits

/-- Padding adds nothing. -/
theorem decodeRun_pad {st : B64State} (inData : st.InData) (other : st.idx ≠ .sB641)
    (rest : List UInt8)
    : decodeRun st (Base64.pad :: rest) = decodeRun (st.behind .sWaitendtitle st.radbuf) rest :=
  decodeRun_cons inData.goes (inData.pad other) rest

/-- Encoded bytes are decoded, by induction on groups of three. -/
theorem decodeRun_encode (bytes : List UInt8) {st : B64State} (inData : st.InData)
    (start : st.idx = .sB640)
    : ∃ idx radbuf,
        (idx = .sB640 ∨ idx = .sWaitendtitle)
        ∧ decodeRun st (Base64.encodeBytes bytes) = (bytes, st.behind idx radbuf) := by
  induction bytes using Base64.encodeBytes.induct generalizing st with
  | case1 => exact ⟨.sB640, st.radbuf, .inl rfl, by rw [← start]; rfl⟩
  | case2 a =>
      have below := a.toNat_lt
      refine ⟨.sWaitendtitle, UInt8.ofNat (a.toNat % 4 * 16) <<< 4 &&& (240 : UInt8), .inr rfl, ?_⟩
      rw [Base64.encodeBytes, decodeRun_digit0 inData (by omega) start,
        decodeRun_digit1 inData (by omega) (by omega), Base64.ofNat_eq a (by omega),
        decodeRun_pad (inData.behind (.inr (.inr (.inl rfl))) _) DecoderState.noConfusion,
        decodeRun_pad ((inData.behind (.inr (.inr (.inl rfl))) _).behind
          (.inr (.inr (.inr (.inr rfl)))) _) DecoderState.noConfusion]
      rfl
  | case3 a b =>
      have below := a.toNat_lt
      have below' := b.toNat_lt
      refine ⟨.sWaitendtitle, UInt8.ofNat (b.toNat % 16 * 4) <<< 6 &&& (192 : UInt8), .inr rfl, ?_⟩
      rw [Base64.encodeBytes, decodeRun_digit0 inData (by omega) start,
        decodeRun_digit1 inData (by omega) (by omega), Base64.ofNat_eq a (by omega),
        decodeRun_digit2 inData (by omega) (by omega), Base64.ofNat_eq b (by omega),
        decodeRun_pad (inData.behind (.inr (.inr (.inr (.inl rfl)))) _) DecoderState.noConfusion]
      rfl
  | case4 a b c rest ih =>
      have below := a.toNat_lt
      have below' := b.toNat_lt
      have below'' := c.toNat_lt
      obtain ⟨radbuf, group⟩ := decodeRun_digit3 inData
        (by omega : b.toNat % 16 * 4 + c.toNat / 64 < 64) (by omega : c.toNat % 64 < 64)
        (Base64.encodeBytes rest)
      obtain ⟨idx, last, ends, decoded⟩ := ih (inData.behind (.inl rfl) radbuf) rfl
      refine ⟨idx, last, ends, ?_⟩
      rw [Base64.encodeBytes, decodeRun_digit0 inData (by omega) start,
        decodeRun_digit1 inData (by omega) (by omega), Base64.ofNat_eq a (by omega),
        decodeRun_digit2 inData (by omega) (by omega), Base64.ofNat_eq b (by omega), group,
        Base64.ofNat_eq c (by omega), decoded]
      rfl

/-- Behind the data nothing is stored. -/
theorem decodeRun_closed {st : B64State} (closed : st.idx = .sWaitendtitle ∨ st.idx = .sWaitend)
    (rest : List UInt8)
    : (decodeRun st rest).1 = [] := by
  induction rest generalizing st with
  | nil => rfl
  | cons c rest ih =>
      obtain ⟨idx, quadCount, title, radbuf, stopSeen, invalidEncoding, lasterr⟩ := st
      rw [decodeRun]
      split
      · rfl
      · rcases closed with rfl | rfl
        · change [] ++ (decodeRun (if c = 45 then _ else _) rest).1 = []
          split
          · exact ih (.inr rfl)
          · exact ih (.inl rfl)
        · change [] ++ (decodeRun (if c = 10 then _ else _) rest).1 = []
          split
          · exact ih (.inr rfl)
          · exact ih (.inr rfl)

/-- A dash or a padding ends the data. -/
theorem decodeRun_end {st : B64State} (inData : st.InData)
    (state : st.idx = .sB640 ∨ st.idx = .sWaitendtitle) {c : UInt8} (ends : c = 45 ∨ c = 61)
    (rest : List UInt8)
    : (decodeRun st (c :: rest)).1 = [] := by
  rcases state with start | ended
  · rcases ends with rfl | rfl
    · rcases inData.step_cases 45 with ⟨ended, -⟩ | ⟨-, step⟩
      · rw [start] at ended
        cases ended
      · rw [dataStep, if_pos ⟨rfl, inData.titled⟩] at step
        rw [decodeRun_cons inData.goes step]
        exact decodeRun_closed (.inr rfl) rest
    · have pad : (61 : UInt8) = Base64.pad := rfl
      rw [pad, decodeRun_pad inData (by rw [start]; exact DecoderState.noConfusion)]
      exact decodeRun_closed (.inl rfl) rest
  · exact decodeRun_closed (.inl ended) _

end Gpgme
