import Mathlib.Data.List.TakeWhile
import Gpgme.Error
import Gpgme.Lib.Lines
import Gpgme.Posix.Reads

/-! `gpgconf_read` of `engine-gpgconf.c`, which passes the output of gpgconf to a callback line by
line.
-/

namespace Gpgme.Gpgconf

open Lines

-----------------------------------------------------------------------------------------
-- The function
-----------------------------------------------------------------------------------------

/-- `strchr` for a line feed: its position, or none in front of the terminator. Without either of
both the buffer is left.
-/
def findMark : List UInt8 → Option (Option Nat)
  | [] => none
  | c :: rest =>
      if c = lineFeed then some (some 0)
      else if c = 0 then some none
      else (findMark rest).map (Option.map (· + 1))

/-- A byte is written to a position, which must be inside of the buffer. -/
def storeByte (block : List UInt8) (pos : Nat) (c : UInt8) : Option (List UInt8) :=
  if pos < block.length then some (block.set pos c) else none

/-- Bytes are written from a position on, and all of them must be inside of the buffer. -/
def storeBytes (block : List UInt8) (pos : Nat) (bytes : List UInt8) : Option (List UInt8) :=
  if pos + bytes.length ≤ block.length then
    some (block.take pos ++ bytes ++ block.drop (pos + bytes.length))
  else
    none

/-- The string at a position of the buffer. -/
def stringAt (block : List UInt8) (pos : Nat) : Str := (block.drop pos).takeWhile (· != 0)

section Reading

variable {σ : Type}

/-- The loop over the lines of the buffer from the position `line` on, which is also the end of the
lines that were used. The callback returns an error and what the hook refers to then.
-/
def markLoop (cb : σ → Str → GpgError × σ)
    : Nat → σ → List UInt8 → Nat → Option (GpgError × σ × List UInt8 × Nat)
  | 0, _, _, _ => none
  | rounds + 1, hook, block, line =>
      match findMark (block.drop line) with
      | none => none
      | some none => some (0, hook, block, line)
      | some (some length) =>
          let mark := line + length
          let ending := if mark > line ∧ block.getD (mark - 1) 0 = 13 then mark - 1 else mark
          match storeByte block ending 0 with
          | none => none
          | some block =>
              let text := stringAt block line
              let (err, hook) := if text ≠ [] then cb hook text else (0, hook)
              if err ≠ 0 then some (err, hook, block, mark + 1)
              else markLoop cb rounds hook block (mark + 1)

/-- `memmove (linebuf, linebuf + nused, linelen - nused)`. -/
def moveFront (block : List UInt8) (nused linelen : Nat) : Option (List UInt8) :=
  if nused ≤ linelen ∧ linelen ≤ block.length then
    storeBytes block 0 ((block.drop nused).take (linelen - nused))
  else
    none

/-- The next size of a buffer that is full, if it is not the last. -/
def nextSize (linelen : Nat) : Option Nat :=
  if linelen < 8 * 1024 - 1 then some (8 * 1024)
  else if linelen < 64 * 1024 - 1 then some (64 * 1024)
  else none

/-- The bytes of a buffer from `malloc`, as the system hands it out, if there is memory. -/
structure Memory where
  malloc : Nat → Option (List UInt8)
  sized : ∀ size block, malloc size = some block → block.length = size

/-- `realloc`. -/
def Memory.realloc (memory : Memory) (block : List UInt8) (size : Nat) : Option (List UInt8) :=
  (memory.malloc size).map fun fresh => block.take size ++ fresh.drop block.length

/-- The buffer for the next read: the same one if there is room. -/
def growBuffer (memory : Memory) (block : List UInt8) (linelen : Nat)
    : Except GpgError (List UInt8) :=
  if linelen < block.length - 1 then .ok block
  else
    match nextSize linelen with
    | none => .error (gpgError ErrCode.lineTooLong)
    | some size =>
        match memory.realloc block size with
        | none => .error (gpgError ErrCode.enomem)
        | some block => .ok block

/-- The loop of `gpgconf_read` over the reads from the pipe. There is no result where it leaves the
buffer, or where there are not enough rounds.
-/
def readLoop (cb : σ → Str → GpgError × σ) (memory : Memory) (answers : Nat → IoAnswer)
    : Nat → Nat → σ → Str → List UInt8 → Nat → Option (GpgError × σ)
  | 0, _, _, _, _, _ => none
  | rounds + 1, count, hook, left, block, linelen =>
      match ioRead (answers count) left (block.length - linelen - 1) with
      | .error err => some (err, hook)
      | .ok ([], _) => some (0, hook)
      | .ok (bytes, left) =>
          match (storeBytes block linelen bytes).bind
            (storeByte · (linelen + bytes.length) 0) with
          | none => none
          | some block =>
              let linelen := linelen + bytes.length
              match markLoop cb (linelen + 1) hook block 0 with
              | none => none
              | some (err, hook, block, nused) =>
                  if err ≠ 0 then some (err, hook)
                  else
                    match moveFront block nused linelen with
                    | none => none
                    | some block =>
                        let linelen := linelen - nused
                        match growBuffer memory block linelen with
                        | .error err => some (err, hook)
                        | .ok block =>
                            readLoop cb memory answers rounds (count + 1) hook left block linelen

/-- What happens to one call of gpgconf: errors of the pipe and of the start, the memory, and the
answers to the reads of its output.
-/
structure GpgconfRun where
  pipe : Option Nat := none
  spawn : Option Nat := none
  memory : Memory
  output : Str
  answers : Nat → IoAnswer

/-- `gpgconf_read`. Each round of the loop reads at least one byte. -/
def gpgconfRead (cb : σ → Str → GpgError × σ) (hook : σ) (run : GpgconfRun)
    : Option (GpgError × σ) :=
  match run.pipe, run.spawn with
  | some errno, _ => some (gpgErrorFromSyserror errno, hook)
  | none, some errno => some (gpgErrorFromSyserror errno, hook)
  | none, none =>
      match run.memory.malloc 1024 with
      | none => some (gpgError ErrCode.enomem, hook)
      | some block =>
          readLoop cb run.memory run.answers (run.output.length + 1) 0 hook run.output block 0

-----------------------------------------------------------------------------------------
-- The lines of a buffer
-----------------------------------------------------------------------------------------

/-- A line without the carriage return in front of its line feed. -/
def confLine (raw : Str) : Str := if raw.getLast? = some 13 then raw.dropLast else raw

/-- The lines that are passed on. -/
def passedLines (raws : List Str) : List Str := (raws.map confLine).filter (· ≠ [])

/-- The callback gets line after line up to the first error. -/
def feed (cb : σ → Str → GpgError × σ) : σ → List Str → GpgError × σ
  | hook, [] => (0, hook)
  | hook, line :: rest =>
      let (err, hook) := cb hook line
      if err ≠ 0 then (err, hook) else feed cb hook rest

theorem findMark_line {line : Str} (plain : lineFeed ∉ line) (zeroFree : 0 ∉ line) (rest : Str)
    : findMark (line ++ lineFeed :: rest) = some (some line.length) := by
  induction line with
  | nil => rfl
  | cons c more ih =>
      obtain ⟨other, plain⟩ := not_or.mp (mt List.mem_cons.mpr plain)
      obtain ⟨nonzero, zeroFree⟩ := not_or.mp (mt List.mem_cons.mpr zeroFree)
      rw [List.cons_append, findMark, if_neg (Ne.symm other), if_neg (Ne.symm nonzero),
        ih plain zeroFree]
      rfl

theorem findMark_unfinished {text : Str} (plain : lineFeed ∉ text) (zeroFree : 0 ∉ text)
    (rest : List UInt8)
    : findMark (text ++ 0 :: rest) = some none := by
  induction text with
  | nil => rfl
  | cons c more ih =>
      obtain ⟨other, plain⟩ := not_or.mp (mt List.mem_cons.mpr plain)
      obtain ⟨nonzero, zeroFree⟩ := not_or.mp (mt List.mem_cons.mpr zeroFree)
      rw [List.cons_append, findMark, if_neg (Ne.symm other), if_neg (Ne.symm nonzero),
        ih plain zeroFree]
      rfl

theorem stringAt_append (front : List UInt8) {text : Str} (zeroFree : 0 ∉ text)
    (rest : List UInt8)
    : stringAt (front ++ (text ++ 0 :: rest)) front.length = text := by
  unfold stringAt
  rw [List.drop_left, List.takeWhile_append_of_pos]
  · simp
  · intro c member
    simpa using fun zero : c = 0 => zeroFree (zero ▸ member)

theorem storeByte_append (front : List UInt8) (old c : UInt8) (rest : List UInt8)
    : storeByte (front ++ old :: rest) front.length c = some (front ++ c :: rest) := by
  unfold storeByte
  rw [if_pos (by simp)]
  simp

theorem line_ended (front : List UInt8) {raw : Str} (zeroFree : 0 ∉ raw) (rest : List UInt8)
    : ∃ head block,
        storeByte (front ++ (raw ++ lineFeed :: rest))
          (if front.length + raw.length > front.length
              ∧ (front ++ (raw ++ lineFeed :: rest)).getD (front.length + raw.length - 1) 0 = 13 then
            front.length + raw.length - 1
          else
            front.length + raw.length) 0
          = some block
        ∧ block = front ++ (head ++ rest)
        ∧ head.length = raw.length + 1
        ∧ stringAt block front.length = confLine raw := by
  by_cases returned : raw.getLast? = some 13
  · obtain ⟨line, rfl⟩ : ∃ line, raw = line ++ [13] :=
      ⟨raw.dropLast, (List.dropLast_append_getLast? 13 returned).symm⟩
    have plain : 0 ∉ line := fun member => zeroFree (List.mem_append_left _ member)
    have last
        : (front ++ ((line ++ [13]) ++ lineFeed :: rest)).getD
            (front.length + (line ++ [13]).length - 1) 0 = 13 := by
      rw [List.length_append, List.length_singleton, ← Nat.add_assoc, Nat.add_sub_cancel,
        List.append_assoc line, ← List.append_assoc front, ← List.length_append]
      simp [List.getD_eq_getElem?_getD]
    refine ⟨line ++ [0, lineFeed], front ++ (line ++ 0 :: lineFeed :: rest), ?_, by simp,
      by simp, ?_⟩
    · rw [if_pos ⟨by simp, last⟩]
      rw [List.length_append, List.length_singleton, ← Nat.add_assoc, Nat.add_sub_cancel,
        List.append_assoc line, ← List.append_assoc front, ← List.length_append,
        ← List.append_assoc front]
      exact storeByte_append (front ++ line) 13 0 (lineFeed :: rest)
    · rw [stringAt_append front plain, confLine, if_pos returned, List.dropLast_concat]
  · have kept
        : ¬(front.length + raw.length > front.length
          ∧ (front ++ (raw ++ lineFeed :: rest)).getD (front.length + raw.length - 1) 0 = 13) := by
      rintro ⟨filled, last⟩
      have nonempty : raw ≠ [] := by
        rintro rfl
        simp at filled
      refine returned ?_
      obtain ⟨line, c, rfl⟩ : ∃ line c, raw = line ++ [c] :=
        ⟨_, _, (List.dropLast_append_getLast nonempty).symm⟩
      rw [List.length_append, List.length_singleton, ← Nat.add_assoc, Nat.add_sub_cancel,
        List.append_assoc line, ← List.append_assoc front, ← List.length_append] at last
      simpa [List.getD_eq_getElem?_getD] using last
    refine ⟨raw ++ [0], front ++ (raw ++ 0 :: rest), ?_, by simp, by simp, ?_⟩
    · rw [if_neg kept, ← List.append_assoc, ← List.append_assoc, ← List.length_append]
      exact storeByte_append (front ++ raw) lineFeed 0 rest
    · rw [stringAt_append front zeroFree, confLine, if_neg returned]

theorem passedLines_cons (raw : Str) (raws : List Str)
    : passedLines (raw :: raws)
      = if confLine raw ≠ [] then confLine raw :: passedLines raws else passedLines raws := by
  unfold passedLines
  rw [List.map_cons, List.filter_cons]
  by_cases empty : confLine raw = [] <;> simp [empty]

theorem passedLines_append (raws more : List Str)
    : passedLines (raws ++ more) = passedLines raws ++ passedLines more := by
  simp [passedLines]

theorem markLoop_feeds (cb : σ → Str → GpgError × σ) {rounds : Nat} (hook : σ)
    (front : List UInt8) {text : Str} (zeroFree : 0 ∉ text) (tail : List UInt8)
    (enough : text.length < rounds)
    : ∃ block line,
        markLoop cb rounds hook (front ++ (text ++ 0 :: tail)) front.length
          = some ((feed cb hook (passedLines (complete [] text))).1,
              (feed cb hook (passedLines (complete [] text))).2, block, line)
        ∧ ((feed cb hook (passedLines (complete [] text))).1 = 0 →
          ∃ used,
            block = used ++ (unfinished [] text ++ 0 :: tail)
            ∧ used.length = line
            ∧ line + (unfinished [] text).length = front.length + text.length) := by
  induction rounds generalizing hook front text with
  | zero => omega
  | succ rounds ih =>
      by_cases ends : lineFeed ∈ text
      · obtain ⟨raw, more, rfl, plain⟩ := List.eq_append_cons_of_mem ends
        have rawFree : 0 ∉ raw := fun member => zeroFree (List.mem_append_left _ member)
        have moreFree : 0 ∉ more := fun member =>
          zeroFree (List.mem_append_right _ (List.mem_cons_of_mem _ member))
        obtain ⟨head, block, stored, rfl, headLength, line⟩ :=
          line_ended front rawFree (more ++ 0 :: tail)
        have found
            : findMark ((front ++ ((raw ++ lineFeed :: more) ++ 0 :: tail)).drop front.length)
              = some (some raw.length) := by
          rw [List.drop_left, List.append_assoc, List.cons_append]
          exact findMark_line plain rawFree _
        have lines : complete [] (raw ++ lineFeed :: more) = raw :: complete [] more := by
          simpa using complete_line plain [] more
        have rest : unfinished [] (raw ++ lineFeed :: more) = unfinished [] more :=
          unfinished_line raw [] more
        have next := fun hook => ih hook (front ++ head) moreFree (by
          rw [List.length_append, List.length_cons] at enough
          omega)
        rw [lines, rest, passedLines_cons]
        unfold markLoop
        simp only [found]
        rw [List.append_assoc raw, List.cons_append, stored]
        simp only [line]
        have behind : (front ++ head).length = front.length + raw.length + 1 := by
          rw [List.length_append, headLength, Nat.add_assoc]
        have total
            : front.length + (raw ++ lineFeed :: more).length
              = (front ++ head).length + more.length := by
          rw [behind, List.length_append, List.length_cons]
          omega
        rw [total, ← List.append_assoc front, ← behind]
        by_cases empty : confLine raw = []
        · rw [if_neg (not_not.mpr empty), if_neg (not_not.mpr empty)]
          simpa using next hook
        · rw [if_pos empty, if_pos empty]
          cases called : cb hook (confLine raw) with
          | mk err hook' =>
              by_cases failed : err = 0
              · subst failed
                simpa [feed, called] using next hook'
              · refine ⟨_, _, by simp [feed, called, failed]; exact ⟨rfl, rfl⟩, ?_⟩
                intro accepted
                simp [feed, called, failed] at accepted
      · have found
            : findMark ((front ++ (text ++ 0 :: tail)).drop front.length) = some none := by
          rw [List.drop_left]
          exact findMark_unfinished ends zeroFree tail
        rw [complete_plain ends, unfinished_plain ends, List.nil_append]
        refine ⟨front ++ (text ++ 0 :: tail), front.length, ?_, fun _ => ⟨front, rfl, rfl, rfl⟩⟩
        unfold markLoop
        simp only [found]
        rfl

-----------------------------------------------------------------------------------------
-- The text that is read
-----------------------------------------------------------------------------------------

/-- The size of the buffer for the next read. -/
def growSize (memory : Memory) (size linelen : Nat) : Except GpgError Nat :=
  if linelen < size - 1 then .ok size
  else
    match nextSize linelen with
    | none => .error (gpgError ErrCode.lineTooLong)
    | some size =>
        if (memory.malloc size).isSome then .ok size else .error (gpgError ErrCode.enomem)

/-- The text in front of the first zero byte, behind which no line feed is found. -/
def visible (text : Str) : Str := text.takeWhile (· != 0)

/-- What stays in the buffer when the lines of its text are used. -/
def remaining (text : Str) : Str := unfinished [] (visible text) ++ text.dropWhile (· != 0)

/-- Reading without a buffer: the lines that are passed on to a callback that takes all of them, and
how reading ends. Some bytes are `pending`.
-/
def textLoop (memory : Memory) (answers : Nat → IoAnswer)
    : Nat → Nat → Str → Nat → Str → Option (GpgError × List Str)
  | 0, _, _, _, _ => none
  | rounds + 1, count, left, size, pending =>
      match ioRead (answers count) left (size - pending.length - 1) with
      | .error err => some (err, [])
      | .ok ([], _) => some (0, [])
      | .ok (bytes, left) =>
          let text := pending ++ bytes
          let lines := passedLines (complete [] (visible text))
          match growSize memory size (remaining text).length with
          | .error err => some (err, lines)
          | .ok size =>
              (textLoop memory answers rounds (count + 1) left size (remaining text)).map
                fun (err, more) => (err, lines ++ more)

/-- The result for a callback, when reading goes on to its end without it. -/
def feedAll (cb : σ → Str → GpgError × σ) (hook : σ) (read : GpgError × List Str)
    : GpgError × σ :=
  if (feed cb hook read.2).1 ≠ 0 then feed cb hook read.2 else (read.1, (feed cb hook read.2).2)

theorem feed_append (cb : σ → Str → GpgError × σ) (hook : σ) (lines more : List Str)
    : feed cb hook (lines ++ more)
      = if (feed cb hook lines).1 ≠ 0 then feed cb hook lines
        else feed cb (feed cb hook lines).2 more := by
  induction lines generalizing hook with
  | nil => rfl
  | cons line rest ih =>
      rw [List.cons_append, feed, feed]
      cases called : cb hook line with
      | mk err hook' =>
          by_cases failed : err = 0
          · simpa [failed] using ih hook'
          · simp [failed]

theorem feedAll_append (cb : σ → Str → GpgError × σ) (hook : σ) (lines more : List Str)
    (err : GpgError)
    : feedAll cb hook (err, lines ++ more)
      = if (feed cb hook lines).1 ≠ 0 then feed cb hook lines
        else feedAll cb (feed cb hook lines).2 (err, more) := by
  unfold feedAll
  rw [feed_append]
  split_ifs <;> simp_all

theorem storeBytes_fits {block : List UInt8} {pos : Nat} {bytes : List UInt8}
    (fits : pos + bytes.length ≤ block.length)
    : storeBytes block pos bytes
      = some (block.take pos ++ bytes ++ block.drop (pos + bytes.length)) := if_pos fits

theorem stored_read {block : List UInt8} {pending : Str} (bytes : Str)
    (holds : block.take pending.length = pending)
    (fits : pending.length + bytes.length < block.length)
    : ∃ tail,
        (storeBytes block pending.length bytes).bind
            (storeByte · (pending.length + bytes.length) 0)
          = some ((pending ++ bytes) ++ 0 :: tail)
        ∧ ((pending ++ bytes) ++ 0 :: tail).length = block.length := by
  obtain ⟨old, tail, split⟩ : ∃ old tail, block.drop (pending.length + bytes.length) = old :: tail :=
    List.exists_cons_of_ne_nil (by simpa using fits)
  have length := congrArg List.length split
  rw [List.length_drop, List.length_cons] at length
  refine ⟨tail, ?_, ?_⟩
  · rw [storeBytes_fits (by omega), holds, split, Option.bind_some, ← List.length_append]
    exact storeByte_append (pending ++ bytes) old 0 tail
  · rw [List.length_append, List.length_append, List.length_cons]
    omega

theorem moved_front {used pending tail : List UInt8} {linelen : Nat}
    (length : used.length + pending.length = linelen)
    : ∃ block,
        moveFront (used ++ (pending ++ 0 :: tail)) used.length linelen = some block
        ∧ block.length = (used ++ (pending ++ 0 :: tail)).length
        ∧ block.take pending.length = pending := by
  have kept
      : ((used ++ (pending ++ 0 :: tail)).drop used.length).take (linelen - used.length)
        = pending := by
    rw [List.drop_left, ← length, Nat.add_sub_cancel_left, List.take_left]
  have fits : 0 + pending.length ≤ (used ++ (pending ++ 0 :: tail)).length := by
    simp only [List.length_append]
    omega
  refine
    ⟨(used ++ (pending ++ 0 :: tail)).take 0 ++ pending
      ++ (used ++ (pending ++ 0 :: tail)).drop (0 + pending.length), ?_, ?_, ?_⟩
  · unfold moveFront
    rw [if_pos ⟨by omega, by simp; omega⟩, kept]
    exact storeBytes_fits fits
  · simp only [List.length_append, List.length_take, List.length_drop] at fits ⊢
    omega
  · rw [List.take_zero, List.nil_append, List.take_left]

theorem growBuffer_size (memory : Memory) {block : List UInt8} {pending : Str}
    (holds : block.take pending.length = pending) (fits : pending.length < block.length)
    : (∃ err,
        growBuffer memory block pending.length = .error err
        ∧ growSize memory block.length pending.length = .error err)
      ∨ ∃ block',
          growBuffer memory block pending.length = .ok block'
          ∧ growSize memory block.length pending.length = .ok block'.length
          ∧ block'.take pending.length = pending
          ∧ pending.length + 1 < block'.length := by
  unfold growBuffer growSize
  by_cases room : pending.length < block.length - 1
  · rw [if_pos room, if_pos room]
    exact .inr ⟨block, rfl, rfl, holds, by omega⟩
  · rw [if_neg room, if_neg room]
    cases next : nextSize pending.length with
    | none => exact .inl ⟨_, rfl, rfl⟩
    | some size =>
        have larger : pending.length + 1 < size := by
          unfold nextSize at next
          split_ifs at next <;> cases next <;> omega
        cases allocated : memory.malloc size with
        | none =>
            left
            exact ⟨gpgError ErrCode.enomem, by simp [Memory.realloc, allocated], by simp [allocated]⟩
        | some fresh =>
            have length := memory.sized size fresh allocated
            right
            refine ⟨block.take size ++ fresh.drop block.length, ?_, ?_, ?_, ?_⟩
            · simp [Memory.realloc, allocated]
            · simp [allocated]
              omega
            · rw [List.take_append_of_le_length (by rw [List.length_take]; omega), List.take_take,
                Nat.min_eq_left (by omega), holds]
            · simp
              omega

theorem textLoop_ends (memory : Memory) (answers : Nat → IoAnswer) {rounds : Nat} (count : Nat)
    {left : Str} (enough : left.length < rounds) (size : Nat) (pending : Str)
    : ∃ read, textLoop memory answers rounds count left size pending = some read := by
  induction rounds generalizing count left size pending with
  | zero => omega
  | succ rounds ih =>
      unfold textLoop
      rcases read : ioRead (answers count) left (size - pending.length - 1) with err | ⟨bytes, rest⟩
      · exact ⟨_, rfl⟩
      cases bytes with
      | nil => exact ⟨_, rfl⟩
      | cons c bytes =>
          obtain ⟨rfl, -⟩ := ioRead_ok read
          dsimp only
          cases growSize memory size (remaining (pending ++ c :: bytes)).length with
          | error err => exact ⟨_, rfl⟩
          | ok size =>
              have shorter : rest.length < rounds := by
                simp only [List.cons_append, List.length_cons, List.length_append] at enough
                omega
              obtain ⟨read, found⟩ := ih (count + 1) shorter size (remaining (pending ++ c :: bytes))
              exact ⟨_, congrArg (Option.map _) found⟩

theorem markLoop_text (cb : σ → Str → GpgError × σ) (hook : σ) (text : Str) (tail : List UInt8)
    : ∃ block line,
        markLoop cb (text.length + 1) hook (text ++ 0 :: tail) 0
          = some ((feed cb hook (passedLines (complete [] (visible text)))).1,
              (feed cb hook (passedLines (complete [] (visible text)))).2, block, line)
        ∧ ((feed cb hook (passedLines (complete [] (visible text)))).1 = 0 →
          ∃ used,
            block = used ++ (remaining text ++ 0 :: tail)
            ∧ used.length = line
            ∧ line + (remaining text).length = text.length) := by
  have zeroFree : 0 ∉ visible text := fun member => by
    simpa using List.mem_takeWhile_imp member
  have split : visible text ++ text.dropWhile (· != 0) = text := List.takeWhile_append_dropWhile
  have short : (visible text).length < text.length + 1 := by
    rw [← congrArg List.length split, List.length_append]
    omega
  obtain ⟨behind, block⟩
      : ∃ behind, text.dropWhile (· != 0) ++ 0 :: tail = 0 :: behind := by
    cases hidden : text.dropWhile (· != 0) with
    | nil => exact ⟨tail, rfl⟩
    | cons c more =>
        have filled : text.dropWhile (· != 0) ≠ [] := by
          rw [hidden]
          exact List.cons_ne_nil c more
        have zero := List.head_dropWhile_not (· != 0) filled
        simp only [hidden, List.head_cons] at zero
        rw [show c = 0 by simpa using zero]
        exact ⟨_, rfl⟩
  have loop := markLoop_feeds cb hook [] zeroFree behind short
  rw [← block, List.nil_append, List.length_nil, ← List.append_assoc, split] at loop
  obtain ⟨block', line, fed, ended⟩ := loop
  refine ⟨block', line, fed, fun accepted => ?_⟩
  obtain ⟨used, rfl, rfl, count⟩ := ended accepted
  refine ⟨used, by rw [remaining, List.append_assoc], rfl, ?_⟩
  have total := congrArg List.length split
  rw [List.length_append] at total
  rw [remaining, List.length_append]
  omega

theorem readLoop_eq (cb : σ → Str → GpgError × σ) (memory : Memory) (answers : Nat → IoAnswer)
    {rounds : Nat} (count : Nat) (hook : σ) {left : Str} (enough : left.length < rounds)
    {block : List UInt8} {pending : Str} (holds : block.take pending.length = pending)
    (room : pending.length + 1 < block.length)
    : readLoop cb memory answers rounds count hook left block pending.length
      = (textLoop memory answers rounds count left block.length pending).map (feedAll cb hook) := by
  induction rounds generalizing count hook left block pending with
  | zero => rfl
  | succ rounds ih =>
      unfold readLoop textLoop
      rcases read : ioRead (answers count) left (block.length - pending.length - 1)
        with err | ⟨bytes, rest⟩
      · rfl
      cases bytes with
      | nil => rfl
      | cons c bytes =>
          obtain ⟨rfl, short⟩ := ioRead_ok read
          have shorter : rest.length < rounds := by
            simp only [List.cons_append, List.length_cons, List.length_append] at enough
            omega
          dsimp only
          generalize c :: bytes = bytes at *
          obtain ⟨tail, stored, length⟩ := stored_read bytes holds (by omega)
          rw [stored]
          dsimp only
          rw [← List.length_append]
          generalize pending ++ bytes = text at *
          obtain ⟨block', line, fed, ended⟩ := markLoop_text cb hook text tail
          rw [fed]
          dsimp only
          by_cases accepted : (feed cb hook (passedLines (complete [] (visible text)))).1 = 0
          · rw [if_neg (not_not.mpr accepted)]
            obtain ⟨used, rfl, rfl, behind⟩ := ended accepted
            obtain ⟨block', moved, kept, holds'⟩ := @moved_front used _ tail _ behind
            rw [moved]
            dsimp only
            rw [← behind, Nat.add_sub_cancel_left]
            have same : block'.length = block.length := by
              rw [kept, ← length]
              simp only [List.length_append]
              omega
            rw [← same]
            have bounded : (remaining text).length < block'.length := by
              rw [same, ← length, List.length_append, List.length_cons]
              omega
            rcases growBuffer_size memory holds' bounded
              with ⟨err, grown, size⟩ | ⟨block'', grown, size, holds'', room''⟩
            · rw [grown, size]
              simp [feedAll, accepted]
            · rw [grown, size]
              dsimp only
              rw [ih (count + 1) _ shorter holds'' room'', Option.map_map]
              congr 1
              funext later
              rw [Function.comp_apply, feedAll_append, if_neg (not_not.mpr accepted)]
          · rw [if_pos accepted]
            cases growSize memory block.length (remaining text).length with
            | error err => simp [feedAll, accepted]
            | ok size =>
                obtain ⟨later, found⟩ :=
                  textLoop_ends memory answers (count + 1) shorter size (remaining text)
                simp [found, feedAll_append, accepted]

theorem gpgconfRead_feeds (run : GpgconfRun)
    : ∃ read, ∀ {σ : Type} (cb : σ → Str → GpgError × σ) (hook : σ),
        gpgconfRead cb hook run = some (feedAll cb hook read) := by
  unfold gpgconfRead
  cases run.pipe with
  | some errno => exact ⟨(gpgErrorFromSyserror errno, []), fun _ _ => rfl⟩
  | none =>
      cases run.spawn with
      | some errno => exact ⟨(gpgErrorFromSyserror errno, []), fun _ _ => rfl⟩
      | none =>
          cases allocated : run.memory.malloc 1024 with
          | none => exact ⟨(gpgError ErrCode.enomem, []), fun _ _ => rfl⟩
          | some block =>
              have size := run.memory.sized 1024 block allocated
              have enough := Nat.lt_succ_self run.output.length
              have unread : block.take ([] : Str).length = [] := rfl
              obtain ⟨read, found⟩ :=
                textLoop_ends run.memory run.answers 0 enough block.length []
              refine ⟨read, fun cb hook => ?_⟩
              have loop := readLoop_eq cb run.memory run.answers 0 hook enough unread
                (by rw [size]; decide)
              rw [found] at loop
              exact loop

-----------------------------------------------------------------------------------------
-- Lines that are too long
-----------------------------------------------------------------------------------------

/-- The most bytes of a line that the buffer can hold. -/
def lineLimit : Nat := 65535

/-- What is read from an output, in front of which some bytes of a line are pending: the lines
before the first one that reaches the limit, and whether there is one, be it unfinished.
-/
def readText (pending output : Str) : GpgError × List Str :=
  (if ∃ raw ∈ complete pending output ++ [unfinished pending output], lineLimit ≤ raw.length then
      gpgError ErrCode.lineTooLong
    else
      0,
    passedLines ((complete pending output).takeWhile (·.length < lineLimit)))

theorem readText_append {pending bytes : Str} (short : pending.length + bytes.length ≤ lineLimit)
    (rest : Str)
    : readText pending (bytes ++ rest)
      = ((readText (unfinished pending bytes) rest).1,
        passedLines (complete pending bytes) ++ (readText (unfinished pending bytes) rest).2) := by
  have fits : ∀ raw ∈ complete pending bytes, raw.length < lineLimit := fun raw member =>
    lt_of_lt_of_le (length_lt_of_mem_complete member) short
  unfold readText
  rw [complete_append, unfinished_append,
    List.takeWhile_append_of_pos fun raw member => decide_eq_true (fits raw member),
    passedLines_append]
  congr 2
  rw [eq_iff_iff]
  constructor
  · rintro ⟨raw, member, long⟩
    rcases List.mem_append.mp (List.append_assoc .. ▸ member) with early | late
    · exact absurd (fits raw early) (Nat.not_lt.mpr long)
    · exact ⟨raw, late, long⟩
  · rintro ⟨raw, member, long⟩
    exact ⟨raw, by rw [List.append_assoc]; exact List.mem_append_right _ member, long⟩

theorem readText_long {pending : Str} (long : lineLimit ≤ pending.length) (rest : Str)
    : readText pending rest = (gpgError ErrCode.lineTooLong, []) := by
  obtain ⟨more, others, first⟩ := pending_starts pending rest
  have reached : lineLimit ≤ (pending ++ more).length := by
    rw [List.length_append]
    omega
  unfold readText
  rw [if_pos ⟨pending ++ more, first ▸ List.mem_cons_self, reached⟩]
  cases lines : complete pending rest with
  | nil => rfl
  | cons raw raws =>
      rw [lines, List.cons_append] at first
      obtain ⟨rfl, -⟩ := List.cons.inj first
      rw [List.takeWhile_cons, if_neg (by simpa using reached)]
      rfl

theorem readText_nil {pending : Str} (short : pending.length < lineLimit)
    : readText pending [] = (0, []) := by
  unfold readText
  rw [if_neg]
  · rfl
  · rintro ⟨raw, member, long⟩
    rw [complete, unfinished, List.nil_append, List.mem_singleton] at member
    subst member
    omega

/-- Memory is asked for and not there: for the first buffer, or for a larger one, for which only a
line asks that fills the buffer before.
-/
def Memory.Short (memory : Memory) (lines : List Str) : Prop :=
  memory.malloc 1024 = none
  ∨ (memory.malloc 8192 = none ∧ ∃ line ∈ lines, 1023 ≤ line.length)
  ∨ (memory.malloc 65536 = none ∧ ∃ line ∈ lines, 8191 ≤ line.length)

theorem Memory.Short.mono {memory : Memory} {lines more : List Str} (short : memory.Short lines)
    (within : lines ⊆ more)
    : memory.Short more := by
  refine short.imp_right (Or.imp ?_ ?_)
  · exact And.imp_right fun ⟨line, member, long⟩ => ⟨line, within member, long⟩
  · exact And.imp_right fun ⟨line, member, long⟩ => ⟨line, within member, long⟩

/-- The lines of an output, in front of which some bytes are pending, and what is unfinished. -/
def allLines (pending output : Str) : List Str :=
  complete pending output ++ [unfinished pending output]

theorem allLines_append (pending bytes rest : Str)
    : allLines (unfinished pending bytes) rest ⊆ allLines pending (bytes ++ rest) := by
  unfold allLines
  rw [complete_append, unfinished_append, List.append_assoc]
  exact List.subset_append_right _ _

theorem allLines_long (pending output : Str)
    : ∃ line ∈ allLines pending output, pending.length ≤ line.length := by
  obtain ⟨more, others, first⟩ := pending_starts pending output
  refine ⟨pending ++ more, ?_, by simp⟩
  rw [allLines, first]
  exact List.mem_cons_self

theorem growSize_cases (memory : Memory) {size linelen : Nat}
    (sized : size = 1024 ∨ size = 8192 ∨ size = 65536) (fits : linelen < size)
    : (∃ size', growSize memory size linelen = .ok size'
        ∧ (size' = 1024 ∨ size' = 8192 ∨ size' = 65536) ∧ linelen + 1 < size')
      ∨ (growSize memory size linelen = .error (gpgError ErrCode.lineTooLong)
        ∧ linelen = lineLimit)
      ∨ (growSize memory size linelen = .error (gpgError ErrCode.enomem)
        ∧ ((memory.malloc 8192 = none ∧ 1023 ≤ linelen)
          ∨ (memory.malloc 65536 = none ∧ 8191 ≤ linelen))) := by
  unfold growSize lineLimit
  by_cases room : linelen < size - 1
  · rw [if_pos room]
    exact .inl ⟨size, rfl, sized, by omega⟩
  rw [if_neg room]
  cases next : nextSize linelen with
  | none =>
      unfold nextSize at next
      split_ifs at next
      exact .inr (.inl ⟨rfl, by omega⟩)
  | some size' =>
      have larger
          : ((size' = 8192 ∧ 1023 ≤ linelen) ∨ (size' = 65536 ∧ 8191 ≤ linelen))
            ∧ linelen + 1 < size' := by
        unfold nextSize at next
        split_ifs at next <;> cases next <;> omega
      cases allocated : memory.malloc size' with
      | none =>
          refine .inr (.inr ⟨by simp [allocated], ?_⟩)
          rcases larger.1 with ⟨rfl, long⟩ | ⟨rfl, long⟩
          · exact .inl ⟨allocated, long⟩
          · exact .inr ⟨allocated, long⟩
      | some block =>
          exact .inl ⟨size', by simp [allocated], .inr (larger.1.imp And.left And.left), larger.2⟩

theorem visible_zeroFree {text : Str} (zeroFree : 0 ∉ text) : visible text = text := by
  refine List.takeWhile_eq_self_iff.mpr fun c member => ?_
  simpa using fun zero : c = 0 => zeroFree (zero ▸ member)

theorem remaining_zeroFree {text : Str} (shown : visible text = text)
    : remaining text = unfinished [] text := by
  have split : visible text ++ text.dropWhile (· != 0) = text := List.takeWhile_append_dropWhile
  rw [shown, List.append_right_eq_self] at split
  rw [remaining, shown, split, List.append_nil]

theorem textLoop_text (memory : Memory) (sizes : Nat → Nat) {rounds : Nat} (count : Nat)
    {left : Str} (enough : left.length < rounds) {size : Nat} {pending : Str}
    (sized : size = 1024 ∨ size = 8192 ∨ size = 65536) (room : pending.length + 1 < size)
    (plain : lineFeed ∉ pending) (zeroFree : 0 ∉ pending ++ left)
    : textLoop memory (fun index => .upTo (sizes index)) rounds count left size pending
        = some (readText pending left)
      ∨ memory.Short (allLines pending left) ∧ ∃ kept later,
        textLoop memory (fun index => .upTo (sizes index)) rounds count left size pending
          = some (gpgError ErrCode.enomem, kept)
        ∧ (readText pending left).2 = kept ++ later := by
  induction rounds generalizing count left size pending with
  | zero => omega
  | succ rounds ih =>
      unfold textLoop
      rcases read : ioRead (.upTo (sizes count)) left (size - pending.length - 1)
        with err | ⟨bytes, rest⟩
      · cases read
      obtain ⟨rfl, short⟩ := ioRead_ok read
      cases bytes with
      | nil =>
          have ended : rest = [] := ioRead_end (by omega) read
          subst ended
          left
          rw [List.nil_append, readText_nil (by unfold lineLimit; omega)]
      | cons c bytes =>
          have shorter : rest.length < rounds := by
            simp only [List.cons_append, List.length_cons, List.length_append] at enough
            omega
          dsimp only
          generalize c :: bytes = bytes at *
          have shown : visible (pending ++ bytes) = pending ++ bytes :=
            visible_zeroFree fun member => zeroFree (by
              rw [← List.append_assoc]
              exact List.mem_append_left _ member)
          have lines : complete [] (visible (pending ++ bytes)) = complete pending bytes := by
            rw [shown, complete_append, complete_plain plain, unfinished_plain plain]
            rfl
          have begun : remaining (pending ++ bytes) = unfinished pending bytes := by
            rw [remaining_zeroFree shown, unfinished_append, unfinished_plain plain]
            rfl
          have leftFree : 0 ∉ unfinished pending bytes ++ rest := fun member => zeroFree (by
            rcases List.mem_append.mp member with early | late
            · rw [← List.append_assoc]
              exact List.mem_append_left _ (mem_unfinished early)
            · simp [late])
          rw [lines, begun]
          have filled : pending.length + bytes.length ≤ lineLimit := by
            unfold lineLimit
            omega
          have below : (unfinished pending bytes).length < size :=
            lt_of_le_of_lt (length_unfinished_le pending bytes) (by omega)
          rw [readText_append filled]
          rcases growSize_cases memory sized below
            with ⟨size', grown, sized', room'⟩ | ⟨grown, long⟩ | ⟨grown, exhausted⟩
          · rw [grown]
            dsimp only
            rcases ih (count + 1) shorter sized' room' (lineFeed_notMem_unfinished plain bytes)
                leftFree
              with whole | ⟨exhausted, kept, later, partly, more⟩
            · exact .inl (by rw [whole]; rfl)
            · refine .inr ⟨exhausted.mono (allLines_append pending bytes rest), _, later,
                by rw [partly]; rfl, ?_⟩
              rw [more, List.append_assoc]
          · rw [grown, readText_long (Nat.le_of_eq long.symm), List.append_nil]
            exact .inl rfl
          · rw [grown]
            obtain ⟨line, member, least⟩ := allLines_long (unfinished pending bytes) rest
            have within := allLines_append pending bytes rest member
            refine .inr ⟨.inr (exhausted.imp ?_ ?_), _, _, rfl, rfl⟩
            · exact And.imp_right fun long => ⟨line, within, long.trans least⟩
            · exact And.imp_right fun long => ⟨line, within, long.trans least⟩

theorem gpgconfRead_text (cb : σ → Str → GpgError × σ) (hook : σ) {memory : Memory}
    {block : List UInt8} (allocated : memory.malloc 1024 = some block) {output : Str}
    (zeroFree : 0 ∉ output) (sizes : Nat → Nat)
    : gpgconfRead cb hook
          { memory := memory, output := output, answers := fun index => .upTo (sizes index) }
        = some (feedAll cb hook (readText [] output))
      ∨ memory.Short (allLines [] output) ∧ ∃ kept later,
        (readText [] output).2 = kept ++ later
        ∧ gpgconfRead cb hook
            { memory := memory, output := output, answers := fun index => .upTo (sizes index) }
          = some (feedAll cb hook (gpgError ErrCode.enomem, kept)) := by
  have size := memory.sized 1024 block allocated
  have unread : block.take ([] : Str).length = [] := rfl
  have loop := readLoop_eq cb memory (fun index => .upTo (sizes index)) 0 hook
    (Nat.lt_succ_self output.length) unread (by rw [size]; decide)
  unfold gpgconfRead
  dsimp only
  rw [List.length_nil, size] at loop
  rw [allocated]
  dsimp only
  rw [loop]
  rcases textLoop_text memory sizes 0 (Nat.lt_succ_self output.length) (.inl rfl)
      (by decide : ([] : Str).length + 1 < 1024) List.not_mem_nil zeroFree
    with whole | ⟨exhausted, kept, later, partly, lines⟩
  · exact .inl (congrArg (Option.map _) whole)
  · exact .inr ⟨exhausted, kept, later, lines, congrArg (Option.map _) partly⟩

/-- The output of gpgconf is split into lines independently of how the system cuts it: the callback
gets the lines that are not empty up to its first error, or up to a line that reaches the limit,
and the buffer is never left. Only where there is no memory for the first buffer, or for a larger
one that a long line asks for, reading ends earlier.
-/
theorem conf_lines_passed (cb : σ → Str → GpgError × σ) (hook : σ) (memory : Memory)
    {output : Str} (zeroFree : 0 ∉ output) (sizes : Nat → Nat)
    : gpgconfRead cb hook
          { memory := memory, output := output, answers := fun index => .upTo (sizes index) }
        = some (feedAll cb hook (readText [] output))
      ∨ memory.Short (allLines [] output) ∧ ∃ kept later,
        (readText [] output).2 = kept ++ later
        ∧ gpgconfRead cb hook
            { memory := memory, output := output, answers := fun index => .upTo (sizes index) }
          = some (feedAll cb hook (gpgError ErrCode.enomem, kept)) := by
  cases allocated : memory.malloc 1024 with
  | some block => exact gpgconfRead_text cb hook allocated zeroFree sizes
  | none =>
      refine .inr ⟨.inl allocated, [], _, rfl, ?_⟩
      unfold gpgconfRead
      dsimp only
      rw [allocated]
      rfl

/-- Memory that is always there. -/
def zeroMemory : Memory where
  malloc size := some (List.replicate size 0)
  sized := by
    rintro size block allocated
    rw [← Option.some.inj allocated, List.length_replicate]

theorem carriage_return_removed
    : gpgconfRead (fun heard line => (0, heard ++ [line])) []
          { memory := zeroMemory, output := [97, 58, 98, 13, 10, 10, 99],
            answers := fun _ => .upTo 3 }
        = some ((0 : GpgError), [([97, 58, 98] : Str)]) := by
  rcases conf_lines_passed (fun heard line => (0, heard ++ [line])) [] zeroMemory
      (by decide : (0 : UInt8) ∉ [97, 58, 98, 13, 10, 10, 99]) (fun _ => 3)
    with whole | ⟨exhausted | ⟨exhausted, -⟩ | ⟨exhausted, -⟩, -⟩
  · rw [whole]
    decide
  · cases exhausted
  · cases exhausted
  · cases exhausted

end Reading

end Gpgme.Gpgconf
