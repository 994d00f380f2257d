import Mathlib.Data.List.TakeWhile
import Gpgme.Posix.Reads

/-! `string_from_data` of `engine-gpg.c`, which takes the strings of a URL list from a data object one
by one.
-/

namespace Gpgme

-----------------------------------------------------------------------------------------
-- The function
-----------------------------------------------------------------------------------------

/-- `MYBUFLEN`. -/
def mybuflen : Nat := 2000

/-- The state that the caller keeps. The buffer is the list of its valid bytes. -/
structure StringSelf where
  eofSeen : Bool := false
  nbytes : Nat := 0
  buf : List UInt8 := []

/-- A data object that is read: what is left of it, and how many reads there were. -/
structure ReadData where
  left : Str
  reads : Nat := 0

/-- `gpgme_data_read`. -/
def gpgmeDataRead (answers : Nat → IoAnswer) (data : ReadData) (room : Nat)
    : Except GpgError Str × ReadData :=
  match ioRead (answers data.reads) data.left room with
  | .error err => (.error err, { data with reads := data.reads + 1 })
  | .ok (bytes, left) => (.ok bytes, { left := left, reads := data.reads + 1 })

/-- The string at the start of a buffer with a terminator. -/
def cString (buf : List UInt8) : Str := buf.takeWhile (· != 0)

/-- What a call returns: a string or a null pointer, and the error. -/
structure StringResult where
  string : Option Str
  err : GpgError := 0
deriving DecidableEq

/-- The loop of `string_from_data`. -/
def stringLoop (answers : Nat → IoAnswer) (delim : UInt8)
    : Nat → StringSelf → ReadData → Option (StringResult × StringSelf × ReadData)
  | 0, _, _ => none
  | rounds + 1, self, data =>
      match self.buf.findIdx? (· == delim) with
      | some p =>
          let buf := self.buf.set p 0
          some ({ string := some (cString buf) }, { self with buf := buf, nbytes := p + 1 }, data)
      | none =>
          if mybuflen - self.buf.length = 0 then
            some ({ string := none, err := gpgError ErrCode.tooLarge }, self, data)
          else
            match gpgmeDataRead answers data (mybuflen - self.buf.length) with
            | (.error err, data) => some ({ string := none, err := err }, self, data)
            | (.ok bytes, data) =>
                let self := { self with buf := self.buf ++ bytes }
                if bytes ≠ [] then stringLoop answers delim rounds self data
                else
                  let self := { self with eofSeen := true }
                  if self.buf ≠ [] then
                    some ({ string := some (cString (self.buf ++ [0])) }, self, data)
                  else
                    some ({ string := none }, self, data)

/-- `string_from_data` with a data object, and with the state that the caller's pointer refers to.
There is no result if the assertion fails. Each round of the loop reads at least one byte.
-/
def stringFromData (memory : Bool) (answers : Nat → IoAnswer) (delim : UInt8)
    (helpptr : Option StringSelf) (data : ReadData)
    : Option (StringResult × Option StringSelf × ReadData) :=
  if helpptr.isNone ∧ ¬memory then
    some ({ string := none, err := gpgError ErrCode.enomem }, helpptr, data)
  else
    let self := helpptr.getD {}
    if self.eofSeen then some ({ string := none }, some self, data)
    else if ¬self.nbytes ≤ self.buf.length then none
    else
      let self := { self with buf := self.buf.drop self.nbytes, nbytes := 0 }
      (stringLoop answers delim (data.left.length + 1) self data).map fun (result, self, data) =>
        (result, some self, data)

/-- Calls of the function, one after the other. -/
def stringCalls (answers : Nat → IoAnswer) (delim : UInt8)
    : Nat → Option StringSelf → ReadData → Option (List StringResult)
  | 0, _, _ => some []
  | count + 1, helpptr, data =>
      match stringFromData true answers delim helpptr data with
      | none => none
      | some (result, helpptr, data) =>
          (stringCalls answers delim count helpptr data).map (result :: ·)

-----------------------------------------------------------------------------------------
-- The pieces of the contents
-----------------------------------------------------------------------------------------

/-- The pieces that a delimiter separates, when the first one has already `begun`. Behind the last
delimiter there is only a piece if it is not empty.
-/
def pieces (delim : UInt8) : Str → Str → List Str
  | begun, [] => if begun = [] then [] else [begun]
  | begun, c :: rest =>
      if c = delim then begun :: pieces delim [] rest else pieces delim (begun ++ [c]) rest

/-- A piece ends at the delimiter. -/
theorem pieces_delimited {delim : UInt8} {piece : Str} (plain : delim ∉ piece) (begun rest : Str)
    : pieces delim begun (piece ++ delim :: rest)
      = (begun ++ piece) :: pieces delim [] rest := by
  induction piece generalizing begun with
  | nil => simp [pieces]
  | cons c more ih =>
      obtain ⟨other, plain⟩ := not_or.mp (mt List.mem_cons.mpr plain)
      rw [List.cons_append, pieces, if_neg (Ne.symm other), ih plain, List.append_assoc,
        List.singleton_append]

/-- The last piece has no delimiter. -/
theorem pieces_last {delim : UInt8} {piece : Str} (plain : delim ∉ piece) (begun : Str)
    : pieces delim begun piece = if begun ++ piece = [] then [] else [begun ++ piece] := by
  induction piece generalizing begun with
  | nil => rw [List.append_nil, pieces]
  | cons c more ih =>
      obtain ⟨other, plain⟩ := not_or.mp (mt List.mem_cons.mpr plain)
      rw [pieces, if_neg (Ne.symm other), ih plain, List.append_assoc, List.singleton_append]

/-- The first piece starts with what is not delimited. -/
theorem pieces_begun {delim : UInt8} {long : Str} (plain : delim ∉ long) (filled : long ≠ [])
    (rest : Str)
    : ∃ piece others,
        pieces delim [] (long ++ rest) = piece :: others ∧ long.length ≤ piece.length := by
  by_cases found : delim ∈ rest
  · obtain ⟨more, behind, rfl, plain'⟩ := List.eq_append_cons_of_mem found
    have whole : delim ∉ long ++ more := fun member =>
      (List.mem_append.mp member).elim plain plain'
    refine ⟨long ++ more, pieces delim [] behind, ?_, by simp⟩
    rw [← List.append_assoc, pieces_delimited whole, List.nil_append]
  · have whole : delim ∉ long ++ rest := fun member =>
      (List.mem_append.mp member).elim plain found
    refine ⟨long ++ rest, [], ?_, by simp⟩
    rw [pieces_last whole, List.nil_append, if_neg (by simp [filled])]

/-- What the calls are to return for some pieces: one piece after the other up to one that does not
fit, as strings, and then no more.
-/
def callResult (pieces : List Str) (index : Nat) : StringResult :=
  let short := pieces.takeWhile (·.length < mybuflen)
  match short[index]? with
  | some piece => { string := some (cString piece) }
  | none =>
      { string := none,
        err := if short.length < pieces.length then gpgError ErrCode.tooLarge else 0 }

-----------------------------------------------------------------------------------------
-- One call
-----------------------------------------------------------------------------------------

/-- What a call leaves for the next one: the rest of the buffer and of the data object. -/
structure Holds (state : StringSelf) (data : ReadData) (contents : Str) : Prop where
  unended : state.eofSeen = false
  used : state.nbytes ≤ state.buf.length
  fits : state.buf.length ≤ mybuflen
  rest : state.buf.drop state.nbytes ++ data.left = contents

/-- The result of a call with some contents left: the first piece, also if it is the last one, or
none, or no piece that fits.
-/
inductive NextString (delim : UInt8) (contents : Str)
    : StringResult → StringSelf → ReadData → Prop where
  | piece {piece rest : Str} {self : StringSelf} {data : ReadData}
      (split : contents = piece ++ delim :: rest) (plain : delim ∉ piece)
      (short : piece.length < mybuflen) (holds : Holds self data rest)
    : NextString delim contents { string := some (cString piece) } self data
  | last {self : StringSelf} {data : ReadData} (plain : delim ∉ contents)
      (filled : contents ≠ []) (short : contents.length < mybuflen) (eof : self.eofSeen = true)
    : NextString delim contents { string := some (cString contents) } self data
  | nothing {self : StringSelf} {data : ReadData} (empty : contents = [])
      (eof : self.eofSeen = true)
    : NextString delim contents { string := none } self data
  | tooLarge {long rest : Str} {self : StringSelf} {data : ReadData}
      (split : contents = long ++ rest) (plain : delim ∉ long) (length : long.length = mybuflen)
      (holds : Holds self data contents)
    : NextString delim contents { string := none, err := gpgError ErrCode.tooLarge } self data

/-- A string ends at its first zero. -/
theorem cString_append_zero (piece rest : Str) : cString (piece ++ 0 :: rest) = cString piece := by
  unfold cString
  induction piece with
  | nil => rfl
  | cons c more ih =>
      rw [List.cons_append, List.takeWhile_cons, List.takeWhile_cons, ih]

/-- The delimiter of a piece is found behind it. -/
theorem findIdx_delimited {delim : UInt8} {piece : Str} (plain : delim ∉ piece) (rest : Str)
    : (piece ++ delim :: rest).findIdx? (· == delim) = some piece.length := by
  induction piece with
  | nil => rw [List.nil_append, List.findIdx?_cons, if_pos (beq_self_eq_true delim)]; rfl
  | cons c more ih =>
      obtain ⟨other, plain⟩ := not_or.mp (mt List.mem_cons.mpr plain)
      rw [List.cons_append, List.findIdx?_cons, ih plain]
      simp [Ne.symm other]

/-- The loop finds the next piece, by induction on its rounds. -/
theorem stringLoop_next (sizes : Nat → Nat) (delim : UInt8) {rounds : Nat} {self : StringSelf}
    {data : ReadData} (enough : data.left.length < rounds) (unended : self.eofSeen = false)
    (unused : self.nbytes = 0) (fits : self.buf.length ≤ mybuflen)
    : ∃ result self' data',
        stringLoop (fun index => .upTo (sizes index)) delim rounds self data
          = some (result, self', data')
        ∧ NextString delim (self.buf ++ data.left) result self' data' := by
  induction rounds generalizing self data with
  | zero => omega
  | succ rounds ih =>
      unfold stringLoop
      by_cases found : delim ∈ self.buf
      · obtain ⟨piece, more, split, plain⟩ := List.eq_append_cons_of_mem found
        rw [split, findIdx_delimited plain]
        have length := congrArg List.length split
        rw [List.length_append, List.length_cons] at length
        have ended : (piece ++ delim :: more).set piece.length 0 = piece ++ 0 :: more := by
          simp
        refine ⟨_, _, _, rfl, ?_⟩
        rw [ended, cString_append_zero]
        refine .piece (by rw [List.append_assoc]; rfl) plain (by omega) ?_
        refine ⟨unended, by simp, ?_, ?_⟩
        · simp only [List.length_append, List.length_cons]
          omega
        · simp
      · have absent : self.buf.findIdx? (· == delim) = none := by
          rw [List.findIdx?_eq_none_iff]
          intro c member
          simpa using fun same : c = delim => found (same ▸ member)
        rw [absent]
        dsimp only
        by_cases full : mybuflen - self.buf.length = 0
        · rw [if_pos full]
          refine ⟨_, _, _, rfl, .tooLarge rfl found (by omega) ⟨unended, by omega, fits, ?_⟩⟩
          rw [unused]
          rfl
        · rw [if_neg full]
          unfold gpgmeDataRead
          rcases read : ioRead (.upTo (sizes data.reads)) data.left (mybuflen - self.buf.length)
            with err | ⟨bytes, left⟩
          · cases read
          obtain ⟨split, short⟩ := ioRead_ok read
          dsimp only
          by_cases ended : bytes = []
          · subst ended
            have empty : data.left = [] := ioRead_end (by omega) read
            rw [if_neg (not_not.mpr rfl), List.append_nil, empty, List.append_nil]
            by_cases filled : self.buf = []
            · rw [if_neg (not_not.mpr filled)]
              exact ⟨_, _, _, rfl, .nothing filled rfl⟩
            · rw [if_pos filled, cString_append_zero]
              exact ⟨_, _, _, rfl, .last found filled (by omega) rfl⟩
          · rw [if_pos ended]
            have shorter : left.length < rounds := by
              rw [split, List.length_append] at enough
              have positive := List.length_pos_iff.mpr ended
              omega
            have larger : (self.buf ++ bytes).length ≤ mybuflen := by
              rw [List.length_append]
              omega
            obtain ⟨result, self', data', value, next⟩ :=
              @ih { self with buf := self.buf ++ bytes } { left := left, reads := data.reads + 1 }
                shorter unended unused larger
            refine ⟨result, self', data', value, ?_⟩
            rw [split, ← List.append_assoc]
            exact next

-----------------------------------------------------------------------------------------
-- All calls
-----------------------------------------------------------------------------------------

/-- A piece that fits is returned first. -/
theorem callResult_cons {piece : Str} (short : piece.length < mybuflen) (rest : List Str)
    : callResult (piece :: rest) 0 = { string := some (cString piece) }
      ∧ ∀ index, callResult (piece :: rest) (index + 1) = callResult rest index := by
  unfold callResult
  rw [List.takeWhile_cons, if_pos (by simpa using short)]
  refine ⟨rfl, fun index => ?_⟩
  dsimp only
  rw [List.getElem?_cons_succ]
  cases (rest.takeWhile (·.length < mybuflen))[index]? with
  | none => simp
  | some later => rfl

/-- A piece that is too long for the buffer is cut. -/
theorem callResult_long {piece : Str} (long : mybuflen ≤ piece.length) (rest : List Str)
    (index : Nat)
    : callResult (piece :: rest) index
      = { string := none, err := gpgError ErrCode.tooLarge } := by
  unfold callResult
  rw [List.takeWhile_cons, if_neg (by simpa using long)]
  rfl

/-- What is left for the calls, for the state that the caller keeps. -/
inductive Remaining : Option StringSelf → ReadData → Str → Prop where
  | first {data : ReadData} : Remaining none data data.left
  | later {self : StringSelf} {data : ReadData} {rest : Str} (holds : Holds self data rest)
    : Remaining (some self) data rest
  | ended {self : StringSelf} {data : ReadData} (eof : self.eofSeen = true)
    : Remaining (some self) data []

/-- One call, which meets its assertion. -/
theorem stringFromData_next (sizes : Nat → Nat) (delim : UInt8) {helpptr : Option StringSelf}
    {data : ReadData} {rest : Str} (remaining : Remaining helpptr data rest)
    : ∃ result self data',
        stringFromData true (fun index => .upTo (sizes index)) delim helpptr data
          = some (result, some self, data')
        ∧ NextString delim rest result self data' := by
  cases remaining with
  | first =>
      obtain ⟨result, self, data', value, next⟩ :=
        @stringLoop_next sizes delim _ {} data (Nat.lt_succ_self _) rfl rfl (Nat.zero_le _)
      refine ⟨result, self, data', ?_, next⟩
      unfold stringFromData
      simp [value]
  | @later self _ _ holds =>
      obtain ⟨result, self', data', value, next⟩ :=
        @stringLoop_next sizes delim _ { self with buf := self.buf.drop self.nbytes, nbytes := 0 }
          data (Nat.lt_succ_self _) holds.unended rfl (by
            have fits := holds.fits
            rw [List.length_drop]
            omega)
      rw [holds.rest] at next
      rw [holds.unended] at value
      refine ⟨result, self', data', ?_, next⟩
      unfold stringFromData
      simp [holds.unended, holds.used, value]
  | @ended self _ eof =>
      refine ⟨_, self, data, ?_, .nothing rfl eof⟩
      unfold stringFromData
      simp [eof]

/-- The calls return the results for the pieces that are left, by induction on their number. -/
theorem stringCalls_remaining (sizes : Nat → Nat) (delim : UInt8) (count : Nat)
    {helpptr : Option StringSelf} {data : ReadData} {rest : Str}
    (remaining : Remaining helpptr data rest)
    : stringCalls (fun index => .upTo (sizes index)) delim count helpptr data
      = some ((List.range count).map (callResult (pieces delim [] rest))) := by
  induction count generalizing helpptr data rest with
  | zero => rfl
  | succ count ih =>
      obtain ⟨result, self, data', value, next⟩ := stringFromData_next sizes delim remaining
      rw [stringCalls, value, List.range_succ_eq_map, List.map_cons, List.map_map]
      dsimp only
      cases next with
      | piece split plain short holds =>
          obtain ⟨here, later⟩ := callResult_cons short (pieces delim [] _)
          rw [ih (.later holds), split, pieces_delimited plain, List.nil_append, here,
            Option.map_some]
          congr 2
          exact List.map_congr_left fun index _ => (later index).symm
      | last plain filled short eof =>
          obtain ⟨here, later⟩ := callResult_cons short []
          rw [ih (.ended eof), pieces_last plain, List.nil_append, if_neg filled, here,
            Option.map_some]
          congr 2
          exact List.map_congr_left fun index _ => (later index).symm
      | nothing empty eof =>
          subst empty
          rw [ih (.ended eof), Option.map_some]
          rfl
      | @tooLarge long more _ _ split plain length holds =>
          have filled : long ≠ [] := by
            rintro rfl
            cases length
          obtain ⟨piece, others, begun, longer⟩ := pieces_begun plain filled more
          have each := callResult_long (length ▸ longer) others
          rw [ih (.later holds), split, begun, each 0, Option.map_some]
          congr 2
          exact List.map_congr_left fun index _ => (each index).trans (each (index + 1)).symm

/-- The pieces of the contents are returned one after the other, as strings, however the data is
cut.
-/
theorem strings_from_data (sizes : Nat → Nat) (delim : UInt8) (contents : Str) (count : Nat)
    : stringCalls (fun index => .upTo (sizes index)) delim count none { left := contents }
      = some ((List.range count).map (callResult (pieces delim [] contents))) :=
  stringCalls_remaining sizes delim count .first

/-- A piece with a zero byte is not returned as a whole. -/
theorem zero_byte_cuts
    : stringCalls (fun _ => .upTo 1) 10 1 none { left := [97, 0, 98, 10] }
        = some [{ string := some [97] }]
      ∧ pieces 10 [] [97, 0, 98, 10] = [[97, 0, 98]]
      ∧ ([97] : Str) ≠ [97, 0, 98] := by
  decide

end Gpgme
