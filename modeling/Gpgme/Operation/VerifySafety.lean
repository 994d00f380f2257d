import Mathlib.Data.List.DropRight
import Gpgme.Operation.VerifyRuns

/-! Which lines the verification handler survives: no assertion fails, no missing entry or
string is accessed, and the end pointer of a timestamp is only read after it was assigned.
-/

namespace Gpgme

open CString

-----------------------------------------------------------------------------------------
-- Reads of the end pointer
-----------------------------------------------------------------------------------------

/-- The state of the variable `tail` when it is read behind a timestamp: the timestamp has set
it, it is left over from an earlier field, or it was never set.
-/
inductive TailRead where
  | assigned | leftOver | uninitialised
deriving DecidableEq

/-- The condition behind a timestamp: whether `tail` is read there, and as what, where
`before` tells what it is without an assignment. A timestamp of -1 ends the condition before
the pointer is read.
-/
def timestampRead (timestamp : Str) (before : TailRead) : List TailRead :=
  let (time, assigned) := parseTimestamp timestamp
  if CInt.toSize time = maxUlong then []
  else if assigned.isSome then [.assigned]
  else [before]

/-- The reads of `tail` in `parse_valid_sig`. -/
def validSigReads (args : Str) : List TailRead :=
  if word args = [] then []
  else
    match (strchrBlank args).map List.tail with
    | none => []
    | some created =>
        match strchrBlank created with
        | none => []
        | some pos =>
            let (time, assigned) := parseTimestamp pos
            timestampRead pos .uninitialised
              ++ match assigned with
                | none => []
                | some tail =>
                    if CInt.toSize time = maxUlong ∨ pos = tail ∨ notAtFieldEnd tail then []
                    else timestampRead tail .leftOver

/-- The place of the time in an ERRSIG line whose earlier fields are well formed. -/
def errsigTime (args : Str) : Option Str :=
  match (strchrBlank args).map List.tail with
  | none => none
  | some pos =>
      let algo := strtol 0 pos
      if algo.errno || algo.tail == pos || algo.tail.head? != some blank then none
      else
        match skipBlanks algo.tail with
        | [] => none
        | pos =>
            let hash := strtol 0 pos
            if hash.errno || hash.tail == pos || hash.tail.head? != some blank then none
            else (strchrBlank (skipBlanks hash.tail)).map skipBlanks

/-- The reads of `tail` in `parse_new_sig` that a timestamp may have missed. -/
def errsigReads (args : Str) : List TailRead :=
  match errsigTime args with
  | none => []
  | some time => timestampRead time .leftOver

/-- The reads of `tail` behind the timestamps of a line. -/
def VerifyData.tailReads (opd : VerifyData) (line : StatusLine) : List TailRead :=
  match line.code with
  | .validsig => if opd.currentSig.isSome then validSigReads line.args else []
  | .errsig => errsigReads line.args
  | _ => []

-----------------------------------------------------------------------------------------
-- The lines that are fine
-----------------------------------------------------------------------------------------

/-- The fields of a VALIDSIG line are there as far as they are looked for: something follows
the fingerprint, a second blank is followed by a timestamp, and an accepted timestamp by the
time of expiration.
-/
def ValidSigComplete (args : Str) : Prop :=
  word args = []
  ∨ ∃ created,
      (strchrBlank args).map List.tail = some created
      ∧ ∀ pos, strchrBlank created = some pos →
          skipBlanks pos ≠ []
          ∧ ∀ tail,
              (parseTimestamp pos).2 = some tail
              → CInt.toSize (parseTimestamp pos).1 ≠ maxUlong
              → pos ≠ tail
              → notAtFieldEnd tail = false
              → skipBlanks tail ≠ []

/-- The lines that the handler survives in a state. -/
def VerifyData.Accepts (opd : VerifyData) (line : StatusLine) : Prop :=
  match line.code with
  | .newsig =>
      -- Only the first entry of the list may be announced twice.
      opd.onlyNewsigSeen = true → opd.currentSig.isSome → opd.signatures = opd.currentSig
  | .goodsig | .expsig | .expkeysig | .badsig | .revkeysig =>
      -- A prepared entry is still there; the end of file may have removed it.
      opd.didPrepareNewSig = true → opd.currentSig.isSome
  | .errsig =>
      (opd.didPrepareNewSig = true → opd.currentSig.isSome) ∧ errsigTime line.args ≠ some []
  | .validsig => opd.currentSig.isSome → ValidSigComplete line.args
  | .verificationComplianceMode => complianceFlags line.args = true → opd.currentSig.isSome
  | _ => True

/-- An empty time stamp leaves no tail. -/
theorem parseTimestamp_blank {timestamp : Str} (empty : skipBlanks timestamp = [])
    : parseTimestamp timestamp = (0, none) := by
  unfold parseTimestamp
  rw [empty]

/-- Without a blank in the way, the pointer is only left alone by a timestamp of -1. -/
theorem parseTimestamp_assigned {timestamp : Str} (found : skipBlanks timestamp ≠ [])
    : (parseTimestamp timestamp).2.isSome ∨ (parseTimestamp timestamp).1 = -1 := by
  unfold parseTimestamp
  split
  · next empty => exact absurd empty found
  · dsimp only
    (repeat' split) <;> simp

/-- The size of -1 is the largest one. -/
theorem toSize_minus_one : CInt.toSize (-1) = maxUlong := by decide

/-- The tail is assigned exactly where the time stamp is not empty. -/
theorem timestampRead_fine_iff {timestamp : Str} {before : TailRead}
    (bad : before ≠ .assigned)
    : (∀ read ∈ timestampRead timestamp before, read = .assigned)
      ↔ skipBlanks timestamp ≠ [] := by
  unfold timestampRead
  dsimp only
  constructor
  · intro fine empty
    have zero : CInt.toSize 0 ≠ maxUlong := by decide
    simp only [parseTimestamp_blank empty, if_neg zero, Option.isSome_none, Bool.false_eq_true,
      if_false, List.mem_singleton, forall_eq] at fine
    exact bad fine
  · intro found
    rcases parseTimestamp_assigned found with assigned | minusOne
    · simp only [assigned, if_true]
      split <;> simp
    · simp [minusOne, toSize_minus_one]

-----------------------------------------------------------------------------------------
-- One line
-----------------------------------------------------------------------------------------

/-- With a timestamp behind the second blank, parsing a VALIDSIG line returns. -/
theorem parseValidSig_isSome {args created : Str}
    (behind : (strchrBlank args).map List.tail = some created)
    (timed : ∀ pos, strchrBlank created = some pos → skipBlanks pos ≠ []) (sig : Signature)
    (protocol : Protocol)
    : (parseValidSig sig args protocol).isSome := by
  unfold parseValidSig
  dsimp only
  rw [behind]
  dsimp only
  split
  · rfl
  · split
    · rfl
    · next pos dated =>
        rcases parseTimestamp_assigned (timed pos dated) with assigned | minusOne
        · obtain ⟨tail, known⟩ := Option.isSome_iff_exists.mp assigned
          rw [known]
          dsimp only
          (repeat' split) <;> rfl
        · simp only [minusOne, toSize_minus_one, if_true, true_or]
          split <;> rfl

/-- A VALIDSIG line is parsed without an access that is not covered exactly when its fields
are there.
-/
theorem validSig_safe_iff (sig : Signature) (args : Str) (protocol : Protocol)
    : ((parseValidSig sig args protocol).isSome
        ∧ ∀ read ∈ validSigReads args, read = .assigned)
      ↔ ValidSigComplete args := by
  unfold ValidSigComplete
  by_cases named : word args = []
  · simp [parseValidSig, validSigReads, named]
  simp only [named, false_or]
  cases behind : (strchrBlank args).map List.tail with
  | none => simp [parseValidSig, named, behind]
  | some created =>
      cases dated : strchrBlank created with
      | none =>
          have returns := parseValidSig_isSome behind (by simp [dated]) sig protocol
          simp [validSigReads, named, behind, dated, returns]
      | some pos =>
          have reads : validSigReads args
              = timestampRead pos .uninitialised
                ++ match (parseTimestamp pos).2 with
                  | none => []
                  | some tail =>
                      if CInt.toSize (parseTimestamp pos).1 = maxUlong ∨ pos = tail
                          ∨ notAtFieldEnd tail then []
                      else timestampRead tail .leftOver := by
            simp [validSigReads, named, behind, dated]
          simp only [reads, List.forall_mem_append, Option.some.injEq, exists_eq_left', dated,
            forall_eq', timestampRead_fine_iff (show TailRead.uninitialised ≠ .assigned by decide)]
          constructor
          · rintro ⟨_, timed, later⟩
            refine ⟨timed, ?_⟩
            intro tail assigned valid moved ended
            have more : ¬ (CInt.toSize (parseTimestamp pos).1 = maxUlong ∨ pos = tail
                ∨ notAtFieldEnd tail = true) := by
              simp [valid, moved, ended]
            simp only [assigned, if_neg more] at later
            exact (timestampRead_fine_iff (by decide)).mp later
          · rintro ⟨timed, later⟩
            have returns := parseValidSig_isSome behind (by simpa [dated] using timed) sig protocol
            refine ⟨returns, timed, ?_⟩
            cases assigned : (parseTimestamp pos).2 with
            | none => simp
            | some tail =>
                dsimp only
                split
                · simp
                · next more =>
                    simp only [not_or, Bool.not_eq_true] at more
                    exact (timestampRead_fine_iff (by decide)).mpr
                      (later tail assigned more.1 more.2.1 more.2.2)

/-- An ERRSIG line with well-formed algorithms needs a time behind the class. -/
theorem errsig_safe_iff (args : Str)
    : (∀ read ∈ errsigReads args, read = .assigned) ↔ errsigTime args ≠ some [] := by
  have skipped {time : Str} (found : errsigTime args = some time) : skipBlanks time = time := by
    unfold errsigTime at found
    dsimp only at found
    (repeat' split at found) <;> first | cases found | skip
    simp only [Option.map_eq_some_iff] at found
    obtain ⟨behind, _, rfl⟩ := found
    exact List.dropWhile_idempotent ..
  unfold errsigReads
  cases found : errsigTime args with
  | none => simp
  | some time =>
      have leftOver : TailRead.leftOver ≠ .assigned := by decide
      simp only [timestampRead_fine_iff leftOver, skipped found, ne_eq, Option.some.injEq]

section Step

variable {opd : VerifyData} {seg : Segmentation}

/-- The current entry is allocated. -/
theorem VerifyData.Follows.found (follows : opd.Follows seg) {addr : Nat}
    (current : opd.currentSig = some addr)
    : ∃ sig, opd.heap[addr]? = some sig := by
  obtain ⟨_, _, tracks⟩ := follows
  rcases tracks.current with ⟨absent, _⟩ | ⟨held, sig, _, isCurrent, _, found, _⟩
  · simp [current] at absent
  · cases current.symm.trans isCurrent
    exact ⟨sig, found⟩

/-- A parser that always returns, run on the current entry. -/
theorem VerifyData.Follows.parseCurrent_isSome (follows : opd.Follows seg)
    {parse : Signature → Option SigResult} (returns : ∀ sig, (parse sig).isSome) (flag : Bool)
    (args : Str)
    : (({ opd with onlyNewsigSeen := flag } : VerifyData).parseCurrent args parse).isSome := by
  cases current : opd.currentSig with
  | none => simp [VerifyData.parseCurrent]
  | some addr =>
      obtain ⟨sig, found⟩ := follows.found current
      simpa [VerifyData.parseCurrent, current, VerifyData.parseAt, found] using returns sig

/-- A new entry is prepared unless an assertion about the last one fails. -/
theorem prepareNewSig_isSome_iff (opd : VerifyData)
    : (prepareNewSig opd).isSome
      ↔ (opd.onlyNewsigSeen = true → opd.currentSig.isSome → opd.signatures = opd.currentSig) := by
  unfold prepareNewSig
  split
  · next seen current =>
      split
      · next first => simp [first, current]
      · next other => simp [other, seen, current]
  · next other =>
      simp only [Option.isSome_some, true_iff]
      intro seen some
      obtain ⟨addr, current⟩ := Option.isSome_iff_exists.mp some
      exact absurd current (other addr seen)

/-- The summary leaves the list alone. -/
theorem VerifyData.summarize_frame (opd : VerifyData)
    : opd.summarize.onlyNewsigSeen = opd.onlyNewsigSeen
      ∧ opd.summarize.currentSig = opd.currentSig
      ∧ opd.summarize.signatures = opd.signatures := by
  unfold VerifyData.summarize
  split <;> exact ⟨rfl, rfl, rfl⟩

/-- A line on a checked signature needs the entry that was prepared for it. -/
theorem parseNewSig_isSome_iff (follows : opd.Follows seg) (code : StatusCode) (args : Str)
    (protocol : Protocol)
    : (parseNewSig
        { (if opd.didPrepareNewSig then opd else opd.summarize) with onlyNewsigSeen := false }
        code args protocol).isSome
      ↔ (opd.didPrepareNewSig = true → opd.currentSig.isSome) := by
  cases prepared : opd.didPrepareNewSig with
  | true =>
      cases current : opd.currentSig with
      | none => simp [parseNewSig, prepared, parsePreparedSig, current]
      | some addr =>
          obtain ⟨sig, found⟩ := follows.found current
          simp [parseNewSig, prepared, parsePreparedSig, current, VerifyData.parseAt, found]
  | false =>
      have unprepared : opd.summarize.didPrepareNewSig = false := by
        rw [opd.summarize_didPrepare, prepared]
      simp only [Bool.false_eq_true, if_false, false_implies, iff_true, parseNewSig, unprepared]
      unfold prepareNewSig
      dsimp only
      cases current : opd.summarize.currentSig with
      | none => simp [parsePreparedSig, VerifyData.parseAt]
      | some last => simp [parsePreparedSig, VerifyData.parseAt]

end Step

/-- A call of the handler that survives: it returns, and the end pointer is read only after
its assignment.
-/
def Ctx.SurvivesLine (ctx : Ctx) (line : StatusLine) : Prop :=
  (verifyStatusSwitch ctx line.code line.args).isSome
  ∧ ∀ read ∈ ctx.verify.tailReads line, read = .assigned

/-- The handler survives a line exactly when the state accepts it, by cases on the code. -/
theorem survivesLine_iff {ctx : Ctx} {seg : Segmentation} (follows : ctx.verify.Follows seg)
    (line : StatusLine)
    : ctx.SurvivesLine line ↔ ctx.verify.Accepts line := by
  obtain ⟨code, args⟩ := line
  unfold Ctx.SurvivesLine VerifyData.Accepts VerifyData.tailReads
  cases code <;> simp only [verifyStatusSwitch, List.not_mem_nil, false_implies, implies_true,
    and_true, Option.isSome_some]
  case newsig =>
    obtain ⟨seen, current, first⟩ := ctx.verify.summarize_frame
    rw [Option.isSome_map, prepareNewSig_isSome_iff, seen, current, first]
  case goodsig | expsig | expkeysig | badsig | revkeysig =>
    exact parseNewSig_isSome_iff follows _ args ctx.protocol
  case errsig =>
    rw [parseNewSig_isSome_iff follows, errsig_safe_iff]
  case validsig =>
    cases current : ctx.verify.currentSig with
    | none => simp [VerifyData.parseCurrent]
    | some addr =>
        obtain ⟨sig, found⟩ := follows.found current
        simp [VerifyData.parseCurrent, VerifyData.parseAt, found,
          ← validSig_safe_iff sig args ctx.protocol]
  case eof =>
    obtain ⟨next, ended, _⟩ := verifyEof_settles follows
    simp [ended]
  case verificationComplianceMode =>
    cases flag : complianceFlags args with
    | false => simp
    | true =>
        cases current : ctx.verify.currentSig with
        | none => simp
        | some addr =>
            obtain ⟨sig, found⟩ := follows.found current
            simp [VerifyData.parseAt, found]
  case nodata | unexpected | error =>
    cases current : ctx.verify.currentSig with
    | none => simp
    | some addr =>
        obtain ⟨sig, found⟩ := follows.found current
        simp [VerifyData.parseAt, found]
  case tofuUser =>
    cases current : ctx.verify.currentSig with
    | none => simp
    | some addr =>
        obtain ⟨sig, found⟩ := follows.found current
        simp [VerifyData.parseAt, found]
  case tofuStats | tofuStatsLong =>
    split
    · simp
    · simpa using follows.parseCurrent_isSome (fun _ => rfl) false args
  case plaintext => split <;> simp
  case pkaTrustBad | pkaTrustGood =>
    simp only [iff_true]
    refine follows.parseCurrent_isSome ?_ false args
    intro sig
    split <;> rfl
  case notationName | notationFlags | notationData | policyUrl | trustUndefined | trustNever
      | trustMarginal | trustFully | trustUltimate =>
    simp only [iff_true]
    exact follows.parseCurrent_isSome (fun _ => rfl) false args

-----------------------------------------------------------------------------------------
-- Whole sequences
-----------------------------------------------------------------------------------------

/-- The handler survives the lines up to the first one that it answers with an error. -/
def Ctx.SurvivesLines (ctx : Ctx) : List StatusLine → Prop
  | [] => True
  | line :: rest =>
      ctx.SurvivesLine line
      ∧ ∀ next, stepStatusOk verifyStatusHandler ctx line = some ((), next) →
          next.SurvivesLines rest

/-- By induction on the lines. -/
theorem survivesLines_iff {ctx : Ctx} {seg : Segmentation} (follows : ctx.verify.Follows seg)
    (lines : List StatusLine)
    : ctx.SurvivesLines lines
      ↔ Machine.Along (stepStatusOk verifyStatusHandler) (fun ctx line => ctx.verify.Accepts line)
          ctx lines := by
  induction lines generalizing ctx seg with
  | nil => exact Iff.rfl
  | cons line rest ih =>
      unfold Ctx.SurvivesLines Machine.Along
      rw [survivesLine_iff follows]
      refine and_congr_right fun _ => ?_
      constructor
      · intro survives _ next stepped
        have kept := verifyStatusHandler_follows follows (stepStatusOk_eq_some.mp stepped)
        exact (ih kept).mp (survives next stepped)
      · intro accepted next stepped
        have kept := verifyStatusHandler_follows follows (stepStatusOk_eq_some.mp stepped)
        exact (ih kept).mpr (accepted () next stepped)

/-- From a fresh operation the handler survives the lines up to its first error exactly when
every line up to there is accepted in the state in which it comes.
-/
theorem verifyHandler_survives_iff {ctx : Ctx} (fresh : ctx.verify = {})
    (lines : List StatusLine)
    : ctx.SurvivesLines lines
      ↔ Machine.Along (stepStatusOk verifyStatusHandler) (fun ctx line => ctx.verify.Accepts line)
          ctx lines :=
  survivesLines_iff (fresh ▸ VerifyData.follows_fresh) lines

/-- A complete VALIDSIG line for an announced signature. -/
theorem verifyHandler_survives_iff_validsig
    : Ctx.SurvivesLines {}
        [⟨.newsig, []⟩, ⟨.validsig, str "A1 2020-01-01 1577836800 0 4 0 1 8 00"⟩] := by
  refine (verifyHandler_survives_iff rfl _).mpr ⟨?_, ?_⟩
  · intro seen
    cases seen
  intro _ next stepped
  refine ⟨?_, fun _ _ _ => trivial⟩
  intro _
  have reads : validSigReads (str "A1 2020-01-01 1577836800 0 4 0 1 8 00")
      = [.assigned, .assigned] := by decide
  refine (validSig_safe_iff {} _ .openpgp).mp ⟨by decide, ?_⟩
  rw [reads]
  decide

/-- A VALIDSIG line that ends behind the fingerprint. -/
theorem verifyHandler_falls_over_validsig
    : ¬ Ctx.SurvivesLines {} [⟨.newsig, []⟩, ⟨.validsig, str "A1"⟩] := by
  intro survives
  have second := (survives.2 _ rfl).1.1
  exact absurd second (by decide)

end Gpgme
