import Gpgme.Operation.VerifyRuns

/-! The list of verified signatures entry by entry: a line works on the current entry only,
and at the end every listed segment has its entry with a summary of its final fields.
-/

namespace Gpgme

open CString

-----------------------------------------------------------------------------------------
-- The entries that are not current
-----------------------------------------------------------------------------------------

/-- The entries that are not current keep all their fields but the link to the next one, and
none of them becomes current.
-/
def VerifyData.KeepsOthers (opd opd' : VerifyData) : Prop :=
  ∀ addr sig,
    opd.heap[addr]? = some sig
    → opd.currentSig ≠ some addr
    → (∃ next, opd'.heap[addr]? = some { sig with next }) ∧ opd'.currentSig ≠ some addr

namespace VerifyData.KeepsOthers

variable {opd opd' opd'' : VerifyData} {args left : Str} {err : GpgError}

theorem of_heap_eq (heap : opd'.heap = opd.heap) (current : opd'.currentSig = opd.currentSig)
    : opd.KeepsOthers opd' := by
  intro addr sig found other
  exact ⟨⟨sig.next, heap ▸ found⟩, current ▸ other⟩

theorem trans (first : opd.KeepsOthers opd') (second : opd'.KeepsOthers opd'')
    : opd.KeepsOthers opd'' := by
  intro addr sig found other
  obtain ⟨⟨next, found'⟩, other'⟩ := first addr sig found other
  obtain ⟨⟨next', found''⟩, other''⟩ := second addr _ found' other'
  exact ⟨⟨next', found''⟩, other''⟩

theorem parseAt {addr : Nat} {parse : Signature → Option SigResult}
    (current : opd.currentSig = some addr)
    (parsed : opd.parseAt addr parse = some (err, left, opd'))
    : opd.KeepsOthers opd' := by
  unfold VerifyData.parseAt at parsed
  split at parsed
  · cases parsed
  · simp only [Option.map_eq_some_iff, Prod.exists, Prod.mk.injEq] at parsed
    obtain ⟨_, _, changed, _, _, _, rfl⟩ := parsed
    intro other sig found different
    have apart : addr ≠ other := fun same => different (same ▸ current)
    exact ⟨⟨sig.next, by simp [apart, found]⟩, different⟩

theorem parseCurrent {parse : Signature → Option SigResult}
    (parsed : opd.parseCurrent args parse = some (err, left, opd'))
    : opd.KeepsOthers opd' := by
  unfold VerifyData.parseCurrent at parsed
  split at parsed
  · cases parsed
    exact of_heap_eq rfl rfl
  · next current => exact parseAt current parsed

theorem summarize (opd : VerifyData) : opd.KeepsOthers opd.summarize := by
  unfold VerifyData.summarize
  split
  · exact of_heap_eq rfl rfl
  · next addr current =>
      intro other sig found different
      have apart : addr ≠ other := fun same => different (same ▸ current)
      exact ⟨⟨sig.next, by simp [apart, found]⟩, different⟩

theorem prepareNewSig (prepared : prepareNewSig opd = some opd') : opd.KeepsOthers opd' := by
  unfold Gpgme.prepareNewSig at prepared
  split at prepared
  · next addr _ current =>
      split at prepared
      · cases prepared
        intro other sig found different
        have apart : addr ≠ other := fun same => different (same ▸ current)
        exact ⟨⟨sig.next, by simp [apart, found]⟩, different⟩
      · cases prepared
  · cases prepared
    intro other sig found different
    have allocated : other < opd.heap.length := (List.getElem?_eq_some_iff.mp found).1
    have fresh : some opd.heap.length ≠ some other := by
      intro same
      cases same
      omega
    refine ⟨⟨sig.next, ?_⟩, fresh⟩
    cases current : opd.currentSig with
    | none => simp [List.getElem?_append_left allocated, found]
    | some last =>
        have apart : last ≠ other := fun same => different (same ▸ current)
        have allocated' : other
            < (opd.heap.modify last (fun sig => { sig with next := some opd.heap.length })).length :=
          by simpa using allocated
        simp [List.getElem?_append_left allocated', apart, found]

theorem parseNewSig {code : StatusCode} {protocol : Protocol}
    (parsed : parseNewSig opd code args protocol = some (err, left, opd'))
    : opd.KeepsOthers opd' := by
  have prepared {base : VerifyData}
      (rest : parsePreparedSig base code args protocol = some (err, left, opd'))
      : base.KeepsOthers opd' := by
    unfold parsePreparedSig at rest
    split at rest
    · cases rest
    · next addr current =>
        have step : ({ base with didPrepareNewSig := false } : VerifyData).KeepsOthers opd' :=
          parseAt current rest
        exact step
  unfold Gpgme.parseNewSig at parsed
  split at parsed
  · cases parsed
  · next base opened =>
      split at opened
      · cases opened
        exact prepared parsed
      · exact (prepareNewSig opened).trans (prepared parsed)

theorem unlinkFrom {target entries : Nat} {heap heap' : List Signature} {start : Option Nat}
    (cut : unlinkFrom target entries heap start = some heap') {addr : Nat} {sig : Signature}
    (found : heap[addr]? = some sig)
    : ∃ next, heap'[addr]? = some { sig with next } := by
  induction entries generalizing start with
  | zero =>
      cases start with
      | none =>
          cases cut
          exact ⟨sig.next, found⟩
      | some addr => cases cut
  | succ entries ih =>
      cases start with
      | none =>
          cases cut
          exact ⟨sig.next, found⟩
      | some held =>
          simp only [Gpgme.unlinkFrom] at cut
          split at cut
          · cases cut
          · next entry at' =>
              split at cut
              · cases cut
                by_cases same : held = addr
                · subst same
                  cases found.symm.trans at'
                  have allocated := (List.getElem?_eq_some_iff.mp found).1
                  exact ⟨none, by simp [allocated]⟩
                · exact ⟨sig.next, by simp [same, found]⟩
              · exact ih cut

theorem removeLastSig {addr : Nat} (removed : removeLastSig opd addr = some opd')
    : opd.KeepsOthers opd' := by
  unfold Gpgme.removeLastSig at removed
  (repeat' split at removed) <;> first | cases removed | skip
  · intro other sig found _
    exact ⟨⟨sig.next, found⟩, by simp⟩
  · simp only [Option.map_eq_some_iff] at removed
    obtain ⟨heap, cut, rfl⟩ := removed
    intro other sig found _
    exact ⟨unlinkFrom cut found, by simp⟩

theorem verifyEof (ended : verifyEof opd = some (err, opd')) : opd.KeepsOthers opd' := by
  unfold Gpgme.verifyEof at ended
  simp only [Option.map_eq_some_iff, Prod.mk.injEq] at ended
  obtain ⟨last, removed, _, rfl⟩ := ended
  have settled : opd.KeepsOthers (if opd.didPrepareNewSig then opd else opd.summarize) := by
    split
    · exact of_heap_eq rfl rfl
    · exact summarize opd
  refine settled.trans ?_
  split at removed
  · exact (removeLastSig removed).trans (of_heap_eq rfl rfl)
  · cases removed
    exact of_heap_eq rfl rfl

theorem seenCurrent {base : VerifyData} {parse : Signature → Option SigResult}
    (parsed : ({ base with onlyNewsigSeen := false } : VerifyData).parseCurrent args parse
      = some (err, left, opd'))
    : base.KeepsOthers opd' := by
  have step : ({ base with onlyNewsigSeen := false } : VerifyData).KeepsOthers opd' :=
    parseCurrent parsed
  exact step

theorem seenAt {base : VerifyData} {addr : Nat} {parse : Signature → Option SigResult}
    (current : base.currentSig = some addr)
    (parsed : ({ base with onlyNewsigSeen := false } : VerifyData).parseAt addr parse
      = some (err, left, opd'))
    : base.KeepsOthers opd' := by
  have step : ({ base with onlyNewsigSeen := false } : VerifyData).KeepsOthers opd' :=
    parseAt current parsed
  exact step

end VerifyData.KeepsOthers

theorem verifyStatusSwitch_keepsOthers {ctx : Ctx} {code : StatusCode} {args left : Str}
    {err : GpgError} {opd' : VerifyData}
    (handled : verifyStatusSwitch ctx code args = some (err, left, opd'))
    : ctx.verify.KeepsOthers opd' := by
  have same {opd' : VerifyData} (heap : opd'.heap = ctx.verify.heap)
      (current : opd'.currentSig = ctx.verify.currentSig)
      : ctx.verify.KeepsOthers opd' :=
    VerifyData.KeepsOthers.of_heap_eq heap current
  revert handled
  cases code <;> simp only [verifyStatusSwitch]
  case newsig =>
    intro handled
    simp only [Option.map_eq_some_iff, Prod.mk.injEq] at handled
    obtain ⟨opened, prepared, _, _, rfl⟩ := handled
    have step := VerifyData.KeepsOthers.prepareNewSig prepared
    exact (VerifyData.KeepsOthers.summarize ctx.verify).trans step
  case goodsig | expsig | expkeysig | badsig | errsig | revkeysig =>
    intro handled
    have step := VerifyData.KeepsOthers.parseNewSig handled
    split at step
    · exact step
    · exact (VerifyData.KeepsOthers.summarize ctx.verify).trans step
  case eof =>
    intro handled
    simp only [Option.map_eq_some_iff, Prod.exists, Prod.mk.injEq] at handled
    obtain ⟨_, _, ended, _, _, rfl⟩ := handled
    exact VerifyData.KeepsOthers.verifyEof ended
  case nodata | unexpected | error =>
    split
    · intro handled
      cases handled
      exact same rfl rfl
    · next addr current => exact VerifyData.KeepsOthers.seenAt current
  case tofuUser =>
    split
    · intro handled
      cases handled
      exact same rfl rfl
    · next addr current =>
        intro handled
        simp only [Option.map_eq_some_iff, Prod.exists] at handled
        obtain ⟨_, _, parsed, stored, answered⟩ := handled
        have step := VerifyData.KeepsOthers.seenAt current stored
        split at answered <;>
          · cases answered
            exact step
  case tofuStats | tofuStatsLong =>
    split
    · intro handled
      cases handled
      exact same rfl rfl
    · exact VerifyData.KeepsOthers.seenCurrent
  case plaintext =>
    split <;>
      · intro handled
        cases handled
        exact same rfl rfl
  case verificationComplianceMode =>
    split
    · split
      · intro handled
        cases handled
      · next addr current => exact VerifyData.KeepsOthers.parseAt current
    · intro handled
      cases handled
      exact same rfl rfl
  all_goals
    first
    | exact VerifyData.KeepsOthers.seenCurrent
    | intro handled
      cases handled
      exact same rfl rfl

theorem verifyStatusHandler_keepsOthers {ctx next : Ctx} {line : StatusLine} {err : GpgError}
    (stepped : stepStatus verifyStatusHandler ctx line = some (err, next))
    : ctx.verify.KeepsOthers next.verify := by
  obtain ⟨left, handled⟩ := stepStatus_handled stepped
  simp only [verifyStatusHandler, Option.map_eq_some_iff, Prod.exists, Prod.mk.injEq] at handled
  obtain ⟨_, _, _, switched, _, _, rfl⟩ := handled
  exact verifyStatusSwitch_keepsOthers switched

theorem run_keepsOthers {ctx last : Ctx} {lines : List StatusLine} {answers : List Unit}
    (ran : Machine.run (stepStatusOk verifyStatusHandler) ctx lines = some (answers, last))
    : ctx.verify.KeepsOthers last.verify := by
  induction lines generalizing ctx answers with
  | nil =>
      cases ran
      exact VerifyData.KeepsOthers.of_heap_eq rfl rfl
  | cons line rest ih =>
      obtain ⟨_, next, _, stepped, tail, _⟩ := Machine.run_cons_iff.mp ran
      exact (verifyStatusHandler_keepsOthers (stepStatusOk_eq_some.mp stepped)).trans (ih tail)

-----------------------------------------------------------------------------------------
-- Segments in front of the end of file
-----------------------------------------------------------------------------------------

/-- A line that reports on the signature of its segment. -/
def StatusLine.reportsSig (line : StatusLine) : Bool :=
  line.code.isSigStatus || line.code.isSigDetail

/-- A segment in which a signature is announced, and nothing is reported about it. -/
def Segment.onlyAnnounced (segment : Segment) : Bool := !segment.any StatusLine.reportsSig

/-- The segments that have an entry after the end of file: a last one that only announces a
signature is dropped.
-/
def keptSegments (segments : List Segment) : List Segment :=
  match segments.getLast? with
  | none => []
  | some last => if last.onlyAnnounced then segments.dropLast else segments

/-- What holds of the segments as long as the end of file was not seen. -/
structure Segmentation.Regular (seg : Segmentation) : Prop where
  listed : seg.listed = true
  idle
    : seg.current = none → seg.closed = [] ∧ seg.prepared = false ∧ seg.onlyNewsig = false
  prepared
    : ∀ segment, seg.current = some segment → seg.prepared = true → ¬ segment.HasSigStatus
  announced
    : ∀ segment, seg.current = some segment → seg.onlyNewsig = segment.onlyAnnounced

theorem Segment.onlyAnnounced_snoc (segment : Segment) (line : StatusLine)
    : Segment.onlyAnnounced (segment ++ [line])
      = (Segment.onlyAnnounced segment && !line.reportsSig) := by
  simp [Segment.onlyAnnounced]

theorem Segmentation.openEntry_listed {seg : Segmentation} (listed : seg.listed = true)
    (idle : seg.current = none → seg.closed = [])
    : seg.openEntry.current = some [] ∧ seg.openEntry.listed = true := by
  unfold Segmentation.openEntry
  split
  · exact ⟨rfl, listed⟩
  · next none => exact ⟨rfl, by simp [idle none]⟩
  · exact ⟨rfl, listed⟩

theorem Segmentation.Regular.addLine {seg : Segmentation} (regular : seg.Regular)
    {line : StatusLine} (other : line.code.isSigStatus = false)
    : ({ seg.addLine line with onlyNewsig := seg.onlyNewsig && !line.reportsSig }
        : Segmentation).Regular := by
  have extended {segment : Segment} (current : (seg.addLine line).current = some segment)
      : ∃ before, seg.current = some before ∧ segment = before ++ [line] := by
    simp only [Segmentation.addLine, Option.map_eq_some_iff] at current
    obtain ⟨before, known, rfl⟩ := current
    exact ⟨before, known, rfl⟩
  refine ⟨regular.listed, ?_, ?_, ?_⟩
  · intro none
    simp only [Segmentation.addLine, Option.map_eq_none_iff] at none
    obtain ⟨closed, prepared, onlyNewsig⟩ := regular.idle none
    exact ⟨closed, prepared, by simp [onlyNewsig]⟩
  · intro segment current prepared
    obtain ⟨before, known, rfl⟩ := extended current
    rw [Segment.hasSigStatus_snoc other]
    exact regular.prepared before known prepared
  · intro segment current
    obtain ⟨before, known, rfl⟩ := extended current
    rw [Segment.onlyAnnounced_snoc, regular.announced before known]

theorem Segmentation.Regular.sigStatus {seg : Segmentation} {segment : Segment}
    {line : StatusLine} (listed : seg.listed = true) (current : seg.current = some segment)
    (seen : seg.onlyNewsig = false) (status : line.code.isSigStatus = true)
    : ({ seg.addLine line with prepared := false } : Segmentation).Regular := by
  refine ⟨listed, ?_, ?_, ?_⟩
  · simp [Segmentation.addLine, current]
  · simp
  · intro extended known
    simp only [Segmentation.addLine, current, Option.map_some, Option.some.injEq] at known
    subst known
    simp [Segmentation.addLine, seen, Segment.onlyAnnounced_snoc, StatusLine.reportsSig, status]

theorem Segmentation.Regular.note {seg : Segmentation} (regular : seg.Regular)
    {line : StatusLine} (notEof : line.code ≠ .eof)
    : (seg.note line).Regular := by
  unfold Segmentation.note
  by_cases newsig : line.code = .newsig
  · obtain ⟨opened, listed⟩ :=
      Segmentation.openEntry_listed regular.listed (fun none => (regular.idle none).1)
    have quiet : line.reportsSig = false := by
      simp [StatusLine.reportsSig, newsig, StatusCode.isSigStatus, StatusCode.isSigDetail]
    have noStatus : line.code.isSigStatus = false := by simp [newsig, StatusCode.isSigStatus]
    rw [if_pos newsig]
    refine ⟨listed, ?_, ?_, ?_⟩
    · simp [Segmentation.addLine, opened]
    · simp [Segmentation.addLine, opened, Segment.HasSigStatus, noStatus]
    · simp [Segmentation.addLine, opened, Segment.onlyAnnounced, quiet]
  rw [if_neg newsig]
  by_cases status : line.code.isSigStatus = true
  · rw [if_pos status]
    dsimp only
    split
    · next prepared =>
        cases current : seg.current with
        | none => simp [(regular.idle current).2.1] at prepared
        | some segment => exact Segmentation.Regular.sigStatus regular.listed rfl rfl status
    · obtain ⟨opened, listed⟩ :=
        @Segmentation.openEntry_listed { seg with onlyNewsig := false } regular.listed
          (fun none => (regular.idle none).1)
      exact Segmentation.Regular.sigStatus listed opened
        (Segmentation.openEntry_onlyNewsig _) status
  rw [if_neg status, if_neg notEof]
  have other : line.code.isSigStatus = false := by simpa using status
  by_cases detail : line.code.isSigDetail = true
  · have reports : line.reportsSig = true := by simp [StatusLine.reportsSig, detail]
    rw [if_pos detail]
    simpa [reports] using regular.addLine other
  · have quiet : line.reportsSig = false := by simp [StatusLine.reportsSig, other, detail]
    have same : ({ seg.addLine line with onlyNewsig := seg.onlyNewsig && !line.reportsSig }
        : Segmentation) = seg.addLine line := by
      simp [Segmentation.addLine, quiet]
    rw [if_neg detail, ← same]
    exact regular.addLine other

theorem Segmentation.Regular.run {seg : Segmentation} (regular : seg.Regular)
    {lines : List StatusLine} (noEof : ∀ line ∈ lines, line.code ≠ .eof)
    : (lines.foldl Segmentation.note seg).Regular := by
  induction lines generalizing seg with
  | nil => exact regular
  | cons line rest ih =>
      have notEof := noEof line List.mem_cons_self
      exact ih (regular.note notEof) fun found member =>
        noEof found (List.mem_cons_of_mem _ member)

theorem Segmentation.regular_empty : ({} : Segmentation).Regular :=
  ⟨rfl, fun _ => ⟨rfl, rfl, rfl⟩, by simp, by simp⟩

theorem Segmentation.Regular.atEnd_segments {seg : Segmentation} (regular : seg.Regular)
    : seg.atEnd.segments = keptSegments seg.segments := by
  cases current : seg.current with
  | none =>
      obtain ⟨closed, _, onlyNewsig⟩ := regular.idle current
      simp [Segmentation.atEnd, Segmentation.segments, keptSegments, current, closed, onlyNewsig]
  | some segment =>
      have whole : seg.segments = seg.closed ++ [segment] := by
        simp [Segmentation.segments, regular.listed, current]
      rw [whole]
      unfold keptSegments
      simp only [List.getLast?_append, List.getLast?_singleton, Option.some_or]
      rw [← regular.announced segment current]
      cases only : seg.onlyNewsig with
      | true => simp [Segmentation.atEnd, Segmentation.segments, only]
      | false => simp [Segmentation.atEnd, Segmentation.segments, only, current, regular.listed]

-----------------------------------------------------------------------------------------
-- Whole sequences
-----------------------------------------------------------------------------------------

/-- The entry of a segment: it carries what the lines of the segment have written, and after a
line on a checked signature its summary is that of its final fields.
-/
def Signature.EntryOf (sig : Signature) (segment : Segment) : Prop :=
  sig.Carries segment ∧ (segment.HasSigStatus → sig.Summarized)

/-- After an error-free sequence of lines and the end of file, the result has one entry for
each segment in order, less a last segment that only announces a signature; and from one
state of the run to a later one the entries that are not current stay as they are.
-/
theorem verify_entries_of_segments {ctx last : Ctx} {lines : List StatusLine} {args : Str}
    {answers : List Unit} (fresh : ctx.verify = {})
    (noEof : ∀ line ∈ lines, line.code ≠ .eof)
    (ran
      : Machine.run (stepStatusOk verifyStatusHandler) ctx (lines ++ [⟨.eof, args⟩])
        = some (answers, last))
    : List.Forall₂ Signature.EntryOf last.verify.resultSignatures
        (keptSegments (segmentsOf lines))
      ∧ ∀ early between late first second before after,
          lines ++ [⟨.eof, args⟩] = early ++ between ++ late
          → Machine.run (stepStatusOk verifyStatusHandler) ctx early = some (first, before)
          → Machine.run (stepStatusOk verifyStatusHandler) before between = some (second, after)
          → before.verify.KeepsOthers after.verify := by
  refine ⟨?_, fun _ _ _ _ _ _ _ _ _ moved => run_keepsOthers moved⟩
  obtain ⟨_, middle, _, early, late, _⟩ := Machine.run_append_iff.mp ran
  obtain ⟨_, next, _, stepped, done, _⟩ := Machine.run_cons_iff.mp late
  cases done
  have regular := Segmentation.regular_empty.run noEof
  have follows : middle.verify.Follows (lines.foldl Segmentation.note {}) :=
    run_verifyStatusHandler_follows (fresh ▸ VerifyData.follows_fresh) early
  have prepared := follows.prepared_eq
  unfold segmentsOf
  generalize lines.foldl Segmentation.note {} = seg at regular follows prepared ⊢
  obtain ⟨opd, ended, left, _, summarized⟩ := verifyEof_settles follows
  have isLast : last.verify = opd := by
    have stepped := stepStatusOk_eq_some.mp stepped
    simp only [stepStatus, verifyStatusHandler, verifyStatusSwitch, ended, Option.map_some,
      Option.some.injEq, Prod.mk.injEq] at stepped
    rw [← stepped.2]
  rw [isLast, ← regular.atEnd_segments]
  apply left.resultSignatures_of
  · exact fun sig segment carries settled => ⟨carries, fun _ => settled⟩
  · intro addr sig segment isCurrent found known carries
    refine ⟨carries, ?_⟩
    intro status
    have before : seg.current = some segment := by
      unfold Segmentation.atEnd at known
      split at known
      · cases known
      · exact known
    apply summarized _ addr sig isCurrent found
    rw [prepared]
    cases waiting : seg.prepared with
    | false => rfl
    | true => exact absurd status (regular.prepared segment before waiting)

/-- A good signature in front of one that is only announced. -/
theorem verify_entries_of_segments_goodsig
    : ∃ answers last,
        Machine.run (stepStatusOk verifyStatusHandler) {}
            ([⟨.newsig, []⟩, ⟨.goodsig, str "A1 Alice"⟩, ⟨.trustFully, str "0"⟩, ⟨.newsig, []⟩]
              ++ [⟨.eof, []⟩])
          = some (answers, last)
        ∧ List.Forall₂ Signature.EntryOf last.verify.resultSignatures
            [[⟨.newsig, []⟩, ⟨.goodsig, str "A1 Alice"⟩, ⟨.trustFully, str "0"⟩]] := by
  obtain ⟨answers, last, ran⟩
      : ∃ answers last,
          Machine.run (stepStatusOk verifyStatusHandler) {}
              ([⟨.newsig, []⟩, ⟨.goodsig, str "A1 Alice"⟩, ⟨.trustFully, str "0"⟩, ⟨.newsig, []⟩]
                ++ [⟨.eof, []⟩])
            = some (answers, last) :=
    ⟨_, _, rfl⟩
  exact ⟨answers, last, ran, (verify_entries_of_segments rfl (by decide) ran).1⟩

/-- A last segment that has another line behind its NEWSIG line is dropped as well. -/
theorem verify_drops_announcement_with_plaintext
    : ∃ answers last,
        Machine.run (stepStatusOk verifyStatusHandler) {}
            ([⟨.newsig, []⟩, ⟨.plaintext, str "62 0 note"⟩] ++ [⟨.eof, []⟩])
          = some (answers, last)
        ∧ segmentsOf [⟨.newsig, []⟩, ⟨.plaintext, str "62 0 note"⟩]
          = [[⟨.newsig, []⟩, ⟨.plaintext, str "62 0 note"⟩]]
        ∧ last.verify.resultSignatures = [] :=
  ⟨_, _, rfl, rfl, rfl⟩

end Gpgme
