import Gpgme.Operation.VerifyInvariant

/-! Runs of the verification status handler over whole sequences of status lines. -/

namespace Gpgme

open CString

section Step

variable {opd opd' : VerifyData} {seg : Segmentation} {addrs : List Nat}
  {sigs : List Signature} {line : StatusLine}

-----------------------------------------------------------------------------------------
-- Lines for the current entry
-----------------------------------------------------------------------------------------

/-- The segments follow the list and the flags of the operation. -/
def VerifyData.Follows (opd : VerifyData) (seg : Segmentation) : Prop :=
  ∃ addrs sigs, opd.Tracks seg addrs sigs

/-- Only the list and two flags matter. -/
theorem VerifyData.Follows.congr (follows : opd.Follows seg)
    (heap : opd'.heap = opd.heap) (signatures : opd'.signatures = opd.signatures)
    (currentSig : opd'.currentSig = opd.currentSig)
    (prepared : opd'.didPrepareNewSig = opd.didPrepareNewSig)
    (onlyNewsig : opd'.onlyNewsigSeen = opd.onlyNewsigSeen)
    : opd'.Follows seg := by
  obtain ⟨addrs, sigs, tracks⟩ := follows
  obtain ⟨_, _, _, _, _, _, _, _, _, _⟩ := opd
  obtain ⟨_, _, _, _, _, _, _, _, _, _⟩ := opd'
  simp only at heap signatures currentSig prepared onlyNewsig
  subst heap signatures currentSig prepared onlyNewsig
  exact ⟨addrs, sigs, { tracks with }⟩

/-- More than the start of the current entry is known. -/
theorem VerifyData.Follows.seen (follows : opd.Follows seg)
    : ({ opd with onlyNewsigSeen := false } : VerifyData).Follows
        { seg with onlyNewsig := false } := by
  obtain ⟨addrs, sigs, tracks⟩ := follows
  exact ⟨addrs, sigs, { tracks with onlyNewsig := rfl }⟩

/-- Without a current entry a line is not for any segment. -/
theorem VerifyData.Follows.addLine_of_none (follows : opd.Follows seg)
    (absent : opd.currentSig = none) (line : StatusLine)
    : seg.addLine line = seg := by
  obtain ⟨addrs, sigs, tracks⟩ := follows
  rcases tracks.current with ⟨_, known⟩ | ⟨addr, _, _, isCurrent, _⟩
  · obtain ⟨_, current, _, _, _⟩ := seg
    simp only at known
    simp [Segmentation.addLine, known]
  · simp [absent] at isCurrent

/-- A parser that is run on the current entry. -/
theorem VerifyData.Follows.parseAt (follows : opd.Follows seg) {addr : Nat}
    {parse : Signature → Option SigResult} {err : GpgError} {args : Str}
    (isCurrent : opd.currentSig = some addr)
    (parsed : opd.parseAt addr parse = some (err, args, opd'))
    (entry : ∀ {sig sig'}, parse sig = some (err, args, sig') → Signature.Follows line sig sig')
    : opd'.Follows (seg.addLine line) := by
  obtain ⟨addrs, sigs, tracks⟩ := follows
  unfold VerifyData.parseAt at parsed
  cases found : opd.heap[addr]? with
  | none => simp [found] at parsed
  | some sig =>
      simp only [found, Option.map_eq_some_iff, Prod.exists, Prod.mk.injEq] at parsed
      obtain ⟨err', args', sig', result, rfl, rfl, rfl⟩ := parsed
      exact ⟨addrs, sigs, tracks.updateCurrent isCurrent found (entry result) rfl rfl rfl rfl rfl
        rfl tracks.prepared tracks.onlyNewsig id⟩

/-- A line that requires a current entry. -/
theorem VerifyData.Follows.parseCurrent (follows : opd.Follows seg) {text args : Str}
    {parse : Signature → Option SigResult}
    (parsed : opd.parseCurrent text parse = some (0, args, opd'))
    (entry : ∀ {sig sig'}, parse sig = some (0, args, sig') → Signature.Follows line sig sig')
    : opd'.Follows (seg.addLine line) := by
  have refused : invEngine ≠ 0 := by decide
  unfold VerifyData.parseCurrent at parsed
  cases isCurrent : opd.currentSig with
  | none =>
      simp only [isCurrent, Option.some.injEq, Prod.mk.injEq] at parsed
      exact absurd parsed.1 refused
  | some addr =>
      simp only [isCurrent] at parsed
      exact follows.parseAt isCurrent parsed entry

/-- A line that leaves the verdict on its entry alone. -/
theorem Signature.Follows.of_core {sig sig' : Signature} (same : sig'.core = sig.core)
    (silent : line.statusWritten = none) (noTrust : line.isTrust = false)
    (noUsage : line.reportsWrongUsage = false)
    : Signature.Follows line sig sig' := by
  simp only [Signature.core, Prod.mk.injEq] at same
  obtain ⟨next, summary, status, validity, reason, keyUsage⟩ := same
  exact ⟨next, summary, by simpa [silent] using status, by simpa [noTrust] using validity,
    by simpa [noTrust] using reason, by simpa [noUsage] using keyUsage⟩

/-- A line that writes nothing at all into the current entry. -/
theorem VerifyData.Follows.addLine (follows : opd.Follows seg)
    (silent : line.statusWritten = none) (noTrust : line.isTrust = false)
    (noUsage : line.reportsWrongUsage = false)
    : opd.Follows (seg.addLine line) := by
  cases isCurrent : opd.currentSig with
  | none => rwa [follows.addLine_of_none isCurrent]
  | some addr =>
      obtain ⟨addrs, sigs, tracks⟩ := follows
      rcases tracks.current with ⟨absent, _⟩ | ⟨held, sig, _, isHeld, _, found, _⟩
      · simp [isCurrent] at absent
      · cases isCurrent.symm.trans isHeld
        have same : opd.heap = opd.heap.set addr sig := by
          obtain ⟨inside, rfl⟩ := List.getElem?_eq_some_iff.mp found
          simp
        exact ⟨addrs, sigs, tracks.updateCurrent isCurrent found
          (Signature.Follows.of_core rfl silent noTrust noUsage) same rfl rfl rfl rfl rfl
          tracks.prepared tracks.onlyNewsig id⟩

-----------------------------------------------------------------------------------------
-- Lines that open an entry
-----------------------------------------------------------------------------------------

/-- Preparing an entry does not look at the flag for it. -/
theorem prepareNewSig_didPrepare (opd : VerifyData) (flag : Bool)
    : prepareNewSig { opd with didPrepareNewSig := flag } = prepareNewSig opd := by
  unfold prepareNewSig
  rcases opd with ⟨_, _, _, _, _, currentSig, _, onlyNewsigSeen, _, _⟩
  cases onlyNewsigSeen <;> cases currentSig <;> rfl

/-- Opening an entry does not look at the flag for it. -/
theorem Segmentation.openEntry_prepared (seg : Segmentation) (flag : Bool)
    : Segmentation.openEntry { seg with prepared := flag }
      = { seg.openEntry with prepared := flag } := by
  unfold Segmentation.openEntry
  rcases seg with ⟨_, current, _, _, onlyNewsig⟩
  cases onlyNewsig <;> cases current <;> rfl

/-- Closing the current entry, if there is one, and opening another. -/
theorem VerifyData.Follows.openEntry (follows : opd.Follows seg)
    (prepared : prepareNewSig opd.summarize = some opd')
    : opd'.Follows { seg.openEntry with prepared := true, onlyNewsig := false } := by
  obtain ⟨addrs, sigs, tracks⟩ := follows
  obtain ⟨closed, summarized⟩ := tracks.summarize
  rw [← prepareNewSig_didPrepare opd.summarize false] at prepared
  have opened := prepareNewSig_tracks closed summarized prepared
  rwa [Segmentation.openEntry_prepared] at opened

/-- The flags for an announced entry are followed when they are reset. -/
theorem VerifyData.Follows.unprepare (follows : opd.Follows seg)
    : ({ opd with didPrepareNewSig := false } : VerifyData).Follows
        { seg with prepared := false } := by
  obtain ⟨addrs, sigs, tracks⟩ := follows
  refine ⟨addrs, sigs, { tracks with prepared := rfl, current := ?_ }⟩
  rcases tracks.current with none' | ⟨addr, sig, segment, isCurrent, known, found, ends, carries, _⟩
  · exact Or.inl none'
  · exact Or.inr ⟨addr, sig, segment, isCurrent, known, found, ends, carries, by simp⟩

/-- A line that reports on a checked signature is for the entry prepared for it. -/
theorem parsePreparedSig_follows (follows : opd.Follows seg) (reports : line.code.isSigStatus)
    {args : Str} {protocol : Protocol}
    (parsed : parsePreparedSig opd line.code line.args protocol = some (0, args, opd'))
    : opd'.Follows { seg.addLine line with prepared := false } := by
  unfold parsePreparedSig at parsed
  split at parsed
  · cases parsed
  · next addr isCurrent =>
      refine follows.unprepare.parseAt isCurrent parsed fun result => ?_
      exact parseSigStatus_follows reports (Option.some.inj result)

/-- The summary does not look at the flag for a lone NEWSIG. -/
theorem VerifyData.summarize_seen (opd : VerifyData)
    : VerifyData.summarize { opd with onlyNewsigSeen := false }
      = { opd.summarize with onlyNewsigSeen := false } := by
  rcases opd with ⟨_, _, _, _, _, currentSig, _, _, _, _⟩
  cases currentSig <;> rfl

/-- The summary keeps the flag for a prepared entry. -/
theorem VerifyData.summarize_didPrepare (opd : VerifyData)
    : opd.summarize.didPrepareNewSig = opd.didPrepareNewSig := by
  unfold VerifyData.summarize
  split <;> rfl

/-- Both sides agree on the flag for a prepared entry. -/
theorem VerifyData.Follows.prepared_eq (follows : opd.Follows seg)
    : opd.didPrepareNewSig = seg.prepared := by
  obtain ⟨_, _, tracks⟩ := follows
  exact tracks.prepared

/-- Opening an entry keeps the flag for a lone NEWSIG. -/
theorem Segmentation.openEntry_onlyNewsig (seg : Segmentation)
    : seg.openEntry.onlyNewsig = seg.onlyNewsig := by
  unfold Segmentation.openEntry
  split <;> rfl

/-- A line that reports on a checked signature opens an entry unless one is prepared. -/
theorem parseNewSig_follows (follows : opd.Follows seg) (reports : line.code.isSigStatus)
    {args : Str} {protocol : Protocol}
    (parsed
      : parseNewSig
          { (if opd.didPrepareNewSig then opd else opd.summarize) with onlyNewsigSeen := false }
          line.code line.args protocol
        = some (0, args, opd'))
    : opd'.Follows (seg.note line) := by
  have noted : seg.note line
      = { (if seg.prepared then { seg with onlyNewsig := false }
            else Segmentation.openEntry { seg with onlyNewsig := false }).addLine line with
          prepared := false } := by
    obtain ⟨code, text⟩ := line
    cases code <;> simp_all [Segmentation.note, StatusCode.isSigStatus]
  rw [noted]
  unfold parseNewSig at parsed
  by_cases prepared : opd.didPrepareNewSig = true
  · simp only [if_pos prepared] at parsed
    rw [if_pos (follows.prepared_eq ▸ prepared)]
    exact parsePreparedSig_follows follows.seen reports parsed
  · simp only [if_neg prepared, opd.summarize_didPrepare] at parsed
    rw [if_neg (follows.prepared_eq ▸ prepared)]
    split at parsed
    · cases parsed
    · next base opened =>
        have done := parsePreparedSig_follows
          (follows.seen.openEntry (opd.summarize_seen ▸ opened)) reports parsed
        have flag := Segmentation.openEntry_onlyNewsig { seg with onlyNewsig := false }
        simpa only [Segmentation.addLine, flag] using done

-----------------------------------------------------------------------------------------
-- The end of the lines
-----------------------------------------------------------------------------------------

/-- The summary of the current entry is up to date or was never computed. -/
def VerifyData.Settled (opd : VerifyData) : Prop :=
  ∀ addr sig,
    opd.currentSig = some addr
    → opd.heap[addr]? = some sig
    → sig.Summarized ∨ sig.summary = {}

/-- The end of the lines drops an entry that was only announced. -/
theorem Segmentation.note_eof (seg : Segmentation) (args : Str)
    : seg.note ⟨.eof, args⟩
      = { (if seg.onlyNewsig then { seg with current := none } else seg.addLine ⟨.eof, args⟩) with
          onlyNewsig := false } := by
  simp [Segmentation.note, StatusCode.isSigStatus]

/-- Computing the summary at the end, unless the current entry is only prepared. -/
theorem VerifyData.Follows.settle (follows : opd.Follows seg)
    : VerifyData.Follows (if opd.didPrepareNewSig then opd else opd.summarize) seg
      ∧ VerifyData.Settled (if opd.didPrepareNewSig then opd else opd.summarize) := by
  obtain ⟨addrs, sigs, tracks⟩ := follows
  by_cases prepared : opd.didPrepareNewSig = true
  · rw [if_pos prepared]
    refine ⟨⟨addrs, sigs, tracks⟩, ?_⟩
    intro addr sig isCurrent found
    rcases tracks.current with ⟨absent, _⟩ | ⟨held, sig', _, isHeld, _, at', _, _, fresh⟩
    · simp [isCurrent] at absent
    · cases isCurrent.symm.trans isHeld
      cases found.symm.trans at'
      exact Or.inr (fresh (tracks.prepared ▸ prepared))
  · rw [if_neg prepared]
    obtain ⟨closed, summarized⟩ := tracks.summarize
    have unprepared : seg.prepared = false := by
      rw [← tracks.prepared]
      exact Bool.not_eq_true _ ▸ prepared
    have same : opd.summarize.didPrepareNewSig = false := by
      rw [opd.summarize_didPrepare]
      exact Bool.not_eq_true _ ▸ prepared
    refine ⟨⟨addrs, sigs, ?_⟩, fun addr sig isCurrent found =>
      Or.inl (summarized addr sig isCurrent found)⟩
    have restored : ({ opd.summarize with didPrepareNewSig := false } : VerifyData) = opd.summarize := by
      rw [← same]
    have segRestored : ({ seg with prepared := false } : Segmentation) = seg := by
      rw [← unprepared]
    rwa [restored, segRestored] at closed

/-- The segments at the end: a current one of which only the start is known is dropped. -/
def Segmentation.atEnd (seg : Segmentation) : Segmentation :=
  { (if seg.onlyNewsig then { seg with current := none } else seg) with onlyNewsig := false }

/-- The end of the lines never faults and returns the recorded failure code. The summary of
an entry that is not just prepared is up to date.
-/
theorem verifyEof_settles (follows : opd.Follows seg)
    : ∃ next,
        verifyEof opd = some (opd.failureCode, next)
        ∧ next.Follows seg.atEnd
        ∧ next.Settled
        ∧ (opd.didPrepareNewSig = false
          → ∀ addr sig,
              next.currentSig = some addr → next.heap[addr]? = some sig → sig.Summarized) := by
  obtain ⟨⟨addrs, sigs, tracks⟩, settled⟩ := follows.settle
  have code : (if opd.didPrepareNewSig then opd else opd.summarize).failureCode
      = opd.failureCode := by
    split
    · rfl
    · unfold VerifyData.summarize
      split <;> rfl
  have current : opd.didPrepareNewSig = false
      → ∀ addr sig,
          (if opd.didPrepareNewSig then opd else opd.summarize).currentSig = some addr
          → (if opd.didPrepareNewSig then opd else opd.summarize).heap[addr]? = some sig
          → sig.Summarized := by
    intro unprepared
    obtain ⟨_, _, before⟩ := follows
    simpa [unprepared] using before.summarize.2
  unfold verifyEof Segmentation.atEnd
  dsimp only
  rw [← code]
  generalize (if opd.didPrepareNewSig then opd else opd.summarize) = base
    at tracks settled current
  have follows : base.Follows seg := ⟨addrs, sigs, tracks⟩
  by_cases only : seg.onlyNewsig = true
  · rw [if_pos only]
    have seen : base.onlyNewsigSeen = true := tracks.onlyNewsig.trans only
    rcases tracks.current with ⟨absent, known⟩ | ⟨addr, _, _, isCurrent, _⟩
    · refine ⟨{ base with onlyNewsigSeen := false }, by simp [seen, absent], ?_, settled, current⟩
      have left := follows.seen
      rwa [known] at left
    · obtain ⟨next, sigs', removed, left, failure⟩ := removeLastSig_tracks tracks isCurrent
      have gone : next.currentSig = none := by
        rcases left.current with ⟨absent, _⟩ | ⟨_, _, _, _, known, _⟩
        · exact absent
        · simp at known
      refine ⟨{ next with onlyNewsigSeen := false }, ?_, ?_, ?_, ?_⟩
      · simp [seen, isCurrent, removed, failure]
      · exact VerifyData.Follows.seen ⟨addrs, sigs', left⟩
      · intro addr sig isCurrent'
        simp [gone] at isCurrent'
      · intro _ addr sig isCurrent'
        simp [gone] at isCurrent'
  · rw [if_neg only]
    have seen : base.onlyNewsigSeen = false := by
      rw [tracks.onlyNewsig]
      exact Bool.not_eq_true _ ▸ only
    exact ⟨{ base with onlyNewsigSeen := false }, by simp [seen], follows.seen, settled, current⟩

/-- The end of the lines with the line itself in the current segment. -/
theorem verifyEof_follows (follows : opd.Follows seg) (args : Str)
    : ∃ next,
        verifyEof opd = some (opd.failureCode, next)
        ∧ next.Follows (seg.note ⟨.eof, args⟩)
        ∧ next.Settled := by
  obtain ⟨next, ended, left, settled, _⟩ := verifyEof_settles follows
  refine ⟨next, ended, ?_, settled⟩
  rw [Segmentation.note_eof]
  unfold Segmentation.atEnd at left
  split at left
  · next only => rwa [if_pos only]
  · next more =>
      rw [if_neg more]
      exact left.addLine rfl rfl rfl

-----------------------------------------------------------------------------------------
-- Every line
-----------------------------------------------------------------------------------------

/-- A line with details belongs to the current entry. -/
theorem Segmentation.note_detail (seg : Segmentation) (detail : line.code.isSigDetail)
    : seg.note line = { seg.addLine line with onlyNewsig := false } := by
  obtain ⟨code, text⟩ := line
  cases code <;> simp_all [Segmentation.note, StatusCode.isSigDetail, StatusCode.isSigStatus]

/-- A line that gives details of the current signature. -/
theorem VerifyData.Follows.detail (follows : opd.Follows seg) (detail : line.code.isSigDetail)
    (added
      : VerifyData.Follows { opd with onlyNewsigSeen := false } { seg with onlyNewsig := false }
        → opd'.Follows (Segmentation.addLine { seg with onlyNewsig := false } line))
    : opd'.Follows (seg.note line) := by
  rw [seg.note_detail detail]
  exact added follows.seen

/-- A line with details is followed by the current entry. -/
theorem VerifyData.Follows.seenCurrent (follows : opd.Follows seg) {parse : Signature → Option SigResult}
    {text args : Str} (detail : line.code.isSigDetail)
    (parsed
      : VerifyData.parseCurrent { opd with onlyNewsigSeen := false } text parse
        = some (0, args, opd'))
    (entry : ∀ {sig sig'}, parse sig = some (0, args, sig') → Signature.Follows line sig sig')
    : opd'.Follows (seg.note line) :=
  follows.detail detail fun seen => seen.parseCurrent parsed entry

end Step

/-- A result that keeps the verdict keeps it in the entry. -/
theorem core_of_result {result : SigResult} {sig sig' : Signature} {err : GpgError} {args : Str}
    (parsed : some result = some (err, args, sig')) (core : result.2.2.core = sig.core)
    : sig'.core = sig.core := by
  cases parsed
  exact core

/-- Every accepted line is noted in the segments; by cases on its code. -/
theorem verifyStatusSwitch_follows {ctx : Ctx} {seg : Segmentation} {code : StatusCode}
    {text args : Str} {opd' : VerifyData} (follows : ctx.verify.Follows seg)
    (handled : verifyStatusSwitch ctx code text = some (0, args, opd'))
    : opd'.Follows (seg.note ⟨code, text⟩) := by
  have badData : gpgError ErrCode.badData ≠ 0 := by decide
  have noData : gpgError ErrCode.noData ≠ 0 := by decide
  have general : gpgError ErrCode.general ≠ 0 := by decide
  have refused : invEngine ≠ 0 := by decide
  cases code
  case newsig =>
    simp only [verifyStatusSwitch, Option.map_eq_some_iff, Prod.mk.injEq, true_and] at handled
    obtain ⟨base, prepared, rfl, rfl⟩ := handled
    have added : base.Follows (Segmentation.addLine
        { seg.openEntry with prepared := true, onlyNewsig := false } ⟨.newsig, text⟩) :=
      (follows.openEntry prepared).addLine rfl rfl rfl
    obtain ⟨addrs, sigs, tracks⟩ := added
    exact ⟨addrs, sigs, { tracks with onlyNewsig := rfl }⟩
  case goodsig | expsig | expkeysig | badsig | errsig | revkeysig =>
    exact parseNewSig_follows follows rfl handled
  case validsig =>
    exact follows.seenCurrent rfl handled fun parsed =>
      .of_core (parseValidSig_core parsed) rfl rfl rfl
  case notationName | notationFlags | notationData | policyUrl =>
    exact follows.seenCurrent rfl handled fun parsed =>
      .of_core (core_of_result parsed (parseNotation_core _ _ _)) rfl rfl rfl
  case trustUndefined | trustNever | trustMarginal | trustFully | trustUltimate =>
    refine follows.seenCurrent rfl handled fun parsed => ?_
    cases parsed
    exact ⟨rfl, rfl, rfl, rfl, rfl, rfl⟩
  case nodata | unexpected =>
    simp only [verifyStatusSwitch] at handled
    split at handled
    · simp_all
    · next addr isCurrent =>
        refine follows.detail rfl fun seen => seen.parseAt isCurrent handled fun parsed => ?_
        cases parsed
        exact ⟨rfl, rfl, rfl, rfl, rfl, rfl⟩
  case pkaTrustBad | pkaTrustGood =>
    refine follows.seenCurrent rfl handled fun parsed => ?_
    split at parsed
    · cases parsed
    · cases parsed
      exact ⟨rfl, rfl, rfl, rfl, rfl, rfl⟩
  case tofuUser =>
    simp only [verifyStatusSwitch] at handled
    split at handled
    · simp_all
    · next addr isCurrent =>
        simp only [Option.map_eq_some_iff, Prod.exists] at handled
        obtain ⟨err, args', base, parsed, result⟩ := handled
        have added : base.Follows
            (Segmentation.addLine { seg with onlyNewsig := false } ⟨.tofuUser, text⟩) :=
          follows.seen.parseAt isCurrent parsed fun parsed =>
            .of_core (core_of_result parsed (parseTofuUser_core _ _ _)) rfl rfl rfl
        rw [seg.note_detail rfl]
        split at result <;>
          · simp only [Prod.mk.injEq] at result
            rw [← result.2.2]
            exact added.congr rfl rfl rfl rfl rfl
  case tofuStats =>
    simp only [verifyStatusSwitch] at handled
    split at handled
    · cases handled
      exact follows.detail rfl fun seen => seen.addLine rfl rfl rfl
    · exact follows.seenCurrent rfl handled fun parsed =>
        .of_core (core_of_result parsed (parseTofuStats_core _ _)) rfl rfl rfl
  case tofuStatsLong =>
    simp only [verifyStatusSwitch] at handled
    split at handled
    · cases handled
      exact follows.detail rfl fun seen => seen.addLine rfl rfl rfl
    · exact follows.seenCurrent rfl handled fun parsed =>
        .of_core (core_of_result parsed (parseTofuStatsLong_core _ _ _)) rfl rfl rfl
  case error =>
    simp only [verifyStatusSwitch] at handled
    split at handled
    · next absent =>
        simp only [Option.some.injEq, Prod.mk.injEq] at handled
        rw [← handled.2.2, seg.note_detail rfl]
        have seen := follows.seen
        rwa [← seen.addLine_of_none absent ⟨.error, text⟩] at seen
    · next addr isCurrent =>
        refine follows.detail rfl fun seen => seen.parseAt isCurrent handled fun parsed => ?_
        simp only [Option.some.injEq, Prod.mk.injEq] at parsed
        rw [← parsed.2.2]
        exact parseVerifyError_follows parsed.1
  case eof =>
    obtain ⟨next, ended, left, _⟩ := verifyEof_follows follows text
    simp only [verifyStatusSwitch, ended, Option.map_some, Option.some.injEq, Prod.mk.injEq]
      at handled
    exact handled.2.2 ▸ left
  case failure =>
    cases handled
    have added : ctx.verify.Follows (seg.addLine ⟨.failure, text⟩) := follows.addLine rfl rfl rfl
    exact added.congr rfl rfl rfl rfl rfl
  case plaintext =>
    have added : ctx.verify.Follows (seg.addLine ⟨.plaintext, text⟩) := follows.addLine rfl rfl rfl
    simp only [verifyStatusSwitch] at handled
    split at handled
    · simp_all
    · cases handled
      exact added.congr rfl rfl rfl rfl rfl
  case verificationComplianceMode =>
    simp only [verifyStatusSwitch] at handled
    split at handled
    · split at handled
      · cases handled
      · next addr isCurrent =>
          refine follows.parseAt isCurrent handled fun parsed => ?_
          cases parsed
          exact ⟨rfl, rfl, rfl, rfl, rfl, rfl⟩
    · cases handled
      exact follows.addLine rfl rfl rfl
  all_goals
    cases handled
    exact follows.addLine rfl rfl rfl

-----------------------------------------------------------------------------------------
-- Whole sequences
-----------------------------------------------------------------------------------------

/-- One line of the handler is followed by the segments. -/
theorem verifyStatusHandler_follows {ctx next : Ctx} {seg : Segmentation} {line : StatusLine}
    (follows : ctx.verify.Follows seg)
    (stepped : stepStatus verifyStatusHandler ctx line = some (0, next))
    : next.verify.Follows (seg.note line) := by
  simp only [stepStatus, verifyStatusHandler, Option.map_eq_some_iff, Prod.exists, Prod.mk.injEq]
    at stepped
  obtain ⟨_, _, _, ⟨_, _, opd', handled, rfl, rfl, rfl⟩, rfl, rfl⟩ := stepped
  exact verifyStatusSwitch_follows follows handled

/-- By induction on the lines. -/
theorem run_verifyStatusHandler_follows {ctx last : Ctx} {seg : Segmentation}
    {lines : List StatusLine} {answers : List Unit} (follows : ctx.verify.Follows seg)
    (ran : Machine.run (stepStatusOk verifyStatusHandler) ctx lines = some (answers, last))
    : last.verify.Follows (lines.foldl Segmentation.note seg) := by
  induction lines generalizing ctx seg answers with
  | nil =>
      cases ran
      exact follows
  | cons line rest ih =>
      obtain ⟨_, next, _, stepped, tail, _⟩ := Machine.run_cons_iff.mp ran
      exact ih (verifyStatusHandler_follows follows (stepStatusOk_eq_some.mp stepped)) tail

/-- A fresh operation has no signatures. -/
theorem VerifyData.follows_fresh : ({} : VerifyData).Follows {} :=
  ⟨[], [], {
    prepared := rfl, onlyNewsig := rfl, chain := rfl, nodup := by simp, unlisted := by simp,
    entries := rfl, closed := .nil, current := Or.inl ⟨rfl, rfl⟩ }⟩

/-- What is left in the result: the entries of the listed segments, in order. Every entry
carries its segment, and those in front of the current one are summarized.
-/
theorem VerifyData.Follows.resultSignatures_of {opd : VerifyData} {seg : Segmentation}
    {fine : Signature → Segment → Prop} (follows : opd.Follows seg)
    (earlier : ∀ sig segment, sig.Carries segment → sig.Summarized → fine sig segment)
    (current
      : ∀ addr sig segment,
          opd.currentSig = some addr
          → opd.heap[addr]? = some sig
          → seg.current = some segment
          → sig.Carries segment
          → fine sig segment)
    : List.Forall₂ fine opd.resultSignatures seg.segments := by
  obtain ⟨addrs, sigs, tracks⟩ := follows
  have closed : List.Forall₂ fine sigs seg.closed :=
    tracks.closed.imp fun sig segment held => earlier sig segment held.1 held.2
  have front : addrs.filterMap (fun addr => opd.heap[addr]?) = sigs := by
    have mapped := congrArg (List.filterMap id) tracks.entries
    simpa [List.filterMap_map] using mapped
  have nodup : (addrs ++ if seg.listed then opd.currentSig.toList else []).Nodup := by
    split
    · exact tracks.nodup
    · simpa using List.Nodup.of_append_left tracks.nodup
  have allocated : ∀ addr ∈ addrs ++ (if seg.listed then opd.currentSig.toList else []),
      addr < opd.heap.length := by
    intro addr member
    rcases List.mem_append.mp member with member | member
    · exact tracks.allocated member
    · rcases tracks.current with ⟨absent, _⟩ | ⟨held, sig, _, isCurrent, _, found, _⟩
      · simp [absent] at member
      · have equal : addr = held := by
          split at member <;> simp_all
        rw [equal]
        exact (List.getElem?_eq_some_iff.mp found).1
  unfold VerifyData.resultSignatures Segmentation.segments
  rw [tracks.chain.walk_eq (length_le_of_nodup nodup allocated), List.filterMap_append, front]
  refine List.rel_append closed ?_
  cases seg.listed with
  | false => exact .nil
  | true =>
      rcases tracks.current with ⟨absent, known⟩ | ⟨addr, sig, segment, isCurrent, known, found, _, carries, _⟩
      · simp [absent, known]
      · simpa [isCurrent, known, found] using current addr sig segment isCurrent found known carries

/-- The entry of a segment at the end: its summary is up to date or was never computed, and up to
date after a line on a checked signature.
-/
structure Signature.Rated (sig : Signature) (segment : Segment) : Prop where
  carries : sig.Carries segment
  settled : sig.Summarized ∨ sig.summary = {}
  checked : segment.HasSigStatus → sig.Summarized

/-- At the end every listed entry is rated by its segment. -/
theorem VerifyData.Follows.resultSignatures {opd opd' : VerifyData} {seg : Segmentation}
    (follows : opd.Follows seg) (awaits : seg.Awaits)
    (ended : verifyEof opd = some (opd.failureCode, opd')) (args : Str)
    : List.Forall₂ Signature.Rated opd'.resultSignatures (seg.note ⟨.eof, args⟩).segments := by
  obtain ⟨next, ended', left, settled, summarized⟩ := verifyEof_settles follows
  obtain ⟨_, rfl⟩ := Prod.mk.inj (Option.some.inj (ended.symm.trans ended'))
  obtain ⟨other, otherEnded, noted, _⟩ := verifyEof_follows follows args
  obtain ⟨_, rfl⟩ := Prod.mk.inj (Option.some.inj (ended.symm.trans otherEnded))
  have last := awaits.note ⟨.eof, args⟩
  apply noted.resultSignatures_of
  · exact fun sig segment carries summarized =>
      ⟨carries, Or.inl summarized, fun _ => summarized⟩
  · intro addr sig segment isCurrent found known carries
    refine ⟨carries, settled addr sig isCurrent found, fun checked => ?_⟩
    refine summarized ?_ addr sig isCurrent found
    have same : (seg.note ⟨.eof, args⟩).prepared = seg.prepared := by
      rw [Segmentation.note_eof]
      split <;> rfl
    rw [follows.prepared_eq, ← same]
    exact Bool.eq_false_of_not_eq_true fun prepared => last segment known prepared checked

-----------------------------------------------------------------------------------------
-- Earned signatures
-----------------------------------------------------------------------------------------

def Segment.hasGoodsig (segment : Segment) : Prop := ∃ line ∈ segment, line.code = .goodsig

/-- The last line of the segment that writes the status is a GOODSIG line. -/
def Segment.RatedGood (segment : Segment) : Prop :=
  ∃ line, lastWriter segment = some line ∧ line.code = .goodsig

/-- A good status and a valid summary are backed by lines of the entry's own segment: the status
of a valid entry was written by a GOODSIG line.
-/
structure Signature.Earned (sig : Signature) (segment : Segment) : Prop where
  good : gpgErrCode sig.status = ErrCode.noError → segment.hasGoodsig
  valid
    : sig.summary.valid = true
      → gpgErrCode sig.status = ErrCode.noError
        ∧ segment.RatedGood
        ∧ ∃ line,
            lastTrust segment = some line
            ∧ (line.code = .trustFully ∨ line.code = .trustUltimate)

/-- A GOODSIG line belongs to the segment, or the last of its lines that write a status
write the code of an error. Where what the lines leave amounts to a valid signature, that last
line is a GOODSIG line.
-/
structure Segment.Backed (segment : Segment) : Prop where
  good : segment.hasGoodsig ∨ gpgErrCode (finalStatus segment) ≠ ErrCode.noError
  valid : segment.verdict.summary.valid = true → segment.RatedGood

/-- Only an entry without an error and with full trust is summarized as valid. -/
theorem calcSigSummary_valid {sig : Signature} (valid : (calcSigSummary sig).summary.valid = true)
    : gpgErrCode sig.status = ErrCode.noError
      ∧ (sig.validity = .full ∨ sig.validity = .ultimate) := by
  simp only [calcSigSummary, decide_eq_true_eq, Sigsum.mk.injEq, decide_eq_false_iff_not] at valid
  tauto

/-- The summary of an entry is that of its segment. -/
theorem Signature.Carries.summary_eq {sig : Signature} {segment : Segment}
    (carries : sig.Carries segment)
    : (calcSigSummary sig).summary = segment.verdict.summary := by
  unfold Segment.verdict calcSigSummary
  dsimp only
  rw [carries.status, carries.validity, carries.reason, carries.keyUsage]

/-- A GOODSIG line is a status line of the signature. -/
theorem Segment.hasSigStatus_of_goodsig {segment : Segment} (good : segment.hasGoodsig)
    : segment.HasSigStatus := by
  obtain ⟨line, member, code⟩ := good
  exact ⟨line, member, by rw [code]; rfl⟩

/-- A rated entry is earned exactly when its segment backs it. -/
theorem Signature.Rated.earned_iff {sig : Signature} {segment : Segment}
    (rated : sig.Rated segment)
    : sig.Earned segment ↔ segment.Backed := by
  obtain ⟨carries, settled, checked⟩ := rated
  have verdict (summarized : sig.Summarized)
      : sig.summary.valid = segment.verdict.summary.valid := by
    rw [summarized, carries.summary_eq]
  constructor
  · intro earned
    have good : segment.hasGoodsig ∨ gpgErrCode (finalStatus segment) ≠ ErrCode.noError := by
      by_cases noError : gpgErrCode sig.status = ErrCode.noError
      · exact Or.inl (earned.good noError)
      · exact Or.inr (carries.status ▸ noError)
    refine ⟨good, fun valid => ?_⟩
    have noError : gpgErrCode (finalStatus segment) = ErrCode.noError :=
      (calcSigSummary_valid valid).1
    have summarized :=
      checked (Segment.hasSigStatus_of_goodsig (good.resolve_right (not_not_intro noError)))
    exact (earned.valid (verdict summarized ▸ valid)).2.1
  · intro backed
    have good (noError : gpgErrCode sig.status = ErrCode.noError) : segment.hasGoodsig :=
      backed.good.resolve_right fun error => error (carries.status ▸ noError)
    refine ⟨good, fun valid => ?_⟩
    have summarized : sig.Summarized := by
      refine settled.resolve_right fun never => ?_
      simp [never] at valid
    rw [verdict summarized] at valid
    obtain ⟨noError, trusted⟩ := calcSigSummary_valid valid
    have full : finalValidity segment = .full :=
      trusted.resolve_right (finalValidity_ne_ultimate segment)
    exact ⟨carries.status ▸ noError, backed.valid valid, lastTrust_of_full full⟩

/-- After an error-free sequence of lines up to the end of file, the result reports no
unearned good signature exactly when every listed segment is backed.
-/
theorem verify_earned_iff_backed {ctx last : Ctx} {lines : List StatusLine} {args : Str}
    {answers : List Unit} (fresh : ctx.verify = {})
    (ran
      : Machine.run (stepStatusOk verifyStatusHandler) ctx (lines ++ [⟨.eof, args⟩])
        = some (answers, last))
    : List.Forall₂ Signature.Earned last.verify.resultSignatures
          (segmentsOf (lines ++ [⟨.eof, args⟩]))
      ↔ ∀ segment ∈ segmentsOf (lines ++ [⟨.eof, args⟩]), Segment.Backed segment := by
  obtain ⟨_, middle, _, early, late, _⟩ := Machine.run_append_iff.mp ran
  obtain ⟨_, next, _, stepped, done, _⟩ := Machine.run_cons_iff.mp late
  cases done
  have follows : middle.verify.Follows (lines.foldl Segmentation.note {}) :=
    run_verifyStatusHandler_follows (fresh ▸ VerifyData.follows_fresh) early
  have awaits : Segmentation.Awaits (lines.foldl Segmentation.note {}) :=
    Segmentation.Awaits.run (fun _ none => by cases none) lines
  obtain ⟨opd, ended, _⟩ := verifyEof_settles follows
  have isLast : last.verify = opd := by
    have stepped := stepStatusOk_eq_some.mp stepped
    simp only [stepStatus, verifyStatusHandler, verifyStatusSwitch, ended, Option.map_some,
      Option.some.injEq, Prod.mk.injEq] at stepped
    rw [← stepped.2]
  have result := follows.resultSignatures awaits ended args
  rw [isLast, segmentsOf, List.foldl_append, List.foldl_cons, List.foldl_nil]
  generalize opd.resultSignatures = sigs at result
  generalize (Segmentation.note _ _).segments = segments at result
  induction result with
  | nil => simp
  | cons held _ ih =>
      simp only [List.forall₂_cons, held.earned_iff, ih, List.forall_mem_cons]

/-- A signature that is announced, good and fully trusted. -/
theorem verify_earned_iff_backed_goodsig
    : ∃ answers last,
        Machine.run (stepStatusOk verifyStatusHandler) {}
            ([⟨.newsig, []⟩, ⟨.goodsig, str "A1 Alice"⟩, ⟨.trustFully, str "0"⟩] ++ [⟨.eof, []⟩])
          = some (answers, last)
        ∧ (List.Forall₂ Signature.Earned last.verify.resultSignatures
            (segmentsOf ([⟨.newsig, []⟩, ⟨.goodsig, str "A1 Alice"⟩, ⟨.trustFully, str "0"⟩]
              ++ [⟨.eof, []⟩]))
          ↔ ∀ segment ∈ segmentsOf ([⟨.newsig, []⟩, ⟨.goodsig, str "A1 Alice"⟩,
              ⟨.trustFully, str "0"⟩] ++ [⟨.eof, []⟩]), Segment.Backed segment) := by
  obtain ⟨answers, last, ran⟩
      : ∃ answers last,
          Machine.run (stepStatusOk verifyStatusHandler) {}
              ([⟨.newsig, []⟩, ⟨.goodsig, str "A1 Alice"⟩, ⟨.trustFully, str "0"⟩]
                ++ [⟨.eof, []⟩])
            = some (answers, last) :=
    ⟨_, _, rfl⟩
  exact ⟨answers, last, ran, verify_earned_iff_backed rfl ran⟩

/-- An announced signature for which only trust is reported, followed by an announcement
without a signature, is left in the result as a valid one.
-/
theorem verify_unearned_valid
    : ∃ answers last,
        Machine.run (stepStatusOk verifyStatusHandler) {}
            [⟨.newsig, []⟩, ⟨.trustFully, str "0"⟩, ⟨.newsig, []⟩, ⟨.eof, []⟩]
          = some (answers, last)
        ∧ ¬ List.Forall₂ Signature.Earned last.verify.resultSignatures
            (segmentsOf [⟨.newsig, []⟩, ⟨.trustFully, str "0"⟩, ⟨.newsig, []⟩, ⟨.eof, []⟩]) := by
  have segments : segmentsOf [⟨.newsig, []⟩, ⟨.trustFully, str "0"⟩, ⟨.newsig, []⟩, ⟨.eof, []⟩]
      = [[⟨.newsig, []⟩, ⟨.trustFully, str "0"⟩]] := rfl
  rw [segments]
  refine ⟨_, _, rfl, ?_⟩
  intro earned
  cases earned with
  | cons first _ =>
      obtain ⟨line, member, good⟩ := first.good rfl
      simp only [List.mem_cons, List.not_mem_nil, or_false] at member
      rcases member with rfl | rfl <;> cases good

end Gpgme
