import Gpgme.Operation.VerifySegments

/-! The signature list follows the segments of the status lines. -/

namespace Gpgme

open CString

-----------------------------------------------------------------------------------------
-- One line and one entry
-----------------------------------------------------------------------------------------

/-- What handling a line may change in the entry it is for. -/
structure Signature.Follows (line : StatusLine) (sig sig' : Signature) : Prop where
  next : sig'.next = sig.next
  summary : sig'.summary = sig.summary
  status : sig'.status = line.statusWritten.getD sig.status
  validity : sig'.validity = if line.isTrust then trustValidity line.code else sig.validity
  reason : sig'.validityReason = if line.isTrust then trustReason line.args else sig.validityReason
  keyUsage : sig'.wrongKeyUsage = (line.reportsWrongUsage || sig.wrongKeyUsage)

/-- The fields that the list and the verdict on a signature consist of. -/
def Signature.core (sig : Signature)
    : Option Nat × Sigsum × GpgError × Validity × GpgError × Bool :=
  (sig.next, sig.summary, sig.status, sig.validity, sig.validityReason, sig.wrongKeyUsage)

/-- The fields of these that a checked signature status leaves alone. -/
def Signature.frame (sig : Signature) : Option Nat × Sigsum × Validity × GpgError × Bool :=
  (sig.next, sig.summary, sig.validity, sig.validityReason, sig.wrongKeyUsage)

/-- The code of an ERRSIG line changes no more than the status. -/
theorem parseErrsigCode_frame (sig : Signature) (pos : Str)
    : (parseErrsigCode sig pos).2.1.frame = sig.frame := by
  unfold parseErrsigCode errsigFail
  dsimp only
  (repeat' split) <;> rfl

/-- The status that a return code leaves does not depend on the entry. -/
theorem parseErrsigCode_status (sig other : Signature) (pos : Str)
    : (parseErrsigCode sig pos).2.1.status = (parseErrsigCode other pos).2.1.status := by
  unfold parseErrsigCode errsigFail
  dsimp only
  (repeat' split) <;> rfl

/-- An ERRSIG line keeps what it does not name. -/
theorem parseErrsig_frame (sig : Signature) (fields : Option Str) (protocol : Protocol)
    : (parseErrsig sig fields protocol).2.1.frame = sig.frame := by
  unfold parseErrsig errsigFail
  dsimp only
  (repeat' split) <;> first | rfl | exact parseErrsigCode_frame _ _

/-- An accepted ERRSIG line writes a status that only depends on the line. -/
theorem parseErrsig_status {sig : Signature} {fields : Option Str} {protocol : Protocol}
    : (parseErrsig sig fields protocol).1 = 0
      → (parseErrsig sig fields protocol).2.1.status
        = (parseErrsig {} fields .openpgp).2.1.status := by
  have refused : invEngine ≠ 0 := by decide
  unfold parseErrsig errsigFail
  dsimp only
  (repeat' split) <;> intro accepted <;> first
    | rfl
    | exact parseErrsigCode_status _ _ _
    | exact absurd accepted refused

/-- The six lines that report on a checked signature. -/
theorem parseSigStatus_follows {sig sig' : Signature} {line : StatusLine} {args : Str}
    {protocol : Protocol} (reports : line.code.isSigStatus)
    (parsed : parseSigStatus sig line.code line.args protocol = (0, args, sig'))
    : Signature.Follows line sig sig' := by
  obtain ⟨code, text⟩ := line
  have named (sig : Signature) (cut : Str)
      : Signature.core (if cut = [] then sig else { sig with fpr := some cut }) = sig.core := by
    split <;> rfl
  have simple (status : GpgError)
      (written : StatusLine.statusWritten ⟨code, text⟩ = some status)
      (equal : Signature.core sig' = Signature.core { sig with status })
      : Signature.Follows ⟨code, text⟩ sig sig' := by
    simp only [Signature.core, Prod.mk.injEq] at equal
    have noTrust : StatusLine.isTrust ⟨code, text⟩ = false := by
      cases code <;> first | rfl | cases reports
    have noUsage : StatusLine.reportsWrongUsage ⟨code, text⟩ = false := by
      cases code <;> first | rfl | cases reports
    obtain ⟨next, summary, status, validity, reason, keyUsage⟩ := equal
    exact ⟨next, summary, by simpa [written] using status, by simpa [noTrust] using validity,
      by simpa [noTrust] using reason, by simpa [noUsage] using keyUsage⟩
  cases code <;> simp only [StatusCode.isSigStatus, Bool.false_eq_true] at reports
  case errsig =>
    simp only [parseSigStatus] at parsed
    split at parsed
    · next refused =>
        simp only [Prod.mk.injEq] at parsed
        exact absurd parsed.1 refused
    · next accepted =>
        simp only [ne_eq, not_not] at accepted
        simp only [Prod.mk.injEq, true_and] at parsed
        refine simple (errsigStatus text) rfl ?_
        have frame := parseErrsig_frame sig ((strchrBlank text).map List.tail) protocol
        have status := parseErrsig_status accepted
        rw [← parsed.2]
        simp only [Signature.frame, Prod.mk.injEq] at frame
        split
        · simp only [Signature.core, frame, status, errsigStatus]
        · rw [named]
          simp only [Signature.core, frame, status, errsigStatus]
  all_goals
    simp only [parseSigStatus, Prod.mk.injEq, true_and] at parsed
    exact simple _ rfl (by rw [← parsed.2, named])

/-- A VALIDSIG line keeps the verdict. -/
theorem parseValidSig_core {sig sig' : Signature} {text args : Str} {err : GpgError}
    {protocol : Protocol} (parsed : parseValidSig sig text protocol = some (err, args, sig'))
    : sig'.core = sig.core := by
  revert parsed
  unfold parseValidSig
  dsimp only
  (repeat' split) <;> intro parsed <;> cases parsed <;> rfl

/-- A notation keeps the verdict. -/
theorem parseNotation_core (sig : Signature) (code : StatusCode) (args : Str)
    : (parseNotation sig code args).2.2.core = sig.core := by
  unfold parseNotation
  dsimp only
  (repeat' split) <;> rfl

/-- A TOFU_USER line keeps the verdict. -/
theorem parseTofuUser_core (sig : Signature) (args : Str) (protocol : Protocol)
    : (parseTofuUser sig args protocol).2.2.core = sig.core := by
  unfold parseTofuUser
  dsimp only
  (repeat' split) <;> rfl

/-- A TOFU_STATS line keeps the verdict. -/
theorem parseTofuStats_core (sig : Signature) (args : Str)
    : (parseTofuStats sig args).2.2.core = sig.core := by
  unfold parseTofuStats
  (repeat' split) <;> rfl

/-- A long TOFU line keeps the verdict. -/
theorem parseTofuStatsLong_core (sig : Signature) (args : Str) (raw : Bool)
    : (parseTofuStatsLong sig args raw).2.2.core = sig.core := by
  unfold parseTofuStatsLong
  (repeat' split) <;> rfl

/-- An ERROR line writes the status of its entry or nothing that matters here. -/
theorem parseVerifyError_follows {sig : Signature} {text : Str}
    (accepted : (parseVerifyError (some sig) text).1 = 0)
    : Signature.Follows ⟨.error, text⟩ sig
        ((parseVerifyError (some sig) text).2.2.getD sig) := by
  have refused : gpgError ErrCode.badData ≠ 0 := by decide
  revert accepted
  unfold parseVerifyError
  cases fields : errorFields text with
  | none =>
      exact fun _ => ⟨rfl, rfl, by simp [StatusLine.statusWritten, fields], rfl, rfl,
        by simp [StatusLine.reportsWrongUsage, fields]⟩
  | some found =>
      obtain ⟨location, err⟩ := found
      have written : StatusLine.statusWritten ⟨.error, text⟩
          = if location = str "verify.findkey" then some err else none := by
        simp [StatusLine.statusWritten, fields]
      have usage : StatusLine.reportsWrongUsage ⟨.error, text⟩
          = (location == str "verify.keyusage" && gpgErrCode err == ErrCode.wrongKeyUsage) := by
        simp [StatusLine.reportsWrongUsage, fields]
      dsimp only
      split
      · exact fun accepted => absurd accepted refused
      · split
        · next found =>
            have different : str "verify.findkey" ≠ str "verify.keyusage" := by decide
            exact fun _ => ⟨rfl, rfl, by simp [written, found], rfl, rfl,
              by simp [usage, found, different]⟩
        · next other =>
            split
            · next wrong =>
                exact fun _ => ⟨rfl, rfl, by simp [written, other], rfl, rfl,
                  by simp [usage, wrong]⟩
            · next right =>
                have fine : (location == str "verify.keyusage"
                    && gpgErrCode err == ErrCode.wrongKeyUsage) = false := by
                  rw [Bool.and_eq_false_iff, beq_eq_false_iff_ne, beq_eq_false_iff_ne]
                  exact not_and_or.mp right
                exact fun _ => ⟨rfl, rfl, by simp [written, other], rfl, rfl,
                  by simp [usage, fine]⟩

-----------------------------------------------------------------------------------------
-- The list and the segments
-----------------------------------------------------------------------------------------

/-- An entry carries what the lines of its segment have written. -/
structure Signature.Carries (sig : Signature) (segment : Segment) : Prop where
  status : sig.status = finalStatus segment
  validity : sig.validity = finalValidity segment
  reason : sig.validityReason = finalReason segment
  keyUsage : sig.wrongKeyUsage = segment.any StatusLine.reportsWrongUsage

/-- The summary of an entry is up to date. -/
def Signature.Summarized (sig : Signature) : Prop :=
  sig.summary = (calcSigSummary sig).summary

/-- The list of an operation follows the segments of its lines: `addrs` and `sigs` are the
entries in front of the current one.
-/
structure VerifyData.Tracks (opd : VerifyData) (seg : Segmentation) (addrs : List Nat)
    (sigs : List Signature)
    : Prop where
  prepared : opd.didPrepareNewSig = seg.prepared
  onlyNewsig : opd.onlyNewsigSeen = seg.onlyNewsig
  chain
    : LinkedList.Chain (sigNext opd.heap) opd.signatures
        (addrs ++ if seg.listed then opd.currentSig.toList else [])
  nodup : (addrs ++ opd.currentSig.toList).Nodup
  unlisted : seg.listed = false → addrs ≠ []
  entries : addrs.map (fun addr => opd.heap[addr]?) = sigs.map some
  closed
    : List.Forall₂ (fun sig segment => Signature.Carries sig segment ∧ sig.Summarized) sigs
        seg.closed
  current
    : (opd.currentSig = none ∧ seg.current = none)
      ∨ ∃ addr sig segment,
          opd.currentSig = some addr
          ∧ seg.current = some segment
          ∧ opd.heap[addr]? = some sig
          ∧ sig.next = none
          ∧ sig.Carries segment
          ∧ (seg.prepared = true → sig.summary = {})

/-- An entry that follows a line carries the segment with it. -/
theorem Signature.Carries.snoc {line : StatusLine} {sig sig' : Signature} {segment : Segment}
    (carries : sig.Carries segment) (follows : Signature.Follows line sig sig')
    : sig'.Carries (segment ++ [line]) where
  status := by rw [follows.status, finalStatus_snoc, carries.status]
  validity := by rw [follows.validity, finalValidity_snoc, carries.validity]
  reason := by rw [follows.reason, finalReason_snoc, carries.reason]
  keyUsage := by
    rw [follows.keyUsage, carries.keyUsage, Bool.or_comm, List.any_append, List.any_cons,
      List.any_nil, Bool.or_false]

section Tracks

variable {opd : VerifyData} {seg : Segmentation} {addrs : List Nat} {sigs : List Signature}

/-- A change of one entry keeps the links of the others. -/
theorem sigNext_set_of_ne {heap : List Signature} {addr other : Nat} {sig : Signature}
    (different : other ≠ addr)
    : sigNext (heap.set addr sig) other = sigNext heap other := by
  simp [sigNext, List.getElem?_set_ne different.symm]

/-- The list does not change when an entry keeps its successor. -/
theorem sigNext_set_of_next {heap : List Signature} {addr : Nat} {sig sig' : Signature}
    (found : heap[addr]? = some sig) (same : sig'.next = sig.next)
    : sigNext (heap.set addr sig') = sigNext heap := by
  funext other
  by_cases equal : other = addr
  · subst equal
    have inside : other < heap.length := (List.getElem?_eq_some_iff.mp found).1
    simp [sigNext, inside, same, (List.getElem?_eq_some_iff.mp found).2]
  · exact sigNext_set_of_ne equal

/-- A line for the current entry: its segment gets the line, the rest stays. -/
theorem VerifyData.Tracks.updateCurrent (tracks : opd.Tracks seg addrs sigs) {addr : Nat}
    {sig sig' : Signature} {line : StatusLine} {opd' : VerifyData} {seg' : Segmentation}
    (isCurrent : opd.currentSig = some addr) (found : opd.heap[addr]? = some sig)
    (follows : Signature.Follows line sig sig')
    (heap : opd'.heap = opd.heap.set addr sig') (signatures : opd'.signatures = opd.signatures)
    (currentSig : opd'.currentSig = opd.currentSig)
    (closed : seg'.closed = seg.closed) (listed : seg'.listed = seg.listed)
    (current : seg'.current = seg.current.map (· ++ [line]))
    (prepared : opd'.didPrepareNewSig = seg'.prepared)
    (onlyNewsig : opd'.onlyNewsigSeen = seg'.onlyNewsig)
    (stillPrepared : seg'.prepared = true → seg.prepared = true)
    : opd'.Tracks seg' addrs sigs where
  prepared := prepared
  onlyNewsig := onlyNewsig
  chain := by
    rw [heap, sigNext_set_of_next found follows.next, signatures, currentSig, listed]
    exact tracks.chain
  nodup := currentSig ▸ tracks.nodup
  unlisted := listed ▸ tracks.unlisted
  entries := by
    rw [← tracks.entries, heap]
    refine List.map_congr_left fun other member => ?_
    have different : addr ≠ other := by
      rintro rfl
      have apart := List.disjoint_of_nodup_append tracks.nodup member
      simp [isCurrent] at apart
    rw [List.getElem?_set_ne different]
  closed := closed ▸ tracks.closed
  current := by
    rcases tracks.current with ⟨absent, _⟩ | ⟨held, old, segment, isHeld, known, at', ends, carries, fresh⟩
    · simp [isCurrent] at absent
    · rw [isCurrent] at isHeld
      cases isHeld
      rw [found] at at'
      cases at'
      have inside : addr < opd.heap.length := (List.getElem?_eq_some_iff.mp found).1
      refine Or.inr ⟨addr, sig', segment ++ [line], by rw [currentSig, isCurrent],
        by rw [current, known, Option.map_some], ?_, by rw [follows.next, ends],
        carries.snoc follows, ?_⟩
      · simp [heap, inside]
      · intro still
        rw [follows.summary, fresh (stillPrepared still)]

/-- The entries in front of the current one do not move when only others change. -/
theorem VerifyData.Tracks.entries_of_ne (tracks : opd.Tracks seg addrs sigs)
    {heap : List Signature}
    (same : ∀ addr ∈ addrs, heap[addr]? = opd.heap[addr]?)
    : addrs.map (fun addr => heap[addr]?) = sigs.map some := by
  rw [← tracks.entries]
  exact List.map_congr_left same

/-- The current entry is not in the list yet. -/
theorem VerifyData.Tracks.current_notMem (tracks : opd.Tracks seg addrs sigs) {addr : Nat}
    (isCurrent : opd.currentSig = some addr)
    : addr ∉ addrs := by
  intro member
  have apart := List.disjoint_of_nodup_append tracks.nodup member
  simp [isCurrent] at apart

/-- Every entry in front of the current one is allocated. -/
theorem VerifyData.Tracks.allocated (tracks : opd.Tracks seg addrs sigs) {addr : Nat}
    (member : addr ∈ addrs)
    : addr < opd.heap.length := by
  have image : opd.heap[addr]? ∈ sigs.map some := by
    rw [← tracks.entries]
    exact List.mem_map_of_mem member
  obtain ⟨sig, _, found⟩ := List.mem_map.mp image
  exact (List.getElem?_eq_some_iff.mp found.symm).1

/-- A found entry is changed where it is. -/
theorem modify_eq_set {heap : List Signature} {addr : Nat} {sig : Signature}
    (found : heap[addr]? = some sig) (change : Signature → Signature)
    : heap.modify addr change = heap.set addr (change sig) := by
  rw [List.modify_eq_set_getElem?, found]
  rfl

/-- Computing the summary of the current entry brings that up to date and changes nothing
else; the entry then no longer counts as prepared.
-/
theorem VerifyData.Tracks.summarize (tracks : opd.Tracks seg addrs sigs)
    : ({ opd.summarize with didPrepareNewSig := false } : VerifyData).Tracks
        { seg with prepared := false } addrs sigs
      ∧ ∀ addr sig,
          opd.summarize.currentSig = some addr
          → opd.summarize.heap[addr]? = some sig
          → sig.Summarized := by
  rcases tracks.current with ⟨absent, known⟩ | ⟨addr, sig, segment, isCurrent, known, found, ends, carries, _⟩
  · have same : opd.summarize = opd := by simp [VerifyData.summarize, absent]
    rw [same]
    refine ⟨?_, fun addr sig isCurrent => by simp [absent] at isCurrent⟩
    exact { tracks with prepared := rfl, current := Or.inl ⟨absent, known⟩ }
  · have inside : addr < opd.heap.length := (List.getElem?_eq_some_iff.mp found).1
    have changed : opd.summarize = { opd with heap := opd.heap.set addr (calcSigSummary sig) } := by
      simp [VerifyData.summarize, isCurrent, modify_eq_set found]
    have next := sigNext_set_of_next found (show (calcSigSummary sig).next = sig.next from rfl)
    rw [changed]
    constructor
    · refine { tracks with prepared := rfl, chain := ?_, entries := ?_, current := ?_ }
      · simpa only [next] using tracks.chain
      · refine tracks.entries_of_ne fun other member => ?_
        have different : addr ≠ other := by
          rintro rfl
          exact tracks.current_notMem isCurrent member
        exact List.getElem?_set_ne different
      · exact Or.inr ⟨addr, calcSigSummary sig, segment, isCurrent, known, by simp [inside], ends,
          { carries with }, by simp⟩
    · intro other held isHeld at'
      rw [isCurrent] at isHeld
      cases isHeld
      simp only [List.getElem?_set_self inside, Option.some.injEq] at at'
      subst at'
      rfl

/-- A new entry carries the empty segment. -/
theorem Signature.carries_nil : Signature.Carries {} [] := ⟨rfl, rfl, rfl, rfl⟩

/-- The list is empty exactly when no segment is closed. -/
theorem VerifyData.Tracks.isEmpty_closed (tracks : opd.Tracks seg addrs sigs)
    : seg.closed.isEmpty = addrs.isEmpty := by
  have fromEntries : addrs.length = sigs.length := by
    simpa using congrArg List.length tracks.entries
  rw [Bool.eq_iff_iff, List.isEmpty_iff_length_eq_zero, List.isEmpty_iff_length_eq_zero,
    fromEntries, tracks.closed.length_eq]

/-- An entry that is allocated last is none of the earlier ones. -/
theorem nodup_fresh {held : List Nat} {fresh : Nat} (earlier : ∀ addr ∈ held, addr < fresh)
    (nodup : held.Nodup)
    : (held ++ (some fresh).toList).Nodup := by
  rw [Option.toList_some, List.nodup_append]
  refine ⟨nodup, List.nodup_singleton _, ?_⟩
  intro addr member other equal
  rw [List.mem_singleton.mp equal]
  exact (earlier addr member).ne

/-- Opening an entry while there is none: it is the first of the list, or it stays outside
of it.
-/
theorem VerifyData.Tracks.openFirst (tracks : opd.Tracks seg addrs sigs)
    (absent : opd.currentSig = none)
    : ({ opd with
          heap := opd.heap ++ [{}]
          signatures := some (opd.signatures.getD opd.heap.length)
          currentSig := some opd.heap.length
          didPrepareNewSig := true
          onlyNewsigSeen := false } : VerifyData).Tracks
        { seg with
          current := some []
          listed := seg.closed.isEmpty
          prepared := true
          onlyNewsig := false } addrs sigs := by
  have older (addr : Nat) (member : addr ∈ addrs)
      : (opd.heap ++ [({} : Signature)])[addr]? = opd.heap[addr]? :=
    List.getElem?_append_left (tracks.allocated member)
  have chain := tracks.chain
  have nodup := tracks.nodup
  simp only [absent, Option.toList_none, ite_self, List.append_nil] at chain nodup
  refine { prepared := rfl, onlyNewsig := rfl, chain := ?_,
           nodup := nodup_fresh (fun addr member => tracks.allocated member) nodup,
           unlisted := ?_, entries := tracks.entries_of_ne older,
           closed := tracks.closed, current := ?_ }
  · rw [tracks.isEmpty_closed]
    cases addrs with
    | nil =>
        have start : opd.signatures = none := chain
        simp only [List.isEmpty_nil, if_true, start]
        exact ⟨rfl, none, by simp [sigNext], rfl⟩
    | cons addr rest =>
        have start : opd.signatures = some addr := chain.1
        simp only [List.isEmpty_cons, Bool.false_eq_true, if_false, List.append_nil, start,
          Option.getD_some]
        rw [start] at chain
        exact chain.congr fun other member => by simp only [sigNext, older other member]
  · rw [tracks.isEmpty_closed]
    rintro notEmpty rfl
    simp at notEmpty
  · exact Or.inr ⟨opd.heap.length, {}, [], rfl, rfl, by simp, rfl, Signature.carries_nil,
      fun _ => rfl⟩

/-- Opening an entry behind the current one, which is closed by that. -/
theorem VerifyData.Tracks.openNext (tracks : opd.Tracks seg addrs sigs) {last : Nat}
    {sig : Signature} {heap : List Signature} (isCurrent : opd.currentSig = some last)
    (found : opd.heap[last]? = some sig) (summarized : sig.Summarized)
    (older : ∀ addr, addr < opd.heap.length → addr ≠ last → heap[addr]? = opd.heap[addr]?)
    (linked : heap[last]? = some { sig with next := some opd.heap.length })
    (fresh : heap[opd.heap.length]? = some {})
    : ∃ addrs' sigs',
        ({ opd with
            heap
            signatures := some (opd.signatures.getD opd.heap.length)
            currentSig := some opd.heap.length
            didPrepareNewSig := true
            onlyNewsigSeen := false } : VerifyData).Tracks
          { seg with
            closed := seg.segments
            current := some []
            prepared := true
            onlyNewsig := false } addrs' sigs' := by
  have inside : last < opd.heap.length := (List.getElem?_eq_some_iff.mp found).1
  have apart := tracks.current_notMem isCurrent
  have front (addr : Nat) (member : addr ∈ addrs) : heap[addr]? = opd.heap[addr]? :=
    older addr (tracks.allocated member) fun equal => apart (equal ▸ member)
  have chain := tracks.chain
  have nodup := tracks.nodup
  simp only [isCurrent, Option.toList_some] at chain nodup
  obtain ⟨segment, known, carries⟩
      : ∃ segment, seg.current = some segment ∧ sig.Carries segment := by
    rcases tracks.current with ⟨absent, _⟩ | ⟨held, sig', segment, isHeld, known, at', _, carries, _⟩
    · simp [isCurrent] at absent
    · cases isCurrent.symm.trans isHeld
      cases found.symm.trans at'
      exact ⟨segment, known, carries⟩
  -- A list that is not empty keeps its first entry.
  have start {held : List Nat} (chain : LinkedList.Chain (sigNext opd.heap) opd.signatures held)
      (some' : held ≠ [])
      : some (opd.signatures.getD opd.heap.length) = opd.signatures := by
    rw [chain.start_eq, List.head?_eq_some_head some']
    rfl
  cases listed : seg.listed with
  | true =>
      simp only [listed, if_true] at chain
      refine ⟨addrs ++ [last], sigs ++ [{ sig with next := some opd.heap.length }],
        { prepared := rfl, onlyNewsig := rfl, chain := ?_, nodup := ?_, unlisted := by simp,
          entries := ?_, closed := ?_,
          current := Or.inr ⟨opd.heap.length, {}, [], rfl, rfl, fresh, rfl,
            Signature.carries_nil, fun _ => rfl⟩ }⟩
      · simp only [if_true, Option.toList_some]
        rw [start chain (by simp)]
        exact chain.snoc (fun addr member => by simp only [sigNext, front addr member])
          (by simp [sigNext, linked]) (by simp [sigNext, fresh])
      · refine nodup_fresh ?_ nodup
        intro addr member
        rcases List.mem_append.mp member with member | member
        · exact tracks.allocated member
        · rw [List.mem_singleton.mp member]
          exact inside
      · rw [List.map_append, List.map_append, tracks.entries_of_ne front]
        simp [linked]
      · simp only [Segmentation.segments, listed, if_true, known, Option.toList_some]
        exact List.rel_append tracks.closed
          (.cons ⟨{ carries with }, summarized⟩ .nil)
  | false =>
      simp only [listed, Bool.false_eq_true, if_false, List.append_nil] at chain
      refine ⟨addrs, sigs,
        { prepared := rfl, onlyNewsig := rfl, chain := ?_, nodup := ?_,
          unlisted := fun _ => tracks.unlisted listed, entries := tracks.entries_of_ne front,
          closed := ?_,
          current := Or.inr ⟨opd.heap.length, {}, [], rfl, rfl, fresh, rfl,
            Signature.carries_nil, fun _ => rfl⟩ }⟩
      · simp only [Bool.false_eq_true, if_false, List.append_nil]
        rw [start chain (tracks.unlisted listed)]
        exact chain.congr fun addr member => by simp only [sigNext, front addr member]
      · exact nodup_fresh (fun addr member => tracks.allocated member)
          (List.Nodup.of_append_left nodup)
      · simpa [Segmentation.segments, listed] using tracks.closed

/-- Starting the only entry again. -/
theorem VerifyData.Tracks.reopen (tracks : opd.Tracks seg addrs sigs) {addr : Nat}
    (isCurrent : opd.currentSig = some addr)
    : ({ opd with
          heap := opd.heap.set addr {}
          didPrepareNewSig := true
          onlyNewsigSeen := false } : VerifyData).Tracks
        { seg with current := some [], prepared := true, onlyNewsig := false } addrs sigs := by
  obtain ⟨sig, found⟩ : ∃ sig, opd.heap[addr]? = some sig ∧ sig.next = none := by
    rcases tracks.current with ⟨absent, _⟩ | ⟨held, sig, segment, isHeld, _, found, ends, _⟩
    · simp [isCurrent] at absent
    · cases isCurrent.symm.trans isHeld
      exact ⟨sig, found, ends⟩
  have inside : addr < opd.heap.length := (List.getElem?_eq_some_iff.mp found.1).1
  have next := sigNext_set_of_next found.1 (show ({} : Signature).next = sig.next from found.2.symm)
  refine { tracks with prepared := rfl, onlyNewsig := rfl, chain := ?_, entries := ?_, current := ?_ }
  · simpa only [next] using tracks.chain
  · refine tracks.entries_of_ne fun other member => List.getElem?_set_ne ?_
    rintro rfl
    exact tracks.current_notMem isCurrent member
  · exact Or.inr ⟨addr, {}, [], isCurrent, rfl, by simp [inside], rfl, Signature.carries_nil,
      fun _ => rfl⟩

/-- `prepare_new_sig` opens an entry; by cases on whether there is a current entry and
whether that is started again.
-/
theorem prepareNewSig_tracks (tracks : opd.Tracks seg addrs sigs)
    (summarized
      : ∀ addr sig,
          opd.currentSig = some addr → opd.heap[addr]? = some sig → sig.Summarized)
    {opd' : VerifyData} (prepared : prepareNewSig opd = some opd')
    : ∃ addrs' sigs',
        opd'.Tracks { seg.openEntry with prepared := true, onlyNewsig := false } addrs' sigs' := by
  rcases tracks.current with ⟨absent, known⟩ | ⟨last, sig, segment, isCurrent, known, found, _⟩
  · have opened : seg.openEntry = { seg with current := some [], listed := seg.closed.isEmpty } := by
      simp [Segmentation.openEntry, known]
    have made : prepareNewSig opd = some { opd with
        heap := opd.heap ++ [{}]
        signatures := some (opd.signatures.getD opd.heap.length)
        currentSig := some opd.heap.length
        didPrepareNewSig := true
        onlyNewsigSeen := false } := by
      cases seen : opd.onlyNewsigSeen <;> simp [prepareNewSig, absent, seen]
    cases made.symm.trans prepared
    rw [opened]
    exact ⟨addrs, sigs, tracks.openFirst absent⟩
  · cases only : seg.onlyNewsig with
    | true =>
        have opened : seg.openEntry = { seg with current := some [] } := by
          simp [Segmentation.openEntry, known, only]
        simp only [prepareNewSig, tracks.onlyNewsig, only, isCurrent] at prepared
        split at prepared
        · rw [Option.some.injEq] at prepared
          rw [← prepared, opened]
          have again := tracks.reopen isCurrent
          rw [isCurrent] at again
          exact ⟨addrs, sigs, again⟩
        · cases prepared
    | false =>
        have opened : seg.openEntry = { seg with closed := seg.segments, current := some [] } := by
          simp [Segmentation.openEntry, known, only]
        simp only [prepareNewSig, tracks.onlyNewsig, only, isCurrent, modify_eq_set found,
          Option.some.injEq] at prepared
        have inside : last < opd.heap.length := (List.getElem?_eq_some_iff.mp found).1
        rw [← prepared, opened]
        refine tracks.openNext isCurrent found (summarized last sig isCurrent found) ?_ ?_ ?_
        · intro addr older different
          rw [List.getElem?_append_left (by simpa using older),
            List.getElem?_set_ne different.symm]
        · rw [List.getElem?_append_left (by simpa using inside)]
          simp [inside]
        · simp

/-- Cutting the list in front of its last entry finds the entry before that. -/
theorem unlinkFrom_eq {target last : Nat} {heap : List Signature} {sig : Signature}
    {front : List Nat} {start : Option Nat} {steps : Nat}
    (chain : LinkedList.Chain (sigNext heap) start (front ++ [last, target]))
    (apart : target ∉ front) (different : last ≠ target) (enough : front.length + 1 ≤ steps)
    (found : heap[last]? = some sig)
    : unlinkFrom target steps heap start = some (heap.set last { sig with next := none }) := by
  induction front generalizing start steps with
  | nil =>
      obtain ⟨rfl, next, links, rfl, _⟩ := chain
      simp only [sigNext, found, Option.map_some, Option.some.injEq] at links
      cases steps with
      | zero => simp at enough
      | succ steps => simp [unlinkFrom, found, links]
  | cons addr front ih =>
      obtain ⟨rfl, next, links, tail⟩ := chain
      obtain ⟨sig', found', rfl⟩ := Option.map_eq_some_iff.mp links
      simp only [List.mem_cons, not_or] at apart
      have continues : sig'.next ≠ some target := by
        rw [tail.start_eq]
        cases front with
        | nil => simpa using different
        | cons addr' front => simpa using fun equal => apart.2 (by simp [equal])
      simp only [List.length_cons] at enough
      cases steps with
      | zero => omega
      | succ steps =>
          simp only [unlinkFrom, found', if_neg continues]
          exact ih tail apart.2 (by omega)

/-- A list without the target is not cut. -/
theorem unlinkFrom_absent {target : Nat} {heap : List Signature} {held : List Nat}
    {start : Option Nat} {steps : Nat} (chain : LinkedList.Chain (sigNext heap) start held)
    (apart : target ∉ held) (enough : held.length ≤ steps)
    : unlinkFrom target steps heap start = some heap := by
  induction held generalizing start steps with
  | nil =>
      cases chain
      cases steps <;> rfl
  | cons addr rest ih =>
      obtain ⟨rfl, next, links, tail⟩ := chain
      obtain ⟨sig, found, rfl⟩ := Option.map_eq_some_iff.mp links
      simp only [List.mem_cons, not_or] at apart
      have continues : sig.next ≠ some target := by
        rw [tail.start_eq]
        cases rest with
        | nil => simp
        | cons addr' rest => simpa using fun equal => apart.2 (by simp [equal])
      cases steps with
      | zero => simp at enough
      | succ steps =>
          simp only [unlinkFrom, found, if_neg continues]
          exact ih tail apart.2 (by simpa using enough)

/-- The list has at most as many entries as were allocated. -/
theorem length_le_of_nodup {held : List Nat} {bound : Nat} (nodup : held.Nodup)
    (inside : ∀ addr ∈ held, addr < bound)
    : held.length ≤ bound := by
  have sub : held ⊆ List.range bound := fun addr member => List.mem_range.mpr (inside addr member)
  simpa using (List.subperm_of_subset nodup sub).length_le

/-- Related lists stay related when the last element is replaced by one that is related to
whatever the old one was.
-/
theorem replaceLast {α β : Type} {related : α → β → Prop} {front : List α} {old new : α}
    {others : List β} (all : List.Forall₂ related (front ++ [old]) others)
    (better : ∀ other, related old other → related new other)
    : List.Forall₂ related (front ++ [new]) others := by
  induction front generalizing others with
  | nil =>
      cases all with
      | cons held rest => exact .cons (better _ held) rest
  | cons head tail ih =>
      cases all with
      | cons held rest => exact .cons held (ih rest)

/-- Taking back an entry of which only the start is known, at the end of the list or
outside of it.
-/
theorem removeLastSig_tracks (tracks : opd.Tracks seg addrs sigs) {addr : Nat}
    (isCurrent : opd.currentSig = some addr)
    : ∃ opd' sigs',
        removeLastSig opd addr = some opd'
        ∧ opd'.Tracks { seg with current := none } addrs sigs'
        ∧ opd'.failureCode = opd.failureCode := by
  obtain ⟨sig, found, ends⟩ : ∃ sig, opd.heap[addr]? = some sig ∧ sig.next = none := by
    rcases tracks.current with ⟨absent, _⟩ | ⟨held, sig, segment, isHeld, _, found, ends, _⟩
    · simp [isCurrent] at absent
    · cases isCurrent.symm.trans isHeld
      exact ⟨sig, found, ends⟩
  have inside : addr < opd.heap.length := (List.getElem?_eq_some_iff.mp found).1
  have apart := tracks.current_notMem isCurrent
  have chain := tracks.chain
  have nodup := tracks.nodup
  simp only [isCurrent, Option.toList_some] at chain nodup
  have enough : (addrs ++ [addr]).length ≤ opd.heap.length := by
    refine length_le_of_nodup nodup fun other member => ?_
    rcases List.mem_append.mp member with member | member
    · exact tracks.allocated member
    · rw [List.mem_singleton.mp member]
      exact inside
  simp only [List.length_append, List.length_singleton] at enough
  have front : addrs.Nodup := List.Nodup.of_append_left nodup
  cases listed : seg.listed with
  | false =>
      -- The walk does not meet the entry.
      simp only [listed, Bool.false_eq_true, if_false, List.append_nil] at chain
      have other : opd.signatures ≠ some addr := by
        rw [chain.start_eq]
        intro first
        exact apart (List.mem_of_mem_head? first)
      have unlinked : unlinkFrom addr opd.heap.length opd.heap opd.signatures = some opd.heap :=
        unlinkFrom_absent chain apart (by omega)
      refine ⟨{ opd with currentSig := none }, sigs, ?_, ?_, rfl⟩
      · simp [removeLastSig, found, ends, other, unlinked]
      · exact { tracks with
          chain := by simpa using chain
          nodup := by simpa using front
          unlisted := fun _ => tracks.unlisted listed
          current := Or.inl ⟨rfl, rfl⟩ }
  | true =>
      simp only [listed, if_true] at chain
      rcases List.eq_nil_or_concat' addrs with rfl | ⟨rest, last, rfl⟩
      · have first : opd.signatures = some addr := chain.1
        refine ⟨{ opd with signatures := none, currentSig := none }, sigs, ?_, ?_, rfl⟩
        · simp [removeLastSig, found, ends, first]
        · exact { tracks with
            chain := by simp [LinkedList.Chain]
            nodup := by simp
            unlisted := by simp
            current := Or.inl ⟨rfl, rfl⟩ }
      · have entries := tracks.entries
        rw [List.map_append, List.map_singleton] at entries
        obtain ⟨before, lastSig, rfl, earlier, held⟩
            : ∃ before lastSig,
                sigs = before ++ [lastSig]
                ∧ rest.map (fun addr => opd.heap[addr]?) = before.map some
                ∧ opd.heap[last]? = some lastSig := by
          rcases List.eq_nil_or_concat' sigs with rfl | ⟨before, lastSig, rfl⟩
          · simp at entries
          · rw [List.map_append, List.map_singleton] at entries
            obtain ⟨earlier, held⟩ := List.append_inj' entries rfl
            exact ⟨before, lastSig, rfl, earlier, by simpa using held⟩
        have different : last ≠ addr := fun equal => apart (by simp [equal])
        have lastInside : last < opd.heap.length := (List.getElem?_eq_some_iff.mp held).1
        have lastApart : last ∉ rest := fun member =>
          (List.nodup_append.mp front).2.2 last member last (by simp) rfl
        have other : opd.signatures ≠ some addr := by
          rw [chain.start_eq]
          intro first
          rw [List.append_assoc] at first
          cases rest with
          | nil => exact different (by simpa using first)
          | cons head tail => exact apart (by simp_all)
        have unlinked : unlinkFrom addr opd.heap.length opd.heap opd.signatures
            = some (opd.heap.set last { lastSig with next := none }) := by
          rw [List.append_assoc] at chain
          simp only [List.length_append, List.length_singleton] at enough
          refine unlinkFrom_eq chain (fun member => apart (by simp [member])) different ?_ held
          omega
        refine ⟨{ opd with
            heap := opd.heap.set last { lastSig with next := none }, currentSig := none },
          before ++ [{ lastSig with next := none }], ?_, ?_, rfl⟩
        · simp [removeLastSig, found, ends, other, unlinked]
        · have untouched (addr : Nat) (member : addr ∈ rest)
              : (opd.heap.set last { lastSig with next := none })[addr]? = opd.heap[addr]? := by
            refine List.getElem?_set_ne ?_
            rintro rfl
            exact lastApart member
          refine { tracks with chain := ?_, nodup := by simpa using front, unlisted := by simp,
                               entries := ?_, closed := ?_, current := Or.inl ⟨rfl, rfl⟩ }
          · simp only [if_true, Option.toList_none, List.append_nil]
            rw [List.append_assoc] at chain
            exact chain.cut (fun addr member => by simp only [sigNext, untouched addr member])
              (by simp [sigNext, lastInside])
          · rw [List.map_append, List.map_append, List.map_congr_left untouched, earlier]
            simp [lastInside]
          · exact replaceLast tracks.closed fun segment held =>
              ⟨{ held.1 with }, held.2⟩

end Tracks

end Gpgme
