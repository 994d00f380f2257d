import Gpgme.Operation.Verify
import Gpgme.Operation.StatusLines

/-! The segments of a sequence of verification status lines.
A segment collects the lines from the one that opens a list entry to the next one that
opens another entry. Which lines open entries is decided by the status codes alone.
-/

namespace Gpgme

open CString

abbrev Segment := List StatusLine

-----------------------------------------------------------------------------------------
-- Cutting a sequence into segments
-----------------------------------------------------------------------------------------

/-- The lines that report on a signature which has been checked. -/
def StatusCode.isSigStatus : StatusCode → Bool
  | .goodsig | .expsig | .expkeysig | .badsig | .errsig | .revkeysig => true
  | _ => false

/-- The lines after which a prepared entry may not be taken back. -/
def StatusCode.isSigDetail : StatusCode → Bool
  | .validsig | .nodata | .unexpected | .notationName | .notationFlags | .notationData
  | .policyUrl | .trustUndefined | .trustNever | .trustMarginal | .trustFully
  | .trustUltimate | .pkaTrustBad | .pkaTrustGood | .tofuUser | .tofuStats
  | .tofuStatsLong | .error => true
  | _ => false

/-- The segments so far: those of the entries in front of the current one, and the one of
the current entry. An entry that is opened after the removal of a last entry behind others
does not get into the list.
-/
structure Segmentation where
  closed : List Segment := []
  current : Option Segment := none
  listed : Bool := true
  prepared : Bool := false
  onlyNewsig : Bool := false

/-- The segments of the entries that are in the list. -/
def Segmentation.segments (seg : Segmentation) : List Segment :=
  seg.closed ++ if seg.listed then seg.current.toList else []

/-- Open an entry. An entry of which only the start is known is started again. -/
def Segmentation.openEntry (seg : Segmentation) : Segmentation :=
  match seg.onlyNewsig, seg.current with
  | true, some _ => { seg with current := some [] }
  | _, none => { seg with current := some [], listed := seg.closed.isEmpty }
  | _, some _ => { seg with closed := seg.segments, current := some [] }

/-- A line for the current entry. -/
def Segmentation.addLine (seg : Segmentation) (line : StatusLine) : Segmentation :=
  { seg with current := seg.current.map (· ++ [line]) }

/-- The effect of one status line on the segments. -/
def Segmentation.note (seg : Segmentation) (line : StatusLine) : Segmentation :=
  if line.code = .newsig then
    { seg.openEntry.addLine line with prepared := true, onlyNewsig := true }
  else if line.code.isSigStatus then
    let seg := { seg with onlyNewsig := false }
    { (if seg.prepared then seg else seg.openEntry).addLine line with prepared := false }
  else if line.code = .eof then
    { (if seg.onlyNewsig then { seg with current := none } else seg.addLine line) with
      onlyNewsig := false }
  else if line.code.isSigDetail then
    { seg.addLine line with onlyNewsig := false }
  else
    seg.addLine line

/-- The segments of the entries that a sequence of lines leaves in the list. -/
def segmentsOf (lines : List StatusLine) : List Segment :=
  (lines.foldl Segmentation.note {}).segments

-----------------------------------------------------------------------------------------
-- What a segment says about its entry
-----------------------------------------------------------------------------------------

/-- The status that an ERRSIG line gives to its entry. -/
def errsigStatus (args : Str) : GpgError :=
  (parseErrsig {} ((strchrBlank args).map List.tail) .openpgp).2.1.status

/-- The status that a line writes into its entry, if it writes one. -/
def StatusLine.statusWritten (line : StatusLine) : Option GpgError :=
  match line.code with
  | .goodsig => some (gpgError ErrCode.noError)
  | .expsig => some (gpgError ErrCode.sigExpired)
  | .expkeysig => some (gpgError ErrCode.keyExpired)
  | .badsig => some (gpgError ErrCode.badSignature)
  | .revkeysig => some (gpgError ErrCode.certRevoked)
  | .errsig => some (errsigStatus line.args)
  | .nodata | .unexpected => some (gpgError ErrCode.noData)
  | .error =>
      match errorFields line.args with
      | none => none
      | some (location, err) => if location = str "verify.findkey" then some err else none
  | _ => none

/-- The lines that report on the trust in a signature. -/
def StatusLine.isTrust (line : StatusLine) : Bool :=
  match line.code with
  | .trustUndefined | .trustNever | .trustMarginal | .trustFully | .trustUltimate => true
  | _ => false

/-- A segment got one of the lines that report on a checked signature. -/
def Segment.HasSigStatus (segment : Segment) : Prop := ∃ line ∈ segment, line.code.isSigStatus

/-- The reason that a trust line gives for the validity. -/
def trustReason (args : Str) : GpgError :=
  if word args = [] then 0 else errOfInt (atoi (word args))

/-- The line reports that the key must not be used for signatures. -/
def StatusLine.reportsWrongUsage (line : StatusLine) : Bool :=
  match line.code with
  | .error =>
      match errorFields line.args with
      | none => false
      | some (location, err) =>
          location == str "verify.keyusage" && gpgErrCode err == ErrCode.wrongKeyUsage
  | _ => false

/-- The status that the lines of a segment leave: the last one written, success if none. -/
def finalStatus (segment : Segment) : GpgError :=
  (segment.filterMap StatusLine.statusWritten).getLast?.getD 0

/-- The last line of a segment that writes the status. -/
def lastWriter (segment : Segment) : Option StatusLine :=
  (segment.filter fun line => line.statusWritten.isSome).getLast?

/-- The last trust line of a segment. -/
def lastTrust (segment : Segment) : Option StatusLine :=
  (segment.filter StatusLine.isTrust).getLast?

/-- The validity that the lines of a segment leave. -/
def finalValidity (segment : Segment) : Validity :=
  ((lastTrust segment).map (fun line => trustValidity line.code)).getD .unknown

/-- The reason that the lines of a segment leave. -/
def finalReason (segment : Segment) : GpgError :=
  ((lastTrust segment).map fun line => trustReason line.args).getD 0

/-- The fields that the lines of a segment leave for the summary, and the summary of them. -/
def Segment.verdict (segment : Segment) : Signature :=
  calcSigSummary {
    status := finalStatus segment
    validity := finalValidity segment
    validityReason := finalReason segment
    wrongKeyUsage := segment.any StatusLine.reportsWrongUsage }

theorem Segment.hasSigStatus_snoc {segment : Segment} {line : StatusLine}
    (other : line.code.isSigStatus = false)
    : Segment.HasSigStatus (segment ++ [line]) ↔ Segment.HasSigStatus segment := by
  simp [Segment.HasSigStatus, other]

/-- A prepared entry has no line on a checked signature in its segment. -/
def Segmentation.Awaits (seg : Segmentation) : Prop :=
  ∀ segment, seg.current = some segment → seg.prepared = true → ¬ segment.HasSigStatus

theorem Segmentation.Awaits.addLine {seg : Segmentation} {line : StatusLine} (awaits : seg.Awaits)
    (other : line.code.isSigStatus = false)
    : (seg.addLine line).Awaits := by
  intro segment known prepared
  obtain ⟨before, current, rfl⟩ := Option.map_eq_some_iff.mp known
  rw [Segment.hasSigStatus_snoc other]
  exact awaits before current prepared

theorem Segmentation.openEntry_current (seg : Segmentation) : seg.openEntry.current = some [] := by
  unfold Segmentation.openEntry
  split <;> rfl

theorem Segmentation.Awaits.note {seg : Segmentation} (awaits : seg.Awaits) (line : StatusLine)
    : (seg.note line).Awaits := by
  unfold Segmentation.note
  split_ifs with newsig status eof only detail
  · intro segment known _
    obtain ⟨before, current, rfl⟩ := Option.map_eq_some_iff.mp known
    cases seg.openEntry_current.symm.trans current
    simp [Segment.HasSigStatus, newsig, StatusCode.isSigStatus]
  · intro segment _ prepared
    cases prepared
  · intro segment known
    cases known
  · exact awaits.addLine (Bool.eq_false_of_not_eq_true status)
  · exact awaits.addLine (Bool.eq_false_of_not_eq_true status)
  · exact awaits.addLine (Bool.eq_false_of_not_eq_true status)

theorem Segmentation.Awaits.run {seg : Segmentation} (awaits : seg.Awaits)
    (lines : List StatusLine)
    : (lines.foldl Segmentation.note seg).Awaits := by
  induction lines generalizing seg with
  | nil => exact awaits
  | cons line rest ih => exact ih (awaits.note line)

@[simp]
theorem finalStatus_snoc (segment : Segment) (line : StatusLine)
    : finalStatus (segment ++ [line]) = line.statusWritten.getD (finalStatus segment) := by
  unfold finalStatus
  cases written : line.statusWritten <;> simp [List.filterMap_append, written]

@[simp]
theorem finalValidity_snoc (segment : Segment) (line : StatusLine)
    : finalValidity (segment ++ [line])
      = if line.isTrust then trustValidity line.code else finalValidity segment := by
  unfold finalValidity lastTrust
  cases trust : line.isTrust <;> simp [List.filter_append, trust]

@[simp]
theorem finalReason_snoc (segment : Segment) (line : StatusLine)
    : finalReason (segment ++ [line])
      = if line.isTrust then trustReason line.args else finalReason segment := by
  unfold finalReason lastTrust
  cases trust : line.isTrust <;> simp [List.filter_append, trust]

theorem lastTrust_of_full {segment : Segment} (full : finalValidity segment = .full)
    : ∃ line,
        lastTrust segment = some line ∧ (line.code = .trustFully ∨ line.code = .trustUltimate) := by
  unfold finalValidity at full
  cases last : lastTrust segment with
  | none => simp [last] at full
  | some line =>
      refine ⟨line, rfl, ?_⟩
      simp only [last, Option.map_some, Option.getD_some] at full
      unfold trustValidity at full
      split at full <;> simp_all

theorem finalValidity_ne_ultimate (segment : Segment) : finalValidity segment ≠ .ultimate := by
  unfold finalValidity
  cases lastTrust segment with
  | none => simp
  | some line =>
      simp only [Option.map_some, Option.getD_some]
      unfold trustValidity
      split <;> simp

end Gpgme
