import Gpgme.Keylist.Safety

/-! Signatures and notations are attached as the records of a listing say, unless a subpacket
stands between a user ID and one of its signatures: the subpacket clears the pointer to the user
ID, and the signatures behind it are lost.
-/

namespace Gpgme

open CString

variable {ctx : KeylistCtx} {memory : Uninitialized} {history : List Str} {line : Str}

-----------------------------------------------------------------------------------------
-- The two rules
-----------------------------------------------------------------------------------------

/-- A subpacket stands behind the last user ID. -/
def subpacketSinceUid : List Str → Bool
  | [] => false
  | line :: history =>
      !isUidRecord history line
      && (recordAt history line = .spk || subpacketSinceUid history)

theorem followsUid_claimed (follows : followsUid pointerRule history = true)
    : followsUid claimedRule history = true := by
  induction history with
  | nil => exact follows
  | cons line history ih =>
      simp only [followsUid, Bool.or_eq_true, Bool.and_eq_true] at follows ⊢
      rcases follows with isUid | ⟨between, earlier⟩
      · exact Or.inl isUid
      · refine Or.inr ⟨?_, ih earlier⟩
        simp only [pointerRule, claimedRule, decide_eq_true_eq] at between ⊢
        tauto

theorem followsUid_pointer_iff (follows : followsUid claimedRule history = true)
    : followsUid pointerRule history = true ↔ subpacketSinceUid history = false := by
  induction history with
  | nil => exact absurd follows (by simp [followsUid])
  | cons line history ih =>
      cases isUid : isUidRecord history line with
      | true => simp [followsUid, subpacketSinceUid, isUid]
      | false =>
          simp only [followsUid, isUid, Bool.false_or, Bool.and_eq_true] at follows
          obtain ⟨between, earlier⟩ := follows
          simp only [followsUid, subpacketSinceUid, isUid, Bool.false_or, Bool.and_eq_true,
            Bool.not_false, Bool.true_and, Bool.or_eq_false_iff, ih earlier]
          simp only [claimedRule, decide_eq_true_eq] at between
          simp only [pointerRule, decide_eq_true_eq, decide_eq_false_iff_not]
          rcases between with type | type | type | type <;> simp [type]

-----------------------------------------------------------------------------------------
-- Counting signatures
-----------------------------------------------------------------------------------------

/-- The number of signatures in a listing. -/
def Attachments.sigTotal (attachments : Attachments) : Nat :=
  (attachments.map fun uids => (uids.map fun entry => entry.2.length).sum).sum

/-- The number of records that a rule attaches as signatures. -/
def sigRecords (rule : AttachRule) : List Str → Nat
  | [] => 0
  | line :: history =>
      sigRecords rule history + (isSigRecord history line && followsUid rule history).toNat

/-- The last key has a user ID. -/
def Attachments.HasUid (attachments : Attachments) : Prop :=
  ∃ init uids entry, attachments = init ++ [uids ++ [entry]]

theorem Attachments.HasUid.add {attachments : Attachments} {place : Place}
    (hasUid : attachments.HasUid) (other : place ≠ .key)
    : (attachments.add place).HasUid := by
  obtain ⟨init, uids, entry, rfl⟩ := hasUid
  cases place with
  | key => exact absurd rfl other
  | uid text => exact ⟨init, uids ++ [entry], (text, []), List.modifyLast_concat ..⟩
  | sig keysig =>
      refine ⟨init, uids, entry.addSig keysig, ?_⟩
      rw [Attachments.add, List.modifyLast_concat, List.modifyLast_concat]
  | subpacket parsed =>
      refine ⟨init, uids, entry.onLastSig (KeySig.addNotation parsed), ?_⟩
      rw [Attachments.add, List.modifyLast_concat, List.modifyLast_concat]
  | nothing => exact ⟨init, uids, entry, rfl⟩

theorem sum_modifyLast {α : Type*} {f : α → α} {weight : α → Nat}
    (kept : ∀ x, weight (f x) = weight x) (xs : List α)
    : ((xs.modifyLast f).map weight).sum = (xs.map weight).sum := by
  rcases xs.eq_nil_or_concat with rfl | ⟨init, last, rfl⟩
  · rfl
  · rw [List.concat_eq_append, List.modifyLast_concat]
    simp [kept]

theorem Attachments.sigTotal_add_other {attachments : Attachments} {place : Place}
    (other : ∀ keysig, place ≠ .sig keysig)
    : (attachments.add place).sigTotal = attachments.sigTotal := by
  unfold Attachments.sigTotal
  cases place with
  | key => simp [Attachments.add]
  | uid text => exact sum_modifyLast (fun uids => by simp) attachments
  | sig keysig => exact absurd rfl (other keysig)
  | subpacket parsed =>
      refine sum_modifyLast (fun uids => sum_modifyLast (fun entry => ?_) uids) attachments
      exact length_modifyLast _ _
  | nothing => rfl

theorem Attachments.HasUid.sigTotal_add_sig {attachments : Attachments}
    (hasUid : attachments.HasUid) (keysig : KeySig)
    : (attachments.add (.sig keysig)).sigTotal = attachments.sigTotal + 1 := by
  obtain ⟨init, uids, entry, rfl⟩ := hasUid
  rw [Attachments.add, List.modifyLast_concat, List.modifyLast_concat]
  simp [Attachments.sigTotal, UidEntry.addSig]
  omega

theorem placeOf_sig (ctx : KeylistCtx) (memory : Uninitialized) (rule : AttachRule)
    (isSig : isSigRecord history line = true)
    : ∃ keysig,
        placeOf ctx memory rule history line
        = if followsUid rule history then .sig keysig else .nothing := by
  obtain ⟨keysig, parsed, _⟩ :=
    newSig_returns ctx (Fields.ofLine memory line) (keyblockProtocol history)
  refine ⟨keysig, ?_⟩
  unfold placeOf
  simp only [isSigRecord, decide_eq_true_eq] at isSig
  rcases isSig with type | type <;> simp only [type, parsed]

theorem placeOf_other {rule : AttachRule} (noSig : isSigRecord history line = false)
    (keysig : KeySig)
    : placeOf ctx memory rule history line ≠ .sig keysig := by
  simp only [isSigRecord, decide_eq_false_iff_not, not_or] at noSig
  unfold placeOf
  dsimp only
  split <;> try simp
  · split <;> simp
  · next type => exact absurd type noSig.1
  · next type => exact absurd type noSig.2
  · split
    · split <;> simp
    · simp

theorem placeOf_key {rule : AttachRule} (other : startsKeyblock line = false)
    : placeOf ctx memory rule history line ≠ .key := by
  rw [startsKeyblock_eq history] at other
  unfold placeOf
  dsimp only
  split <;> try simp_all [Rectype.startsKey]
  · split <;> simp
  · split
    · split <;> simp
    · simp
  · split
    · split <;> simp
    · simp
  · split
    · split <;> simp
    · simp

theorem Attachments.add_ne_nil {attachments : Attachments} (present : attachments ≠ [])
    (place : Place)
    : attachments.add place ≠ [] := by
  obtain ⟨init, last, rfl⟩ := attachments.eq_nil_or_concat.resolve_left present
  rw [List.concat_eq_append]
  cases place <;> simp [Attachments.add, List.modifyLast_concat]

theorem attached_ne_nil (ctx : KeylistCtx) (memory : Uninitialized) (rule : AttachRule)
    (started : history.any startsKeyblock = true)
    : attached ctx memory rule history ≠ [] := by
  induction history with
  | nil => exact absurd started (by simp)
  | cons line history ih =>
      rw [attached]
      cases starts : startsKeyblock line with
      | true =>
          have placed : placeOf ctx memory rule history line = .key := by
            rw [startsKeyblock_eq history] at starts
            unfold placeOf
            cases type : recordAt history line <;> simp [type, Rectype.startsKey] at starts ⊢
          simp [placed, Attachments.add]
      | false =>
          rw [List.any_cons, starts, Bool.false_or] at started
          exact Attachments.add_ne_nil (ih started) _

/-- Only records of signatures may stand in between. -/
def AttachRule.Modest (rule : AttachRule) : Prop :=
  ∀ rectype, rule.between rectype
    → rectype = .sig ∨ rectype = .rev ∨ rectype = .tfs ∨ rectype = .spk

theorem claimedRule_modest : claimedRule.Modest := by
  intro rectype between
  simpa [claimedRule] using between

theorem pointerRule_modest : pointerRule.Modest := by
  intro rectype between
  simp only [pointerRule, decide_eq_true_eq] at between
  tauto

theorem attached_hasUid {rule : AttachRule} (modest : rule.Modest)
    (follows : followsUid rule history = true)
    : (attached ctx memory rule history).HasUid := by
  induction history with
  | nil => exact absurd follows (by simp [followsUid])
  | cons line history ih =>
      rw [attached]
      simp only [followsUid, Bool.or_eq_true, Bool.and_eq_true] at follows
      rcases follows with isUid | ⟨between, earlier⟩
      · have placed : ∃ text, placeOf ctx memory rule history line = .uid text := by
          have type : recordAt history line = .uid := by
            simp only [isUidRecord, decide_eq_true_eq] at isUid
            exact isUid.1
          unfold placeOf
          simp only [type, isUid, if_true]
          exact ⟨_, rfl⟩
        have started : history.any startsKeyblock = true := by
          by_contra absent
          have types := rectypeOf_false (recordName line)
          simp only [isUidRecord, decide_eq_true_eq, recordAt, Bool.eq_false_iff.mpr absent]
            at isUid
          simp [isUid.1, Rectype.startsKey] at types
        obtain ⟨text, placed⟩ := placed
        have present := attached_ne_nil ctx memory rule started
        obtain ⟨init, last, whole⟩ := (List.eq_nil_or_concat _).resolve_left present
        refine ⟨init, last, (text, []), ?_⟩
        rw [placed, whole, List.concat_eq_append, Attachments.add, List.modifyLast_concat]
      · refine (ih earlier).add (placeOf_key ?_)
        rw [startsKeyblock_eq history]
        rcases modest _ between with type | type | type | type <;> rw [type] <;> rfl

theorem sigTotal_attached {rule : AttachRule} (modest : rule.Modest) (history : List Str)
    : (attached ctx memory rule history).sigTotal = sigRecords rule history := by
  induction history with
  | nil => rfl
  | cons line history ih =>
      rw [attached, sigRecords, ← ih]
      cases isSig : isSigRecord history line with
      | false =>
          rw [Attachments.sigTotal_add_other (placeOf_other isSig)]
          rfl
      | true =>
          obtain ⟨keysig, placed⟩ := placeOf_sig ctx memory rule isSig
          rw [placed]
          cases follows : followsUid rule history with
          | true =>
              rw [if_pos rfl, (attached_hasUid modest follows).sigTotal_add_sig]
              rfl
          | false =>
              rw [if_neg (by simp), Attachments.sigTotal_add_other (by simp)]
              rfl

theorem sigRecords_le (history : List Str)
    : sigRecords pointerRule history ≤ sigRecords claimedRule history := by
  induction history with
  | nil => exact le_rfl
  | cons line history ih =>
      rw [sigRecords, sigRecords]
      refine Nat.add_le_add ih ?_
      cases follows : followsUid pointerRule history with
      | false => simp
      | true => rw [followsUid_claimed follows]

theorem follows_of_sigRecords_eq
    (same : sigRecords pointerRule history = sigRecords claimedRule history)
    {earlier : List Str} (suffix : line :: earlier <:+ history)
    (isSig : isSigRecord earlier line = true) (follows : followsUid claimedRule earlier = true)
    : followsUid pointerRule earlier = true := by
  induction history with
  | nil => exact absurd suffix (by simp)
  | cons first history ih =>
      rw [sigRecords, sigRecords] at same
      have fewer := sigRecords_le history
      have smaller : (isSigRecord history first && followsUid pointerRule history).toNat
          ≤ (isSigRecord history first && followsUid claimedRule history).toNat := by
        cases pointed : followsUid pointerRule history with
        | false => simp
        | true => rw [followsUid_claimed pointed]
      rcases List.suffix_cons_iff.mp suffix with whole | within
      · obtain ⟨rfl, rfl⟩ := List.cons.inj whole
        rw [isSig, follows, Bool.true_and, Bool.true_and] at same smaller
        cases pointed : followsUid pointerRule earlier with
        | true => rfl
        | false =>
            rw [pointed] at same
            simp only [Bool.toNat_false, Bool.toNat_true] at same
            omega
      · exact ih (by omega) within

-----------------------------------------------------------------------------------------
-- Listings without a loss
-----------------------------------------------------------------------------------------

/-- No subpacket stands between a user ID and a signature that belongs to it. -/
def NoLostSig (history : List Str) : Prop :=
  ∀ line earlier, line :: earlier <:+ history → isSigRecord earlier line
    → followsUid claimedRule earlier → subpacketSinceUid earlier = false

theorem NoLostSig.tail (none : NoLostSig (line :: history)) : NoLostSig history :=
  fun first earlier suffix => none first earlier (suffix.trans (List.suffix_cons line history))

theorem NoLostSig.followsUid_eq (none : NoLostSig (line :: history))
    (isSig : isSigRecord history line = true)
    : followsUid claimedRule history = followsUid pointerRule history := by
  cases follows : followsUid claimedRule history with
  | true =>
      have kept := none line history List.suffix_rfl isSig follows
      exact ((followsUid_pointer_iff follows).mpr kept).symm
  | false =>
      cases pointed : followsUid pointerRule history with
      | false => rfl
      | true => exact absurd (followsUid_claimed pointed) (by simp [follows])

theorem NoLostSig.followsSig_eq (none : NoLostSig history)
    : followsSig claimedRule history = followsSig pointerRule history := by
  induction history with
  | nil => rfl
  | cons line history ih =>
      rw [followsSig, followsSig, ih none.tail]
      cases isSig : isSigRecord history line with
      | false => rfl
      | true => rw [none.followsUid_eq isSig]

theorem NoLostSig.placeOf_eq (none : NoLostSig (line :: history))
    (suffice : FieldsSuffice history line)
    : placeOf ctx memory claimedRule history line = placeOf ctx memory pointerRule history line := by
  cases isSig : isSigRecord history line with
  | true =>
      unfold placeOf
      rw [none.followsUid_eq isSig]
      simp only [isSigRecord, decide_eq_true_eq] at isSig
      rcases isSig with type | type <;> simp only [type]
  | false =>
      by_cases type : recordAt history line = .spk
      · unfold placeOf
        simp only [type, none.tail.followsSig_eq]
        have counted : claimedRule.subpacketFields ≤ (Fields.ofLine memory line).count
              ∧ followsSig pointerRule history
            ↔ pointerRule.subpacketFields ≤ (Fields.ofLine memory line).count
              ∧ followsSig pointerRule history := by
          refine and_congr_left fun signed => ?_
          have unequal : (Fields.ofLine memory line).count ≠ 4 := suffice.2 type signed
          simp only [claimedRule, pointerRule]
          omega
        simp only [counted]
      · simp only [isSigRecord, decide_eq_false_iff_not, not_or] at isSig
        unfold placeOf
        cases other : recordAt history line <;> simp_all

theorem NoLostSig.attached_eq (none : NoLostSig history)
    (suffice : ∀ line earlier, line :: earlier <:+ history → FieldsSuffice earlier line)
    : attached ctx memory claimedRule history = attached ctx memory pointerRule history := by
  induction history with
  | nil => rfl
  | cons line history ih =>
      have earlier := ih none.tail fun first rest suffix =>
        suffice first rest (suffix.trans (List.suffix_cons line history))
      rw [attached, attached, earlier, none.placeOf_eq (suffice line history List.suffix_rfl)]

theorem noLostSig_of_attached_eq
    (same : attached ctx memory claimedRule history = attached ctx memory pointerRule history)
    : NoLostSig history := by
  intro line earlier suffix isSig follows
  have count : sigRecords pointerRule history = sigRecords claimedRule history := by
    rw [← sigTotal_attached pointerRule_modest, ← sigTotal_attached claimedRule_modest, same]
  have pointed := follows_of_sigRecords_eq count suffix isSig follows
  exact (followsUid_pointer_iff follows).mp pointed

/-- The listing comes to its end, and its keys hold what the claimed rule attaches. -/
def AttachesAll (ctx : KeylistCtx) (buffer : Nat → UInt8) (lines : List Str) : Prop :=
  ∃ opd,
    keylistRun ctx (poisoned buffer) {} (lines.map some ++ [none]) = some opd
    ∧ opd.keyQueue.map Key.entries = attached ctx (poisoned buffer) claimedRule lines.reverse

theorem AttachesAll.attached_eq {buffer : Nat → UInt8} {lines : List Str}
    (all : AttachesAll ctx buffer lines)
    : (keylistRun ctx (poisoned buffer) {} (lines.map some)).isSome
      ∧ attached ctx (poisoned buffer) claimedRule lines.reverse
        = attached ctx (poisoned buffer) pointerRule lines.reverse := by
  obtain ⟨opd, ended, entries⟩ := all
  rw [keylistRun_eof] at ended
  obtain ⟨last, ran, rfl⟩ := Option.map_eq_some_iff.mp ended
  have tracks := (start_tracks ctx (poisoned buffer)).run ran
  rw [keyQueue_finishKey, tracks.entries, List.append_nil] at entries
  exact ⟨by rw [ran]; rfl, entries.symm⟩

/-- A listing is attached as claimed exactly when its records have the fields that are read
from them and no subpacket stands between a user ID and a later signature.
-/
theorem keylist_attaches_iff (ctx : KeylistCtx) (buffer : Nat → UInt8) (lines : List Str)
    : AttachesAll ctx buffer lines
      ↔ (∀ history line, HasRecord lines history line → FieldsSuffice history line)
        ∧ ∀ history line, HasRecord lines history line → isSigRecord history line
          → followsUid claimedRule history → subpacketSinceUid history = false := by
  have runs := keylistRun_isSome_iff ctx (poisoned buffer) lines
  simp only [covered_poisoned_iff] at runs
  constructor
  · intro all
    obtain ⟨ran, same⟩ := all.attached_eq
    refine ⟨runs.mp ran, fun history line record isSig follows => ?_⟩
    exact noLostSig_of_attached_eq same line history record isSig follows
  · rintro ⟨suffice, kept⟩
    obtain ⟨last, ran⟩ := Option.isSome_iff_exists.mp (runs.mpr suffice)
    have tracks := (start_tracks ctx (poisoned buffer)).run ran
    have none : NoLostSig lines.reverse := fun line history record => kept history line record
    refine ⟨last.finishKey, by rw [keylistRun_eof, ran]; rfl, ?_⟩
    rw [keyQueue_finishKey, tracks.entries, List.append_nil]
    exact (none.attached_eq fun line history record => suffice history line record).symm

/-- The second of two signatures is lost behind a notation of the first one. -/
theorem keylist_loses_sig
    : ¬ AttachesAll {} (fun _ => 0)
        [str "pub:u:2048:1:68697734D3E2C6F5", str "uid:u::::::::Alpha",
          str "sig:!::1:68697734D3E2C6F5", str "spk:26:0:3:url",
          str "sig:!::1:1234567890ABCDEF"] := by
  intro all
  have kept := noLostSig_of_attached_eq all.attached_eq.2 _ _ List.suffix_rfl
  exact absurd (kept (by decide) (by decide)) (by decide)

end Gpgme
