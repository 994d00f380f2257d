import Gpgme.Engine.InfoOwnership

/-! What the two loops that build lists and the change of one entry leave behind, whichever
allocations are refused.
-/

namespace Gpgme.InfoLists

open CString Fallible BlockHeap

variable {engines : List (Option EngineOps)} {granted : Nat → Bool} {mem : Memory}
  {rest : Multiset (Nat × Block)}

-----------------------------------------------------------------------------------------
-- The members of a new entry
-----------------------------------------------------------------------------------------

/-- A duplicate that is not missing is a block with the text, and no text has no block. -/
theorem Duplicated.complete {text : Option Str} {result : Option Nat × Memory}
    (made : Duplicated granted mem text result) (whole : ¬(text.isSome ∧ result.1.isNone))
    : ∃ pair : Option (Nat × Str), pair.map Prod.fst = result.1 ∧ pair.map Prod.snd = text := by
  have given := made.granted
  cases text with
  | none =>
      rw [Option.isSome_none, Bool.false_and, Option.isSome_eq_false_iff,
        Option.isNone_iff_eq_none] at given
      exact ⟨none, given.symm, rfl⟩
  | some text =>
      cases pointer : result.1 with
      | none =>
          rw [pointer] at whole
          exact absurd ⟨rfl, rfl⟩ whole
      | some id => exact ⟨some (id, text), rfl, rfl⟩

/-- The installed version is the one that the engine reports, or else the dummy version; that is
also taken when the report could not be stored.
-/
def VersionFor (granted : Nat → Bool) (since upto : Nat) (reported : Option Str) (version : Str)
    : Prop :=
  reported = some version
  ∨ version = dummyVersion
    ∧ (reported = none ∨ ∃ attempt, since ≤ attempt ∧ attempt < upto ∧ granted attempt = false)

/-- A version is also one for a longer stretch of time. -/
theorem VersionFor.mono {since since' upto upto' : Nat} {reported : Option Str} {version : Str}
    (holds : VersionFor granted since upto reported version) (earlier : since' ≤ since)
    (later : upto ≤ upto')
    : VersionFor granted since' upto' reported version := by
  rcases holds with same | ⟨dummy, none | ⟨attempt, low, high, refused⟩⟩
  · exact Or.inl same
  · exact Or.inr ⟨dummy, Or.inl none⟩
  · exact Or.inr ⟨dummy, Or.inr ⟨attempt, earlier.trans low, high.trans_le later, refused⟩⟩

/-- The version of an engine, or the dummy version in its place. -/
theorem versionOrDummy_spec {before : Memory} {reported : Option Str}
    {version : Option Nat × Memory} (made : Duplicated granted before reported version)
    (owned : mem.blocks = stringSlot version.1 (reported.getD []) + rest)
    (later : version.2.attempts ≤ mem.attempts)
    : ∃ text,
        (versionOrDummy granted mem version.1).2.blocks
          = stringSlot (versionOrDummy granted mem version.1).1 text + rest
        ∧ VersionFor granted before.attempts mem.attempts reported text
        ∧ mem.attempts ≤ (versionOrDummy granted mem version.1).2.attempts
        ∧ (versionOrDummy granted mem version.1).1.isSome
          = (version.1.isSome || granted mem.attempts) := by
  have given := made.granted
  have counted := made.attempts
  cases pointer : version.1 with
  | some id =>
      rw [pointer] at given owned
      cases reported with
      | none => cases given
      | some text => exact ⟨text, owned, Or.inl rfl, Nat.le_refl _, rfl⟩
  | none =>
      rw [pointer] at given owned
      have dummy := strdup_duplicated granted mem (some dummyVersion)
      refine ⟨dummyVersion, ?_, Or.inr ⟨rfl, ?_⟩, ?_, ?_⟩
      · have kept : mem.blocks = rest := by
          rw [owned]
          exact zero_add _
        rw [← kept]
        exact dummy.blocks
      · cases reported with
        | none => exact Or.inl rfl
        | some text =>
            have one : attemptsFor (some text) = 1 := rfl
            exact Or.inr ⟨before.attempts, Nat.le_refl _, by omega, given.symm⟩
      · exact Nat.le_trans (Nat.le_add_right _ _) (Nat.le_of_eq dummy.attempts.symm)
      · exact dummy.granted

/-- What an iteration has built is released after an error. -/
theorem cleanup_ends {placed : List Placed} {entry fileName homeDir version : Option Nat}
    {first second third : Str}
    (owned
      : mem.blocks
        = listBlocks placed
          + (slot entry .info
            + (stringSlot fileName first + stringSlot homeDir second + stringSlot version third
              + rest)))
    : Ends
        (do
          let mem ← engineInfoRelease mem
            ((placed.map Placed.entry).map Node.made ++ entry.toList.map Node.zeroed)
          freeMembers mem fileName homeDir version)
        (fun next => next.blocks = rest ∧ next.attempts = mem.attempts) fun _ => False := by
  rw [engineInfoRelease_append, List.map_map, bind_assoc]
  refine (engineInfoRelease_ends placed owned).bind fun mem₁ freed₁ => ?_
  have zeroed
      : Ends (engineInfoRelease mem₁ (entry.toList.map Node.zeroed))
          (fun next =>
            next.blocks
              = stringSlot fileName first + stringSlot homeDir second + stringSlot version third
                + rest
            ∧ next.attempts = mem₁.attempts)
          fun _ => False := by
    cases entry with
    | none =>
        refine ⟨?_, rfl⟩
        rw [freed₁.1]
        exact zero_add _
    | some self =>
        refine (free_ends freed₁.1).bind fun mem₂ freed₂ => ?_
        exact freed₂
  refine zeroed.bind fun mem₂ freed₂ => ?_
  refine (freeMembers_ends freed₂.1).imp ?_ fun _ failed => failed
  rintro mem₃ ⟨kept, attempts⟩
  exact ⟨kept, attempts.trans (freed₂.2.trans freed₁.2)⟩

/-- The versions that are compared are live. -/
theorem tooOld_ok {version minimal : Option Nat}
    (versionOwned
      : ∀ id, version = some id → ∃ text, (id, Block.string text) ∈ mem.blocks)
    (minimalOwned
      : ∀ id, minimal = some id → ∃ text, (id, Block.string text) ∈ mem.blocks)
    : ∃ old, tooOld mem version minimal = .ok old := by
  cases version with
  | none => exact ⟨false, rfl⟩
  | some version =>
      cases minimal with
      | none => exact ⟨false, rfl⟩
      | some minimal =>
          obtain ⟨mine, versionLive⟩ := versionOwned version rfl
          obtain ⟨least, minimalLive⟩ := minimalOwned minimal rfl
          refine ⟨!compareVersions (some mine) least, ?_⟩
          simp only [tooOld, readString_of_mem versionLive, readString_of_mem minimalLive]
          rfl

/-- The code for a lack of memory is an error. -/
theorem enomem_ne_zero : gpgError ErrCode.enomem ≠ 0 := by decide

/-- The code for an old engine is an error. -/
theorem engineTooOld_ne_zero : gpgError engineTooOld ≠ 0 := by decide

/-- What an iteration allocated: the strings, for given texts, and the entry; unless there is an
error, nothing of it is missing.
-/
structure Built (err : GpgError) (made : Members) (mem : Memory) (fileName : Str)
    (homeDir : Option Str) (version : Str) (rest : Multiset (Nat × Block))
    : Prop where
  blocks
    : mem.blocks
      = slot made.entry .info
        + (stringSlot made.fileName fileName + stringSlot made.homeDir (homeDir.getD [])
          + stringSlot made.version version
          + rest)
  complete
    : err = 0
      → made.entry.isSome
        ∧ made.fileName.isSome
        ∧ made.version.isSome
        ∧ ∃ home : Option (Nat × Str),
            home.map Prod.fst = made.homeDir ∧ home.map Prod.snd = homeDir

section Built

variable {err : GpgError} {made : Members} {fileName version : Str} {homeDir : Option Str}

/-- An entry that was not made has an error. -/
theorem Built.failed (built : Built err made mem fileName homeDir version rest)
    (stopped : (if err = 0 then made.entry else none) = none)
    : err ≠ 0 := by
  intro fine
  obtain ⟨entry, -⟩ := built.complete fine
  rw [if_pos fine] at stopped
  rw [stopped] at entry
  cases entry

/-- A new entry with everything that it owns. -/
theorem Built.placed {self : Nat} (built : Built err made mem fileName homeDir version rest)
    (goesOn : (if err = 0 then made.entry else none) = some self) (protocol : Nat)
    (reqVersion : Str)
    : ∃ new : Placed,
        new.entry = ⟨self, protocol, made.fileName, made.homeDir, made.version, reqVersion⟩
        ∧ new.info = ⟨protocol, fileName, homeDir, version, reqVersion⟩
        ∧ mem.blocks = new.blocks + rest := by
  split at goesOn
  · next fine =>
      obtain ⟨-, file, stored, home, pointer, text⟩ := built.complete fine
      obtain ⟨fileAt, sameFile⟩ := Option.isSome_iff_exists.mp file
      obtain ⟨versionAt, sameVersion⟩ := Option.isSome_iff_exists.mp stored
      refine ⟨⟨self, protocol, (fileAt, fileName), home, (versionAt, version), reqVersion⟩,
        ?_, ?_, ?_⟩
      · rw [sameFile, sameVersion, ← pointer]
        rfl
      · rw [← text]
        rfl
      · rw [built.blocks, goesOn, sameFile, sameVersion, ← pointer, ← text]
        unfold Placed.blocks Placed.strings
        simp only
        abel
  · cases goesOn

end Built

/-- The allocations that do not depend on one another, and when nothing of them is missing. -/
theorem allocateMembers_spec {version : Option Nat} {text : Str} (ofileName : Str)
    (ohomeDir : Option Str) (owned : mem.blocks = stringSlot version text + rest)
    {result : Members × Memory}
    (allocated : allocateMembers granted mem version ofileName ohomeDir = result)
    : mem.attempts < result.2.attempts
      ∧ result.1.version = version
      ∧ result.2.blocks
        = stringSlot version text
          + (slot result.1.entry .info
            + (stringSlot result.1.fileName ofileName
              + stringSlot result.1.homeDir (ohomeDir.getD [])
              + rest))
      ∧ (¬(ohomeDir.isSome ∧ result.1.homeDir.isNone)
        → ∃ home : Option (Nat × Str),
            home.map Prod.fst = result.1.homeDir ∧ home.map Prod.snd = ohomeDir) := by
  have madeFile := strdup_duplicated granted mem (some ofileName)
  have madeHome := strdup_duplicated granted (strdup granted mem (some ofileName)).2 ohomeDir
  subst allocated
  refine ⟨?_, rfl, ?_, madeHome.complete⟩
  · simp only [allocateMembers, attempts_malloc, madeHome.attempts, madeFile.attempts]
    omega
  · simp only [allocateMembers, blocks_malloc, madeHome.blocks, madeFile.blocks, owned,
      Option.getD_some]
    abel

/-- An iteration of `gpgme_get_engine_info`, the allocation of the version included. -/
theorem newMembers_ends {minimal : Option Nat} {before : Memory} {reported : Option Str}
    {version : Option Nat × Memory} (ofileName : Str) (ohomeDir : Option Str)
    (madeVersion : Duplicated granted before reported version)
    (owned : version.2.blocks = stringSlot version.1 (reported.getD []) + rest)
    (minimalOwned : ∀ id, minimal = some id → ∃ text, (id, Block.string text) ∈ rest)
    : Ends (newMembers granted minimal version.2 version.1 ofileName ohomeDir)
        (fun result =>
          version.2.attempts ≤ result.2.2.attempts
          ∧ ∃ text,
              Built result.1 result.2.1 result.2.2 ofileName ohomeDir text rest
              ∧ (result.1 = 0
                → VersionFor granted before.attempts result.2.2.attempts reported text))
        fun _ => False := by
  cases allocated : allocateMembers granted version.2 version.1 ofileName ohomeDir with
  | mk made mem =>
      obtain ⟨counted, same, blocks, home⟩ :=
        allocateMembers_spec ofileName ohomeDir owned allocated
      simp only at counted same blocks home
      have asBuilt
          : mem.blocks
            = slot made.entry .info
              + (stringSlot made.fileName ofileName + stringSlot made.homeDir (ohomeDir.getD [])
                + stringSlot made.version (reported.getD [])
                + rest) := by
        rw [blocks, same]
        abel
      unfold newMembers
      simp only [allocated]
      split
      · refine ⟨counted.le, reported.getD [], ⟨asBuilt, ?_⟩, ?_⟩
        · exact fun fine => absurd fine enomem_ne_zero
        · exact fun fine => absurd fine enomem_ne_zero
      · next whole =>
          simp only [Bool.or_eq_true, Bool.and_eq_true, not_or] at whole
          obtain ⟨⟨file, directory⟩, entry⟩ := whole
          have live
              : ∀ id, version.1 = some id → ∃ text, (id, Block.string text) ∈ mem.blocks := by
            intro id pointer
            refine ⟨reported.getD [], ?_⟩
            rw [blocks, pointer]
            exact Multiset.mem_add.mpr (Or.inl (Multiset.mem_singleton_self _))
          obtain ⟨old, compared⟩ := tooOld_ok live fun id pointer => by
            obtain ⟨text, member⟩ := minimalOwned id pointer
            exact ⟨text, by simp only [blocks, Multiset.mem_add, member, or_true]⟩
          rw [compared]
          cases old with
          | true =>
              refine ⟨counted.le, reported.getD [], ⟨asBuilt, ?_⟩, ?_⟩
              · exact fun fine => absurd fine engineTooOld_ne_zero
              · exact fun fine => absurd fine engineTooOld_ne_zero
          | false =>
              obtain ⟨text, stored, chosen, grown, -⟩ :=
                versionOrDummy_spec madeVersion blocks counted.le
              refine ⟨counted.le.trans grown, text, ⟨?_, ?_⟩, fun _ => chosen.mono le_rfl grown⟩
              · change (versionOrDummy granted mem version.1).2.blocks = _
                rw [stored]
                simp only
                abel
              · intro fine
                refine ⟨?_, ?_, ?_, home directory⟩
                · exact Option.isSome_iff_ne_none.mpr (mt Option.isNone_iff_eq_none.mpr entry)
                · exact Option.isSome_iff_ne_none.mpr (mt Option.isNone_iff_eq_none.mpr file)
                · by_contra missing
                  rw [Bool.not_eq_true, Option.isSome_eq_false_iff] at missing
                  exact enomem_ne_zero ((if_pos missing).symm.trans fine)

-----------------------------------------------------------------------------------------
-- The list of the available engines
-----------------------------------------------------------------------------------------

/-- An entry says of its engine what the engine says. -/
structure Describes (engines : List (Option EngineOps)) (granted : Nat → Bool)
    (printed : Str → Option Str) (since upto proto : Nat) (info : Info)
    : Prop where
  protocol : info.protocol = proto
  fileName : engineGetFileName engines proto = some info.fileName
  homeDir : info.homeDir = engineGetHomeDir engines proto
  version : VersionFor granted since upto (reportedVersion engines printed proto none) info.version
  reqVersion : info.reqVersion = (engineGetReqVersion engines proto).getD dummyVersion

/-- A description is also one for a longer stretch of time. -/
theorem Describes.mono {printed : Str → Option Str} {since since' upto upto' proto : Nat}
    {info : Info} (holds : Describes engines granted printed since upto proto info)
    (earlier : since' ≤ since) (later : upto ≤ upto')
    : Describes engines granted printed since' upto' proto info :=
  ⟨holds.protocol, holds.fileName, holds.homeDir, holds.version.mono earlier later,
    holds.reqVersion⟩

/-- The protocols whose engine has a file name. -/
def available (engines : List (Option EngineOps)) (protos : List Nat) : List Nat :=
  protos.filter fun proto => (engineGetFileName engines proto).isSome

/-- How the loop of `gpgme_get_engine_info` ends: with one more entry for each available protocol,
or with everything released that it and the loop before it allocated.
-/
def Listed (engines : List (Option EngineOps)) (granted : Nat → Bool)
    (printed : Str → Option Str) (mem : Memory) (placed : List Placed) (protos : List Nat)
    (rest : Multiset (Nat × Block)) (result : GpgError × List EngineInfo × Memory)
    : Prop :=
  mem.attempts ≤ result.2.2.attempts
  ∧ (result.1 = 0
      ∧ (∃ more : List Placed,
          result.2.1 = (placed ++ more).map Placed.entry
          ∧ result.2.2.blocks = listBlocks (placed ++ more) + rest
          ∧ List.Forall₂
              (Describes engines granted printed mem.attempts result.2.2.attempts)
              (available engines protos) (more.map Placed.info))
    ∨ result.1 ≠ 0 ∧ result.2.1 = [] ∧ result.2.2.blocks = rest)

/-- An engine without a file name has no version. -/
theorem reportedVersion_none {printed : Str → Option Str} {proto : Nat}
    (missing : engineGetFileName engines proto = none)
    : reportedVersion engines printed proto none = none := by
  unfold engineGetFileName at missing
  unfold reportedVersion
  cases found : engineOps engines proto with
  | none => rfl
  | some ops =>
      rw [found, Option.bind_some] at missing
      cases starts : ops.startsProgram with
      | false => simp [starts]
      | true => simp [starts, missing]

/-- One more entry and those of the rest of the loop. -/
theorem Listed.cons {printed : Str → Option Str} {after : Memory} {placed : List Placed}
    {new : Placed} {proto : Nat} {protos : List Nat}
    {result : GpgError × List EngineInfo × Memory}
    (listed : Listed engines granted printed after (placed ++ [new]) protos rest result)
    (described
      : Describes engines granted printed mem.attempts after.attempts proto new.info)
    (later : mem.attempts ≤ after.attempts)
    : Listed engines granted printed mem placed (proto :: protos) rest result := by
  obtain ⟨grown, whole | failed⟩ := listed
  · obtain ⟨success, more, infos, blocks, each⟩ := whole
    refine ⟨later.trans grown, Or.inl ⟨success, new :: more, ?_, ?_, ?_⟩⟩
    · rw [infos, List.append_assoc, List.singleton_append]
    · rw [blocks, List.append_assoc, List.singleton_append]
    · have first : available engines (proto :: protos) = proto :: available engines protos := by
        unfold available
        rw [List.filter_cons_of_pos (by rw [described.fileName]; rfl)]
      rw [first, List.map_cons]
      refine .cons (described.mono (Nat.le_refl _) grown) ?_
      exact each.imp fun _ _ holds => holds.mono later (Nat.le_refl _)
  · exact ⟨later.trans grown, Or.inr failed⟩

/-- The loop over the protocols ends with the list of all of them, or with an error and no more
memory.
-/
theorem getEngineInfoLoop_ends {printed : Str → Option Str} {minimal : Option Nat}
    (minimalOwned : ∀ id, minimal = some id → ∃ text, (id, Block.string text) ∈ rest)
    {placed : List Placed} (protos : List Nat) (owned : mem.blocks = listBlocks placed + rest)
    : Ends
        (getEngineInfoLoop engines granted printed minimal mem (placed.map Placed.entry) protos)
        (Listed engines granted printed mem placed protos rest) fun _ => False := by
  induction protos generalizing mem placed with
  | nil =>
      refine ⟨Nat.le_refl _, Or.inl ⟨rfl, [], ?_, ?_, .nil⟩⟩
      · rw [List.append_nil]
      · rw [List.append_nil]
        exact owned
  | cons proto protos ih =>
      have madeVersion := strdup_duplicated granted mem (reportedVersion engines printed proto none)
      have madeVersion := strdup_duplicated granted mem (reportedVersion engines printed proto none)
      have earlier
          : mem.attempts
            ≤ (engineGetVersion engines granted printed mem proto none).2.attempts := by
        unfold engineGetVersion
        rw [madeVersion.attempts]
        exact Nat.le_add_right _ _
      have blocks
          : (engineGetVersion engines granted printed mem proto none).2.blocks
            = stringSlot (engineGetVersion engines granted printed mem proto none).1
                ((reportedVersion engines printed proto none).getD [])
              + (listBlocks placed + rest) := by
        rw [← owned]
        exact madeVersion.blocks
      rw [getEngineInfoLoop]
      cases file : engineGetFileName engines proto with
      | none =>
          have unchanged
              : (engineGetVersion engines granted printed mem proto none).2.blocks
                = listBlocks placed + rest := by
            rw [← owned]
            unfold engineGetVersion
            rw [reportedVersion_none file]
            rfl
          refine (ih unchanged).imp ?_ fun _ failed => failed
          rintro result ⟨grown, ended⟩
          have skipped : available engines (proto :: protos) = available engines protos := by
            unfold available
            rw [List.filter_cons_of_neg (by rw [file]; simp)]
          refine ⟨earlier.trans grown, ?_⟩
          rw [skipped]
          rcases ended with ⟨success, more, infos, blocks, each⟩ | failed
          · refine Or.inl ⟨success, more, infos, blocks, ?_⟩
            exact each.imp fun _ _ holds => holds.mono earlier (Nat.le_refl _)
          · exact Or.inr failed
      | some ofileName =>
          have members := newMembers_ends ofileName (engineGetHomeDir engines proto) madeVersion
            blocks fun id pointer => by
              obtain ⟨text, member⟩ := minimalOwned id pointer
              exact ⟨text, Multiset.mem_add.mpr (Or.inr member)⟩
          refine members.bind fun made ⟨grown, text, built, chosen⟩ => ?_
          obtain ⟨err, made, mem₁⟩ := made
          simp only at built chosen grown ⊢
          split
          · next stopped =>
              have owned
                  : mem₁.blocks
                    = listBlocks placed
                      + (slot made.entry .info
                        + (stringSlot made.fileName ofileName
                          + stringSlot made.homeDir ((engineGetHomeDir engines proto).getD [])
                          + stringSlot made.version text
                          + rest)) := by
                rw [built.blocks]
                abel
              rw [← bind_assoc]
              refine (cleanup_ends owned).bind fun mem₂ ⟨freed, attempts⟩ => ?_
              refine ⟨?_, Or.inr ⟨built.failed stopped, rfl, freed⟩⟩
              exact (earlier.trans grown).trans attempts.ge
          · next self goesOn =>
              obtain ⟨new, entry, info, owned⟩ := built.placed goesOn proto
                ((engineGetReqVersion engines proto).getD dummyVersion)
              have appended : mem₁.blocks = listBlocks (placed ++ [new]) + rest := by
                rw [owned, listBlocks_append, listBlocks_cons, listBlocks_nil]
                abel
              have fine : err = 0 := by
                by_contra failed
                rw [if_neg failed] at goesOn
                cases goesOn
              have described
                  : Describes engines granted printed mem.attempts mem₁.attempts proto
                      new.info := by
                rw [info]
                exact ⟨rfl, file, rfl, chosen fine, rfl⟩
              have later := ih appended
              rw [List.map_append, List.map_singleton, entry] at later
              refine later.imp ?_ fun _ failed => failed
              intro result listed
              exact listed.cons described (earlier.trans grown)

end Gpgme.InfoLists
