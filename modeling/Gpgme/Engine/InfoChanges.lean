import Gpgme.Engine.InfoLoops

/-! What a copy of a list and the change of one entry leave behind. A copy must not read members
that were never set, and a change must not install members that it freed; both depend on which
allocations are refused together.
-/

namespace Gpgme.InfoLists

open CString Fallible BlockHeap

variable {engines : List (Option EngineOps)} {granted : Nat → Bool} {mem : Memory}
  {rest : Multiset (Nat × Block)}

-----------------------------------------------------------------------------------------
-- Copies
-----------------------------------------------------------------------------------------

/-- Whether the strings of an entry are duplicated when the next attempt has a number. -/
def stringsGranted (granted : Nat → Bool) (next : Nat) (info : EngineInfo) : Bool :=
  let home := if info.homeDir.isSome then 1 else 0
  granted next
  && (info.homeDir.isNone || granted (next + 1))
  && (info.version.isNone || granted (next + 1 + home))

/-- The attempt to allocate the copy of an entry itself, which follows those for its strings. -/
def entryAttempt (next : Nat) (info : EngineInfo) : Nat :=
  next + 1 + (if info.homeDir.isSome then 1 else 0) + if info.version.isSome then 1 else 0

/-- The condition on a copy: at the first entry of which a string is refused, the entry itself is
refused too.
-/
def copyHarmless (granted : Nat → Bool) : Nat → List EngineInfo → Bool
  | _, [] => true
  | next, info :: rest =>
      if stringsGranted granted next info then
        !granted (entryAttempt next info) || copyHarmless granted (entryAttempt next info + 1) rest
      else !granted (entryAttempt next info)

/-- There is no error exactly when every member was allocated. -/
theorem copyError_eq_zero {info : EngineInfo} {made : Members}
    : copyError info made = 0
      ↔ made.fileName.isSome
        ∧ (info.homeDir.isSome → made.homeDir.isSome)
        ∧ (info.version.isSome → made.version.isSome)
        ∧ made.entry.isSome := by
  unfold copyError
  cases made.fileName <;> cases info.homeDir <;> cases made.homeDir <;> cases info.version
    <;> cases made.version <;> cases made.entry <;> simp [enomem_ne_zero]

/-- An iteration of the copy: what it allocated, and when it has an error. -/
theorem copyMembers_ok (granted : Nat → Bool) (old : Placed) (owned : old.strings ≤ mem.blocks)
    : ∃ made next,
        copyMembers granted mem old.entry = .ok (copyError old.entry made, made, next)
        ∧ Built (copyError old.entry made) made next old.fileName.2 (old.homeDir.map Prod.snd)
          old.version.2 mem.blocks
        ∧ next.attempts = entryAttempt mem.attempts old.entry + 1
        ∧ made.entry.isSome = granted (entryAttempt mem.attempts old.entry)
        ∧ (copyError old.entry made = 0
          ↔ stringsGranted granted mem.attempts old.entry
            ∧ granted (entryAttempt mem.attempts old.entry)) := by
  unfold Placed.strings at owned
  obtain ⟨file, fileOk, fileMade⟩ := strdupOf_ends granted (some old.fileName)
    ((Multiset.le_add_right _ _).trans ((Multiset.le_add_right _ _).trans owned))
  obtain ⟨home, homeOk, homeMade⟩ := strdupOf_ends granted old.homeDir
    (show _ ≤ file.2.blocks by
      rw [fileMade.blocks]
      refine le_trans ?_ (Multiset.le_add_left _ _)
      exact (Multiset.le_add_left _ _).trans ((Multiset.le_add_right _ _).trans owned))
  obtain ⟨version, versionOk, versionMade⟩ := strdupOf_ends granted (some old.version)
    (show _ ≤ home.2.blocks by
      rw [homeMade.blocks, fileMade.blocks]
      refine le_trans ?_ (Multiset.le_add_left _ _)
      refine le_trans ?_ (Multiset.le_add_left _ _)
      exact (Multiset.le_add_left _ _).trans owned)
  have counted : version.2.attempts = entryAttempt mem.attempts old.entry := by
    rw [versionMade.attempts, homeMade.attempts, fileMade.attempts]
    simp [attemptsFor, entryAttempt, Placed.entry]
  have entryMade := isSome_malloc version.2 granted Block.info
  rw [counted] at entryMade
  refine ⟨⟨file.1, home.1, version.1, (version.2.malloc granted .info).1⟩,
    (version.2.malloc granted .info).2, ?_, ⟨?_, ?_⟩, ?_, entryMade, ?_⟩
  · simp only [Option.map_some] at fileOk versionOk
    simp only [copyMembers, Placed.entry, Option.isNone_some, Bool.false_eq_true, if_false,
      fileOk, homeOk, versionOk, bind, Except.bind, pure, Except.pure]
  · rw [blocks_malloc, versionMade.blocks, homeMade.blocks, fileMade.blocks]
    simp only [Option.map_some, Option.getD_some]
    abel
  · intro fine
    obtain ⟨first, second, third, fourth⟩ := copyError_eq_zero.mp fine
    refine ⟨fourth, first, third rfl, homeMade.complete ?_⟩
    rintro ⟨given, missing⟩
    have present : home.1.isSome := second (by simpa [Placed.entry] using given)
    rw [Option.isNone_iff_eq_none] at missing
    rw [missing] at present
    cases present
  · rw [attempts_malloc, counted]
  · rw [copyError_eq_zero]
    have fileGranted := fileMade.granted
    have homeGranted := homeMade.granted
    have versionGranted := versionMade.granted
    rw [homeMade.attempts, fileMade.attempts] at versionGranted
    rw [fileMade.attempts] at homeGranted
    simp only [fileGranted, homeGranted, versionGranted, entryMade, stringsGranted]
    cases home' : old.homeDir <;> simp [Placed.entry, attemptsFor, home', and_assoc]

/-- How the loop of a copy ends: with the entries of the source, or with everything released that
it and the loop before it allocated.
-/
def Copied (done source : List Placed) (rest : Multiset (Nat × Block))
    (result : GpgError × List EngineInfo × Memory)
    : Prop :=
  result.1 = 0
    ∧ (∃ copies : List Placed,
        result.2.1 = (done ++ copies).map Placed.entry
        ∧ copies.map Placed.info = source.map Placed.info
        ∧ result.2.2.blocks = listBlocks (done ++ copies) + rest)
  ∨ result.1 ≠ 0 ∧ result.2.1 = [] ∧ result.2.2.blocks = rest

/-- The strings of an entry are among the blocks of its list. -/
theorem strings_le_of_list {old : Placed} {source : List Placed}
    (owned : listBlocks (old :: source) ≤ rest)
    : old.strings ≤ rest := by
  rw [listBlocks_cons] at owned
  exact (Multiset.le_add_right _ _).trans ((Multiset.le_add_right _ _).trans owned)

/-- A computation that succeeds goes on with its value. -/
theorem ok_bind {ε α β : Type} (a : α) (f : α → Except ε β) : (Except.ok a >>= f) = f a := rfl

/-- A copy under the condition, by induction on the source. -/
theorem copyLoop_ends {done : List Placed} (source : List Placed)
    (owned : mem.blocks = listBlocks done + rest) (sourceOwned : listBlocks source ≤ rest)
    (harmless : copyHarmless granted mem.attempts (source.map Placed.entry))
    : Ends (copyLoop granted mem (done.map Placed.entry) (source.map Placed.entry))
        (Copied done source rest) fun _ => False := by
  induction source generalizing mem done with
  | nil =>
      refine Or.inl ⟨rfl, [], ?_, rfl, ?_⟩
      · rw [List.append_nil]
      · rw [List.append_nil]
        exact owned
  | cons old source ih =>
      have strings : old.strings ≤ mem.blocks := by
        rw [owned]
        exact (strings_le_of_list sourceOwned).trans (Multiset.le_add_left _ _)
      obtain ⟨made, mem₁, iterated, built, attempts, entry, fine⟩ :=
        copyMembers_ok granted old strings
      rw [owned] at built
      rw [List.map_cons, copyHarmless] at harmless
      rw [List.map_cons, copyLoop, iterated, ok_bind]
      dsimp only
      split
      · next stopped =>
          have failed := built.failed stopped
          have missing : made.entry = none := by
            by_contra some
            have present := entry.symm.trans (Option.isSome_iff_ne_none.mpr some)
            split at harmless
            · next strings => exact failed (fine.mpr ⟨strings, present⟩)
            · rw [present] at harmless
              cases harmless
          have whole
              : mem₁.blocks
                = listBlocks done
                  + (slot none .info
                    + (stringSlot made.fileName old.fileName.2
                      + stringSlot made.homeDir ((old.homeDir.map Prod.snd).getD [])
                      + stringSlot made.version old.version.2
                      + rest)) := by
            rw [built.blocks, missing]
            abel
          rw [missing, ← bind_assoc]
          refine (cleanup_ends whole).bind fun mem₂ freed => ?_
          exact Or.inr ⟨failed, rfl, freed.1⟩
      · next self goesOn =>
          obtain ⟨new, sameEntry, info, blocks⟩ :=
            built.placed goesOn old.protocol old.reqVersion
          have appended : mem₁.blocks = listBlocks (done ++ [new]) + rest := by
            rw [blocks, listBlocks_append, listBlocks_cons, listBlocks_nil]
            abel
          have granted' := fine.mp (by
            by_contra failed
            rw [if_neg failed] at goesOn
            cases goesOn)
          rw [if_pos granted'.1, granted'.2, ← attempts] at harmless
          have later := ih appended
            ((Multiset.le_add_left _ _).trans (listBlocks_cons old source ▸ sourceOwned)) harmless
          rw [List.map_append, List.map_singleton, sameEntry] at later
          refine later.imp ?_ fun _ failed => failed
          rintro result (⟨success, copies, infos, same, blocks⟩ | failed)
          · refine Or.inl ⟨success, new :: copies, ?_, ?_, ?_⟩
            · rw [infos, List.append_assoc, List.singleton_append]
            · rw [List.map_cons, List.map_cons, same, info]
              rfl
            · rw [blocks, List.append_assoc, List.singleton_append]
          · exact Or.inr failed

/-- A copy against the condition reads a member that was never set: the clean-up meets the entry
that was allocated for the missing string.
-/
theorem copyLoop_neverSet {done : List Placed} (source : List Placed)
    (owned : mem.blocks = listBlocks done + rest) (sourceOwned : listBlocks source ≤ rest)
    (harmful : ¬copyHarmless granted mem.attempts (source.map Placed.entry))
    : copyLoop granted mem (done.map Placed.entry) (source.map Placed.entry)
      = .error .neverSet := by
  induction source generalizing mem done with
  | nil => exact absurd rfl harmful
  | cons old source ih =>
      have strings : old.strings ≤ mem.blocks := by
        rw [owned]
        exact (strings_le_of_list sourceOwned).trans (Multiset.le_add_left _ _)
      obtain ⟨made, mem₁, iterated, built, attempts, entry, fine⟩ :=
        copyMembers_ok granted old strings
      rw [owned] at built
      rw [List.map_cons, copyHarmless] at harmful
      have present : granted (entryAttempt mem.attempts old.entry) := by
        by_contra refused
        rw [Bool.not_eq_true] at refused
        simp [refused] at harmful
      rw [List.map_cons, copyLoop, iterated, ok_bind]
      dsimp only
      obtain ⟨self, isEntry⟩ := Option.isSome_iff_exists.mp (entry.trans present)
      by_cases all : stringsGranted granted mem.attempts old.entry
      · have goesOn := fine.mpr ⟨all, present⟩
        rw [if_pos goesOn]
        rw [if_pos all, present, ← attempts] at harmful
        obtain ⟨new, sameEntry, -, blocks⟩ := built.placed
          (by rw [if_pos goesOn]; exact isEntry) old.protocol old.reqVersion
        have appended : mem₁.blocks = listBlocks (done ++ [new]) + rest := by
          rw [blocks, listBlocks_append, listBlocks_cons, listBlocks_nil]
          abel
        have later := ih appended
          ((Multiset.le_add_left _ _).trans (listBlocks_cons old source ▸ sourceOwned)) harmful
        rw [List.map_append, List.map_singleton, sameEntry] at later
        rw [isEntry]
        exact later
      · have failed : copyError old.entry made ≠ 0 := fun none => all (fine.mp none).1
        rw [if_neg failed]
        have whole
            : mem₁.blocks
              = listBlocks done
                + (slot made.entry .info
                  + (stringSlot made.fileName old.fileName.2
                    + stringSlot made.homeDir ((old.homeDir.map Prod.snd).getD [])
                    + stringSlot made.version old.version.2
                    + rest)) := by
          rw [built.blocks]
          abel
        have released := engineInfoRelease_ends done whole
        simp only [engineInfoRelease_append, List.map_map, isEntry, bind_assoc]
        cases done' : engineInfoRelease mem₁ (done.map fun placed => Node.made placed.entry) with
        | error fault =>
            rw [done'] at released
            exact released.elim
        | ok mem₂ =>
            change engineInfoRelease mem₁ (done.map (Node.made ∘ Placed.entry)) >>= _ = _
            rw [show done.map (Node.made ∘ Placed.entry)
              = done.map fun placed => Node.made placed.entry from rfl, done']
            rfl

-----------------------------------------------------------------------------------------
-- Changes of an entry
-----------------------------------------------------------------------------------------

/-- The condition on a change: when its strings are allocated, so is the version that the engine
reports, or the dummy version.
-/
def setHarmless (engines : List (Option EngineOps)) (granted : Nat → Bool)
    (printed : Str → Option Str) (next : Nat) (infos : List EngineInfo) (proto : Nat)
    (fileName homeDir : Option Str)
    : Bool :=
  let name := fileName <|> engineGetFileName engines proto
  let directory := homeDir <|> engineGetHomeDir engines proto
  let reported := (reportedVersion engines printed proto name).isSome
  let version := next + 1 + if directory.isSome then 1 else 0
  infos.all (fun info => info.protocol != proto)
  || !granted next
  || (directory.isSome && !granted (next + 1))
  || (reported && granted version)
  || granted (version + if reported then 1 else 0)

/-- An entry got the given members, or else the defaults of its engine. -/
structure Installs (engines : List (Option EngineOps)) (granted : Nat → Bool)
    (printed : Str → Option Str) (since upto : Nat) (fileName homeDir : Option Str)
    (old new : Info)
    : Prop where
  protocol : new.protocol = old.protocol
  fileName : (fileName <|> engineGetFileName engines old.protocol) = some new.fileName
  homeDir : new.homeDir = (homeDir <|> engineGetHomeDir engines old.protocol)
  version
    : VersionFor granted since upto
        (reportedVersion engines printed old.protocol (some new.fileName)) new.version
  reqVersion : new.reqVersion = old.reqVersion

/-- Either no entry has the protocol, or the search stops at the first one that has it. -/
theorem span_entries (list : List Placed) (proto : Nat)
    : (∀ placed ∈ list, placed.protocol ≠ proto)
        ∧ ((list.map Placed.entry).span fun info => info.protocol != proto).2 = []
      ∨ ∃ before old after,
          list = before ++ old :: after
          ∧ (∀ other ∈ before, other.protocol ≠ proto)
          ∧ old.protocol = proto
          ∧ ((list.map Placed.entry).span fun info => info.protocol != proto)
            = (before.map Placed.entry, old.entry :: after.map Placed.entry) := by
  have mapped
      : ((list.map Placed.entry).span fun info => info.protocol != proto)
        = ((list.takeWhile fun placed => placed.protocol != proto).map Placed.entry,
          (list.dropWhile fun placed => placed.protocol != proto).map Placed.entry) := by
    rw [List.span_eq_takeWhile_dropWhile, List.takeWhile_map, List.dropWhile_map]
    rfl
  have joined := list.takeWhile_append_dropWhile (p := fun placed => placed.protocol != proto)
  have passed
      : ∀ other ∈ list.takeWhile fun placed => placed.protocol != proto,
          other.protocol ≠ proto := by
    intro other member
    exact bne_iff_ne.mp (List.all_eq_true.mp List.all_takeWhile other member)
  rw [mapped]
  cases tail : list.dropWhile fun placed => placed.protocol != proto with
  | nil =>
      rw [tail, List.append_nil] at joined
      rw [joined] at passed
      exact Or.inl ⟨passed, rfl⟩
  | cons old after =>
      rw [tail] at joined
      refine Or.inr ⟨_, old, after, joined.symm, passed, ?_, rfl⟩
      have stops := List.head?_dropWhile_not (fun placed => placed.protocol != proto) list
      rw [tail] at stops
      simpa using stops

/-- The end of a change: the old members are freed, and the new ones are installed. -/
theorem installMembers_ends {old : Placed} {fileName homeDir version : Option Nat}
    (present : version.isSome) (owned : mem.blocks = old.strings + rest)
    : Ends (installMembers mem old.entry fileName homeDir version)
        (fun result =>
          result.1 = { old.entry with fileName, homeDir, version }
          ∧ result.2.blocks = rest
          ∧ result.2.attempts = mem.attempts)
        fun _ => False := by
  unfold installMembers
  rw [Option.isNone_eq_false_iff.mpr present]
  simp only [Bool.false_eq_true, if_false, Placed.entry, Option.isNone_some]
  exact (freeMembers_ends owned).bind fun mem₁ freed => ⟨rfl, freed⟩

/-- When the version is missing, the entry is left without one. -/
theorem installMembers_missing {old : Placed} {fileName homeDir : Option Nat} {first second : Str}
    (owned
      : mem.blocks = stringSlot fileName first + (stringSlot homeDir second + (old.strings + rest)))
    : Ends (installMembers mem old.entry fileName homeDir none)
        (fun result => result.1.version = none) fun _ => False := by
  unfold installMembers
  simp only [Option.isNone_none, if_true, Placed.entry, Option.isNone_some, Bool.false_eq_true,
    if_false]
  refine (free_ends owned).bind fun mem₁ freed₁ => ?_
  refine (free_ends freed₁.1).bind fun mem₂ freed₂ => ?_
  exact (freeMembers_ends freed₂.1).bind fun mem₃ freed₃ => rfl

section Change

/-- The code for a bad value is an error. -/
theorem invValue_ne_zero : gpgError ErrCode.invValue ≠ 0 := by decide

/-- The code for a bad engine is an error. -/
theorem invEngine_ne_zero : gpgError ErrCode.invEngine ≠ 0 := by decide

variable {printed : Str → Option Str} {list : List Placed} {proto : Nat}
  {fileName homeDir : Option Str}

/-- A change that was refused: the whole list is as before. -/
def Refused (list : List Placed) (rest : Multiset (Nat × Block))
    (result : GpgError × List EngineInfo × Memory)
    : Prop :=
  result.1 ≠ 0
  ∧ result.2.1 = list.map Placed.entry
  ∧ result.2.2.blocks = listBlocks list + rest

/-- The new members of an entry, before they are installed. -/
structure Prepared (engines : List (Option EngineOps)) (granted : Nat → Bool)
    (printed : Str → Option Str) (since : Nat) (proto : Nat) (fileName homeDir : Option Str)
    (rest : Multiset (Nat × Block)) (file : Nat × Str) (home : Option (Nat × Str))
    (version : Option Nat) (text : Str) (next : Memory)
    : Prop where
  name : (fileName <|> engineGetFileName engines proto) = some file.2
  directory : home.map Prod.snd = (homeDir <|> engineGetHomeDir engines proto)
  chosen
    : VersionFor granted since next.attempts
        (reportedVersion engines printed proto (some file.2)) text
  blocks
    : next.blocks
      = stringSlot (some file.1) file.2
        + (stringSlot (home.map Prod.fst) ((home.map Prod.snd).getD [])
          + (stringSlot version text + rest))

/-- A change is refused, or its new members are prepared; the version among them is there exactly
under the condition.
-/
theorem setEngineInfo_cases
    (known : ∀ placed ∈ list, (engineGetFileName engines placed.protocol).isSome)
    (owned : mem.blocks = listBlocks list + rest)
    {result : Except Fault (GpgError × List EngineInfo × Memory)}
    (changed
      : setEngineInfo engines granted printed mem (list.map Placed.entry) proto fileName homeDir
        = result)
    {harmless : Bool}
    (condition
      : setHarmless engines granted printed mem.attempts (list.map Placed.entry) proto fileName
          homeDir
        = harmless)
    : (Ends result (Refused list rest) (fun _ => False) ∧ harmless)
      ∨ ∃ before old after file home version text next,
          list = before ++ old :: after
          ∧ (∀ other ∈ before, other.protocol ≠ proto)
          ∧ old.protocol = proto
          ∧ Prepared engines granted printed mem.attempts proto fileName homeDir
            (listBlocks list + rest) file home version text next
          ∧ version.isSome = harmless
          ∧ result
            = (installMembers next old.entry (some file.1) (home.map Prod.fst) version
              >>= fun result =>
                .ok
                  (0, before.map Placed.entry ++ result.1 :: after.map Placed.entry,
                    result.2)) := by
  have absent (none : ∀ placed ∈ list, placed.protocol ≠ proto) : harmless := by
    have all : (list.map Placed.entry).all (fun info => info.protocol != proto) := by
      rw [List.all_map, List.all_eq_true]
      intro placed member
      exact bne_iff_ne.mpr (none placed member)
    simp [← condition, setHarmless, all]
  unfold setEngineInfo at changed
  split at changed
  · next behind =>
      rw [← changed]
      refine Or.inl ⟨⟨invValue_ne_zero, rfl, owned⟩, absent ?_⟩
      intro placed member same
      have unknown : engineGetFileName engines placed.protocol = none := by
        unfold engineGetFileName engineOps
        rw [same, if_pos behind]
        rfl
      have named := known placed member
      rw [unknown] at named
      cases named
  · rcases span_entries list proto
      with ⟨none, stops⟩ | ⟨before, old, after, whole, passed, same, stops⟩
    · cases spanned : (list.map Placed.entry).span (fun info => info.protocol != proto) with
      | mk first second =>
          rw [spanned] at stops changed
          simp only at stops
          subst stops
          rw [← changed]
          exact Or.inl ⟨⟨invEngine_ne_zero, rfl, owned⟩, absent none⟩
    · rw [stops] at changed
      simp only at changed
      have fileNamed : ∃ name, (fileName <|> engineGetFileName engines proto) = some name := by
        cases fileName with
        | some name => exact ⟨name, rfl⟩
        | none =>
            have named := known old (by rw [whole]; simp)
            rw [same] at named
            exact Option.isSome_iff_exists.mp named
      obtain ⟨name, named⟩ := fileNamed
      have here : (list.map Placed.entry).all (fun info => info.protocol != proto) = false := by
        rw [whole, List.map_append, List.map_cons, List.all_append, List.all_cons]
        simp [Placed.entry, same]
      have madeFile := strdup_duplicated granted mem (some name)
      have madeHome := strdup_duplicated granted (strdup granted mem (some name)).2
        (homeDir <|> engineGetHomeDir engines proto)
      simp only [setHarmless, here, named] at condition
      simp only [newFileName, named] at changed
      change (if (strdup granted mem (some name)).1.isNone then _ else _) = result at changed
      generalize directory : (homeDir <|> engineGetHomeDir engines proto) = ohomeDir
        at madeHome changed condition
      generalize strdup granted mem (some name) = file at madeFile madeHome changed
      generalize strdup granted file.2 ohomeDir = home at madeHome changed
      have fileGranted := madeFile.granted
      have homeGranted := madeHome.granted
      rw [madeFile.attempts] at homeGranted
      split at changed
      · next missing =>
          rw [Option.isNone_iff_eq_none] at missing
          rw [missing] at fileGranted
          refine Or.inl ⟨?_, ?_⟩
          · rw [← changed]
            refine ⟨enomem_ne_zero, rfl, ?_⟩
            rw [← owned, madeFile.blocks, missing]
            exact zero_add _
          · simp at fileGranted
            simp [← condition, ← fileGranted]
      · next present =>
          split at changed
          · next refused =>
              rw [Bool.and_eq_true, Option.isNone_iff_eq_none] at refused
              refine Or.inl ⟨?_, ?_⟩
              · rw [← changed]
                have fileOnly
                    : home.2.blocks = stringSlot file.1 name + (listBlocks list + rest) := by
                  rw [madeHome.blocks, refused.2, madeFile.blocks, owned]
                  exact zero_add _
                exact (free_ends fileOnly).bind fun mem₁ freed => ⟨enomem_ne_zero, rfl, freed.1⟩
              · rw [refused.2, refused.1] at homeGranted
                simp [attemptsFor] at homeGranted
                simp [← condition, refused.1, ← homeGranted]
          · next goesOn =>
              rw [Option.isNone_iff_eq_none] at present
              obtain ⟨fileAt, isFile⟩ := Option.ne_none_iff_exists'.mp present
              have notMissing : ¬(ohomeDir.isSome ∧ home.1.isNone) := by
                rwa [Bool.and_eq_true] at goesOn
              obtain ⟨pair, pointer, text⟩ := madeHome.complete notMissing
              have madeVersion
                  : Duplicated granted home.2 (reportedVersion engines printed proto (some name))
                      (engineGetVersion engines granted printed home.2 proto (some name)) :=
                strdup_duplicated granted home.2 _
              generalize
                engineGetVersion engines granted printed home.2 proto (some name) = reported
                at madeVersion changed
              have versionOwned
                  : reported.2.blocks
                    = stringSlot reported.1
                        ((reportedVersion engines printed proto (some name)).getD [])
                      + (stringSlot home.1 (ohomeDir.getD [])
                        + (stringSlot file.1 name + (listBlocks list + rest))) := by
                rw [madeVersion.blocks, madeHome.blocks, madeFile.blocks, owned, Option.getD_some]
              obtain ⟨version, stored, chosen, grown, isVersion⟩ :=
                versionOrDummy_spec madeVersion versionOwned le_rfl
              generalize versionOrDummy granted reported.2 reported.1 = installed
                at stored grown isVersion changed
              have grownFile : mem.attempts ≤ home.2.attempts := by
                rw [madeHome.attempts, madeFile.attempts]
                omega
              refine Or.inr ⟨before, old, after, (fileAt, name), pair, installed.1, version,
                installed.2, whole, passed, same,
                ⟨named, text.trans directory.symm, chosen.mono grownFile grown, ?_⟩, ?_, ?_⟩
              · rw [stored, pointer, text, isFile]
                abel
              · have first : granted mem.attempts := by
                  rw [isFile] at fileGranted
                  simpa using fileGranted.symm
                have second : (ohomeDir.isSome && !granted (mem.attempts + 1)) = false := by
                  cases ohomeDir with
                  | none => rfl
                  | some directory =>
                      have one : attemptsFor (some name) = 1 := rfl
                      rw [one, Option.isSome_some, Bool.true_and] at homeGranted
                      simpa [← homeGranted, Option.isSome_iff_ne_none] using goesOn
                rw [isVersion, madeVersion.granted, madeVersion.attempts, madeHome.attempts,
                  madeFile.attempts, ← condition, first, second]
                rfl
              · rw [← changed, isFile, pointer]
                rfl

/-- How a change ends: with the first entry of the protocol changed, or refused. -/
def Changed (engines : List (Option EngineOps)) (granted : Nat → Bool)
    (printed : Str → Option Str) (since : Nat) (list : List Placed) (proto : Nat)
    (fileName homeDir : Option Str) (rest : Multiset (Nat × Block))
    (result : GpgError × List EngineInfo × Memory)
    : Prop :=
  result.1 = 0
    ∧ (∃ before old after new,
        list = before ++ old :: after
        ∧ (∀ other ∈ before, other.protocol ≠ proto)
        ∧ old.protocol = proto
        ∧ result.2.1 = (before ++ new :: after).map Placed.entry
        ∧ result.2.2.blocks = listBlocks (before ++ new :: after) + rest
        ∧ Installs engines granted printed since result.2.2.attempts fileName homeDir old.info
          new.info)
  ∨ Refused list rest result

/-- A change under the condition. -/
theorem setEngineInfo_ends
    (known : ∀ placed ∈ list, (engineGetFileName engines placed.protocol).isSome)
    (owned : mem.blocks = listBlocks list + rest)
    (harmless
      : setHarmless engines granted printed mem.attempts (list.map Placed.entry) proto fileName
        homeDir)
    : Ends
        (setEngineInfo engines granted printed mem (list.map Placed.entry) proto fileName homeDir)
        (Changed engines granted printed mem.attempts list proto fileName homeDir rest)
        fun _ => False := by
  rcases setEngineInfo_cases known owned rfl harmless
    with ⟨refused, -⟩ | ⟨before, old, after, file, home, version, text, next, whole, passed, same,
      prepared, isVersion, changed⟩
  · exact refused.imp (fun _ => Or.inr) fun _ failed => failed
  · obtain ⟨versionAt, isVersion⟩ := Option.isSome_iff_exists.mp isVersion
    rw [changed, isVersion]
    have blocks
        : next.blocks
          = old.strings
            + (stringSlot (some file.1) file.2
              + (stringSlot (home.map Prod.fst) ((home.map Prod.snd).getD [])
                + (stringSlot (some versionAt) text
                  + (slot (some old.self) .info
                    + (listBlocks before + listBlocks after + rest))))) := by
      rw [prepared.blocks, whole, listBlocks_append, listBlocks_cons, isVersion]
      unfold Placed.blocks
      abel
    refine (installMembers_ends rfl blocks).bind ?_
    rintro ⟨installed, mem₁⟩ ⟨sameEntry, freed, attempts⟩
    refine Or.inl ⟨rfl, before, old, after,
      { old with fileName := file, homeDir := home, version := (versionAt, text) },
      whole, passed, same, ?_, ?_, ?_⟩
    · rw [List.map_append, List.map_cons]
      simp only at sameEntry
      rw [sameEntry]
      rfl
    · simp only at freed ⊢
      rw [freed, listBlocks_append, listBlocks_cons]
      unfold Placed.blocks Placed.strings
      simp only
      abel
    · rw [← same] at prepared
      have chosen := prepared.chosen
      simp only at attempts ⊢
      rw [← attempts] at chosen
      exact ⟨rfl, prepared.name, prepared.directory, chosen, rfl⟩

/-- A change against the condition succeeds, and leaves an entry without a version. -/
theorem setEngineInfo_harmful
    (known : ∀ placed ∈ list, (engineGetFileName engines placed.protocol).isSome)
    (owned : mem.blocks = listBlocks list + rest)
    (harmful
      : ¬setHarmless engines granted printed mem.attempts (list.map Placed.entry) proto fileName
        homeDir)
    : Ends
        (setEngineInfo engines granted printed mem (list.map Placed.entry) proto fileName homeDir)
        (fun result => ∃ info ∈ result.2.1, info.version = none) fun _ => False := by
  rw [Bool.not_eq_true] at harmful
  rcases setEngineInfo_cases known owned rfl harmful
    with ⟨-, contra⟩ | ⟨before, old, after, file, home, version, text, next, whole, passed, same,
      prepared, isVersion, changed⟩
  · cases contra
  · rw [Option.isSome_eq_false_iff, Option.isNone_iff_eq_none] at isVersion
    rw [changed, isVersion]
    have blocks
        : next.blocks
          = stringSlot (some file.1) file.2
            + (stringSlot (home.map Prod.fst) ((home.map Prod.snd).getD [])
              + (old.strings
                + (slot (some old.self) .info
                  + (listBlocks before + listBlocks after + rest)))) := by
      rw [prepared.blocks, whole, listBlocks_append, listBlocks_cons, isVersion]
      unfold Placed.blocks stringSlot
      rw [slot_none]
      abel
    refine (installMembers_missing blocks).bind ?_
    rintro ⟨installed, mem₁⟩ missing
    exact ⟨installed, by simp, missing⟩

end Change

end Gpgme.InfoLists
