import Gpgme.EngineGpg.Arguments
import Gpgme.Lib.Fallible

/-! The argument vector that `build_argv` fills fits its allocation as long as few enough options
come from the flags of the engine. The first pass counts four arguments for the options of which
the second pass may write seven.
-/

namespace Gpgme

open CString Fallible

-----------------------------------------------------------------------------------------
-- Where the entries of the argument list go
-----------------------------------------------------------------------------------------

/-- The index in the vector of the argument that an entry gets. -/
def slotOf (base : Nat) (arglist : List ArgAndData) (position : Nat) : Nat :=
  base + (arglist.take position).countP ArgAndData.takesSlot

/-- The index in `fd_data_map` of a data object. -/
def dataIndex (arglist : List ArgAndData) (position : Nat) : Nat :=
  (arglist.take position).countP ArgAndData.isData

/-- Every entry finds its text in its own slot, and that slot is what is recorded for it. -/
structure OwnSlots (base : Nat) (arglist : List ArgAndData) (argv : Nat → Option Str)
    (fdDataMap : Nat → Option FdDataMap) (argLocs : List (Nat × Nat)) : Prop where
  arg : ∀ position text argLocp, arglist[position]? = some (.arg text argLocp)
    → argv (slotOf base arglist position) = some text
  data : ∀ position data inbound printFd,
    arglist[position]? = some (.data data inbound (-1) printFd)
    → ∃ entry,
        fdDataMap (dataIndex arglist position) = some entry
        ∧ entry.data = data
        ∧ entry.argLoc = slotOf base arglist position
        ∧ argv entry.argLoc = some (fdText printFd entry.peerFd)
  stored : ∀ loc value, (loc, value) ∈ argLocs
    ↔ ∃ position text,
        arglist[position]? = some (.arg text (some loc))
        ∧ value = slotOf base arglist position
  distinct : ∀ position later a, position < later → arglist[position]? = some a → a.takesSlot
    → slotOf base arglist position < slotOf base arglist later

/-- What the second pass adds to the vectors at an entry. -/
def Adds (argc : Nat) (texts : List Str) (entries : List FdDataMap)
    (argLocs : List (Nat × Nat)) : ArgAndData → Prop
  | .arg text argLocp =>
      texts = [text] ∧ entries = [] ∧ argLocs = argLocp.toList.map (fun loc => (loc, argc))
  | .data data _ dupTo printFd =>
      argLocs = []
      ∧ ∃ entry,
          entries = [entry]
          ∧ if dupTo = -1 then
              entry.data = data ∧ entry.argLoc = argc ∧ texts = [fdText printFd entry.peerFd]
            else texts = []

theorem Adds.lengths {argc : Nat} {texts : List Str} {entries : List FdDataMap}
    {argLocs : List (Nat × Nat)} {a : ArgAndData} (adds : Adds argc texts entries argLocs a)
    : texts.length = a.takesSlot.toNat ∧ entries.length = a.isData.toNat := by
  cases a with
  | arg text argLocp =>
      obtain ⟨rfl, rfl, _⟩ := adds
      exact ⟨rfl, rfl⟩
  | data data inbound dupTo printFd =>
      obtain ⟨_, entry, rfl, filled⟩ := adds
      split at filled
      · next special =>
          obtain ⟨_, _, rfl⟩ := filled
          simp [ArgAndData.takesSlot, ArgAndData.isData, special]
      · next other =>
          subst filled
          have absent : (dupTo == -1) = false := beq_false_of_ne other
          simp [ArgAndData.takesSlot, ArgAndData.isData, absent]

/-- The texts and the map entries for a part of the argument list. -/
structure Progress (base : Nat) (done : List ArgAndData) (texts : List Str)
    (entries : List FdDataMap) (argLocs : List (Nat × Nat)) : Prop where
  argc : texts.length = base + done.countP ArgAndData.takesSlot
  datac : entries.length = done.countP ArgAndData.isData
  own : OwnSlots base done (texts[·]?) (entries[·]?) argLocs

theorem countP_singleton_toNat {α : Type*} (p : α → Bool) (a : α)
    : [a].countP p = (p a).toNat := by
  cases holds : p a <;> simp [holds]

theorem slotOf_earlier {base : Nat} {done : List ArgAndData} {position : Nat}
    (earlier : position < done.length) (a : ArgAndData)
    : slotOf base (done ++ [a]) position = slotOf base done position := by
  unfold slotOf
  rw [List.take_append_of_le_length earlier.le]

theorem dataIndex_earlier {done : List ArgAndData} {position : Nat}
    (earlier : position < done.length) (a : ArgAndData)
    : dataIndex (done ++ [a]) position = dataIndex done position := by
  unfold dataIndex
  rw [List.take_append_of_le_length earlier.le]

theorem getElem?_append_kept {α : Type*} {xs : List α} {index : Nat} {x : α}
    (found : xs[index]? = some x) (more : List α)
    : (xs ++ more)[index]? = some x := by
  obtain ⟨inside, _⟩ := List.getElem?_eq_some_iff.mp found
  rw [List.getElem?_append_left inside, found]

theorem getElem?_snoc_eq_some {α : Type*} {xs : List α} {x y : α} {index : Nat}
    (found : (xs ++ [x])[index]? = some y)
    : (index < xs.length ∧ xs[index]? = some y) ∨ (index = xs.length ∧ x = y) := by
  rcases Nat.lt_or_ge index xs.length with earlier | later
  · rw [List.getElem?_append_left earlier] at found
    exact Or.inl ⟨earlier, found⟩
  · rw [List.getElem?_append_right later] at found
    obtain ⟨inside, same⟩ := List.getElem?_eq_some_iff.mp found
    simp only [List.length_singleton, Nat.lt_one_iff] at inside
    simp only [inside, List.getElem_cons_zero] at same
    exact Or.inr ⟨by omega, same⟩

theorem slotOf_lt (base : Nat) {arglist : List ArgAndData} {position later : Nat}
    {a : ArgAndData} (before : position < later) (found : arglist[position]? = some a)
    (takes : a.takesSlot)
    : slotOf base arglist position < slotOf base arglist later := by
  obtain ⟨inside, same⟩ := List.getElem?_eq_some_iff.mp found
  have next : slotOf base arglist (position + 1) = slotOf base arglist position + 1 := by
    unfold slotOf
    rw [List.take_succ_eq_append_getElem inside, same, List.countP_append,
      countP_singleton_toNat, takes]
    rfl
  have further : slotOf base arglist (position + 1) ≤ slotOf base arglist later := by
    refine Nat.add_le_add_left (List.Sublist.countP_le ?_) base
    exact (List.take_prefix_take_left before).sublist
  omega

theorem start_progress (options : List Str) : Progress options.length [] options [] [] where
  argc := rfl
  datac := rfl
  own := {
    arg := by simp
    data := by simp
    stored := by simp
    distinct := fun _ _ _ before found takes => slotOf_lt _ before found takes }

theorem Progress.snoc {base : Nat} {done : List ArgAndData} {texts newTexts : List Str}
    {entries newEntries : List FdDataMap} {argLocs newLocs : List (Nat × Nat)} {a : ArgAndData}
    (progress : Progress base done texts entries argLocs)
    (adds : Adds texts.length newTexts newEntries newLocs a)
    : Progress base (done ++ [a]) (texts ++ newTexts) (entries ++ newEntries)
        (argLocs ++ newLocs) := by
  obtain ⟨newArgc, newDatac⟩ := adds.lengths
  have lastSlot : slotOf base (done ++ [a]) done.length = texts.length := by
    unfold slotOf
    rw [List.take_left, progress.argc]
  have lastData : dataIndex (done ++ [a]) done.length = entries.length := by
    unfold dataIndex
    rw [List.take_left, progress.datac]
  refine ⟨?_, ?_, ?_, ?_, ?_, fun _ _ _ before found takes => slotOf_lt _ before found takes⟩
  · rw [List.length_append, newArgc, progress.argc, List.countP_append, countP_singleton_toNat]
    omega
  · rw [List.length_append, newDatac, progress.datac, List.countP_append,
      countP_singleton_toNat]
  · intro position text argLocp found
    rcases getElem?_snoc_eq_some found with ⟨earlier, found⟩ | ⟨rfl, rfl⟩
    · rw [slotOf_earlier earlier]
      exact getElem?_append_kept (progress.own.arg position text argLocp found) newTexts
    · obtain ⟨rfl, _, _⟩ := adds
      rw [lastSlot, List.getElem?_concat_length]
  · intro position data inbound printFd found
    rcases getElem?_snoc_eq_some found with ⟨earlier, found⟩ | ⟨rfl, rfl⟩
    · obtain ⟨entry, mapped, same, loc, text⟩ :=
        progress.own.data position data inbound printFd found
      rw [slotOf_earlier earlier, dataIndex_earlier earlier]
      exact ⟨entry, getElem?_append_kept mapped newEntries, same, loc,
        getElem?_append_kept text newTexts⟩
    · obtain ⟨_, entry, rfl, filled⟩ := adds
      rw [if_pos rfl] at filled
      obtain ⟨same, loc, rfl⟩ := filled
      refine ⟨entry, ?_, same, loc.trans lastSlot.symm, ?_⟩
      · rw [lastData, List.getElem?_concat_length]
      · rw [loc, List.getElem?_concat_length]
  · intro loc value
    rw [List.mem_append, progress.own.stored]
    constructor
    · rintro (⟨position, text, found, rfl⟩ | added)
      · obtain ⟨earlier, _⟩ := List.getElem?_eq_some_iff.mp found
        exact ⟨position, text, getElem?_append_kept found [a], (slotOf_earlier earlier a).symm⟩
      · cases a with
        | arg text argLocp =>
            obtain ⟨_, _, rfl⟩ := adds
            simp only [List.mem_map, Option.mem_toList, Prod.mk.injEq] at added
            obtain ⟨_, rfl, rfl, rfl⟩ := added
            exact ⟨done.length, text, List.getElem?_concat_length, lastSlot.symm⟩
        | data data inbound dupTo printFd =>
            obtain ⟨rfl, _⟩ := adds
            exact absurd added (List.not_mem_nil)
    · rintro ⟨position, text, found, rfl⟩
      rcases getElem?_snoc_eq_some found with ⟨earlier, found⟩ | ⟨rfl, rfl⟩
      · exact Or.inl ⟨position, text, found, slotOf_earlier earlier a⟩
      · obtain ⟨_, _, rfl⟩ := adds
        rw [lastSlot]
        exact Or.inr (by simp)

-----------------------------------------------------------------------------------------
-- The second pass
-----------------------------------------------------------------------------------------

/-- The vectors were allocated for these counts and hold these values. -/
structure Vectors.Holds (v : Vectors) (argc datac : Nat) (texts : List Str)
    (entries : List FdDataMap) : Prop where
  argv : v.argv.Holds texts
  fdDataMap : v.fdDataMap.Holds entries
  argvCells : v.argv.cells.length = argc + 1
  mapCells : v.fdDataMap.cells.length = datac + 1

/-- Every write in the vectors lies in front of these counts. -/
def Vectors.Fits (v : Vectors) (argc datac : Nat) : Prop :=
  v.argv.Fits argc ∧ v.fdDataMap.Fits datac

theorem Vectors.Fits.mono {v : Vectors} {argc argc' datac datac' : Nat}
    (fits : v.Fits argc datac) (moreArgs : argc ≤ argc') (moreData : datac ≤ datac')
    : v.Fits argc' datac' :=
  ⟨fits.1.mono moreArgs, fits.2.mono moreData⟩

variable {sys : System} {gpg : EngineGpg} {argc datac : Nat}

theorem Vectors.Holds.fits {v : Vectors} {texts : List Str} {entries : List FdDataMap}
    (holds : v.Holds argc datac texts entries)
    : v.Fits texts.length entries.length :=
  ⟨holds.argv.fits_iff.mpr le_rfl, holds.fdDataMap.fits_iff.mpr le_rfl⟩

theorem pushText_ends {v : Vectors} {texts : List Str} {entries : List FdDataMap}
    (holds : v.Holds argc datac texts entries) (text : Str)
    : Ends (pushText sys v text)
        (fun next =>
          next.Holds argc datac (texts ++ [text]) entries ∧ next.argLocs = v.argLocs)
        (fun stopped => stopped.2.Fits (texts.length + 1) entries.length) := by
  unfold pushText
  split
  · refine ⟨⟨holds.argv.push text, holds.fdDataMap, ?_, holds.mapCells⟩, rfl⟩
    rw [CountedVector.length_push, holds.argvCells]
  · exact ⟨holds.argv.put_fits (Nat.lt_succ_self _) none, holds.fits.2⟩

theorem pushOptions_ends {v : Vectors} (holds : v.Holds argc datac [] []) (options : List Str)
    : Ends (options.foldlM (pushText sys) v)
        (fun next => next.Holds argc datac options [] ∧ next.argLocs = v.argLocs)
        (fun stopped => stopped.2.Fits options.length 0) := by
  let invariant (done : List Str) (next : Vectors) : Prop :=
    next.Holds argc datac done [] ∧ next.argLocs = v.argLocs
  have start : invariant [] v := ⟨holds, rfl⟩
  refine Ends.foldlM start ?_
  rintro done text rest next rfl ⟨holds', same⟩
  refine (pushText_ends holds' text).imp ?_ ?_
  · rintro value ⟨holds'', same'⟩
    exact ⟨holds'', same'.trans same⟩
  · intro stopped fits
    refine fits.mono ?_ (Nat.zero_le _)
    rw [List.length_append, List.length_cons]
    omega

theorem buildData_ends {v : Vectors} {texts : List Str} {entries : List FdDataMap}
    (holds : v.Holds argc datac texts entries) (data : Nat) (inbound : Bool) (dupTo : Int)
    (printFd : Bool)
    : Ends (buildData sys gpg v data inbound dupTo printFd)
        (fun next =>
          ∃ newTexts newEntries,
            Adds texts.length newTexts newEntries [] (.data data inbound dupTo printFd)
            ∧ next.Holds argc datac (texts ++ newTexts) (entries ++ newEntries)
            ∧ next.argLocs = v.argLocs)
        (fun stopped =>
          stopped.2.Fits (texts.length + (dupTo == -1).toNat) (entries.length + 1)) := by
  have keepsArgv : v.argv.Fits (texts.length + (dupTo == -1).toNat) :=
    holds.fits.1.mono (Nat.le_add_right _ _)
  have putsEntry (entry : FdDataMap)
      : (v.fdDataMap.put (some entry)).Fits (entries.length + 1) :=
    holds.fdDataMap.put_fits (Nat.lt_succ_self _) _
  have pushed (entry : FdDataMap)
      : (v.fdDataMap.push entry).cells.length = datac + 1 := by
    rw [CountedVector.length_push, holds.mapCells]
  unfold buildData
  dsimp only
  split
  · exact ⟨keepsArgv, putsEntry _⟩
  · split
    · exact ⟨keepsArgv, putsEntry _⟩
    · split
      · exact ⟨keepsArgv, putsEntry _⟩
      · split
        · next special =>
            split
            · refine ⟨[_], [_], ⟨rfl, _, rfl, ?_⟩, ⟨holds.argv.push _, holds.fdDataMap.push _,
                ?_, pushed _⟩, rfl⟩
              · rw [if_pos special]
                exact ⟨rfl, holds.argv.next, rfl⟩
              · rw [CountedVector.length_push, holds.argvCells]
            · refine ⟨holds.argv.put_fits ?_ none, putsEntry _⟩
              simp [special]
        · next other =>
            refine ⟨[], [_], ⟨rfl, _, rfl, ?_⟩, ⟨?_, holds.fdDataMap.push _, holds.argvCells,
              pushed _⟩, rfl⟩
            · rw [if_neg other]
            · rw [List.append_nil]
              exact holds.argv

theorem buildArg_ends {v : Vectors} {texts : List Str} {entries : List FdDataMap}
    (holds : v.Holds argc datac texts entries) (a : ArgAndData)
    : Ends (buildArg sys gpg v a)
        (fun next =>
          ∃ newTexts newEntries newLocs,
            Adds texts.length newTexts newEntries newLocs a
            ∧ next.Holds argc datac (texts ++ newTexts) (entries ++ newEntries)
            ∧ next.argLocs = v.argLocs ++ newLocs)
        (fun stopped =>
          stopped.2.Fits (texts.length + a.takesSlot.toNat)
            (entries.length + a.isData.toNat)) := by
  cases a with
  | arg text argLocp =>
      have moved
          : ({ v with
                argLocs := v.argLocs ++ argLocp.toList.map (fun loc => (loc, v.argv.next))
              } : Vectors).Holds argc datac texts entries :=
        ⟨holds.argv, holds.fdDataMap, holds.argvCells, holds.mapCells⟩
      refine (pushText_ends moved text).imp ?_ ?_
      · rintro next ⟨holds', same⟩
        refine ⟨[text], [], _, ⟨rfl, rfl, rfl⟩, ?_, ?_⟩
        · rw [List.append_nil]
          exact holds'
        · rw [same, holds.argv.next]
      · intro stopped fits
        exact fits
  | data data inbound dupTo printFd =>
      refine (buildData_ends holds data inbound dupTo printFd).imp ?_ ?_
      · rintro next ⟨newTexts, newEntries, adds, holds', same⟩
        exact ⟨newTexts, newEntries, [], adds, holds', by rw [same, List.append_nil]⟩
      · intro stopped fits
        exact fits

/-- The state of the second pass when a part of the argument list is done. -/
def Reached (argc datac base : Nat) (done : List ArgAndData) (v : Vectors) : Prop :=
  ∃ texts entries,
    v.Holds argc datac texts entries ∧ Progress base done texts entries v.argLocs

theorem buildArgs_ends {v : Vectors} {base : Nat} {arglist : List ArgAndData}
    (start : Reached argc datac base [] v)
    : Ends (arglist.foldlM (buildArg sys gpg) v)
        (Reached argc datac base arglist)
        (fun stopped =>
          stopped.2.Fits (base + arglist.countP ArgAndData.takesSlot)
            (arglist.countP ArgAndData.isData)) := by
  refine Ends.foldlM start ?_
  rintro done a rest next rfl ⟨texts, entries, holds, progress⟩
  refine (buildArg_ends holds a).imp ?_ ?_
  · rintro value ⟨newTexts, newEntries, newLocs, adds, holds', locs⟩
    refine ⟨_, _, holds', ?_⟩
    rw [locs]
    exact progress.snoc adds
  · intro stopped fits
    have parts (p : ArgAndData → Bool)
        : (done ++ a :: rest).countP p = done.countP p + (p a).toNat + rest.countP p := by
      rw [List.countP_append, List.countP_cons]
      cases p a with
      | true => simp only [if_true, Bool.toNat_true]; omega
      | false => simp
    refine fits.mono ?_ ?_
    · rw [progress.argc, parts]
      omega
    · rw [progress.datac, parts]
      omega

/-- The vectors before the second pass. -/
def EngineGpg.newVectors (gpg : EngineGpg) (useAgent : Bool) : Vectors where
  argv := .allocate (gpg.countArgs useAgent)
  fdDataMap := .allocate gpg.countData
  cmdIdx := gpg.cmdIdx

/-- The number of arguments that the second pass writes. -/
def EngineGpg.argsWritten (gpg : EngineGpg) (useAgent : Bool) (pgmname : Str) : Nat :=
  (gpg.optionArgs useAgent pgmname).length + gpg.arglist.countP ArgAndData.takesSlot

theorem fillVectors_ends (sys : System) (gpg : EngineGpg) (useAgent : Bool) (pgmname : Str)
    : Ends (fillVectors sys gpg (gpg.optionArgs useAgent pgmname) (gpg.newVectors useAgent))
        (Reached (gpg.countArgs useAgent) gpg.countData
          (gpg.optionArgs useAgent pgmname).length gpg.arglist)
        (fun stopped => stopped.2.Fits (gpg.argsWritten useAgent pgmname) gpg.countData) := by
  have new : (gpg.newVectors useAgent).Holds (gpg.countArgs useAgent) gpg.countData [] [] :=
    ⟨CountedVector.allocate_holds _, CountedVector.allocate_holds _,
      List.length_replicate, List.length_replicate⟩
  have started
      : Ends ((gpg.optionArgs useAgent pgmname).foldlM (pushText sys) (gpg.newVectors useAgent))
          (Reached (gpg.countArgs useAgent) gpg.countData
            (gpg.optionArgs useAgent pgmname).length [])
          (fun stopped =>
            stopped.2.Fits (gpg.argsWritten useAgent pgmname) gpg.countData) := by
    refine (pushOptions_ends new _).imp ?_ ?_
    · rintro v ⟨holds, same⟩
      refine ⟨_, _, holds, ?_⟩
      rw [same]
      exact start_progress _
    · intro stopped fits
      exact fits.mono (Nat.le_add_right _ _) (Nat.zero_le _)
  exact started.bind fun v reached => buildArgs_ends reached

-----------------------------------------------------------------------------------------
-- The condition
-----------------------------------------------------------------------------------------

namespace EngineGpg

/-- The entry is the data object of the command handler. -/
def isCommand (gpg : EngineGpg) : ArgAndData → Bool
  | .arg _ _ => false
  | .data data _ _ _ => gpg.isCallback data

/-- The number of flags that are set. -/
def flagCount (gpg : EngineGpg) : Nat :=
  (gpg.requestOrigin != []).toNat + gpg.autoKeyLocate.isSome.toNat
    + gpg.trustModel.isSome.toNat + gpg.noSymkeyCache.toNat + gpg.ignoreMdcError.toNat
    + gpg.offline.toNat

/-- A pinentry mode is counted, but the version of the program does not take one. -/
def pinentryUnused (gpg : EngineGpg) : Bool :=
  gpg.pinentryMode != .default && !gpg.haveGpgVersion "2.1.0"

/-- No more flags are set than three, one for each data object that is duplicated to a
descriptor of its own, and one for a pinentry mode that is not passed on.
-/
def OptionsFit (gpg : EngineGpg) : Prop :=
  gpg.flagCount
    ≤ 3 + gpg.arglist.countP (fun a => !a.takesSlot) + gpg.pinentryUnused.toNat

theorem length_optional (set : Bool) (text : Str)
    : (if set then [text] else []).length = set.toNat := by
  cases set <;> rfl

theorem length_flagArgs (gpg : EngineGpg) : gpg.flagArgs.length = gpg.flagCount := by
  have given (text : Option Str) : text.toList.length = text.isSome.toNat := by
    cases text <;> rfl
  have origin
      : (if gpg.requestOrigin = [] then []
          else [str "--request-origin=" ++ gpg.requestOrigin]).length
        = (gpg.requestOrigin != []).toNat := by
    cases gpg.requestOrigin <;> rfl
  unfold flagArgs flagCount
  simp only [List.length_append, length_optional, given, origin]

theorem length_pinentryArg (gpg : EngineGpg)
    : gpg.pinentryArg.toList.length + gpg.pinentryUnused.toNat
      = (gpg.pinentryMode != .default).toNat := by
  unfold pinentryArg pinentryUnused
  cases gpg.pinentryMode <;> cases gpg.haveGpgVersion "2.1.0" <;> rfl

theorem argsWritten_le_iff (gpg : EngineGpg) (useAgent : Bool) (pgmname : Str)
    : gpg.argsWritten useAgent pgmname ≤ gpg.countArgs useAgent ↔ gpg.OptionsFit := by
  have batch : (if gpg.cmdUsed then [] else [str "--batch"]).length = (!gpg.cmdUsed).toNat := by
    cases gpg.cmdUsed <;> rfl
  have split := List.length_eq_countP_add_countP ArgAndData.takesSlot (l := gpg.arglist)
  have pinentry := gpg.length_pinentryArg
  unfold argsWritten optionArgs countArgs OptionsFit
  simp only [List.length_append, length_optional, batch, gpg.length_flagArgs,
    List.length_singleton]
  simp only [Bool.not_eq_true, Bool.decide_eq_false] at split
  omega

/-- The argument list holds the data object of the command handler at most once, and no index
was recorded for it before.
-/
def CommandOnce (gpg : EngineGpg) : Prop :=
  gpg.cmdIdx = -1 ∧ gpg.arglist.countP gpg.isCommand ≤ 1

end EngineGpg

-----------------------------------------------------------------------------------------
-- The vector fits
-----------------------------------------------------------------------------------------

/-- A system in which nothing fails. -/
def willingSystem : System where
  pipe := fun datac => some (2 * datac + 3, 2 * datac + 4)
  syserror := gpgError ErrCode.general

theorem buildArg_willing {v : Vectors} {a : ArgAndData}
    (ready : gpg.isCommand a → v.cmdIdx = -1)
    : Ends (buildArg willingSystem gpg v a)
        (fun next => next.cmdIdx = v.cmdIdx ∨ gpg.isCommand a)
        (fun _ => False) := by
  cases a with
  | arg text argLocp => exact Or.inl rfl
  | data data inbound dupTo printFd =>
      have passes : (gpg.isCallback data && v.cmdIdx != -1) = false := by
        cases callback : gpg.isCallback data with
        | false => rfl
        | true => simp [ready callback]
      unfold buildArg buildData
      simp only [willingSystem, Bool.not_true, Bool.false_eq_true, if_false, passes, if_true]
      have kept : (if gpg.isCallback data then (v.fdDataMap.next : Int) else v.cmdIdx) = v.cmdIdx
          ∨ gpg.isCallback data := by
        cases gpg.isCallback data with
        | false => exact Or.inl rfl
        | true => exact Or.inr rfl
      split
      · exact kept
      · exact kept

theorem buildArgv_built (once : gpg.CommandOnce) (pgmname : Str)
    : ∃ v, buildArgv willingSystem gpg pgmname = .built v := by
  have options (texts : List Str) (v : Vectors)
      : Ends (texts.foldlM (pushText willingSystem) v) (fun next => next.cmdIdx = v.cmdIdx)
          (fun _ => False) := by
    let invariant (_ : List Str) (next : Vectors) : Prop := next.cmdIdx = v.cmdIdx
    have start : invariant [] v := rfl
    exact Ends.foldlM start fun _ _ _ _ _ same => same
  have arguments (v : Vectors) (fresh : v.cmdIdx = -1)
      : Ends (gpg.arglist.foldlM (buildArg willingSystem gpg) v)
          (fun next => next.cmdIdx = -1 ∨ gpg.arglist.countP gpg.isCommand ≠ 0)
          (fun _ => False) := by
    let invariant (done : List ArgAndData) (next : Vectors) : Prop :=
      next.cmdIdx = -1 ∨ done.countP gpg.isCommand ≠ 0
    have start : invariant [] v := Or.inl fresh
    refine Ends.foldlM start ?_
    intro done a rest next whole reached
    have most := once.2
    rw [whole, List.countP_append, List.countP_cons] at most
    have ready : gpg.isCommand a → next.cmdIdx = -1 := by
      intro command
      rw [if_pos command] at most
      exact reached.resolve_right (by omega)
    refine (buildArg_willing ready).imp ?_ (fun _ => id)
    rintro value (same | command)
    · rcases reached with unset | seen
      · exact Or.inl (same.trans unset)
      · refine Or.inr ?_
        rw [List.countP_append]
        omega
    · refine Or.inr ?_
      rw [List.countP_append, countP_singleton_toNat, command, Bool.toNat_true]
      omega
  have filled
      : Ends
          (fillVectors willingSystem gpg (gpg.optionArgs false pgmname)
            (gpg.newVectors false))
          (fun _ => True) (fun _ => False) := by
    refine (options _ _).bind fun v same => ?_
    exact (arguments v (same.trans once.1)).imp (fun _ _ => trivial) (fun _ => id)
  have granted : (willingSystem.argvMemory && willingSystem.mapMemory) = true := rfl
  have agent : willingSystem.useAgent = .ok false := rfl
  unfold buildArgv
  rw [agent]
  simp only [granted, if_true]
  unfold EngineGpg.newVectors at filled
  generalize fillVectors _ _ _ _ = result at filled ⊢
  cases result with
  | ok v => exact ⟨v, rfl⟩
  | error stopped => exact absurd filled id

/-- No write leaves the vectors, the terminator survives, and every recorded index is the one
of the argument's own slot.
-/
def EngineGpg.ArgvSafe (gpg : EngineGpg) : Prop :=
  ∀ sys pgmname useAgent, sys.useAgent = .ok useAgent
  → (∀ v, (buildArgv sys gpg pgmname).vectors = some v
      → v.Fits (gpg.countArgs useAgent) gpg.countData)
    ∧ ∀ v, buildArgv sys gpg pgmname = .built v
      → v.argv.cells[gpg.countArgs useAgent]? = some none
        ∧ OwnSlots (gpg.optionArgs useAgent pgmname).length gpg.arglist
            (fun index => v.argv.cells[index]?.join)
            (fun index => v.fdDataMap.cells[index]?.join) v.argLocs

theorem Reached.fits_iff {v : Vectors} {useAgent : Bool} {pgmname : Str}
    (reached
      : Reached (gpg.countArgs useAgent) gpg.countData
          (gpg.optionArgs useAgent pgmname).length gpg.arglist v)
    : v.Fits (gpg.countArgs useAgent) gpg.countData ↔ gpg.OptionsFit := by
  obtain ⟨texts, entries, holds, progress⟩ := reached
  have data : v.fdDataMap.Fits gpg.countData :=
    holds.fdDataMap.fits_iff.mpr progress.datac.le
  have args : v.argv.Fits (gpg.countArgs useAgent) ↔ gpg.OptionsFit := by
    rw [holds.argv.fits_iff, progress.argc]
    exact gpg.argsWritten_le_iff useAgent pgmname
  exact (and_iff_left data).trans args

theorem Reached.ownSlots {v : Vectors} {base : Nat} {arglist : List ArgAndData}
    (reached : Reached argc datac base arglist v) (fits : v.Fits argc datac)
    : v.argv.cells[argc]? = some none
      ∧ OwnSlots base arglist (fun index => v.argv.cells[index]?.join)
          (fun index => v.fdDataMap.cells[index]?.join) v.argLocs := by
  obtain ⟨texts, entries, holds, progress⟩ := reached
  refine ⟨holds.argv.terminated holds.argvCells fits.1, ?_⟩
  have argv : (fun index => v.argv.cells[index]?.join) = (texts[·]?) :=
    funext fun index => holds.argv.lookup holds.argvCells fits.1 index
  have map : (fun index => v.fdDataMap.cells[index]?.join) = (entries[·]?) :=
    funext fun index => holds.fdDataMap.lookup holds.mapCells fits.2 index
  rw [argv, map]
  exact progress.own

theorem buildArgv_leaves (gpg : EngineGpg) (pgmname : Str) {useAgent : Bool}
    (agent : sys.useAgent = .ok useAgent)
    : (∀ v, buildArgv sys gpg pgmname = .built v
        → Reached (gpg.countArgs useAgent) gpg.countData
            (gpg.optionArgs useAgent pgmname).length gpg.arglist v)
      ∧ ∀ stop v, buildArgv sys gpg pgmname = .stopped stop v
        → v.Fits (gpg.argsWritten useAgent pgmname) gpg.countData := by
  have ends := fillVectors_ends sys gpg useAgent pgmname
  unfold EngineGpg.newVectors at ends
  unfold buildArgv
  rw [agent]
  dsimp only
  cases sys.argvMemory && sys.mapMemory with
  | false => simp
  | true =>
      generalize fillVectors _ _ _ _ = result at ends ⊢
      rcases result with ⟨stop, v⟩ | v
      · refine ⟨by simp, ?_⟩
        intro stop' v' same
        cases same
        exact ends
      · refine ⟨?_, by simp⟩
        intro v' same
        cases same
        exact ends

/-- The argument vector is safe exactly when few enough flags are set. The assertion on the
index of the command handler ends a call early, so that the other direction is about engines on
which it holds.
-/
theorem buildArgv_safe_iff (gpg : EngineGpg)
    : (gpg.OptionsFit → gpg.ArgvSafe)
      ∧ (gpg.CommandOnce → (gpg.ArgvSafe ↔ gpg.OptionsFit)) := by
  have enough : gpg.OptionsFit → gpg.ArgvSafe := by
    intro fit sys pgmname useAgent agent
    obtain ⟨built, stopped⟩ := buildArgv_leaves gpg pgmname agent
    refine ⟨?_, fun v ended => (built v ended).ownSlots ((built v ended).fits_iff.mpr fit)⟩
    intro v left
    cases outcome : buildArgv sys gpg pgmname with
    | refused err =>
        rw [outcome] at left
        cases left
    | stopped stop v' =>
        rw [outcome] at left
        cases left
        have within := (gpg.argsWritten_le_iff useAgent pgmname).mpr fit
        exact (stopped stop v outcome).mono within le_rfl
    | built v' =>
        rw [outcome] at left
        cases left
        exact (built v outcome).fits_iff.mpr fit
  refine ⟨enough, fun once => ⟨?_, enough⟩⟩
  intro safe
  have agent : willingSystem.useAgent = .ok false := rfl
  obtain ⟨v, ended⟩ := buildArgv_built once (str "gpg")
  obtain ⟨built, _⟩ := buildArgv_leaves gpg (str "gpg") agent
  refine (built v ended).fits_iff.mp ?_
  exact (safe willingSystem (str "gpg") false agent).1 v (by rw [ended]; rfl)

/-- An engine of version 2.2.20 for a key listing in a context that sets all flags. -/
def flaggedEngine : EngineGpg :=
  let gpg : EngineGpg := { version := some (str "2.2.20") }
  let gpg := (gpg.addArg (str "--status-fd")).addArgWithLocp (str "9") 0
  let gpg := (gpg.addArg (str "--logger-fd")).addData 1 (-2) true
  let gpg := (gpg.addArg (str "--with-colons")).addArg (str "--list-keys")
  gpg.setEngineFlags {
    requestOrigin := some (str "browser"),
    autoKeyLocate := some (str "local"),
    trustModel := some (str "always"),
    noSymkeyCache := true,
    ignoreMdcError := true,
    offline := true }

/-- The vector for this engine has 13 cells, and the index 14 is written. -/
theorem buildArgv_leaves_allocation
    : ∃ v,
        (buildArgv willingSystem flaggedEngine (str "/usr/bin/gpg")).vectors = some v
        ∧ flaggedEngine.countArgs false = 12
        ∧ v.argv.cells.length = 13
        ∧ 14 ∈ v.argv.written := by
  refine ⟨_, rfl, ?_, ?_, ?_⟩
  · decide
  · decide
  · decide

end Gpgme
