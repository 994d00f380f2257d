import Gpgme.Engine.InfoChanges

/-! Runs of the calls on engine information with allocations that fail anywhere: the lists own
exactly the live blocks, every entry keeps live strings, and a call that fails changes nothing.
-/

namespace Gpgme.InfoLists

open CString Fallible BlockHeap

-----------------------------------------------------------------------------------------
-- Ownership of a state
-----------------------------------------------------------------------------------------

/-- The lists of a state with what their strings read. -/
structure Layout where
  engine : List Placed
  minimal : Option (Nat × Str)
  copies : List (List Placed)

namespace Layout

def minimalBlocks (layout : Layout) : Multiset (Nat × Block) :=
  stringSlot (layout.minimal.map Prod.fst) ((layout.minimal.map Prod.snd).getD [])

def copyBlocks (copies : List (List Placed)) : Multiset (Nat × Block) :=
  (copies.map listBlocks).sum

/-- The blocks of two groups of copies. -/
@[simp]
theorem copyBlocks_append (first second : List (List Placed))
    : copyBlocks (first ++ second) = copyBlocks first + copyBlocks second := by
  simp [copyBlocks]

/-- The blocks of a copy and of the others. -/
@[simp]
theorem copyBlocks_cons (list : List Placed) (copies : List (List Placed))
    : copyBlocks (list :: copies) = listBlocks list + copyBlocks copies :=
  List.sum_cons

/-- No copies have no blocks. -/
@[simp]
theorem copyBlocks_nil : copyBlocks [] = 0 := rfl

/-- The live blocks are those of the lists and of the minimal version, each once. -/
structure Of (engines : List (Option EngineOps)) (layout : Layout) (state : State) : Prop where
  engine : state.engineInfo = layout.engine.map Placed.entry
  minimal : state.minimalVersion = layout.minimal.map Prod.fst
  copies : state.copies = layout.copies.map fun list => list.map Placed.entry
  blocks
    : state.mem.blocks
      = listBlocks layout.engine + (layout.minimalBlocks + copyBlocks layout.copies)
  known
    : ∀ list ∈ layout.engine :: layout.copies, ∀ placed ∈ list,
        (engineGetFileName engines placed.protocol).isSome

end Layout

/-- The lists own exactly the live blocks, and every entry is of an available engine. -/
def Sound (engines : List (Option EngineOps)) (state : State) : Prop :=
  ∃ layout : Layout, layout.Of engines state

/-- The file name, the version and the home directory of every entry are live strings. -/
def StringsLive (state : State) : Prop :=
  ∀ list ∈ state.engineInfo :: state.copies, ∃ infos, listContents state.mem list = some infos

/-- Lists whose strings read as before. -/
def SameContents (lists : List (List EngineInfo)) (state next : State) : Prop :=
  ∀ list ∈ lists, listContents next.mem list = listContents state.mem list

/-- A call that failed: the lists and the live blocks are as before. -/
structure Unchanged (state next : State) : Prop where
  engineInfo : next.engineInfo = state.engineInfo
  minimalVersion : next.minimalVersion = state.minimalVersion
  copies : next.copies = state.copies
  blocks : next.mem.blocks = state.mem.blocks

/-- The blocks of a copy are among those of all. -/
theorem listBlocks_le_copyBlocks {list : List Placed} {copies : List (List Placed)}
    (member : list ∈ copies)
    : listBlocks list ≤ Layout.copyBlocks copies := by
  obtain ⟨before, after, rfl⟩ := List.append_of_mem member
  rw [Layout.copyBlocks_append, Layout.copyBlocks_cons]
  exact (Multiset.le_add_right _ _).trans (Multiset.le_add_left _ _)

section Sound

variable {engines : List (Option EngineOps)} {state next : State} {layout : Layout}

/-- A list of the state and what it reads. -/
theorem Layout.Of.owned (holds : layout.Of engines state) {list : List Placed}
    (member : list ∈ layout.engine :: layout.copies)
    : listBlocks list ≤ state.mem.blocks := by
  rw [holds.blocks]
  rcases List.mem_cons.mp member with rfl | copy
  · exact Multiset.le_add_right _ _
  · exact ((listBlocks_le_copyBlocks copy).trans (Multiset.le_add_left _ _)).trans
      (Multiset.le_add_left _ _)

/-- Every list of the state has its place in the layout. -/
theorem Layout.Of.lists (holds : layout.Of engines state) {list : List EngineInfo}
    (member : list ∈ state.engineInfo :: state.copies)
    : ∃ placed ∈ layout.engine :: layout.copies, list = placed.map Placed.entry := by
  rw [holds.engine, holds.copies] at member
  rcases List.mem_cons.mp member with rfl | copy
  · exact ⟨layout.engine, List.mem_cons_self, rfl⟩
  · obtain ⟨placed, source, rfl⟩ := List.mem_map.mp copy
    exact ⟨placed, List.mem_cons_of_mem _ source, rfl⟩

/-- In a sound state the strings are live. -/
theorem Sound.stringsLive (sound : Sound engines state) : StringsLive state := by
  obtain ⟨layout, holds⟩ := sound
  intro list member
  obtain ⟨placed, source, rfl⟩ := holds.lists member
  exact ⟨_, listContents_entries placed (holds.owned source)⟩

/-- A list whose blocks are live before and after reads the same. -/
theorem listContents_same {mem mem' : Memory} {list : List Placed}
    (before : listBlocks list ≤ mem.blocks) (after : listBlocks list ≤ mem'.blocks)
    : listContents mem' (list.map Placed.entry) = listContents mem (list.map Placed.entry) := by
  rw [listContents_entries list before, listContents_entries list after]

/-- A state with the same lists and blocks is as sound as the other one. -/
theorem Unchanged.sound (same : Unchanged state next) (sound : Sound engines state)
    : Sound engines next := by
  obtain ⟨layout, holds⟩ := sound
  refine ⟨layout, same.engineInfo.trans holds.engine, same.minimalVersion.trans holds.minimal,
    same.copies.trans holds.copies, same.blocks.trans holds.blocks, holds.known⟩

end Sound

-----------------------------------------------------------------------------------------
-- What a call does
-----------------------------------------------------------------------------------------

section Effects

variable (engines : List (Option EngineOps)) (granted : Nat → Bool) (printed : Str → Option Str)

/-- `gpgme_get_engine_info` makes a complete list when there is none, and changes nothing but
that.
-/
def GetEffect (state : State) (err : GpgError) (next : State) : Prop :=
  (state.engineInfo ≠ [] → err = 0 ∧ next = state)
  ∧ (state.engineInfo = []
    → err = 0
        ∧ next.minimalVersion = state.minimalVersion
        ∧ next.copies = state.copies
        ∧ SameContents state.copies state next
        ∧ (∃ infos,
            listContents next.mem next.engineInfo = some infos
            ∧ List.Forall₂
                (Describes engines granted printed state.mem.attempts next.mem.attempts)
                (available engines protoList) infos)
      ∨ err ≠ 0 ∧ Unchanged state next)

/-- `_gpgme_engine_info_copy` adds a list that reads like the default list. -/
def CopyEffect (state : State) (err : GpgError) (next : State) : Prop :=
  err = 0
    ∧ next.engineInfo = state.engineInfo
    ∧ next.minimalVersion = state.minimalVersion
    ∧ SameContents (state.engineInfo :: state.copies) state next
    ∧ (∃ copied,
        next.copies = state.copies ++ [copied]
        ∧ listContents next.mem copied = listContents state.mem state.engineInfo)
  ∨ err ≠ 0 ∧ Unchanged state next

/-- `_gpgme_set_engine_info` changes the entry of the protocol in one list. -/
def EntryChanged (mem mem' : Memory) (list list' : List EngineInfo) (proto : Nat)
    (fileName homeDir : Option Str)
    : Prop :=
  ∃ before old after new oldInfo newInfo,
    list = before ++ old :: after
    ∧ (∀ other ∈ before, other.protocol ≠ proto)
    ∧ old.protocol = proto
    ∧ list' = before ++ new :: after
    ∧ contents mem old = some oldInfo
    ∧ contents mem' new = some newInfo
    ∧ Installs engines granted printed mem.attempts mem'.attempts fileName homeDir oldInfo newInfo
    ∧ ∀ other ∈ before ++ after, contents mem' other = contents mem other

def SetEffect (state : State) (proto : Nat) (fileName homeDir : Option Str) (err : GpgError)
    (next : State)
    : Prop :=
  err = 0
    ∧ next.minimalVersion = state.minimalVersion
    ∧ next.copies = state.copies
    ∧ SameContents state.copies state next
    ∧ EntryChanged engines granted printed state.mem next.mem state.engineInfo next.engineInfo proto
      fileName homeDir
  ∨ err ≠ 0 ∧ Unchanged state next

/-- The same for the list of a context. -/
def CtxSetEffect (state : State) (ctx proto : Nat) (fileName homeDir : Option Str)
    (err : GpgError) (next : State)
    : Prop :=
  err = 0
    ∧ next.engineInfo = state.engineInfo
    ∧ next.minimalVersion = state.minimalVersion
    ∧ SameContents (state.engineInfo :: state.copies.eraseIdx ctx) state next
    ∧ (∃ list list',
        state.copies[ctx]? = some list
        ∧ next.copies = state.copies.set ctx list'
        ∧ EntryChanged engines granted printed state.mem next.mem list list' proto fileName homeDir)
  ∨ err ≠ 0 ∧ Unchanged state next

/-- A call that needs the default list makes it first, and stops when that fails. -/
def AfterGet (state : State) (err : GpgError) (next : State) (effect : State → Prop) : Prop :=
  ∃ first ready,
    gpgmeGetEngineInfo engines granted printed state = .ok (first, ready)
    ∧ GetEffect engines granted printed state first ready
    ∧ (first ≠ 0 → err = first ∧ next = ready)
    ∧ (first = 0 → effect ready)

end Effects

section Calls

variable (engines : List (Option EngineOps)) (granted : Nat → Bool)

/-- What each call does to the lists and what it returns. -/
def Effect (state : State) (err : GpgError) (next : State) : Call → Prop
  | .getEngineInfo printed => GetEffect engines granted printed state err next
  | .engineInfoCopy printed =>
      AfterGet engines granted printed state err next fun ready => CopyEffect ready err next
  | .setEngineInfo printed proto fileName homeDir =>
      AfterGet engines granted printed state err next fun ready =>
        SetEffect engines granted printed ready proto fileName homeDir err next
  | .ctxSetEngineInfo printed ctx proto fileName homeDir =>
      CtxSetEffect engines granted printed state ctx proto fileName homeDir err next
  | .setMinimalVersion _ =>
      next.engineInfo = state.engineInfo
      ∧ next.copies = state.copies
      ∧ SameContents (state.engineInfo :: state.copies) state next
  | .release ctx =>
      next.engineInfo = state.engineInfo
      ∧ next.minimalVersion = state.minimalVersion
      ∧ next.copies = state.copies.eraseIdx ctx
      ∧ SameContents (state.engineInfo :: next.copies) state next

/-- A computation ends without a fault, leaves every string of a list live and nothing else, and
has an effect.
-/
def Delivers (x : Except Fault (GpgError × State)) (effect : GpgError → State → Prop) : Prop :=
  ∃ err next, x = .ok (err, next) ∧ Sound engines next ∧ StringsLive next ∧ effect err next

def Survives (state : State) (call : Call) : Prop :=
  Delivers engines (step engines granted state call) fun err next =>
    Effect engines granted state err next call

/-- A condition on the state with the default list made, when that succeeds. -/
def whenListed (printed : Str → Option Str) (state : State) (condition : State → Bool) : Bool :=
  match gpgmeGetEngineInfo engines granted printed state with
  | .ok (0, ready) => condition ready
  | _ => true

/-- The condition on a call. -/
def harmless (state : State) : Call → Bool
  | .engineInfoCopy printed =>
      whenListed engines granted printed state fun ready =>
        copyHarmless granted ready.mem.attempts ready.engineInfo
  | .setEngineInfo printed proto fileName homeDir =>
      whenListed engines granted printed state fun ready =>
        setHarmless engines granted printed ready.mem.attempts ready.engineInfo proto fileName
          homeDir
  | .ctxSetEngineInfo printed ctx proto fileName homeDir =>
      match state.copies[ctx]? with
      | some infos =>
          setHarmless engines granted printed state.mem.attempts infos proto fileName homeDir
      | none => true
  | _ => true

end Calls

-----------------------------------------------------------------------------------------
-- Each call
-----------------------------------------------------------------------------------------

section Proofs

variable {engines : List (Option EngineOps)} {granted : Nat → Bool} {state : State}

/-- A computation that ends has a result. -/
theorem ends_ok {α : Type} {x : Except Fault α} {post : α → Prop}
    (ends : Ends x post fun _ => False)
    : ∃ value, x = .ok value ∧ post value := by
  cases x with
  | ok value => exact ⟨value, rfl, ends⟩
  | error fault => exact ends.elim

/-- The minimal version is a string of its own. -/
theorem minimal_owned {layout : Layout} {rest : Multiset (Nat × Block)} (id : Nat)
    (pointer : layout.minimal.map Prod.fst = some id)
    : ∃ text, (id, Block.string text) ∈ layout.minimalBlocks + rest := by
  obtain ⟨⟨at', text⟩, isMinimal, same⟩ := Option.map_eq_some_iff.mp pointer
  refine ⟨text, Multiset.mem_add.mpr (Or.inl ?_)⟩
  unfold Layout.minimalBlocks
  rw [isMinimal, ← same]
  exact Multiset.mem_singleton_self _

/-- An entry that describes an engine is of an available one. -/
theorem described_known {printed : Str → Option Str} {since upto : Nat} {protos : List Nat}
    {infos : List Info}
    (each : List.Forall₂ (Describes engines granted printed since upto) protos infos)
    : ∀ info ∈ infos, (engineGetFileName engines info.protocol).isSome := by
  induction each with
  | nil => exact fun info member => absurd member List.not_mem_nil
  | cons described _ ih =>
      intro info member
      rcases List.mem_cons.mp member with rfl | later
      · rw [described.protocol, described.fileName]
        rfl
      · exact ih info later

/-- `gpgme_get_engine_info` survives every failure. -/
theorem get_survives (printed : Str → Option Str) (sound : Sound engines state)
    : Delivers engines (gpgmeGetEngineInfo engines granted printed state)
        (GetEffect engines granted printed state) := by
  unfold gpgmeGetEngineInfo
  by_cases empty : state.engineInfo = []
  · obtain ⟨layout, holds⟩ := sound
    have nothing : layout.engine = [] := by
      rw [holds.engine] at empty
      exact List.map_eq_nil_iff.mp empty
    have owned
        : state.mem.blocks
          = listBlocks [] + (layout.minimalBlocks + Layout.copyBlocks layout.copies) := by
      rw [holds.blocks, nothing]
    have ends
        : Ends
            (getEngineInfoLoop engines granted printed (layout.minimal.map Prod.fst) state.mem []
              protoList)
            (Listed engines granted printed state.mem [] protoList
              (layout.minimalBlocks + Layout.copyBlocks layout.copies))
            fun _ => False :=
      getEngineInfoLoop_ends minimal_owned protoList owned
    rw [← holds.minimal] at ends
    obtain ⟨⟨err, infos, mem⟩, ended, grown, listed⟩ := ends_ok ends
    rw [if_pos empty, ended]
    refine ⟨err, { state with engineInfo := infos, mem }, rfl, ?_⟩
    rcases listed with ⟨success, more, isList, blocks, each⟩ | ⟨failed, isList, blocks⟩
    · simp only [List.nil_append] at isList blocks success each
      have next : Layout.Of engines { layout with engine := more }
          { state with engineInfo := infos, mem } := by
        refine ⟨isList, holds.minimal, holds.copies, blocks, ?_⟩
        intro list member placed isPlaced
        rcases List.mem_cons.mp member with rfl | copy
        · exact described_known each placed.info (List.mem_map_of_mem isPlaced)
        · exact holds.known list (List.mem_cons_of_mem _ copy) placed isPlaced
      have sound : Sound engines { state with engineInfo := infos, mem } := ⟨_, next⟩
      refine ⟨sound, sound.stringsLive, fun some => absurd empty some, fun _ => Or.inl ?_⟩
      refine ⟨success, rfl, rfl, ?_, more.map Placed.info, ?_, each⟩
      · intro list member
        rw [holds.copies] at member
        obtain ⟨placed, source, rfl⟩ := List.mem_map.mp member
        exact listContents_same (holds.owned (List.mem_cons_of_mem _ source))
          (next.owned (List.mem_cons_of_mem _ source))
      · simp only
        rw [isList]
        exact listContents_entries more (next.owned List.mem_cons_self)
    · have same : Unchanged state { state with engineInfo := infos, mem } :=
        ⟨isList.trans empty.symm, rfl, rfl, by
          simp only at blocks ⊢
          rw [blocks, owned, listBlocks_nil, zero_add]⟩
      have sound := same.sound ⟨layout, holds⟩
      exact ⟨sound, sound.stringsLive, fun some => absurd empty some,
        fun _ => Or.inr ⟨failed, same⟩⟩
  · rw [if_neg empty]
    exact ⟨0, state, rfl, sound, sound.stringsLive, fun _ => ⟨rfl, rfl⟩,
      fun none => absurd none empty⟩

/-- A call that makes the default list first delivers when its rest does. -/
theorem afterGet_delivers (printed : Str → Option Str) (sound : Sound engines state)
    {body : State → Except Fault (GpgError × State)} {effect : State → GpgError → State → Prop}
    {good : State → Bool}
    (exact'
      : ∀ ready,
          Sound engines ready → (Delivers engines (body ready) (effect ready) ↔ good ready))
    : Delivers engines
        (do
          let (err, ready) ← gpgmeGetEngineInfo engines granted printed state
          if err ≠ 0 then return (err, ready)
          body ready)
        (fun err next =>
          AfterGet engines granted printed state err next fun ready => effect ready err next)
      ↔ whenListed engines granted printed state good := by
  obtain ⟨first, ready, got, readySound, readyLive, effect'⟩ := get_survives printed sound
  unfold whenListed
  rw [got]
  by_cases fine : first = 0
  · subst fine
    change Delivers engines (body ready) _ ↔ good ready
    rw [← exact' ready readySound]
    constructor
    · rintro ⟨err, next, ended, sound, live, first', ready', got', -, -, holds⟩
      rw [got] at got'
      cases got'
      exact ⟨err, next, ended, sound, live, holds rfl⟩
    · rintro ⟨err, next, ended, sound, live, holds⟩
      exact ⟨err, next, ended, sound, live, 0, ready, got, effect', fun no => absurd rfl no,
        fun _ => holds⟩
  · have skipped : (match (.ok (first, ready) : Except Fault (GpgError × State)) with
        | .ok (0, ready) => good ready
        | _ => true) = true := by
      split
      · next same =>
          cases same
          exact absurd rfl fine
      · rfl
    refine iff_of_true ⟨first, ready, ?_, readySound, readyLive, first, ready, got, effect',
      fun _ => ⟨rfl, rfl⟩, fun zero => absurd zero fine⟩ skipped
    change (if first ≠ 0 then _ else _) = _
    rw [if_pos fine]
    rfl

/-- A copy of the default list delivers exactly under its condition. -/
theorem copy_delivers (sound : Sound engines state)
    : Delivers engines
        (do
          let (err, copied, mem) ← copyLoop granted state.mem [] state.engineInfo
          return (err,
            { state with mem, copies := state.copies ++ if err = 0 then [copied] else [] }))
        (CopyEffect state)
      ↔ copyHarmless granted state.mem.attempts state.engineInfo := by
  obtain ⟨layout, holds⟩ := sound
  have owned : state.mem.blocks = listBlocks [] + state.mem.blocks := (zero_add _).symm
  have sourceOwned := holds.owned List.mem_cons_self
  constructor
  · rintro ⟨err, next, ended, -⟩
    by_contra harmful
    rw [holds.engine] at harmful
    have failed := copyLoop_neverSet layout.engine owned sourceOwned harmful
    rw [List.map_nil, ← holds.engine] at failed
    rw [failed] at ended
    cases ended
  · intro fine
    rw [holds.engine] at fine
    have ends := copyLoop_ends layout.engine owned sourceOwned fine
    rw [List.map_nil, ← holds.engine] at ends
    obtain ⟨⟨err, infos, mem⟩, ended, copied⟩ := ends_ok ends
    rw [ended]
    rcases copied with ⟨success, copies, isCopy, same, blocks⟩ | ⟨failed, -, blocks⟩
    · simp only [List.nil_append] at success isCopy blocks
      subst success isCopy
      have next : Layout.Of engines { layout with copies := layout.copies ++ [copies] }
          { state with
            mem
            copies := state.copies ++ [copies.map Placed.entry] } := by
        refine ⟨holds.engine, holds.minimal, ?_, ?_, ?_⟩
        · simp only [holds.copies, List.map_append, List.map_cons, List.map_nil]
        · simp only [Layout.copyBlocks_append, Layout.copyBlocks_cons, Layout.copyBlocks_nil]
          rw [blocks, holds.blocks]
          unfold Layout.minimalBlocks
          abel
        · intro list member placed isPlaced
          rw [← List.cons_append] at member
          rcases List.mem_append.mp member with before | new
          · exact holds.known list before placed isPlaced
          · rw [List.mem_singleton.mp new] at isPlaced
            have copied : placed.info ∈ layout.engine.map Placed.info :=
              same ▸ List.mem_map_of_mem isPlaced
            obtain ⟨source, isSource, info⟩ := List.mem_map.mp copied
            have protocol : source.protocol = placed.protocol := congrArg Info.protocol info
            rw [← protocol]
            exact holds.known _ List.mem_cons_self source isSource
      have sound : Sound engines _ := ⟨_, next⟩
      refine ⟨0, _, rfl, sound, sound.stringsLive, Or.inl ⟨rfl, rfl, rfl, ?_, _, rfl, ?_⟩⟩
      · intro list member
        obtain ⟨placed, source, rfl⟩ := holds.lists member
        exact listContents_same (holds.owned source)
          (next.owned (List.cons_append ▸ List.mem_append_left _ source))
      · simp only
        rw [holds.engine, listContents_entries _ sourceOwned, ← same]
        exact listContents_entries copies (next.owned (by simp))
    · have unchanged : Unchanged state
          { state with
            mem
            copies := state.copies ++ if err = 0 then [infos] else [] } := by
        refine ⟨rfl, rfl, ?_, blocks⟩
        simp only
        rw [if_neg failed, List.append_nil]
      have sound := unchanged.sound ⟨layout, holds⟩
      exact ⟨err, _, rfl, sound, sound.stringsLive, Or.inr ⟨failed, unchanged⟩⟩

/-- The blocks of a changed list, and what its entries read. -/
theorem Changed.entryChanged {printed : Str → Option Str} {mem mem' : Memory}
    {before after : List Placed} {old new : Placed} {proto : Nat} {fileName homeDir : Option Str}
    (passed : ∀ other ∈ before, other.protocol ≠ proto) (same : old.protocol = proto)
    (owned : listBlocks (before ++ old :: after) ≤ mem.blocks)
    (owned' : listBlocks (before ++ new :: after) ≤ mem'.blocks)
    (installs
      : Installs engines granted printed mem.attempts mem'.attempts fileName homeDir old.info
        new.info)
    : EntryChanged engines granted printed mem mem'
        ((before ++ old :: after).map Placed.entry) ((before ++ new :: after).map Placed.entry)
        proto fileName homeDir := by
  have reads {mem : Memory} {list : List Placed} (owned : listBlocks list ≤ mem.blocks)
      {placed : Placed} (member : placed ∈ list)
      : contents mem placed.entry = some placed.info := by
    obtain ⟨first, second, rfl⟩ := List.append_of_mem member
    apply contents_entry
    rw [listBlocks_append] at owned
    exact strings_le_of_list ((Multiset.le_add_left _ _).trans owned)
  refine ⟨before.map Placed.entry, old.entry, after.map Placed.entry, new.entry, old.info, new.info,
    by simp, ?_, same, by simp, reads owned (by simp), reads owned' (by simp), installs, ?_⟩
  · intro other member
    obtain ⟨placed, source, rfl⟩ := List.mem_map.mp member
    exact passed placed source
  · intro other member
    rw [← List.map_append] at member
    obtain ⟨placed, source, rfl⟩ := List.mem_map.mp member
    have kept : ∀ middle : Placed, placed ∈ before ++ middle :: after := by
      intro middle
      rcases List.mem_append.mp source with first | second
      · exact List.mem_append_left _ first
      · exact List.mem_append_right _ (List.mem_cons_of_mem _ second)
    rw [reads owned (kept old), reads owned' (kept new)]

/-- The changed entry is of an available engine too. -/
theorem changed_known {before after : List Placed} {old new : Placed}
    (known
      : ∀ placed ∈ before ++ old :: after, (engineGetFileName engines placed.protocol).isSome)
    (same : new.protocol = old.protocol)
    : ∀ placed ∈ before ++ new :: after, (engineGetFileName engines placed.protocol).isSome := by
  intro placed member
  rcases List.mem_append.mp member with first | second
  · exact known placed (List.mem_append_left _ first)
  · rcases List.mem_cons.mp second with rfl | later
    · rw [same]
      exact known old (by simp)
    · exact known placed (List.mem_append_right _ (List.mem_cons_of_mem _ later))

/-- A sound state has no entry without a version. -/
theorem Sound.version (sound : Sound engines state) {list : List EngineInfo}
    (member : list ∈ state.engineInfo :: state.copies)
    : ¬∃ info ∈ list, info.version = none := by
  obtain ⟨layout, holds⟩ := sound
  rintro ⟨info, isInfo, missing⟩
  obtain ⟨placed, -, rfl⟩ := holds.lists member
  obtain ⟨entry, -, rfl⟩ := List.mem_map.mp isInfo
  cases missing

/-- A change of the default list delivers exactly under its condition. -/
theorem set_delivers (printed : Str → Option Str) (proto : Nat) (fileName homeDir : Option Str)
    (sound : Sound engines state)
    : Delivers engines
        (do
          let (err, infos, mem) ←
            setEngineInfo engines granted printed state.mem state.engineInfo proto fileName homeDir
          return (err, { state with mem, engineInfo := infos }))
        (SetEffect engines granted printed state proto fileName homeDir)
      ↔ setHarmless engines granted printed state.mem.attempts state.engineInfo proto fileName
        homeDir := by
  obtain ⟨layout, holds⟩ := sound
  have known := holds.known layout.engine List.mem_cons_self
  constructor
  · rintro ⟨err, next, ended, sound, -⟩
    by_contra harmful
    rw [holds.engine] at harmful
    have ends := setEngineInfo_harmful known holds.blocks harmful
    rw [← holds.engine] at ends
    obtain ⟨⟨err', infos, mem⟩, ended', missing⟩ := ends_ok ends
    rw [ended'] at ended
    cases ended
    exact sound.version List.mem_cons_self missing
  · intro fine
    rw [holds.engine] at fine
    have ends := setEngineInfo_ends known holds.blocks fine
    rw [← holds.engine] at ends
    obtain ⟨⟨err, infos, mem⟩, ended, changed⟩ := ends_ok ends
    rw [ended]
    rcases changed with ⟨success, before, old, after, new, whole, passed, same, isList, blocks,
      installs⟩ | ⟨failed, isList, blocks⟩
    · simp only at success isList blocks installs
      subst success isList
      rw [whole] at known
      have next : Layout.Of engines { layout with engine := before ++ new :: after }
          { state with
            mem
            engineInfo := (before ++ new :: after).map Placed.entry } := by
        refine ⟨rfl, holds.minimal, holds.copies, blocks, ?_⟩
        intro list member
        rcases List.mem_cons.mp member with rfl | copy
        · exact changed_known known installs.protocol
        · exact holds.known list (List.mem_cons_of_mem _ copy)
      have sound : Sound engines _ := ⟨_, next⟩
      refine ⟨0, _, rfl, sound, sound.stringsLive, Or.inl ⟨rfl, rfl, rfl, ?_, ?_⟩⟩
      · intro list member
        rw [holds.copies] at member
        obtain ⟨placed, source, rfl⟩ := List.mem_map.mp member
        exact listContents_same (holds.owned (List.mem_cons_of_mem _ source))
          (next.owned (List.mem_cons_of_mem _ source))
      · simp only
        rw [holds.engine, whole]
        exact Changed.entryChanged passed same (whole ▸ holds.owned List.mem_cons_self)
          (next.owned List.mem_cons_self) installs
    · have unchanged : Unchanged state { state with mem, engineInfo := infos } :=
        ⟨isList.trans holds.engine.symm, rfl, rfl, blocks.trans holds.blocks.symm⟩
      have sound := unchanged.sound ⟨layout, holds⟩
      exact ⟨err, _, rfl, sound, sound.stringsLive, Or.inr ⟨failed, unchanged⟩⟩

/-- The list of a context among the others. -/
theorem Layout.Of.copy {layout : Layout} (holds : layout.Of engines state) {ctx : Nat}
    {list : List EngineInfo} (found : state.copies[ctx]? = some list)
    : ∃ first placed second,
        layout.copies = first ++ placed :: second
        ∧ first.length = ctx
        ∧ list = placed.map Placed.entry := by
  rw [holds.copies, List.getElem?_map, Option.map_eq_some_iff] at found
  obtain ⟨placed, found, rfl⟩ := found
  obtain ⟨inside, rfl⟩ := List.getElem?_eq_some_iff.mp found
  obtain ⟨first, second, split, length, -⟩ := @List.exists_of_set _ _ [] _ inside
  exact ⟨first, _, second, split, length, rfl⟩

/-- A change of the list of a context delivers exactly under its condition. -/
theorem ctxSet_delivers (granted : Nat → Bool) (printed : Str → Option Str) {ctx : Nat}
    (proto : Nat) (fileName homeDir : Option Str) {list : List EngineInfo}
    (sound : Sound engines state) (found : state.copies[ctx]? = some list)
    : Delivers engines
        (do
          let (err, infos, mem) ←
            setEngineInfo engines granted printed state.mem list proto fileName homeDir
          return (err, { state with mem, copies := state.copies.set ctx infos }))
        (CtxSetEffect engines granted printed state ctx proto fileName homeDir)
      ↔ setHarmless engines granted printed state.mem.attempts list proto fileName homeDir := by
  obtain ⟨layout, holds⟩ := sound
  obtain ⟨first, placed, second, split, length, rfl⟩ := holds.copy found
  have known := holds.known placed (by rw [split]; simp)
  have owned
      : state.mem.blocks
        = listBlocks placed
          + (listBlocks layout.engine
            + (layout.minimalBlocks + (Layout.copyBlocks first + Layout.copyBlocks second))) := by
    rw [holds.blocks, split, Layout.copyBlocks_append, Layout.copyBlocks_cons]
    abel
  have copies
      : state.copies
        = first.map (fun list => list.map Placed.entry)
          ++ placed.map Placed.entry :: second.map fun list => list.map Placed.entry := by
    rw [holds.copies, split, List.map_append, List.map_cons]
  have changedTo (infos : List EngineInfo)
      : state.copies.set ctx infos
        = first.map (fun list => list.map Placed.entry)
          ++ infos :: second.map fun list => list.map Placed.entry := by
    rw [copies, ← length]
    simp
  have others
      : state.copies.eraseIdx ctx = (first ++ second).map fun list => list.map Placed.entry := by
    rw [copies, ← length]
    simp [List.eraseIdx_append_of_length_le]
  constructor
  · rintro ⟨err, next, ended, sound, -⟩
    by_contra harmful
    obtain ⟨⟨err', infos, mem⟩, ended', missing⟩ :=
      ends_ok (setEngineInfo_harmful known owned harmful)
    rw [ended'] at ended
    cases ended
    refine sound.version (List.mem_cons_of_mem _ ?_) missing
    simp only [changedTo]
    simp
  · intro fine
    obtain ⟨⟨err, infos, mem⟩, ended, changed⟩ :=
      ends_ok (setEngineInfo_ends known owned fine)
    rw [ended]
    rcases changed with ⟨success, before, old, after, new, whole, passed, same, isList, blocks,
      installs⟩ | ⟨failed, isList, blocks⟩
    · simp only at success isList blocks installs
      subst success isList
      rw [whole] at known
      have next : Layout.Of engines
          { layout with copies := first ++ (before ++ new :: after) :: second }
          { state with
            mem
            copies := state.copies.set ctx ((before ++ new :: after).map Placed.entry) } := by
        refine ⟨holds.engine, holds.minimal, ?_, ?_, ?_⟩
        · simp only [changedTo, List.map_append, List.map_cons]
        · simp only [Layout.copyBlocks_append, Layout.copyBlocks_cons]
          rw [blocks]
          unfold Layout.minimalBlocks
          abel
        · intro list member
          rcases List.mem_cons.mp member with rfl | copy
          · exact holds.known _ List.mem_cons_self
          · rcases List.mem_append.mp copy with other | rest
            · exact holds.known list (by rw [split]; simp [other])
            · rcases List.mem_cons.mp rest with rfl | other
              · exact changed_known known installs.protocol
              · exact holds.known list (by rw [split]; simp [other])
      have sound : Sound engines _ := ⟨_, next⟩
      refine ⟨0, _, rfl, sound, sound.stringsLive,
        Or.inl ⟨rfl, rfl, rfl, ?_, _, _, found, rfl, ?_⟩⟩
      · intro list member
        rw [others, holds.engine, ← List.map_cons] at member
        obtain ⟨kept, source, rfl⟩ := List.mem_map.mp member
        have aside : kept = layout.engine ∨ kept ∈ first ∨ kept ∈ second := by simpa using source
        refine listContents_same (holds.owned ?_) (next.owned ?_)
        · rw [split]
          simp only [List.mem_cons, List.mem_append]
          tauto
        · simp only [List.mem_cons, List.mem_append]
          tauto
      · rw [whole]
        refine Changed.entryChanged passed same ?_ (next.owned (by simp)) installs
        rw [← whole]
        exact holds.owned (by rw [split]; simp)
    · have unchanged : Unchanged state
          { state with
            mem
            copies := state.copies.set ctx infos } := by
        refine ⟨rfl, rfl, ?_, ?_⟩
        · simp only at isList ⊢
          rw [changedTo, isList, copies]
        · exact blocks.trans owned.symm
      have sound := unchanged.sound ⟨layout, holds⟩
      exact ⟨err, _, rfl, sound, sound.stringsLive, Or.inr ⟨failed, unchanged⟩⟩

/-- The release of a list frees what that list owns. -/
theorem release_delivers (ctx : Nat) (sound : Sound engines state)
    : Survives engines granted state (.release ctx) := by
  cases found : state.copies[ctx]? with
  | none =>
      have stepped : step engines granted state (.release ctx) = .ok (0, state) := by
        change gpgmeRelease state ctx = _
        rw [gpgmeRelease, found]
      have short : state.copies.eraseIdx ctx = state.copies :=
        List.eraseIdx_of_length_le (List.getElem?_eq_none_iff.mp found)
      exact ⟨0, state, stepped, sound, sound.stringsLive, rfl, rfl, short.symm, fun _ _ => rfl⟩
  | some list =>
      obtain ⟨layout, holds⟩ := sound
      obtain ⟨first, placed, second, split, length, rfl⟩ := holds.copy found
      have others
          : state.copies.eraseIdx ctx
            = (first ++ second).map fun list => list.map Placed.entry := by
        rw [holds.copies, split, ← length]
        simp [List.eraseIdx_append_of_length_le]
      have owned
          : state.mem.blocks
            = listBlocks placed
              + (listBlocks layout.engine
                + (layout.minimalBlocks
                  + (Layout.copyBlocks first + Layout.copyBlocks second))) := by
        rw [holds.blocks, split, Layout.copyBlocks_append, Layout.copyBlocks_cons]
        abel
      obtain ⟨mem, released, freed, -⟩ := ends_ok (engineInfoRelease_ends placed owned)
      have next : Layout.Of engines { layout with copies := first ++ second }
          { state with
            mem
            copies := state.copies.eraseIdx ctx } := by
        refine ⟨holds.engine, holds.minimal, others, ?_, ?_⟩
        · simp only [Layout.copyBlocks_append]
          rw [freed]
          rfl
        · intro list member
          apply holds.known list
          rw [split]
          simp only [List.mem_cons, List.mem_append] at member ⊢
          tauto
      have sound : Sound engines _ := ⟨_, next⟩
      refine ⟨0, _, ?_, sound, sound.stringsLive, rfl, rfl, rfl, ?_⟩
      · change gpgmeRelease state ctx = _
        have nodes
            : (placed.map Placed.entry).map Node.made
              = placed.map fun placed => Node.made placed.entry := by
          rw [List.map_map]
          rfl
        simp only [gpgmeRelease, found, nodes, released]
        rfl
      · intro list member
        obtain ⟨kept, source, rfl⟩ := next.lists member
        refine listContents_same (holds.owned ?_) (next.owned source)
        rw [split]
        simp only [List.mem_cons, List.mem_append] at source ⊢
        tauto

/-- A new minimal version takes the place of the old one. -/
theorem minimal_delivers (value : Option Str) (sound : Sound engines state)
    : Survives engines granted state (.setMinimalVersion value) := by
  obtain ⟨layout, holds⟩ := sound
  have owned
      : state.mem.blocks
        = stringSlot (layout.minimal.map Prod.fst) ((layout.minimal.map Prod.snd).getD [])
          + (listBlocks layout.engine + Layout.copyBlocks layout.copies) := by
    rw [holds.blocks]
    unfold Layout.minimalBlocks
    abel
  obtain ⟨mem, freed, blocks, -⟩ := ends_ok (free_ends owned)
  rw [← holds.minimal] at freed
  have made := strdup_duplicated granted mem value
  have next : Layout.Of engines
      { layout with minimal := (strdup granted mem value).1.map fun id => (id, value.getD []) }
      { state with
        mem := (strdup granted mem value).2
        minimalVersion := (strdup granted mem value).1 } := by
    refine ⟨holds.engine, ?_, holds.copies, ?_, holds.known⟩
    · cases (strdup granted mem value).1 <;> rfl
    · rw [made.blocks, blocks]
      unfold Layout.minimalBlocks
      cases (strdup granted mem value).1 <;> simp [stringSlot]
  have sound : Sound engines _ := ⟨_, next⟩
  refine ⟨if value.isSome && (strdup granted mem value).1.isNone then 1 else 0, _, ?_, sound,
    sound.stringsLive, rfl, rfl, ?_⟩
  · change setEngineMinimalVersion granted state value = _
    rw [setEngineMinimalVersion, freed]
    rfl
  · intro list member
    obtain ⟨kept, source, rfl⟩ := holds.lists member
    exact listContents_same (holds.owned source) (next.owned source)

/-- A call on a sound state survives exactly under its condition. -/
theorem survives_iff (call : Call) (sound : Sound engines state)
    : Survives engines granted state call ↔ harmless engines granted state call := by
  cases call with
  | getEngineInfo printed => exact iff_of_true (get_survives printed sound) rfl
  | engineInfoCopy printed =>
      exact afterGet_delivers printed sound fun ready readySound => copy_delivers readySound
  | setEngineInfo printed proto fileName homeDir =>
      exact afterGet_delivers printed sound fun ready readySound =>
        set_delivers printed proto fileName homeDir readySound
  | ctxSetEngineInfo printed ctx proto fileName homeDir =>
      cases found : state.copies[ctx]? with
      | none =>
          have refused
              : step engines granted state (.ctxSetEngineInfo printed ctx proto fileName homeDir)
                = .ok (gpgError ErrCode.invValue, state) := by
            change gpgmeCtxSetEngineInfo engines granted printed state ctx proto fileName homeDir
              = _
            rw [gpgmeCtxSetEngineInfo, found]
          refine iff_of_true ⟨_, state, refused, sound, sound.stringsLive,
            Or.inr ⟨invValue_ne_zero, rfl, rfl, rfl, rfl⟩⟩ ?_
          simp only [harmless, found]
      | some list =>
          have delivers :=
            ctxSet_delivers granted printed proto fileName homeDir sound found
          simpa only [Survives, step, gpgmeCtxSetEngineInfo, harmless, found, Effect] using delivers
  | setMinimalVersion value => exact iff_of_true (minimal_delivers value sound) rfl
  | release ctx => exact iff_of_true (release_delivers ctx sound) rfl

end Proofs

-----------------------------------------------------------------------------------------
-- Runs
-----------------------------------------------------------------------------------------

/-- All calls of a run survive whatever allocations fail exactly when every call of it meets its
condition, by induction on the calls.
-/
theorem engine_info_survives_iff (engines : List (Option EngineOps)) (granted : Nat → Bool)
    {state : State} (sound : Sound engines state) (calls : List Call)
    : FaultMachine.Along (step engines granted) (Survives engines granted) state calls
      ↔ FaultMachine.Along (step engines granted)
          (fun state call => harmless engines granted state call) state calls := by
  induction calls generalizing state with
  | nil => exact Iff.rfl
  | cons call rest ih =>
      unfold FaultMachine.Along
      rw [survives_iff call sound]
      apply and_congr_right
      intro fine
      obtain ⟨err, next, stepped, nextSound, -⟩ := (survives_iff call sound).mpr fine
      rw [stepped]
      exact ih nextSound

/-- Nothing is allocated when the program starts. -/
theorem initial_sound (engines : List (Option EngineOps)) : Sound engines {} := by
  refine ⟨⟨[], none, []⟩, rfl, rfl, rfl, rfl, ?_⟩
  intro list member placed isPlaced
  rw [List.mem_singleton.mp member] at isPlaced
  cases isPlaced

/-- One engine. -/
def gpgOnly : List (Option EngineOps) := [some { getFileName := some (str "gpg") }]

/-- A run in which the first copy fails: none of its attempts is granted. -/
theorem failed_copy_survives
    : FaultMachine.Along (step gpgOnly fun attempt => attempt < 3 || 5 < attempt)
        (Survives gpgOnly fun attempt => attempt < 3 || 5 < attempt) {}
        [.engineInfoCopy fun _ => some (str "2.2.20"),
          .setEngineInfo (fun _ => none) 0 (some (str "gpg2")) none,
          .engineInfoCopy fun _ => none,
          .release 0] :=
  (engine_info_survives_iff gpgOnly _ (initial_sound gpgOnly) _).mpr (by decide)

/-- One refused attempt is enough: a change of the default list then succeeds with freed members
and without a version, and a copy reads a member that was never set.
-/
theorem refused_attempt_not_survived
    : (¬∀ (granted : Nat → Bool) (calls : List Call),
        FaultMachine.Along (step gpgOnly granted) (Survives gpgOnly granted) {} calls)
      ∧ ((step gpgOnly (fun attempt => attempt != 4) {}
            (.setEngineInfo (fun _ => none) 0 none none)).toOption.map fun result =>
          (result.1, result.2.engineInfo.map fun info =>
            (info.version, info.fileName.map fun id => (readString result.2.mem id).toOption)))
        = some (0, [(none, some none)])
      ∧ (match step gpgOnly (fun attempt => attempt != 4) {} (.engineInfoCopy fun _ => none) with
        | .ok _ => none
        | .error fault => some fault)
        = some .neverSet := by
  have failed
      : (match step gpgOnly (fun attempt => attempt != 4) {} (.engineInfoCopy fun _ => none) with
        | .ok _ => none
        | .error fault => some fault)
        = some .neverSet := by decide
  refine ⟨?_, rfl, failed⟩
  intro always
  obtain ⟨⟨err, next, stepped, -⟩, -⟩ :=
    always (fun attempt => attempt != 4) [.engineInfoCopy fun _ => none]
  rw [stepped] at failed
  cases failed

end Gpgme.InfoLists
