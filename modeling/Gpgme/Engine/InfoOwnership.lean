import Gpgme.Engine.InfoLists
import Gpgme.Lib.Fallible

/-! What the functions on engine information do with the blocks that the lists own: every function
is described by the live blocks before and after it.
-/

namespace Gpgme.InfoLists

open CString Fallible BlockHeap

-----------------------------------------------------------------------------------------
-- Entries with their contents
-----------------------------------------------------------------------------------------

/-- What an entry says, its strings read. -/
structure Info where
  protocol : Nat
  fileName : Str
  homeDir : Option Str
  version : Str
  reqVersion : Str
deriving DecidableEq

/-- What the strings of an entry read; there is nothing unless all of them are live. -/
def contents (mem : Memory) (info : EngineInfo) : Option Info := do
  let fileName ← info.fileName.bind fun id => (readString mem id).toOption
  let homeDir ←
    match info.homeDir with
    | none => some none
    | some id => (readString mem id).toOption.map some
  let version ← info.version.bind fun id => (readString mem id).toOption
  return ⟨info.protocol, fileName, homeDir, version, info.reqVersion⟩

def listContents (mem : Memory) (infos : List EngineInfo) : Option (List Info) :=
  infos.mapM (contents mem)

/-- An entry whose strings are live, with what they read. -/
structure Placed where
  self : Nat
  protocol : Nat
  fileName : Nat × Str
  homeDir : Option (Nat × Str)
  version : Nat × Str
  reqVersion : Str

namespace Placed

def entry (placed : Placed) : EngineInfo where
  self := placed.self
  protocol := placed.protocol
  fileName := some placed.fileName.1
  homeDir := placed.homeDir.map Prod.fst
  version := some placed.version.1
  reqVersion := placed.reqVersion

def info (placed : Placed) : Info where
  protocol := placed.protocol
  fileName := placed.fileName.2
  homeDir := placed.homeDir.map Prod.snd
  version := placed.version.2
  reqVersion := placed.reqVersion

end Placed

/-- What a pointer to a string owns that may be null. -/
def stringSlot (pointer : Option Nat) (text : Str) : Multiset (Nat × Block) :=
  slot pointer (.string text)

/-- The strings of an entry. -/
def Placed.strings (placed : Placed) : Multiset (Nat × Block) :=
  stringSlot (some placed.fileName.1) placed.fileName.2
  + stringSlot (placed.homeDir.map Prod.fst) ((placed.homeDir.map Prod.snd).getD [])
  + stringSlot (some placed.version.1) placed.version.2

def Placed.blocks (placed : Placed) : Multiset (Nat × Block) :=
  placed.strings + slot (some placed.self) .info

/-- The blocks that a list owns. -/
def listBlocks (list : List Placed) : Multiset (Nat × Block) := (list.map Placed.blocks).sum

@[simp]
theorem listBlocks_nil : listBlocks [] = 0 := rfl

@[simp]
theorem listBlocks_cons (placed : Placed) (list : List Placed)
    : listBlocks (placed :: list) = placed.blocks + listBlocks list :=
  List.sum_cons

@[simp]
theorem listBlocks_append (first second : List Placed)
    : listBlocks (first ++ second) = listBlocks first + listBlocks second := by
  simp [listBlocks]

-----------------------------------------------------------------------------------------
-- Strings
-----------------------------------------------------------------------------------------

section Strings

variable {granted : Nat → Bool} {mem : Memory} {pointer : Option Nat} {text : Str}
  {rest : Multiset (Nat × Block)}

theorem readString_of_mem {id : Nat} (owned : (id, Block.string text) ∈ mem.blocks)
    : readString mem id = .ok text := by
  unfold readString
  rw [read_of_mem owned]

theorem free_ends {content : Block} (owned : mem.blocks = slot pointer content + rest)
    : Ends (free mem pointer)
        (fun next => next.blocks = rest ∧ next.attempts = mem.attempts) fun _ => False := by
  obtain ⟨next, freed, kept, attempts⟩ := free_slot owned
  unfold free
  rw [freed]
  exact ⟨kept, attempts⟩

/-- The number of attempts to duplicate a string that may be missing. -/
def attemptsFor (text : Option Str) : Nat := if text.isSome then 1 else 0

/-- A duplicate is a block of its own, and the attempt was granted. -/
structure Duplicated (granted : Nat → Bool) (mem : Memory) (text : Option Str)
    (result : Option Nat × Memory)
    : Prop where
  blocks : result.2.blocks = stringSlot result.1 (text.getD []) + mem.blocks
  attempts : result.2.attempts = mem.attempts + attemptsFor text
  granted : result.1.isSome = (text.isSome && granted mem.attempts)

theorem malloc_duplicated
    : Duplicated granted mem (some text) (mem.malloc granted (.string text)) :=
  ⟨blocks_malloc _ _ _, attempts_malloc _ _ _, isSome_malloc _ _ _⟩

theorem strdup_duplicated (granted : Nat → Bool) (mem : Memory) (text : Option Str)
    : Duplicated granted mem text (strdup granted mem text) := by
  cases text with
  | none => exact ⟨(zero_add _).symm, rfl, rfl⟩
  | some text => exact malloc_duplicated

theorem strdupOf_ends (granted : Nat → Bool) (source : Option (Nat × Str))
    (owned : stringSlot (source.map Prod.fst) ((source.map Prod.snd).getD []) ≤ mem.blocks)
    : ∃ result, strdupOf granted mem (source.map Prod.fst) = .ok result
        ∧ Duplicated granted mem (source.map Prod.snd) result := by
  cases source with
  | none => exact ⟨(none, mem), rfl, (zero_add _).symm, rfl, rfl⟩
  | some source =>
      obtain ⟨id, text⟩ := source
      have mine : (id, Block.string text) ∈ mem.blocks := Multiset.singleton_le.mp owned
      refine ⟨mem.malloc granted (.string text), ?_, malloc_duplicated⟩
      simp only [strdupOf, Option.map_some, readString_of_mem mine]
      rfl

theorem freeMembers_ends {fileName homeDir version : Option Nat} {first second third : Str}
    (owned
      : mem.blocks
        = stringSlot fileName first + stringSlot homeDir second + stringSlot version third + rest)
    : Ends (freeMembers mem fileName homeDir version)
        (fun next => next.blocks = rest ∧ next.attempts = mem.attempts) fun _ => False := by
  have firstOwned
      : mem.blocks
        = slot fileName (.string first)
          + (stringSlot homeDir second + (stringSlot version third + rest)) := by
    rw [owned]
    unfold stringSlot
    abel
  refine (free_ends firstOwned).bind fun mem₁ freed₁ => ?_
  refine (free_ends freed₁.1).bind fun mem₂ freed₂ => ?_
  refine (free_ends freed₂.1).imp ?_ fun _ failed => failed
  rintro mem₃ ⟨kept, attempts⟩
  exact ⟨kept, attempts.trans (freed₂.2.trans freed₁.2)⟩

end Strings

-----------------------------------------------------------------------------------------
-- Reading and releasing lists
-----------------------------------------------------------------------------------------

section Lists

variable {mem : Memory} {rest : Multiset (Nat × Block)}

theorem contents_entry (placed : Placed) (owned : placed.strings ≤ mem.blocks)
    : contents mem placed.entry = some placed.info := by
  have file : (placed.fileName.1, Block.string placed.fileName.2) ∈ mem.blocks := by
    apply Multiset.mem_of_le owned
    simp [Placed.strings, stringSlot]
  have version : (placed.version.1, Block.string placed.version.2) ∈ mem.blocks := by
    apply Multiset.mem_of_le owned
    simp [Placed.strings, stringSlot]
  cases home : placed.homeDir with
  | none =>
      simp [contents, Placed.entry, Placed.info, home, readString_of_mem file,
        readString_of_mem version, Except.toOption]
  | some directory =>
      have directoryOwned : (directory.1, Block.string directory.2) ∈ mem.blocks := by
        apply Multiset.mem_of_le owned
        simp [Placed.strings, stringSlot, home]
      simp [contents, Placed.entry, Placed.info, home, readString_of_mem file,
        readString_of_mem version, readString_of_mem directoryOwned, Except.toOption]

theorem listContents_entries (list : List Placed) (owned : listBlocks list ≤ mem.blocks)
    : listContents mem (list.map Placed.entry) = some (list.map Placed.info) := by
  induction list with
  | nil => rfl
  | cons placed others ih =>
      rw [listBlocks_cons] at owned
      have first : placed.strings ≤ mem.blocks :=
        (Multiset.le_add_right _ _).trans ((Multiset.le_add_right _ _).trans owned)
      have later := ih ((Multiset.le_add_left _ _).trans owned)
      unfold listContents at later ⊢
      rw [List.map_cons, List.mapM_cons, contents_entry placed first, later]
      rfl

theorem engineInfoRelease_append (first second : List Node)
    : engineInfoRelease mem (first ++ second)
      = engineInfoRelease mem first >>= fun mem => engineInfoRelease mem second := by
  induction first generalizing mem with
  | nil => rfl
  | cons node others ih =>
      cases node with
      | raw self => rfl
      | zeroed self =>
          simp only [List.cons_append, engineInfoRelease, bind_assoc]
          congr 1
          funext mem
          exact ih
      | made info =>
          simp only [List.cons_append, engineInfoRelease, bind_assoc, ih]

theorem engineInfoRelease_ends (list : List Placed) (owned : mem.blocks = listBlocks list + rest)
    : Ends (engineInfoRelease mem (list.map fun placed => Node.made placed.entry))
        (fun next => next.blocks = rest ∧ next.attempts = mem.attempts) fun _ => False := by
  induction list generalizing mem with
  | nil =>
      rw [listBlocks_nil, zero_add] at owned
      exact ⟨owned, rfl⟩
  | cons placed others ih =>
      have strings
          : mem.blocks
            = stringSlot placed.entry.fileName placed.fileName.2
              + stringSlot placed.entry.homeDir ((placed.homeDir.map Prod.snd).getD [])
              + stringSlot placed.entry.version placed.version.2
              + (slot (some placed.entry.self) .info + (listBlocks others + rest)) := by
        rw [owned, listBlocks_cons]
        unfold Placed.blocks Placed.strings
        simp only [Placed.entry]
        abel
      have parts
          : engineInfoRelease mem ((placed :: others).map fun placed => Node.made placed.entry)
            = freeMembers mem placed.entry.fileName placed.entry.homeDir placed.entry.version
              >>= fun mem => free mem (some placed.entry.self)
              >>= fun mem =>
                engineInfoRelease mem (others.map fun placed => Node.made placed.entry) := by
        simp only [List.map_cons, engineInfoRelease, freeMembers, bind_assoc]
      rw [parts]
      refine (freeMembers_ends strings).bind fun mem₁ freed₁ => ?_
      refine (free_ends freed₁.1).bind fun mem₂ freed₂ => ?_
      refine (ih freed₂.1).imp ?_ fun _ failed => failed
      rintro mem₃ ⟨kept, attempts⟩
      exact ⟨kept, attempts.trans (freed₂.2.trans freed₁.2)⟩

end Lists

end Gpgme.InfoLists
