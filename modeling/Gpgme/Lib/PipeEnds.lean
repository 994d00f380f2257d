import Gpgme.Lib.Descriptors
import Gpgme.Lib.Ledger
import Mathlib.Data.List.ReduceOption

/-! The pipe ends that a part of a process creates. They live under descriptor numbers, which are
used again after a close, and are told apart by the order of their creation.
-/

/-- The descriptor table of the process. A number refers to one of the ends, by its place in the
order of creation, or to a file that somebody else has opened.
-/
structure PipeEnds where
  fds : Descriptors (Option Nat)
  ledger : Ledger
  live : ∀ fd id, fds.files fd = some (some id) → ledger.Live id
  present : ∀ id, ledger.Live id → ∃ fd, fds.files fd = some (some id)
  distinct
    : ∀ fd other id,
        fds.files fd = some (some id) → fds.files other = some (some id) → fd = other

namespace PipeEnds

-----------------------------------------------------------------------------------------
-- The calls
-----------------------------------------------------------------------------------------

/-- A process that has opened these files before. -/
def inherit (others : Descriptors Unit) : PipeEnds where
  fds := others.map fun _ => none
  ledger := .empty
  live := by simp
  present := by
    rintro id ⟨created, _⟩
    exact absurd created (Nat.not_lt_zero id)
  distinct := by simp

variable (ends : PipeEnds) (fd : Nat)

/-- The number that a new end gets. -/
def number : Nat := ends.fds.lowest

/-- The table with a new end under the lowest number that is not open. -/
def openEnd : PipeEnds where
  fds := ends.fds.set ends.fds.lowest (some ends.ledger.created)
  ledger := ends.ledger.acquire
  live := by
    intro fd id found
    rw [Ledger.live_acquire]
    rw [Descriptors.set_files] at found
    split at found
    · cases found
      exact Or.inr rfl
    · exact Or.inl (ends.live fd id found)
  present := by
    intro id live
    rcases Ledger.live_acquire.mp live with before | rfl
    · obtain ⟨fd, found⟩ := ends.present id before
      refine ⟨fd, ?_⟩
      rw [Descriptors.set_files, if_neg ?_, found]
      rintro rfl
      rw [ends.fds.lowest_closed] at found
      cases found
    · exact ⟨ends.fds.lowest, by rw [Descriptors.set_files, if_pos rfl]⟩
  distinct := by
    have fresh (fd : Nat) (found : ends.fds.files fd = some (some ends.ledger.created)) : False :=
      Ledger.created_not_live (ends.live fd _ found)
    intro fd other id found found'
    rw [Descriptors.set_files] at found found'
    split at found <;> split at found'
    · next isNew isNew' => rw [isNew, isNew']
    · cases found
      exact (fresh _ found').elim
    · cases found'
      exact (fresh _ found).elim
    · exact ends.distinct fd other id found found'

/-- `pipe`: the numbers of the read end and of the write end. -/
def pipe : (Nat × Nat) × PipeEnds :=
  let first := ends.openEnd
  ((ends.number, first.number), first.openEnd)

/-- The number refers to one of the ends. -/
def IsEnd : Prop := ∃ id, ends.fds.files fd = some (some id)

theorem distinct_closed
    : ∀ number other id,
        (ends.fds.close fd).files number = some (some id)
        → (ends.fds.close fd).files other = some (some id)
        → number = other := by
  intro number other id present present'
  rw [Descriptors.close_files] at present present'
  split at present <;> split at present'
  · cases present
  · cases present
  · cases present'
  · exact ends.distinct number other id present present'

/-- `close`; of a number that refers to no end it is a mistake, but a file of somebody else is
closed all the same.
-/
def close : PipeEnds :=
  match found : ends.fds.files fd with
  | some (some id) =>
      { fds := ends.fds.close fd
        ledger := ends.ledger.release id
        live := by
          intro number other present
          rw [Descriptors.close_files] at present
          split at present
          · cases present
          · next apart =>
              rw [Ledger.live_release (ends.live fd id found)]
              refine ⟨ends.live number other present, ?_⟩
              rintro rfl
              exact apart (ends.distinct number fd other present found)
        present := by
          intro other live
          rw [Ledger.live_release (ends.live fd id found)] at live
          obtain ⟨number, present⟩ := ends.present other live.1
          refine ⟨number, ?_⟩
          rw [Descriptors.close_files, if_neg ?_, present]
          rintro rfl
          rw [found] at present
          cases present
          exact live.2 rfl
        distinct := ends.distinct_closed fd }
  | some none =>
      { fds := ends.fds.close fd
        ledger := ends.ledger.miss
        live := by
          intro number id present
          rw [Descriptors.close_files] at present
          split at present
          · cases present
          · exact ends.live number id present
        present := by
          intro id live
          obtain ⟨number, present⟩ := ends.present id live
          refine ⟨number, ?_⟩
          rw [Descriptors.close_files, if_neg ?_, present]
          rintro rfl
          rw [found] at present
          cases present
        distinct := ends.distinct_closed fd }
  | none => { ends with ledger := ends.ledger.miss }

-----------------------------------------------------------------------------------------
-- The set of numbers that somebody has to close
-----------------------------------------------------------------------------------------

/-- The numbers of the ends that are open, and every close so far was one of an end. -/
structure Owns (ends : PipeEnds) (held : Set Nat) : Prop where
  isOpen : ∀ fd, ends.IsEnd fd ↔ fd ∈ held
  exact : ends.ledger.stray = 0

variable {ends} {fd} {held : Set Nat}

theorem owns_inherit (others : Descriptors Unit) : (inherit others).Owns ∅ where
  isOpen := by
    intro fd
    simp [IsEnd, inherit]
  exact := rfl

theorem number_fresh : ¬ends.IsEnd ends.number := by
  rintro ⟨id, found⟩
  have free := ends.fds.lowest_closed
  unfold number at found
  rw [free] at found
  cases found

theorem Owns.fresh (owns : ends.Owns held) : ends.number ∉ held := by
  rw [← owns.isOpen]
  exact number_fresh

theorem Owns.openEnd (owns : ends.Owns held) : ends.openEnd.Owns (insert ends.number held) where
  isOpen := by
    intro fd
    rw [Set.mem_insert_iff, ← owns.isOpen]
    unfold IsEnd
    simp only [PipeEnds.openEnd, Descriptors.set_files]
    split
    · next new => exact ⟨fun _ => Or.inl new, fun _ => ⟨_, rfl⟩⟩
    · next other => exact ⟨Or.inr, fun found => found.resolve_left other⟩
  exact := owns.exact

theorem close_of_end {id : Nat} (found : ends.fds.files fd = some (some id))
    : (ends.close fd).fds = ends.fds.close fd
      ∧ (ends.close fd).ledger = ends.ledger.release id := by
  unfold close
  split
  · next same =>
      rw [found] at same
      cases same
      exact ⟨rfl, rfl⟩
  · next same =>
      rw [found] at same
      cases same
  · next same =>
      rw [found] at same
      cases same

/-- No end was created, and those that are open were open under the same numbers before. -/
structure Fewer (ends next : PipeEnds) : Prop where
  created : next.ledger.created = ends.ledger.created
  left : ∀ fd id, next.fds.files fd = some (some id) → ends.fds.files fd = some (some id)

theorem Fewer.refl (ends : PipeEnds) : ends.Fewer ends := ⟨rfl, fun _ _ found => found⟩

theorem Fewer.trans {next last : PipeEnds} (first : ends.Fewer next) (second : next.Fewer last)
    : ends.Fewer last :=
  ⟨second.created.trans first.created, fun fd id found => first.left fd id (second.left fd id found)⟩

theorem fewer_close : ends.Fewer (ends.close fd) := by
  have left (number id : Nat) (found : (ends.fds.close fd).files number = some (some id))
      : ends.fds.files number = some (some id) := by
    rw [Descriptors.close_files] at found
    split at found
    · cases found
    · exact found
  unfold close
  split
  · exact ⟨Ledger.created_release, left⟩
  · exact ⟨rfl, left⟩
  · exact ⟨rfl, fun _ _ found => found⟩

theorem Owns.close (owns : ends.Owns held) (member : fd ∈ held)
    : (ends.close fd).Owns (held \ {fd}) := by
  obtain ⟨id, found⟩ := (owns.isOpen fd).mpr member
  obtain ⟨fds, ledger⟩ := close_of_end found
  refine ⟨?_, ?_⟩
  · intro other
    unfold IsEnd
    rw [fds, Descriptors.close_files, Set.mem_sdiff, Set.mem_singleton_iff, ← owns.isOpen]
    split
    · next same => simp [same]
    · next apart => exact ⟨fun isEnd => ⟨isEnd, apart⟩, And.left⟩
  · rw [ledger, Ledger.stray_release (ends.live fd id found), owns.exact]

theorem Owns.balanced_iff (owns : ends.Owns held) : ends.ledger.Balanced ↔ held = ∅ := by
  rw [Ledger.balanced_iff, Set.eq_empty_iff_forall_notMem]
  constructor
  · rintro ⟨none, _⟩ fd member
    obtain ⟨id, found⟩ := (owns.isOpen fd).mpr member
    exact none id (ends.live fd id found)
  · intro empty
    refine ⟨?_, owns.exact⟩
    intro id live
    obtain ⟨fd, found⟩ := ends.present id live
    exact empty fd ((owns.isOpen fd).mp ⟨id, found⟩)

-----------------------------------------------------------------------------------------
-- The places that hold the numbers
-----------------------------------------------------------------------------------------

variable {ι : Type*} {slot : ι → Option Nat} {lost : Set Nat}

/-- The numbers that are in a place. -/
def numbersIn (slot : ι → Option Nat) : Set Nat := {fd | ∃ s, slot s = some fd}

/-- Every open end is in exactly one place, or it is lost: no place holds its number. -/
structure Holds (ends : PipeEnds) (slot : ι → Option Nat) (lost : Set Nat) : Prop where
  distinct : ∀ s other fd, slot s = some fd → slot other = some fd → s = other
  apart : ∀ s fd, slot s = some fd → fd ∉ lost
  owns : ends.Owns (numbersIn slot ∪ lost)

theorem mem_held {s : ι} (found : slot s = some fd) : fd ∈ numbersIn slot ∪ lost :=
  Or.inl ⟨s, found⟩

theorem Holds.balanced_iff (holds : ends.Holds slot lost) (empty : ∀ s, slot s = none)
    : ends.ledger.Balanced ↔ lost = ∅ := by
  have none : numbersIn slot = ∅ := by
    ext fd
    simp [numbersIn, empty]
  rw [holds.owns.balanced_iff, none, Set.empty_union]

theorem Holds.congr (holds : ends.Holds slot lost) {slot' : ι → Option Nat}
    (same : ∀ s, slot' s = slot s)
    : ends.Holds slot' lost := by
  have equal : slot' = slot := funext same
  rw [equal]
  exact holds

theorem holds_inherit (others : Descriptors Unit) (empty : ∀ s, slot s = none)
    : (inherit others).Holds slot ∅ := by
  have nothing : numbersIn slot = ∅ := by
    ext fd
    simp [numbersIn, empty]
  refine ⟨?_, ?_, ?_⟩
  · intro s other fd found
    rw [empty] at found
    cases found
  · intro s fd found
    rw [empty] at found
    cases found
  · rw [nothing, Set.empty_union]
    exact owns_inherit others

theorem Holds.abandon (holds : ends.Holds slot lost) {slot' : ι → Option Nat}
    (given : ι → Prop) [DecidablePred given]
    (left : ∀ s, slot' s = if given s then none else slot s)
    : ends.Holds slot' ({fd | ∃ s, given s ∧ slot s = some fd} ∪ lost) := by
  have kept (place : ι) (fd : Nat) (now : slot' place = some fd)
      : ¬given place ∧ slot place = some fd := by
    rw [left] at now
    split at now
    · cases now
    · next stays => exact ⟨stays, now⟩
  refine ⟨?_, ?_, ?_⟩
  · intro place place' fd now now'
    exact holds.distinct place place' fd (kept _ _ now).2 (kept _ _ now').2
  · intro place fd now
    obtain ⟨stays, old⟩ := kept place fd now
    rintro (⟨place', gone, old'⟩ | member)
    · rw [holds.distinct place place' fd old old'] at stays
      exact stays gone
    · exact holds.apart place fd old member
  · have same : numbersIn slot' ∪ ({fd | ∃ s, given s ∧ slot s = some fd} ∪ lost)
        = numbersIn slot ∪ lost := by
      rw [← Set.union_assoc]
      congr 1
      ext fd
      simp only [numbersIn, Set.mem_union, Set.mem_ofPred_eq]
      constructor
      · rintro (⟨place, now⟩ | ⟨place, _, old⟩)
        · exact ⟨place, (kept place fd now).2⟩
        · exact ⟨place, old⟩
      · rintro ⟨place, old⟩
        by_cases gone : given place
        · exact Or.inr ⟨place, gone, old⟩
        · exact Or.inl ⟨place, by rw [left, if_neg gone, old]⟩
    rw [same]
    exact holds.owns

section Moves

variable [DecidableEq ι] {s t : ι}

theorem numbersIn_update_none (holds : ends.Holds slot lost) (found : slot s = some fd)
    : numbersIn (Function.update slot s none) = numbersIn slot \ {fd} := by
  ext other
  simp only [numbersIn, Set.mem_ofPred_eq, Set.mem_sdiff, Set.mem_singleton_iff]
  constructor
  · rintro ⟨place, held⟩
    have apart : place ≠ s := by
      rintro rfl
      rw [Function.update_self] at held
      cases held
    rw [Function.update_of_ne apart] at held
    refine ⟨⟨place, held⟩, ?_⟩
    rintro rfl
    exact apart (holds.distinct place s _ held found)
  · rintro ⟨⟨place, held⟩, different⟩
    refine ⟨place, ?_⟩
    rw [Function.update_of_ne, held]
    rintro rfl
    rw [found] at held
    cases held
    exact different rfl

theorem Holds.close (holds : ends.Holds slot lost) (found : slot s = some fd)
    : (ends.close fd).Holds (Function.update slot s none) lost := by
  have kept (place : ι) (other : Nat)
      (held : Function.update slot s none place = some other)
      : slot place = some other := by
    by_cases same : place = s
    · rw [same, Function.update_self] at held
      cases held
    · rwa [Function.update_of_ne same] at held
  refine ⟨?_, ?_, ?_⟩
  · intro place place' other held held'
    exact holds.distinct place place' other (kept _ _ held) (kept _ _ held')
  · intro place other held
    exact holds.apart place other (kept _ _ held)
  · have closed := holds.owns.close (mem_held found)
    rw [Set.union_sdiff_distrib, Set.sdiff_singleton_eq_self (holds.apart s fd found)] at closed
    rw [numbersIn_update_none holds found]
    exact closed

theorem Holds.openEnd (holds : ends.Holds slot lost) (empty : slot s = none)
    : ends.openEnd.Holds (Function.update slot s (some ends.number)) lost := by
  have fresh := holds.owns.fresh
  have held (place : ι) (fd : Nat)
      (found : Function.update slot s (some ends.number) place = some fd)
      : (place = s ∧ fd = ends.number) ∨ slot place = some fd := by
    by_cases same : place = s
    · rw [same, Function.update_self] at found
      cases found
      exact Or.inl ⟨same, rfl⟩
    · rw [Function.update_of_ne same] at found
      exact Or.inr found
  refine ⟨?_, ?_, ?_⟩
  · intro place place' fd found found'
    rcases held place fd found with ⟨rfl, rfl⟩ | old <;>
      rcases held place' _ found' with ⟨rfl, same⟩ | old'
    · rfl
    · exact (fresh (mem_held old')).elim
    · subst same
      exact (fresh (mem_held old)).elim
    · exact holds.distinct place place' fd old old'
  · intro place fd found member
    rcases held place fd found with ⟨rfl, rfl⟩ | old
    · exact fresh (Or.inr member)
    · exact holds.apart place fd old member
  · have opened := holds.owns.openEnd
    have same : numbersIn (Function.update slot s (some ends.number)) ∪ lost
        = insert ends.number (numbersIn slot ∪ lost) := by
      rw [← Set.insert_union]
      congr 1
      ext fd
      simp only [numbersIn, Set.mem_ofPred_eq, Set.mem_insert_iff]
      constructor
      · rintro ⟨place, found⟩
        rcases held place fd found with ⟨_, rfl⟩ | old
        · exact Or.inl rfl
        · exact Or.inr ⟨place, old⟩
      · rintro (rfl | ⟨place, found⟩)
        · exact ⟨s, Function.update_self _ _ _⟩
        · refine ⟨place, ?_⟩
          rw [Function.update_of_ne, found]
          rintro rfl
          rw [empty] at found
          cases found
    rw [same]
    exact opened

theorem Holds.move (holds : ends.Holds slot lost) (empty : slot t = none)
    (found : slot s = some fd)
    : ends.Holds (Function.update (Function.update slot s none) t (some fd)) lost := by
  have apart : t ≠ s := by
    rintro rfl
    rw [empty] at found
    cases found
  have held (place : ι) (number : Nat)
      (now : Function.update (Function.update slot s none) t (some fd) place = some number)
      : (place = t ∧ number = fd) ∨ (place ≠ s ∧ slot place = some number) := by
    by_cases isTarget : place = t
    · rw [isTarget, Function.update_self] at now
      cases now
      exact Or.inl ⟨isTarget, rfl⟩
    · rw [Function.update_of_ne isTarget] at now
      by_cases isSource : place = s
      · rw [isSource, Function.update_self] at now
        cases now
      · rw [Function.update_of_ne isSource] at now
        exact Or.inr ⟨isSource, now⟩
  have all : numbersIn (Function.update (Function.update slot s none) t (some fd))
      = numbersIn slot := by
    ext number
    simp only [numbersIn, Set.mem_ofPred_eq]
    constructor
    · rintro ⟨place, now⟩
      rcases held place number now with ⟨_, rfl⟩ | ⟨_, old⟩
      · exact ⟨s, found⟩
      · exact ⟨place, old⟩
    · rintro ⟨place, old⟩
      by_cases isSource : place = s
      · rw [isSource, found] at old
        cases old
        exact ⟨t, Function.update_self _ _ _⟩
      · refine ⟨place, ?_⟩
        rw [Function.update_of_ne, Function.update_of_ne isSource, old]
        rintro rfl
        rw [empty] at old
        cases old
  refine ⟨?_, ?_, ?_⟩
  · intro place place' number now now'
    rcases held place number now with ⟨rfl, rfl⟩ | ⟨notSource, old⟩ <;>
      rcases held place' _ now' with ⟨rfl, same⟩ | ⟨notSource', old'⟩
    · rfl
    · exact (notSource' (holds.distinct place' s _ old' found)).elim
    · subst same
      exact (notSource (holds.distinct place s _ old found)).elim
    · exact holds.distinct place place' number old old'
  · intro place number now
    rcases held place number now with ⟨_, rfl⟩ | ⟨_, old⟩
    · exact holds.apart s _ found
    · exact holds.apart place number old
  · rw [all]
    exact holds.owns

theorem foldl_empties {σ : Type*} (place : σ → ι → Option Nat) (empty : σ → ι → σ)
    (holds : σ → Prop)
    (step
      : ∀ state s,
          holds state
          → holds (empty state s)
            ∧ place (empty state s) = Function.update (place state) s none)
    (places : List ι) {state : σ} (initial : holds state)
    : holds (places.foldl empty state)
      ∧ ∀ s, place (places.foldl empty state) s = if s ∈ places then none else place state s := by
  induction places generalizing state with
  | nil => exact ⟨initial, fun s => by simp⟩
  | cons first rest ih =>
      obtain ⟨kept, now⟩ := step state first initial
      obtain ⟨final, left⟩ := ih kept
      refine ⟨final, ?_⟩
      intro s
      rw [List.foldl_cons, left, now, Function.update_apply]
      by_cases same : s = first <;> simp [same]

theorem foldl_numbers {σ : Type*} (place : σ → ι → Option Nat) (close : σ → Nat → σ)
    (empty : σ → ι → σ) (holds : σ → Prop)
    (step
      : ∀ state s,
          holds state
          → holds (empty state s)
            ∧ place (empty state s) = Function.update (place state) s none)
    (closes : ∀ state s fd, place state s = some fd → empty state s = close state fd)
    {places : List ι} (nodup : places.Nodup) {state : σ} (initial : holds state)
    (filled : ∀ s ∈ places, place state s ≠ none)
    : ((places.map (place state)).takeWhile Option.isSome).reduceOption.foldl close state
      = places.foldl empty state := by
  induction places generalizing state with
  | nil => rfl
  | cons s rest ih =>
      obtain ⟨fresh, nodupRest⟩ := List.nodup_cons.mp nodup
      obtain ⟨fd, held⟩ := Option.ne_none_iff_exists'.mp (filled s List.mem_cons_self)
      obtain ⟨kept, now⟩ := step state s initial
      have same (other : ι) (member : other ∈ rest)
          : place (empty state s) other = place state other := by
        rw [now, Function.update_of_ne]
        rintro rfl
        exact fresh member
      have sameList : rest.map (place state) = rest.map (place (empty state s)) :=
        List.map_congr_left (fun other member => (same other member).symm)
      rw [List.map_cons, held, List.takeWhile_cons_of_pos rfl, List.reduceOption_cons_of_some,
        List.foldl_cons, List.foldl_cons, ← closes state s fd held, sameList]
      apply ih nodupRest kept
      intro other member
      rw [same other member]
      exact filled other (List.mem_cons_of_mem _ member)

end Moves

end PipeEnds
