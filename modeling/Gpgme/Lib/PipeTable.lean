import Gpgme.Lib.PipeEnds

/-! The table of the pipe ends from the outside: what a call leaves under the other numbers, and
the files that somebody else opens and closes in between.
-/

namespace PipeEnds

variable {ends : PipeEnds} {fd number : Nat} {id : Nat} {held : Set Nat}

-----------------------------------------------------------------------------------------
-- What the calls leave
-----------------------------------------------------------------------------------------

theorem files_openEnd
    : ends.openEnd.fds.files number
      = if number = ends.number then some (some ends.ledger.created) else ends.fds.files number :=
  Descriptors.set_files ..

theorem files_close
    : (ends.close fd).fds.files number = if number = fd then none else ends.fds.files number := by
  unfold close
  split
  · exact Descriptors.close_files ..
  · exact Descriptors.close_files ..
  · next absent =>
      split
      · next same => rw [same, absent]
      · rfl

@[simp]
theorem created_close : (ends.close fd).ledger.created = ends.ledger.created :=
  fewer_close.created

theorem kept_openEnd {file : Option Nat} (found : ends.fds.files number = some file)
    : ends.openEnd.fds.files number = some file := by
  rw [files_openEnd, if_neg ?_, found]
  rintro rfl
  have free := ends.fds.lowest_closed
  unfold PipeEnds.number at found
  rw [free] at found
  cases found

theorem kept_close {file : Option Nat} (isEnd : ends.fds.files fd = some (some id))
    (found : ends.fds.files number = some file) (other : file ≠ some id)
    : (ends.close fd).fds.files number = some file := by
  rw [files_close, if_neg ?_, found]
  rintro rfl
  rw [found] at isEnd
  cases isEnd
  exact other rfl

-----------------------------------------------------------------------------------------
-- Files of others
-----------------------------------------------------------------------------------------

/-- Somebody else opens a file. -/
def openOther (ends : PipeEnds) : PipeEnds where
  fds := ends.fds.set ends.fds.lowest none
  ledger := ends.ledger
  live := by
    intro fd id found
    rw [Descriptors.set_files] at found
    split at found
    · cases found
    · exact ends.live fd id found
  present := by
    intro id live
    obtain ⟨fd, found⟩ := ends.present id live
    refine ⟨fd, ?_⟩
    rw [Descriptors.set_files, if_neg ?_, found]
    rintro rfl
    rw [ends.fds.lowest_closed] at found
    cases found
  distinct := by
    intro fd other id found found'
    rw [Descriptors.set_files] at found found'
    split at found
    · cases found
    · split at found'
      · cases found'
      · exact ends.distinct fd other id found found'

/-- Somebody else closes a file of his; with another number nothing is done. -/
def closeOther (ends : PipeEnds) (fd : Nat) : PipeEnds :=
  match foreign : ends.fds.files fd with
  | some (some _) => ends
  | some none =>
      { fds := ends.fds.close fd
        ledger := ends.ledger
        live := by
          intro number id found
          rw [Descriptors.close_files] at found
          split at found
          · cases found
          · exact ends.live number id found
        present := by
          intro id live
          obtain ⟨number, found⟩ := ends.present id live
          refine ⟨number, ?_⟩
          rw [Descriptors.close_files, if_neg ?_, found]
          rintro rfl
          rw [foreign] at found
          cases found
        distinct := ends.distinct_closed fd }
  | none => ends

theorem files_openOther
    : ends.openOther.fds.files number
      = if number = ends.number then some none else ends.fds.files number :=
  Descriptors.set_files ..

theorem files_closeOther (foreign : ends.fds.files fd = some none)
    : (ends.closeOther fd).fds.files number
      = if number = fd then none else ends.fds.files number := by
  unfold closeOther
  split
  · next found =>
      rw [foreign] at found
      cases found
  · exact Descriptors.close_files ..
  · next found =>
      rw [foreign] at found
      cases found

theorem closeOther_of_ne (other : ends.fds.files fd ≠ some none) : ends.closeOther fd = ends := by
  unfold closeOther
  split
  · rfl
  · next found => exact absurd found other
  · rfl

@[simp]
theorem ledger_closeOther : (ends.closeOther fd).ledger = ends.ledger := by
  unfold closeOther
  split <;> rfl

theorem end_openOther
    : ends.openOther.fds.files number = some (some id)
      ↔ ends.fds.files number = some (some id) := by
  rw [files_openOther]
  split
  · next same =>
      have free := ends.fds.lowest_closed
      rw [same]
      simp [PipeEnds.number, free]
  · rfl

theorem end_closeOther
    : (ends.closeOther fd).fds.files number = some (some id)
      ↔ ends.fds.files number = some (some id) := by
  by_cases foreign : ends.fds.files fd = some none
  · rw [files_closeOther foreign]
    split
    · next same => simp [same, foreign]
    · rfl
  · rw [closeOther_of_ne foreign]

-----------------------------------------------------------------------------------------
-- Rules for the places
-----------------------------------------------------------------------------------------

section Places

variable {ι : Type*} {slot : ι → Option Nat} {lost : Set Nat}

theorem Holds.isEnd (holds : ends.Holds slot lost) {s : ι} (found : slot s = some fd)
    : ∃ id, ends.fds.files fd = some (some id) :=
  (holds.owns.isOpen fd).mpr (mem_held found)

theorem Holds.sameEnds (holds : ends.Holds slot lost) {next : PipeEnds}
    (same
      : ∀ number id,
          next.fds.files number = some (some id) ↔ ends.fds.files number = some (some id))
    (ledger : next.ledger = ends.ledger)
    : next.Holds slot lost where
  distinct := holds.distinct
  apart := holds.apart
  owns :=
    { isOpen := by
        intro number
        rw [← holds.owns.isOpen]
        exact exists_congr (same number)
      exact := by rw [ledger, holds.owns.exact] }

theorem Holds.closeLost (holds : ends.Holds slot lost) (member : fd ∈ lost)
    : (ends.close fd).Holds slot (lost \ {fd}) := by
  have elsewhere : numbersIn slot \ {fd} = numbersIn slot := by
    apply Set.sdiff_singleton_eq_self
    rintro ⟨s, found⟩
    exact holds.apart s fd found member
  refine ⟨holds.distinct, ?_, ?_⟩
  · intro s number found inLost
    exact holds.apart s number found inLost.1
  · have closed := holds.owns.close (Or.inr member)
    rw [Set.union_sdiff_distrib, elsewhere] at closed
    exact closed

variable [DecidableEq ι] {s t : ι}

theorem Holds.pipe (holds : ends.Holds slot lost) (apart : s ≠ t) (empty : slot s = none)
    (empty' : slot t = none)
    : ends.pipe.2.Holds
        (Function.update (Function.update slot s (some ends.pipe.1.1)) t (some ends.pipe.1.2))
        lost := by
  have first := holds.openEnd empty
  apply first.openEnd
  rw [Function.update_of_ne (Ne.symm apart), empty']

theorem files_pipe (ends : PipeEnds)
    : ends.pipe.2.fds.files ends.pipe.1.1 = some (some ends.ledger.created)
      ∧ ends.pipe.2.fds.files ends.pipe.1.2 = some (some (ends.ledger.created + 1)) := by
  refine ⟨kept_openEnd ?_, ?_⟩
  · rw [files_openEnd]
    exact if_pos rfl
  · exact files_openEnd.trans (if_pos rfl)

theorem created_pipe : ends.pipe.2.ledger.created = ends.ledger.created + 2 := rfl

end Places

end PipeEnds
