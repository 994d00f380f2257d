import Mathlib.Data.List.TakeWhile
import Mathlib.Tactic

/-! The maximal runs of a list between separators: where it is split, without the empty parts. -/

namespace Runs

variable {α : Type} [DecidableEq α] {sep : α} {part s : List α}

/-- The maximal runs of elements that are not the separator. -/
def runs (sep : α) (s : List α) : List (List α) := (s.splitOn sep).filter (· ≠ [])

/-- An empty list has no runs. -/
theorem runs_nil (sep : α) : runs sep [] = [] := by
  simp [runs]

/-- A separator in front is not part of a run. -/
theorem runs_sep_cons (sep : α) (s : List α) : runs sep (sep :: s) = runs sep s := by
  have split := List.splitOn_append_cons_self_of_not_mem (a := sep) (List.not_mem_nil (a := sep)) s
  rw [List.nil_append] at split
  simp [runs, split]

/-- A list without separators is one run. -/
theorem runs_single (filled : part ≠ []) (plain : sep ∉ part) : runs sep part = [part] := by
  rw [runs, List.splitOn_eq_singleton plain]
  simp [filled]

/-- The first run ends with the separator behind it. -/
theorem runs_append_cons (filled : part ≠ []) (plain : sep ∉ part) (s : List α)
    : runs sep (part ++ sep :: s) = part :: runs sep s := by
  rw [runs, List.splitOn_append_cons_self_of_not_mem plain]
  simp [filled, runs]

/-- Separators in front do not change the runs, by induction on the list. -/
theorem runs_dropWhile (sep : α) (s : List α)
    : runs sep (s.dropWhile (· == sep)) = runs sep s := by
  induction s with
  | nil => rfl
  | cons c s ih =>
      by_cases same : c = sep
      · subst same
        rw [List.dropWhile_cons_of_pos (by simp), ih, runs_sep_cons]
      · rw [List.dropWhile_cons_of_neg (by simpa using same)]

/-- What stands in front of the first separator, and what begins with it. -/
theorem split_first (sep : α) (s : List α)
    : sep ∉ s.takeWhile (· != sep)
      ∧ (s.dropWhile (· != sep) = [] ∨ ∃ rest, s.dropWhile (· != sep) = sep :: rest) := by
  constructor
  · intro member
    simpa using List.mem_takeWhile_imp member
  · cases behind : s.dropWhile (· != sep) with
    | nil => exact .inl rfl
    | cons c rest =>
        have stops := List.head_dropWhile_not (· != sep) (l := s) (by rw [behind]; simp)
        simp only [behind, List.head_cons] at stops
        exact .inr ⟨rest, by rw [show c = sep by simpa using stops]⟩

/-- What is left behind the separators in front starts with something else. -/
theorem dropWhile_first (sep : α) (s : List α)
    : s.dropWhile (· == sep) = [] ∨ ∃ c rest, s.dropWhile (· == sep) = c :: rest ∧ c ≠ sep := by
  cases behind : s.dropWhile (· == sep) with
  | nil => exact .inl rfl
  | cons c rest =>
      have stops := List.head_dropWhile_not (· == sep) (l := s) (by rw [behind]; simp)
      simp only [behind, List.head_cons] at stops
      exact .inr ⟨c, rest, rfl, by simpa using stops⟩

/-- No run is empty. -/
theorem ne_nil_of_mem_runs (member : part ∈ runs sep s) : part ≠ [] := by
  simpa using (List.mem_filter.mp member).2

/-- There is no run exactly where there is nothing but separators. -/
theorem runs_eq_nil_iff : runs sep s = [] ↔ ∀ c ∈ s, c = sep := by
  induction s with
  | nil => simp [runs_nil]
  | cons c s ih =>
      by_cases same : c = sep
      · subst same
        rw [runs_sep_cons, ih]
        simp
      · refine iff_of_false ?_ (fun all => same (all c List.mem_cons_self))
        obtain ⟨plain, ends⟩ := split_first sep (c :: s)
        have filled : (c :: s).takeWhile (· != sep) ≠ [] := by simp [same]
        have whole := List.takeWhile_append_dropWhile (p := (· != sep)) (l := c :: s)
        rcases ends with last | ⟨rest, behind⟩
        · rw [last, List.append_nil] at whole
          rw [← whole, runs_single filled plain]
          simp
        · rw [← whole, behind, runs_append_cons filled plain]
          simp

end Runs
