import Mathlib.Tactic

/-! The first occurrence of one list in another. A place in a list is the suffix that starts
there, so that the earlier of two places is the longer one.
-/

namespace Substring

variable {α : Type*} [DecidableEq α] {needle s t : List α}

/-- The suffix that starts with the first occurrence. -/
def find (needle : List α) : List α → Option (List α)
  | [] => if needle = [] then some [] else none
  | c :: s => if needle <+: c :: s then some (c :: s) else find needle s

/-- What starts with the needle is found at once. -/
theorem find_of_prefix (start : needle <+: s) : find needle s = some s := by
  cases s with
  | nil => rw [find, if_pos (List.prefix_nil.mp start)]
  | cons c s => rw [find, if_pos start]

/-- What is found is a suffix that starts with the needle. -/
theorem find_spec (found : find needle s = some t) : t <:+ s ∧ needle <+: t := by
  induction s with
  | nil =>
      rw [find] at found
      split_ifs at found with empty
      cases found
      exact ⟨List.suffix_rfl, by rw [empty]⟩
  | cons c s ih =>
      rw [find] at found
      split_ifs at found with start
      · cases found
        exact ⟨List.suffix_rfl, start⟩
      · obtain ⟨suffix, starts⟩ := ih found
        exact ⟨suffix.trans (List.suffix_cons c s), starts⟩

/-- No occurrence is in front of the one that is found. -/
theorem find_first (before : List α) (start : needle <+: t)
    : ∃ found, find needle (before ++ t) = some found ∧ t.length ≤ found.length := by
  induction before with
  | nil => exact ⟨t, find_of_prefix start, le_rfl⟩
  | cons c before ih =>
      obtain ⟨found, finds, far⟩ := ih
      by_cases here : needle <+: c :: (before ++ t)
      · refine ⟨c :: (before ++ t), find_of_prefix here, ?_⟩
        simp only [List.length_cons, List.length_append]
        omega
      · exact ⟨found, by rw [List.cons_append, find, if_neg here, finds], far⟩

/-- Nothing is found exactly where the needle does not occur. -/
theorem find_eq_none_iff : find needle s = none ↔ ¬needle <:+: s := by
  constructor
  · rintro nothing ⟨before, rest, rfl⟩
    obtain ⟨found, finds, -⟩ :=
      find_first before (List.prefix_append needle rest)
    rw [List.append_assoc, finds] at nothing
    cases nothing
  · intro absent
    cases finds : find needle s with
    | none => rfl
    | some t =>
        obtain ⟨suffix, start⟩ := find_spec finds
        exact absurd (start.isInfix.trans suffix.isInfix) absent

/-- A needle that has its first element nowhere else is found behind a text without it. -/
theorem find_append {before : List α} (rest : List α)
    (single : ∀ first ∈ needle.head?, first ∉ needle.tail) (absent : ¬needle <:+: before)
    : find needle (before ++ (needle ++ rest)) = some (needle ++ rest) := by
  induction before with
  | nil => exact find_of_prefix (List.prefix_append _ _)
  | cons c before ih =>
      have later : ¬needle <:+: before := fun inside =>
        absent (inside.trans (List.suffix_cons c before).isInfix)
      have other : ¬needle <+: c :: (before ++ (needle ++ rest)) := by
        cases needle with
        | nil => exact fun _ => absent (List.nil_infix)
        | cons first tail =>
            intro start
            obtain ⟨same, start⟩ := List.cons_prefix_cons.mp start
            rcases Nat.lt_or_ge before.length tail.length with short | long
            · -- The occurrence would reach the first element of the next one.
              refine single first rfl ?_
              have place : tail[before.length] = first := by
                rw [start.getElem short]
                simp
              rw [← place]
              exact List.getElem_mem short
            · have inside : tail <+: before :=
                List.prefix_of_prefix_length_le start (List.prefix_append _ _) long
              exact absent
                (by rw [same]; exact (List.cons_prefix_cons.mpr ⟨rfl, inside⟩).isInfix)
      rw [List.cons_append, find, if_neg other, ih later]

end Substring
