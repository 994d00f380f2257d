import Mathlib.Tactic

/-! Texts between delimiters that nest, and readers that count how many are open. -/

namespace Nesting

variable {α σ : Type*} [DecidableEq α] {opening closing : α} {s : List α}

/-- No delimiter closes more than was opened, and all that was opened is closed. -/
structure Balanced (opening closing : α) (s : List α) : Prop where
  prefixes : ∀ p, p <+: s → p.count closing ≤ p.count opening
  settled : s.count closing = s.count opening

instance (opening closing : α) (s : List α) : Decidable (Balanced opening closing s) :=
  decidable_of_iff
    ((∀ p ∈ s.inits, p.count closing ≤ p.count opening) ∧ s.count closing = s.count opening)
    ⟨fun both => ⟨fun p start => both.1 p (List.mem_inits p s |>.mpr start), both.2⟩,
      fun balanced => ⟨fun p member => balanced.prefixes p (List.mem_inits p s |>.mp member),
        balanced.settled⟩⟩

/-- A reader keeps the text behind the outermost delimiter and the number of the delimiters behind
it that are open.
-/
structure Reads (opening closing : α) (step : σ → α → σ) (inside : Nat → List α → σ) : Prop where
  opens : ∀ depth text, step (inside depth text) opening = inside (depth + 1) (text ++ [opening])
  closes : ∀ depth text, step (inside (depth + 1) text) closing = inside depth (text ++ [closing])
  others
    : ∀ depth text c,
        c ≠ opening → c ≠ closing → step (inside depth text) c = inside depth (text ++ [c])

variable {step : σ → α → σ} {inside : Nat → List α → σ}

/-- A text that does not close the outermost delimiter is read as a whole, by induction on it. -/
theorem Reads.foldl (reads : Reads opening closing step inside) (differ : opening ≠ closing)
    {depth : Nat} {text : List α}
    (prefixes : ∀ p, p <+: s → p.count closing ≤ depth + p.count opening)
    : s.foldl step (inside depth text)
      = inside (depth + s.count opening - s.count closing) (text ++ s) := by
  induction s generalizing depth text with
  | nil => simp
  | cons c rest ih =>
      have later {depth' : Nat}
          (counts
            : ∀ p : List α,
                (c :: p).count closing ≤ depth + (c :: p).count opening
                → p.count closing ≤ depth' + p.count opening)
          : ∀ p, p <+: rest → p.count closing ≤ depth' + p.count opening := by
        intro p start
        exact counts p (prefixes (c :: p) (List.cons_prefix_cons.mpr ⟨rfl, start⟩))
      rw [List.foldl_cons, show text ++ c :: rest = (text ++ [c]) ++ rest by simp]
      by_cases isOpening : c = opening
      · subst isOpening
        rw [reads.opens, ih (later ?_)]
        · rw [List.count_cons_self, List.count_cons_of_ne differ]
          congr 1
          omega
        · intro p
          rw [List.count_cons_self, List.count_cons_of_ne differ]
          omega
      by_cases isClosing : c = closing
      · subst isClosing
        have first := prefixes [c] (by simp)
        rw [List.count_cons_self, List.count_cons_of_ne isOpening, List.count_nil,
          List.count_nil] at first
        obtain ⟨depth, rfl⟩ : ∃ d, depth = d + 1 := ⟨depth - 1, by omega⟩
        rw [reads.closes, ih (later ?_)]
        · rw [List.count_cons_self, List.count_cons_of_ne isOpening]
          congr 1
          omega
        · intro p
          rw [List.count_cons_self, List.count_cons_of_ne isOpening]
          omega
      · rw [reads.others _ _ _ isOpening isClosing, ih (later ?_)]
        · rw [List.count_cons_of_ne isOpening, List.count_cons_of_ne isClosing]
        · intro p
          rw [List.count_cons_of_ne isOpening, List.count_cons_of_ne isClosing]
          exact id

/-- A balanced text leaves the depth as it was. -/
theorem Reads.balanced (reads : Reads opening closing step inside) (differ : opening ≠ closing)
    {text : List α} (balanced : Balanced opening closing s)
    : s.foldl step (inside 0 text) = inside 0 (text ++ s) := by
  rw [reads.foldl differ (fun p start => by simpa using balanced.prefixes p start),
    balanced.settled, Nat.zero_add, Nat.sub_self]

end Nesting
