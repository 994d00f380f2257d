import Mathlib.Logic.Function.Basic
import Mathlib.Tactic

/-! A table of slots that are used again. A new entry takes the first free slot or the first one by
which the table grows, and whoever owns a slot knows it by its index.
-/

namespace SlotTable

variable {σ ι : Type} {free : σ → Bool} {table extra : List σ} {slot : σ}

-----------------------------------------------------------------------------------------
-- Entries
-----------------------------------------------------------------------------------------

/-- A new entry, with the slots by which a full table grows. -/
def put (free : σ → Bool) (extra : List σ) (slot : σ) (table : List σ) : List σ × Nat :=
  match table.findIdx? free with
  | some idx => (table.set idx slot, idx)
  | none => ((table ++ extra).set table.length slot, table.length)

/-- What an entry does to a table: it gets a slot that was free or new, the others stay, and the
new ones without an entry are free.
-/
structure Put (free : σ → Bool) (slot : σ) (table table' : List σ) (idx : Nat) : Prop where
  entry : table'[idx]? = some slot
  unused : ∀ old, table[idx]? = some old → free old = true
  kept : ∀ i old, i ≠ idx → table[i]? = some old → table'[i]? = some old
  others : ∀ i new, i ≠ idx → table'[i]? = some new → table[i]? = some new ∨ free new = true

/-- A free slot is overwritten. -/
theorem put_set {idx : Nat} {old : σ} (here : table[idx]? = some old) (unused : free old = true)
    : Put free slot table (table.set idx slot) idx where
  entry := by rw [List.getElem?_set_self (List.getElem?_eq_some_iff.mp here).1]
  unused := fun other found => by
    rw [here] at found
    exact Option.some.inj found ▸ unused
  kept := fun i other different found => by rwa [List.getElem?_set_ne different.symm]
  others := fun i new different found =>
    .inl (by rwa [List.getElem?_set_ne different.symm] at found)

/-- A full table grows by free slots. -/
theorem put_grow (grows : extra ≠ []) (blank : ∀ new ∈ extra, free new = true)
    : Put free slot table ((table ++ extra).set table.length slot) table.length where
  entry := by
    have positive := List.length_pos_iff.mpr grows
    rw [List.getElem?_set_self (by rw [List.length_append]; omega)]
  unused := fun old found => absurd (List.getElem?_eq_some_iff.mp found).1 (Nat.lt_irrefl _)
  kept := fun i old different found => by
    rwa [List.getElem?_set_ne different.symm,
      List.getElem?_append_left (List.getElem?_eq_some_iff.mp found).1]
  others := fun i new different found => by
    rw [List.getElem?_set_ne different.symm] at found
    rcases Nat.lt_or_ge i table.length with before | behind
    · exact .inl (by rwa [List.getElem?_append_left before] at found)
    · rw [List.getElem?_append_right behind] at found
      exact .inr (blank new (List.mem_of_getElem? found))

/-- There is a free slot, or the table grows by some. -/
theorem put_spec (room : table.any free = true ∨ (extra ≠ [] ∧ ∀ new ∈ extra, free new = true))
    : Put free slot table (put free extra slot table).1 (put free extra slot table).2 := by
  unfold put
  cases found : table.findIdx? free with
  | none =>
      obtain ⟨grows, blank⟩ := room.resolve_left fun some => by
        rw [← List.findIdx?_isSome, found] at some
        cases some
      exact put_grow grows blank
  | some idx =>
      obtain ⟨inside, unused, -⟩ := List.findIdx?_eq_some_iff_getElem.mp found
      exact put_set (List.getElem?_eq_getElem inside) unused

/-- The slots in front of a new entry are used. -/
theorem put_before {i : Nat} (before : i < (put free extra slot table).2)
    : ∃ old, table[i]? = some old ∧ free old = false := by
  unfold put at before
  cases found : table.findIdx? free with
  | none =>
      rw [found] at before
      have none := List.findIdx?_eq_none_iff.mp found table[i] (List.getElem_mem before)
      exact ⟨table[i], List.getElem?_eq_getElem before, none⟩
  | some idx =>
      rw [found] at before
      obtain ⟨inside, -, first⟩ := List.findIdx?_eq_some_iff_getElem.mp found
      have within : i < table.length := Nat.lt_trans before inside
      exact ⟨table[i], List.getElem?_eq_getElem within, by simpa using first i before⟩

-----------------------------------------------------------------------------------------
-- Owners
-----------------------------------------------------------------------------------------

/-- Every owner has a used slot of its own, with a content that belongs to it, and every used slot
has an owner.
-/
structure Owned (free : σ → Bool) (table : List σ) (place : ι → Option Nat) (holds : ι → σ → Prop)
    : Prop where
  held : ∀ owner idx, place owner = some idx →
    ∃ slot, table[idx]? = some slot ∧ free slot = false ∧ holds owner slot
  apart : ∀ owner other idx, place owner = some idx → place other = some idx → owner = other
  covered : ∀ idx slot, table[idx]? = some slot → free slot = false →
    ∃ owner, place owner = some idx

variable {place : ι → Option Nat} {holds : ι → σ → Prop} {owner : ι} {idx : Nat}

/-- Nobody owns a slot of the empty table. -/
theorem owned_empty (holds : ι → σ → Prop) : Owned free [] (fun _ => none) holds :=
  ⟨nofun, nofun, fun _ _ found => absurd found (by simp)⟩

/-- The contents belong to the owners in another sense. -/
theorem Owned.mono {holds' : ι → σ → Prop} (owned : Owned free table place holds)
    (more : ∀ owner idx slot, place owner = some idx → holds owner slot → holds' owner slot)
    : Owned free table place holds' where
  held := fun owner idx placed => by
    obtain ⟨slot, here, used, belongs⟩ := owned.held owner idx placed
    exact ⟨slot, here, used, more owner idx slot placed belongs⟩
  apart := owned.apart
  covered := owned.covered

variable [DecidableEq ι]

/-- A slot behind used ones stands no further back than there are owners. -/
theorem Owned.index_le (owned : Owned free table place holds) {owners : List ι}
    (all : ∀ owner i, place owner = some i → owner ∈ owners)
    (before : ∀ i < idx, ∃ old, table[i]? = some old ∧ free old = false)
    : idx ≤ owners.length := by
  have placed : ∀ i : Fin idx, ∃ owner, place owner = some i.val := by
    intro i
    obtain ⟨old, here, used⟩ := before i i.isLt
    exact owned.covered i old here used
  choose owner placed using placed
  have distinct : Set.InjOn owner (Finset.univ : Finset (Fin idx)) := by
    intro i _ j _ same
    have first := placed i
    rw [same] at first
    exact Fin.ext (Option.some.inj (first.symm.trans (placed j)))
  have into : ∀ i ∈ (Finset.univ : Finset (Fin idx)), owner i ∈ owners.toFinset :=
    fun i _ => List.mem_toFinset.mpr (all _ _ (placed i))
  have few := Finset.card_le_card_of_injOn owner into distinct
  rw [Finset.card_univ, Fintype.card_fin] at few
  exact few.trans (List.toFinset_card_le owners)

/-- A new owner gets the slot of its entry; no other owner has it. -/
theorem Owned.put {table' : List σ} (owned : Owned free table place holds)
    (put : Put free slot table table' idx) (absent : place owner = none)
    (used : free slot = false) (fits : holds owner slot)
    : Owned free table' (Function.update place owner (some idx)) holds := by
  have clear : ∀ other, place other ≠ some idx := by
    intro other placed
    obtain ⟨old, here, inUse, -⟩ := owned.held other idx placed
    exact Bool.false_ne_true (inUse.symm.trans (put.unused old here))
  constructor
  · intro other i placed
    by_cases own : other = owner
    · subst own
      rw [Function.update_self] at placed
      cases placed
      exact ⟨slot, put.entry, used, fits⟩
    · rw [Function.update_of_ne own] at placed
      obtain ⟨old, here, rest⟩ := owned.held other i placed
      exact ⟨old, put.kept i old (fun same => clear other (same ▸ placed)) here, rest⟩
  · intro first second i placed placed'
    by_cases own : first = owner <;> by_cases own' : second = owner
    · rw [own, own']
    · subst own
      rw [Function.update_self] at placed
      rw [Function.update_of_ne own'] at placed'
      exact absurd (placed.trans rfl ▸ placed') (clear second)
    · subst own'
      rw [Function.update_self] at placed'
      rw [Function.update_of_ne own] at placed
      exact absurd (placed' ▸ placed) (clear first)
    · rw [Function.update_of_ne own] at placed
      rw [Function.update_of_ne own'] at placed'
      exact owned.apart first second i placed placed'
  · intro i new found inUse
    by_cases here : i = idx
    · exact ⟨owner, by rw [Function.update_self, here]⟩
    · rcases put.others i new here found with before | unused
      · obtain ⟨other, placed⟩ := owned.covered i new before inUse
        refine ⟨other, ?_⟩
        rw [Function.update_of_ne, placed]
        rintro rfl
        exact absurd (absent.symm.trans placed) (by simp)
      · exact absurd (inUse.symm.trans unused) Bool.false_ne_true

/-- An owner leaves, and its slot becomes free. -/
theorem Owned.release {blank : σ} (owned : Owned free table place holds)
    (placed : place owner = some idx) (unused : free blank = true)
    : Owned free (table.set idx blank) (Function.update place owner none) holds := by
  have inside : idx < table.length := by
    obtain ⟨slot, here, -⟩ := owned.held owner idx placed
    exact (List.getElem?_eq_some_iff.mp here).1
  have remains : ∀ other i, Function.update place owner none other = some i →
      other ≠ owner ∧ place other = some i := by
    intro other i placed'
    by_cases own : other = owner
    · rw [own, Function.update_self] at placed'
      cases placed'
    · rw [Function.update_of_ne own] at placed'
      exact ⟨own, placed'⟩
  constructor
  · intro other i placed'
    obtain ⟨different, placed'⟩ := remains other i placed'
    obtain ⟨slot, here, rest⟩ := owned.held other i placed'
    refine ⟨slot, ?_, rest⟩
    rw [List.getElem?_set_ne, here]
    rintro rfl
    exact different (owned.apart other owner idx placed' placed)
  · intro first second i placed' placed''
    exact owned.apart first second i (remains first i placed').2 (remains second i placed'').2
  · intro i slot found inUse
    by_cases here : i = idx
    · rw [here, List.getElem?_set_self inside] at found
      cases found
      exact absurd (inUse.symm.trans unused) Bool.false_ne_true
    · rw [List.getElem?_set_ne (Ne.symm here)] at found
      obtain ⟨other, placed'⟩ := owned.covered i slot found inUse
      refine ⟨other, ?_⟩
      rw [Function.update_of_ne, placed']
      rintro rfl
      exact here (Option.some.inj (placed'.symm.trans placed))

end SlotTable
