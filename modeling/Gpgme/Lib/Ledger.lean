import Mathlib.Tactic

/-! Resources that are told apart by the order of their creation, with an account of which of
them were released.
-/

/-- The number of resources created so far, the released ones in order, and the number of
releases that met nothing.
-/
structure Ledger where
  created : Nat := 0
  released : List Nat := []
  stray : Nat := 0
  once : released.Nodup := by simp
  existed : ∀ id ∈ released, id < created := by simp

namespace Ledger

/-- Nothing was created yet. -/
def empty : Ledger := {}

/-- The resource was created and not yet released. -/
def Live (ledger : Ledger) (id : Nat) : Prop := id < ledger.created ∧ id ∉ ledger.released

instance (ledger : Ledger) (id : Nat) : Decidable (ledger.Live id) :=
  inferInstanceAs (Decidable (_ ∧ _))

/-- A new resource, which gets the number `created`. -/
def acquire (ledger : Ledger) : Ledger where
  created := ledger.created + 1
  released := ledger.released
  stray := ledger.stray
  once := ledger.once
  existed id member := Nat.lt_succ_of_lt (ledger.existed id member)

/-- A release that meets nothing. -/
def miss (ledger : Ledger) : Ledger := { ledger with stray := ledger.stray + 1 }

/-- A resource is released, which is right only when it is live. -/
def release (ledger : Ledger) (id : Nat) : Ledger :=
  if live : ledger.Live id then
    { ledger with
      released := ledger.released ++ [id],
      once := by
        rw [List.nodup_append_comm, List.singleton_append, List.nodup_cons]
        exact ⟨live.2, ledger.once⟩,
      existed := by
        intro other member
        rcases List.mem_append.mp member with before | now
        · exact ledger.existed other before
        · rw [List.mem_singleton.mp now]
          exact live.1 }
  else
    ledger.miss

/-- Every resource was released exactly once, and no release met nothing. -/
def Balanced (ledger : Ledger) : Prop :=
  (∀ id < ledger.created, ledger.released.count id = 1) ∧ ledger.stray = 0

instance (ledger : Ledger) : Decidable ledger.Balanced := inferInstanceAs (Decidable (_ ∧ _))

variable {ledger : Ledger} {id other : Nat}

theorem live_acquire : ledger.acquire.Live other ↔ ledger.Live other ∨ other = ledger.created := by
  have kept : ledger.created ∉ ledger.released := by
    intro member
    exact Nat.lt_irrefl _ (ledger.existed _ member)
  unfold Live acquire
  constructor
  · rintro ⟨created, kept⟩
    rcases Nat.lt_succ_iff_lt_or_eq.mp created with before | new
    · exact Or.inl ⟨before, kept⟩
    · exact Or.inr new
  · rintro (⟨created, kept⟩ | rfl)
    · exact ⟨Nat.lt_succ_of_lt created, kept⟩
    · exact ⟨Nat.lt_succ_self _, kept⟩

theorem created_not_live : ¬ledger.Live ledger.created := fun live => Nat.lt_irrefl _ live.1

@[simp]
theorem created_release : (ledger.release id).created = ledger.created := by
  unfold release
  split <;> rfl

theorem stray_release (live : ledger.Live id) : (ledger.release id).stray = ledger.stray := by
  unfold release
  rw [dif_pos live]

theorem released_release (live : ledger.Live id)
    : (ledger.release id).released = ledger.released ++ [id] := by
  unfold release
  rw [dif_pos live]

theorem live_release (live : ledger.Live id)
    : (ledger.release id).Live other ↔ ledger.Live other ∧ other ≠ id := by
  unfold Live
  rw [created_release, released_release live, List.mem_append, List.mem_singleton]
  tauto

theorem count_released (created : id < ledger.created) (gone : ¬ledger.Live id)
    : ledger.released.count id = 1 := by
  apply List.count_eq_one_of_mem ledger.once
  by_contra kept
  exact gone ⟨created, kept⟩

theorem count_of_live (live : ledger.Live id) : ledger.released.count id = 0 :=
  List.count_eq_zero.mpr live.2

theorem balanced_iff : ledger.Balanced ↔ (∀ id, ¬ledger.Live id) ∧ ledger.stray = 0 := by
  unfold Balanced
  apply and_congr_left
  intro _
  constructor
  · rintro counted id ⟨created, kept⟩
    have once := counted id created
    rw [count_of_live ⟨created, kept⟩] at once
    cases once
  · intro none id created
    exact count_released created (none id)

end Ledger
