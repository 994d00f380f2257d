import Gpgme.Data.PropertyTable

/-! The registry of live data objects that the property table stands for.
It knows for each live object its serial number and its blankout flag, and the serial
numbers of the released objects; slots and table sizes are gone.
-/

namespace Gpgme.Data

-----------------------------------------------------------------------------------------
-- The registry
-----------------------------------------------------------------------------------------

/-- What is known about a live data object. -/
structure Entry where
  serial : Nat
  blankout : Bool

/-- The live data objects, how many they are, how many were ever created, and the serial
numbers that have been retired.
-/
structure Registry where
  live : Handle → Option Entry := fun _ => none
  count : Nat := 0
  created : Nat := 0
  released : List Nat := []

/-- A handle designates itself; a serial number designates the live object carrying it. -/
def Registry.Designates (reg : Registry) (dh : Option Handle) (dserial : Nat)
    (target : Handle)
    : Prop :=
  ∃ entry, reg.live target = some entry
    ∧ ((dh = some target ∧ dserial = 0)
      ∨ (dh = none ∧ dserial ≠ 0 ∧ entry.serial = dserial))

/-- Exactly one of handle and serial number has to be given. -/
def OneGiven (dh : Option Handle) (dserial : Nat) : Prop :=
  (dh = none) ↔ (dserial ≠ 0)

/-- Enter a new object under the next serial number. -/
def Registry.insert (reg : Registry) (dh : Handle) : Registry :=
  { reg with
    live := Function.update reg.live dh (some ⟨reg.created + 1, false⟩)
    count := reg.count + 1
    created := reg.created + 1 }

/-- Retire an object together with its serial number. -/
def Registry.remove (reg : Registry) (dh : Handle) : Registry :=
  { reg with
    live := Function.update reg.live dh none
    count := reg.count - 1
    released := ((reg.live dh).map Entry.serial).toList ++ reg.released }

/-- Set the flag of a live object. -/
def Registry.setFlag (reg : Registry) (dh : Handle) (flag : Bool) : Registry :=
  { reg with
    live := Function.update reg.live dh
      ((reg.live dh).map (fun entry => { entry with blankout := flag })) }

inductive PropOp where
  | new (alloc : TableAlloc) (addr : Option Handle)
  | release (dh : Handle)
  | setProp (dh : Option Handle) (dserial : Nat) (name : DataProp) (value : Int)
  | getProp (dh : Option Handle) (dserial : Nat) (name : DataProp)
  | getDserial (dh : Option Handle)

/-- An error code and a value; both are 0 where the function returns nothing. -/
structure PropAnswer where
  err : GpgError := 0
  value : Nat := 0

open scoped Classical in
/-- The live objects after a call that was answered with `answer`. -/
noncomputable def Registry.after (reg : Registry) (answer : PropAnswer) : PropOp → Registry
  | .new _ (some dh) => if answer.err = 0 then reg.insert dh else reg
  | .new _ none => reg
  | .release dh => reg.remove dh
  | .setProp dh dserial .blankout value =>
      if designated : ∃ target, reg.Designates dh dserial target then
        reg.setFlag designated.choose (value != 0)
      else
        reg
  | .setProp _ _ _ _ => reg
  | .getProp _ _ _ => reg
  | .getDserial _ => reg

open scoped Classical in
/-- The error of a property access, given whether it designates an object. -/
noncomputable def Registry.accessError (reg : Registry) (dh : Option Handle) (dserial : Nat)
    (name : DataProp)
    : GpgError :=
  if OneGiven dh dserial then
    if ∃ target, reg.Designates dh dserial target then
      if name = .other then gpgError ErrCode.unknownName else 0
    else gpgError ErrCode.notFound
  else gpgError ErrCode.invValue

/-- What a call has to answer. Only a creation may fail for want of memory. -/
def Registry.Answers (reg : Registry) (answer : PropAnswer) : PropOp → Prop
  | .new _ _ => answer.err = 0 ∨ answer.err = gpgError ErrCode.enomem
  | .release _ => answer.err = 0
  | .setProp dh dserial name _ => answer.err = reg.accessError dh dserial name
  | .getProp dh dserial name =>
      answer.err = reg.accessError dh dserial name
      ∧ (name ≠ .blankout → answer.value = 0)
      ∧ (answer.err ≠ 0 → answer.value = 0)
      ∧ ∀ target entry,
          name = .blankout
          → reg.Designates dh dserial target
          → reg.live target = some entry
          → answer.value = entry.blankout.toNat
  | .getDserial none => answer.value = 0
  | .getDserial (some dh) => ∀ entry, reg.live dh = some entry → answer.value = entry.serial

-----------------------------------------------------------------------------------------
-- Serial numbers
-----------------------------------------------------------------------------------------

/-- Serial numbers are assigned in order and never used again. -/
structure Registry.SerialsUnique (reg : Registry) : Prop where
  assigned
    : ∀ {dh entry}, reg.live dh = some entry → 0 < entry.serial ∧ entry.serial ≤ reg.created
  distinct
    : ∀ {dh other entry entry'},
        reg.live dh = some entry
        → reg.live other = some entry'
        → entry.serial = entry'.serial
        → dh = other
  retired
    : ∀ {serial},
        serial ∈ reg.released
        → (0 < serial ∧ serial ≤ reg.created)
          ∧ ∀ {dh entry}, reg.live dh = some entry → entry.serial ≠ serial

theorem Registry.SerialsUnique.insert {reg : Registry} (unique : reg.SerialsUnique)
    (dh : Handle)
    : (reg.insert dh).SerialsUnique where
  assigned {other held} live := by
    by_cases same : other = dh
    · simp only [Registry.insert, same, Function.update_self, Option.some.injEq] at live
      subst live
      simp [Registry.insert]
    · simp only [Registry.insert, Function.update_of_ne same] at live ⊢
      have := unique.assigned live
      omega
  distinct {left right held held'} live live' equal := by
    -- The new number is larger than every number in use.
    by_cases isLeft : left = dh <;> by_cases isRight : right = dh
    · rw [isLeft, isRight]
    · simp only [Registry.insert, isLeft, Function.update_self, Option.some.injEq] at live
      simp only [Registry.insert, Function.update_of_ne isRight] at live'
      have := unique.assigned live'
      simp only [← live] at equal
      omega
    · simp only [Registry.insert, isRight, Function.update_self, Option.some.injEq] at live'
      simp only [Registry.insert, Function.update_of_ne isLeft] at live
      have := unique.assigned live
      simp only [← live'] at equal
      omega
    · simp only [Registry.insert, Function.update_of_ne isLeft] at live
      simp only [Registry.insert, Function.update_of_ne isRight] at live'
      exact unique.distinct live live' equal
  retired {old} member := by
    obtain ⟨past, absent⟩ := unique.retired member
    refine ⟨by simp only [Registry.insert]; omega, ?_⟩
    intro other held live
    by_cases same : other = dh
    · simp only [Registry.insert, same, Function.update_self, Option.some.injEq] at live
      simp only [← live]
      omega
    · simp only [Registry.insert, Function.update_of_ne same] at live
      exact absent live

theorem Registry.SerialsUnique.remove {reg : Registry} (unique : reg.SerialsUnique)
    (dh : Handle)
    : (reg.remove dh).SerialsUnique := by
  have before {other held} (live : (reg.remove dh).live other = some held)
      : other ≠ dh ∧ reg.live other = some held := by
    by_cases same : other = dh
    · simp [Registry.remove, same] at live
    · exact ⟨same, by simpa [Registry.remove, same] using live⟩
  refine ⟨fun live => unique.assigned (before live).2,
    fun live live' => unique.distinct (before live).2 (before live').2, ?_⟩
  intro serial member
  simp only [Registry.remove, List.mem_append, Option.mem_toList, Option.map_eq_some_iff]
    at member
  rcases member with ⟨entry, found, rfl⟩ | member
  · refine ⟨unique.assigned found, ?_⟩
    intro other held live equal
    exact (before live).1 (unique.distinct (before live).2 found equal)
  · obtain ⟨past, absent⟩ := unique.retired member
    exact ⟨past, fun live => absent (before live).2⟩

theorem Registry.SerialsUnique.setFlag {reg : Registry} (unique : reg.SerialsUnique)
    (dh : Handle) (flag : Bool)
    : (reg.setFlag dh flag).SerialsUnique := by
  have before {other held} (live : (reg.setFlag dh flag).live other = some held)
      : ∃ entry, reg.live other = some entry ∧ entry.serial = held.serial := by
    by_cases same : other = dh
    · subst same
      simp only [Registry.setFlag, Function.update_self, Option.map_eq_some_iff] at live
      obtain ⟨entry, found, rfl⟩ := live
      exact ⟨entry, found, rfl⟩
    · exact ⟨held, by simpa [Registry.setFlag, same] using live, rfl⟩
  refine ⟨?_, ?_, ?_⟩
  · intro other held live
    obtain ⟨entry, found, same⟩ := before live
    exact same ▸ unique.assigned found
  · intro left right held held' live live' equal
    obtain ⟨entry, found, same⟩ := before live
    obtain ⟨entry', found', same'⟩ := before live'
    exact unique.distinct found found' (same.trans (equal.trans same'.symm))
  · intro serial member
    obtain ⟨past, absent⟩ := unique.retired member
    refine ⟨past, ?_⟩
    intro other held live
    obtain ⟨entry, found, same⟩ := before live
    exact same ▸ absent found

theorem Registry.SerialsUnique.designated_unique {reg : Registry} (unique : reg.SerialsUnique)
    {dh : Option Handle} {dserial : Nat} {left right : Handle}
    (first : reg.Designates dh dserial left) (second : reg.Designates dh dserial right)
    : left = right := by
  obtain ⟨entry, live, ⟨rfl, rfl⟩ | ⟨rfl, nonzero, serial⟩⟩ := first <;>
    obtain ⟨entry', live', ⟨same, zero⟩ | ⟨same, _, serial'⟩⟩ := second
  · exact Option.some.inj same
  · simp at same
  · simp at same
  · exact unique.distinct live live' (serial.trans serial'.symm)

end Gpgme.Data
