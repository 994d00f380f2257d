import Gpgme.Lib.PipeEnds
import Gpgme.Wait.IoTags

/-! The table `fd_data_map` with the pipes of an operation, which the engines for gpg and for
spawned programs use alike.
-/

namespace Gpgme

-----------------------------------------------------------------------------------------
-- The table
-----------------------------------------------------------------------------------------

/-- `struct fd_data_map_s` without `arg_loc`; -1 as a descriptor and NULL as a tag are `none`. -/
structure PipeEntry where
  data : Nat
  inbound : Bool
  dupTo : Int
  fd : Option Nat
  peerFd : Option Nat
  tag : Option Nat := none
deriving DecidableEq

/-- The pointer of an engine to its table; the entries are those in front of the one without a
data object.
-/
inductive MapPointer where
  | null
  | table (entries : List PipeEntry)
  | freed
deriving DecidableEq

def MapPointer.entries : MapPointer → List PipeEntry
  | table entries => entries
  | null | freed => []

/-- The fields of the entries that hold a descriptor. -/
inductive MapSlot where
  | fd (i : Nat)
  | peer (i : Nat)
deriving DecidableEq

/-- The field of a table. -/
def mapSlot (entries : List PipeEntry) : MapSlot → Option Nat
  | .fd i => entries[i]?.bind (·.fd)
  | .peer i => entries[i]?.bind (·.peerFd)

/-- The entry of a field. -/
def MapSlot.index : MapSlot → Nat
  | fd i => i
  | peer i => i

/-- The tag next to a field; it belongs to the own end of the pipe. -/
def mapTag (entries : List PipeEntry) : MapSlot → Option Nat
  | .fd i => entries[i]?.bind (·.tag)
  | .peer _ => none

/-- The table with a value in a field. -/
def setMapSlot (entries : List PipeEntry) (value : Option Nat) : MapSlot → List PipeEntry
  | .fd i => entries.modify i (fun entry => { entry with fd := value })
  | .peer i => entries.modify i (fun entry => { entry with peerFd := value })

/-- The table with a tag in an entry. -/
def setMapTag (entries : List PipeEntry) (tag : Option Nat) (i : Nat) : List PipeEntry :=
  entries.modify i (fun entry => { entry with tag })

/-- The loop of `close_notify_handler` over the table: the field that holds the descriptor is
cleared, and the result has the tag that has to be removed.
-/
def notifyEntries (fd : Nat) : List PipeEntry → List PipeEntry × Option Nat
  | [] => ([], none)
  | entry :: rest =>
      if entry.fd = some fd then ({ entry with fd := none } :: rest, entry.tag)
      else if entry.peerFd = some fd then ({ entry with peerFd := none } :: rest, none)
      else
        let (rest, tag) := notifyEntries fd rest
        (entry :: rest, tag)

/-- The fields in the order in which `free_fd_data_map` closes them. -/
def mapSlots (entries : List PipeEntry) : List MapSlot :=
  (List.range entries.length).flatMap fun i => [.fd i, .peer i]

-----------------------------------------------------------------------------------------
-- What the operations on the table do
-----------------------------------------------------------------------------------------

variable {entries : List PipeEntry} {s other : MapSlot} {fd : Nat} {value : Option Nat}

theorem length_setMapSlot (value : Option Nat)
    : (setMapSlot entries value s).length = entries.length := by
  cases s <;> exact List.length_modify _ _ _

theorem getElem?_modify_bind {α β : Type*} {xs : List α} {i j : Nat} {f : α → α}
    {g : α → Option β}
    : (xs.modify i f)[j]?.bind g = if j = i then xs[j]?.bind (g ∘ f) else xs[j]?.bind g := by
  rw [List.getElem?_modify]
  by_cases same : i = j
  · simp only [same, if_true]
    cases xs[j]? <;> rfl
  · have different : ¬j = i := fun equal => same equal.symm
    simp only [same, different, if_false]
    cases xs[j]? <;> rfl

theorem bind_const {α β : Type*} (found : Option α) (value : Option β)
    (inside : found.isSome ∨ value = none)
    : found.bind (fun _ => value) = value := by
  cases found with
  | none => simp_all
  | some a => rfl

theorem mapSlot_set (inside : s.index < entries.length ∨ value = none)
    : mapSlot (setMapSlot entries value s) = Function.update (mapSlot entries) s value := by
  funext other
  rw [Function.update_apply]
  have there (i : Nat) (inside : i < entries.length ∨ value = none)
      : entries[i]?.isSome ∨ value = none := by
    rcases inside with inside | empty
    · exact Or.inl (by simp [inside])
    · exact Or.inr empty
  cases s <;> cases other <;>
    simp only [setMapSlot, mapSlot, getElem?_modify_bind, Function.comp_def, MapSlot.fd.injEq,
      MapSlot.peer.injEq, reduceCtorEq, if_false, ite_self]
  · next i j =>
      split
      · next same => exact bind_const _ _ (same ▸ there i inside)
      · rfl
  · next i j =>
      split
      · next same => exact bind_const _ _ (same ▸ there i inside)
      · rfl

theorem mapTag_set : mapTag (setMapSlot entries value s) = mapTag entries := by
  funext other
  cases s <;> cases other <;>
    simp only [setMapSlot, mapTag, getElem?_modify_bind, Function.comp_def, ite_self]

theorem length_setMapTag {i : Nat} : (setMapTag entries value i).length = entries.length :=
  List.length_modify _ _ _

theorem mapSlot_setTag {i : Nat} : mapSlot (setMapTag entries value i) = mapSlot entries := by
  funext other
  cases other <;>
    simp only [setMapTag, mapSlot, getElem?_modify_bind, Function.comp_def, ite_self]

theorem mapTag_setTag {i : Nat} (inside : i < entries.length)
    : mapTag (setMapTag entries value i) = Function.update (mapTag entries) (.fd i) value := by
  funext other
  rw [Function.update_apply]
  cases other with
  | peer j => rfl
  | fd j =>
      simp only [setMapTag, mapTag, getElem?_modify_bind, Function.comp_def, MapSlot.fd.injEq]
      split
      · next same => exact bind_const _ _ (Or.inl (by simp [same, inside]))
      · rfl

theorem inbound_modify {i j : Nat} {f : PipeEntry → PipeEntry}
    (same : ∀ entry, (f entry).inbound = entry.inbound)
    : (entries.modify j f)[i]?.any PipeEntry.inbound = entries[i]?.any PipeEntry.inbound := by
  rw [List.getElem?_modify]
  cases entries[i]? with
  | none => rfl
  | some entry => by_cases here : j = i <;> simp [here, same]

theorem notifyEntries_eq (held : mapSlot entries s = some fd)
    (distinct : ∀ other, mapSlot entries other = some fd → other = s)
    : notifyEntries fd entries = (setMapSlot entries none s, mapTag entries s) := by
  induction entries generalizing s with
  | nil => cases s <;> cases held
  | cons entry rest ih =>
      unfold notifyEntries
      split
      · next own =>
          have same := distinct (.fd 0) own
          subst same
          rfl
      · next notOwn =>
          split
          · next peer =>
              have same := distinct (.peer 0) peer
              subst same
              rfl
          · next notPeer =>
              cases s with
              | fd i =>
                  cases i with
                  | zero => exact (notOwn held).elim
                  | succ i =>
                      rw [ih (s := .fd i) held]
                      · rfl
                      · intro other found
                        cases other with
                        | fd j => simpa using distinct (.fd (j + 1)) found
                        | peer j => simpa using distinct (.peer (j + 1)) found
              | peer i =>
                  cases i with
                  | zero => exact (notPeer held).elim
                  | succ i =>
                      rw [ih (s := .peer i) held]
                      · rfl
                      · intro other found
                        cases other with
                        | fd j => simpa using distinct (.fd (j + 1)) found
                        | peer j => simpa using distinct (.peer (j + 1)) found

theorem map_range_getElem? {α β : Type*} (xs : List α) (f : α → Option β)
    : (List.range xs.length).map (fun i => xs[i]?.bind f) = xs.map f := by
  apply List.ext_getElem
  · simp
  · intro i inside inside'
    simp only [List.length_map] at inside'
    simp [inside']

theorem mem_mapSlots : s ∈ mapSlots entries ↔ s.index < entries.length := by
  unfold mapSlots
  cases s <;> simp [MapSlot.index]

theorem mapSlot_outside (outside : entries.length ≤ s.index) : mapSlot entries s = none := by
  cases s <;> simp_all [mapSlot, MapSlot.index]

theorem mapSlot_snoc (entry : PipeEntry)
    : mapSlot (entries ++ [entry])
      = Function.update (Function.update (mapSlot entries) (.fd entries.length) entry.fd)
          (.peer entries.length) entry.peerFd := by
  have at' (i : Nat) (g : PipeEntry → Option Nat)
      : (entries ++ [entry])[i]?.bind g
        = if i = entries.length then g entry else entries[i]?.bind g := by
    split
    · next same => simp [same]
    · next other =>
        rcases Nat.lt_or_ge i entries.length with inside | outside
        · rw [List.getElem?_append_left inside]
        · have behind : (entries ++ [entry]).length ≤ i := by
            rw [List.length_append, List.length_singleton]
            omega
          rw [List.getElem?_eq_none behind, List.getElem?_eq_none outside]
  funext other
  cases other with
  | fd i => simp [mapSlot, at', Function.update_apply]
  | peer i => simp [mapSlot, at', Function.update_apply]

end Gpgme
