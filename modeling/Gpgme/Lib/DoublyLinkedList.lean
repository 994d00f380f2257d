import Mathlib.Tactic

/-! Doubly linked lists in a heap, with insertion at the front and removal. -/

namespace DoublyLinkedList

variable {α : Type*}

structure Node (α : Type*) where
  next : Option Nat
  prev : Option Nat
  value : α

/-- The allocated nodes. -/
abbrev Heap (α : Type*) := Nat → Option (Node α)

-----------------------------------------------------------------------------------------
-- Operations
-----------------------------------------------------------------------------------------

/-- `if (p) p->prev = prev;`, where `none` is a bad pointer. -/
def setPrev (heap : Heap α) (addr prev : Option Nat) : Option (Heap α) :=
  match addr with
  | none => some heap
  | some addr => (heap addr).map (fun node => Function.update heap addr (some { node with prev }))

/-- `if (p) p->next = next;`, where `none` is a bad pointer. -/
def setNext (heap : Heap α) (addr next : Option Nat) : Option (Heap α) :=
  match addr with
  | none => some heap
  | some addr => (heap addr).map (fun node => Function.update heap addr (some { node with next }))

/-- Link a node in front of the list that starts at `head`. -/
def pushFront (heap : Heap α) (head : Option Nat) (addr : Nat) (value : α) : Option (Heap α) :=
  (setPrev heap head (some addr)).map (fun heap =>
    Function.update heap addr (some { next := head, prev := none, value }))

/-- Take a node out of the list that starts at `head`; the node itself is not touched. -/
def unlink (heap : Heap α) (head : Option Nat) (addr : Nat) : Option (Heap α × Option Nat) :=
  match heap addr with
  | none => none
  | some node =>
      match setPrev heap node.next node.prev with
      | none => none
      | some heap =>
          (setNext heap node.prev node.next).map (fun heap =>
            (heap, if node.prev.isSome then head else node.next))

/-- The first node from a pointer on whose value meets `p`; the search may visit as many
nodes as there are.
-/
def search (heap : Heap α) (p : α → Bool) : Nat → Option Nat → Option (Option Nat)
  | _, none => some none
  | 0, some _ => none
  | steps + 1, some addr =>
      match heap addr with
      | none => none
      | some node => if p node.value then some (some addr) else search heap p steps node.next

/-- The values from a pointer on, where `none` is a bad pointer. -/
def values (heap : Heap α) : Nat → Option Nat → Option (List α)
  | _, none => some []
  | 0, some _ => none
  | steps + 1, some addr =>
      match heap addr with
      | none => none
      | some node => (values heap steps node.next).map (node.value :: ·)

-----------------------------------------------------------------------------------------
-- Segments and lists
-----------------------------------------------------------------------------------------

/-- The nodes from `head` up to `tail`, where `prev` is in front of them and `last` is the
last of them, or `prev` where there are none.
-/
def Segment (heap : Heap α) : Option Nat → Option Nat → List Nat → Option Nat → Option Nat → Prop
  | prev, head, [], last, tail => prev = last ∧ head = tail
  | prev, head, addr :: rest, last, tail =>
      head = some addr
      ∧ ∃ node,
          heap addr = some node
          ∧ node.prev = prev
          ∧ Segment heap (some addr) node.next rest last tail

/-- The well-formed list that starts at `head` consists of these nodes. -/
def Linked (heap : Heap α) (head : Option Nat) (addrs : List Nat) : Prop :=
  ∃ last, Segment heap none head addrs last none

variable {heap heap' : Heap α} {prev head last tail : Option Nat} {addrs : List Nat}

/-- A segment is cut into two. -/
theorem segment_append {first second : List Nat}
    : Segment heap prev head (first ++ second) last tail
      ↔ ∃ before middle,
          Segment heap prev head first before middle
          ∧ Segment heap before middle second last tail := by
  induction first generalizing prev head with
  | nil =>
      constructor
      · intro segment
        exact ⟨prev, head, ⟨rfl, rfl⟩, segment⟩
      · intro split
        obtain ⟨_, _, ⟨rfl, rfl⟩, segment⟩ := split
        exact segment
  | cons addr rest ih =>
      simp only [List.cons_append, Segment, ih]
      constructor
      · intro segment
        obtain ⟨start, node, found, back, before, middle, front, behind⟩ := segment
        exact ⟨before, middle, ⟨start, node, found, back, front⟩, behind⟩
      · intro split
        obtain ⟨before, middle, ⟨start, node, found, back, front⟩, behind⟩ := split
        exact ⟨start, node, found, back, before, middle, front, behind⟩

/-- Only its own nodes matter to a segment. -/
theorem Segment.congr (segment : Segment heap prev head addrs last tail)
    (same : ∀ addr ∈ addrs, heap' addr = heap addr)
    : Segment heap' prev head addrs last tail := by
  induction addrs generalizing prev head with
  | nil => exact segment
  | cons addr rest ih =>
      obtain ⟨start, node, found, back, behind⟩ := segment
      refine ⟨start, node, ?_, back, ih behind fun other member => same other ?_⟩
      · rw [same addr List.mem_cons_self, found]
      · exact List.mem_cons_of_mem addr member

/-- A list is still linked if its nodes are the same. -/
theorem Linked.congr (linked : Linked heap head addrs)
    (same : ∀ addr ∈ addrs, heap' addr = heap addr)
    : Linked heap' head addrs :=
  ⟨linked.choose, linked.choose_spec.congr same⟩

/-- The head is the first of the nodes. -/
theorem Linked.head_eq (linked : Linked heap head addrs) : head = addrs.head? := by
  obtain ⟨last, segment⟩ := linked
  cases addrs with
  | nil => exact segment.2
  | cons addr rest => exact segment.1

/-- Another node in front of a segment. -/
theorem Segment.setPrev (segment : Segment heap prev head addrs last none)
    (unique : addrs.Nodup) (other : Option Nat)
    : ∃ heap' last',
        DoublyLinkedList.setPrev heap head other = some heap'
        ∧ Segment heap' other head addrs last' none
        ∧ (∀ addr ∉ addrs, heap' addr = heap addr)
        ∧ (∀ addr, (heap' addr).map Node.value = (heap addr).map Node.value) := by
  cases addrs with
  | nil =>
      obtain ⟨rfl, rfl⟩ := segment
      exact ⟨heap, other, rfl, ⟨rfl, rfl⟩, fun _ _ => rfl, fun _ => rfl⟩
  | cons addr rest =>
      obtain ⟨rfl, node, found, back, behind⟩ := segment
      have apart : addr ∉ rest := (List.nodup_cons.mp unique).1
      refine ⟨Function.update heap addr (some { node with prev := other }), last, ?_, ?_, ?_, ?_⟩
      · simp [DoublyLinkedList.setPrev, found]
      · refine ⟨rfl, { node with prev := other }, by simp, rfl, behind.congr ?_⟩
        intro other' member
        have different : other' ≠ addr := fun same => apart (same ▸ member)
        rw [Function.update_of_ne different]
      · intro other' absent
        have different : other' ≠ addr := fun same => absent (same ▸ List.mem_cons_self)
        rw [Function.update_of_ne different]
      · intro other'
        by_cases same : other' = addr
        · subst same
          simp [found]
        · rw [Function.update_of_ne same]

/-- Another node behind a segment that is not empty. -/
theorem Segment.setNext {addr : Nat}
    (segment : Segment heap prev head (addrs ++ [addr]) last tail) (apart : addr ∉ addrs)
    (other : Option Nat)
    : ∃ heap',
        DoublyLinkedList.setNext heap (some addr) other = some heap'
        ∧ Segment heap' prev head (addrs ++ [addr]) (some addr) other
        ∧ (∀ addr' ≠ addr, heap' addr' = heap addr')
        ∧ (∀ addr', (heap' addr').map Node.value = (heap addr').map Node.value) := by
  obtain ⟨before, middle, front, rfl, node, found, back, _⟩ := segment_append.mp segment
  refine ⟨Function.update heap addr (some { node with next := other }), ?_, ?_, ?_, ?_⟩
  · simp [DoublyLinkedList.setNext, found]
  · refine segment_append.mpr ⟨before, some addr, front.congr ?_, rfl,
      { node with next := other }, by simp, back, rfl, rfl⟩
    intro other' member
    have different : other' ≠ addr := fun same => apart (same ▸ member)
    rw [Function.update_of_ne different]
  · intro other' different
    rw [Function.update_of_ne different]
  · intro other'
    by_cases same : other' = addr
    · subst same
      simp [found]
    · rw [Function.update_of_ne same]

-----------------------------------------------------------------------------------------
-- What the operations do to a list
-----------------------------------------------------------------------------------------

/-- Insertion at the front keeps the list well formed and touches no other list. -/
theorem Linked.pushFront {addr : Nat} (linked : Linked heap head addrs) (unique : addrs.Nodup)
    (fresh : addr ∉ addrs) (value : α)
    : ∃ heap',
        DoublyLinkedList.pushFront heap head addr value = some heap'
        ∧ Linked heap' (some addr) (addr :: addrs)
        ∧ (∀ other ∉ addr :: addrs, heap' other = heap other)
        ∧ (∀ other ≠ addr, (heap' other).map Node.value = (heap other).map Node.value)
        ∧ (heap' addr).map Node.value = some value := by
  obtain ⟨last, segment⟩ := linked
  obtain ⟨heap', last', linkedBack, segment', frame, values⟩ :=
    segment.setPrev unique (some addr)
  refine ⟨Function.update heap' addr (some { next := head, prev := none, value }), ?_, ?_, ?_,
    ?_, by simp⟩
  · simp [DoublyLinkedList.pushFront, linkedBack]
  · refine ⟨last', rfl, { next := head, prev := none, value }, by simp, rfl, segment'.congr ?_⟩
    intro other member
    have different : other ≠ addr := fun same => fresh (same ▸ member)
    rw [Function.update_of_ne different]
  · intro other absent
    have different : other ≠ addr := fun same => absent (same ▸ List.mem_cons_self)
    rw [Function.update_of_ne different, frame]
    exact fun member => absent (List.mem_cons_of_mem addr member)
  · intro other different
    rw [Function.update_of_ne different, values]

/-- Removal keeps the list well formed and touches no other list. -/
theorem Linked.unlink {front behind : List Nat} {addr : Nat}
    (linked : Linked heap head (front ++ addr :: behind))
    (unique : (front ++ addr :: behind).Nodup)
    : ∃ heap' head',
        DoublyLinkedList.unlink heap head addr = some (heap', head')
        ∧ Linked heap' head' (front ++ behind)
        ∧ (∀ other ∉ front ++ behind, heap' other = heap other)
        ∧ (∀ other, (heap' other).map Node.value = (heap other).map Node.value) := by
  obtain ⟨last, segment⟩ := linked
  obtain ⟨before, middle, early, rfl, node, found, rfl, late⟩ := segment_append.mp segment
  obtain ⟨uniqueFront, uniqueRest, disjoint⟩ := List.nodup_append.mp unique
  obtain ⟨apart, uniqueBehind⟩ := List.nodup_cons.mp uniqueRest
  obtain ⟨heap₁, last₁, backward, late₁, frame₁, values₁⟩ :=
    late.setPrev uniqueBehind node.prev
  have separate : ∀ other ∈ front, other ∉ behind := fun other inFront inBehind =>
    disjoint other inFront other (List.mem_cons_of_mem addr inBehind) rfl
  have early₁ : Segment heap₁ none head front node.prev (some addr) :=
    early.congr fun other member => frame₁ other (separate other member)
  rcases List.eq_nil_or_concat front with rfl | ⟨rest, nearest, rfl⟩
  · obtain ⟨first, -⟩ := early₁
    refine ⟨heap₁, node.next, ?_, ⟨last₁, first ▸ late₁⟩, frame₁, values₁⟩
    simp only [DoublyLinkedList.unlink, found, backward]
    simp [← first, setNext]
  · rw [List.concat_eq_append] at *
    obtain ⟨_, _, _, _, _, _, _, nearestIsPrev, _⟩ := segment_append.mp early₁
    have apartRest : nearest ∉ rest := by
      intro member
      exact (List.nodup_append.mp uniqueFront).2.2 nearest member nearest (by simp) rfl
    obtain ⟨heap₂, forward, early₂, frame₂, values₂⟩ := early₁.setNext apartRest node.next
    refine ⟨heap₂, head, ?_, ⟨last₁, ?_⟩, ?_, ?_⟩
    · simp only [DoublyLinkedList.unlink, found, backward]
      simp [← nearestIsPrev, forward]
    · refine segment_append.mpr ⟨some nearest, node.next, early₂, ?_⟩
      rw [nearestIsPrev]
      refine late₁.congr fun other member => frame₂ other ?_
      intro same
      exact separate nearest (by simp) (same ▸ member)
    · intro other absent
      have different : other ≠ nearest := fun same => absent (by simp [same])
      rw [frame₂ other different, frame₁]
      exact fun member => absent (List.mem_append_right _ member)
    · intro other
      rw [values₂, values₁]

/-- The search finds the first node of the list that meets the condition, by induction on
the list.
-/
theorem Segment.search_eq {p : α → Bool} {steps : Nat}
    (segment : Segment heap prev head addrs last none) (enough : addrs.length ≤ steps)
    : search heap p steps head
      = some (addrs.find? (fun addr => ((heap addr).map (fun node => p node.value)).getD false)) := by
  induction addrs generalizing prev head steps with
  | nil =>
      obtain ⟨_, rfl⟩ := segment
      cases steps <;> rfl
  | cons addr rest ih =>
      obtain ⟨rfl, node, found, _, behind⟩ := segment
      cases steps with
      | zero => simp at enough
      | succ steps =>
          simp only [search, found, List.find?_cons, Option.map_some, Option.getD_some]
          cases p node.value with
          | true => rfl
          | false => exact ih behind (Nat.le_of_succ_le_succ enough)

/-- The values of a list, by induction on it. -/
theorem Segment.values_eq {steps : Nat} (segment : Segment heap prev head addrs last none)
    (enough : addrs.length ≤ steps)
    : values heap steps head = some (addrs.filterMap (fun addr => (heap addr).map Node.value)) := by
  induction addrs generalizing prev head steps with
  | nil =>
      obtain ⟨_, rfl⟩ := segment
      cases steps <;> rfl
  | cons addr rest ih =>
      obtain ⟨rfl, node, found, _, behind⟩ := segment
      cases steps with
      | zero => simp at enough
      | succ steps =>
          simp only [List.length_cons] at enough
          simp [values, found, ih behind (Nat.le_of_succ_le_succ enough)]

end DoublyLinkedList
