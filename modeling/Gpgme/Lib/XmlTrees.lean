import Gpgme.Lib.Xml

/-! Elements whose attributes stand for values: how the values are written, and when they and the
texts are read back.
-/

namespace Xml

variable {α β γ : Type}

mutual

/-- The attributes and the texts of an element are replaced. -/
def Element.map (f : α → β) (text : Str → Str) : Element α → Element β
  | .text tag attributes content =>
      .text tag (attributes.map fun pair => (pair.1, f pair.2)) (text content)
  | .group tag attributes children =>
      .group tag (attributes.map fun pair => (pair.1, f pair.2)) (mapAll f text children)

def mapAll (f : α → β) (text : Str → Str) : List (Element α) → List (Element β)
  | [] => []
  | first :: others => first.map f text :: mapAll f text others

end

def interpretAttributes (read : Str → α → Option β) (attributes : List (Str × α))
    : Option (List (Str × β)) :=
  attributes.mapM fun pair => (read pair.1 pair.2).map fun value => (pair.1, value)

mutual

/-- The values of all attributes are read, each according to its name. -/
def Element.interpret (read : Str → α → Option β) : Element α → Option (Element β)
  | .text tag attributes content =>
      (interpretAttributes read attributes).map fun attributes => .text tag attributes content
  | .group tag attributes children => do
      let attributes ← interpretAttributes read attributes
      let children ← interpretAll read children
      return .group tag attributes children

def interpretAll (read : Str → α → Option β) : List (Element α) → Option (List (Element β))
  | [] => some []
  | first :: others => do
      let first ← first.interpret read
      let others ← interpretAll read others
      return first :: others

end

mutual

/-- The attributes of an element and of all elements in it. -/
def Element.pairs : Element α → List (Str × α)
  | .text _ attributes _ => attributes
  | .group _ attributes children => attributes ++ pairsAll children

def pairsAll : List (Element α) → List (Str × α)
  | [] => []
  | first :: others => first.pairs ++ pairsAll others

end

mutual

/-- The texts in an element. -/
def Element.texts : Element α → List Str
  | .text _ _ content => [content]
  | .group _ _ children => textsAll children

def textsAll : List (Element α) → List Str
  | [] => []
  | first :: others => first.texts ++ textsAll others

end

def wellNamedAttributes (attributes : List (Str × α)) : Bool :=
  attributes.all (fun pair => isName pair.1) && decide (attributes.map Prod.fst).Nodup

mutual

/-- The tags and the names of attributes are names, and no attribute is given twice. -/
def Element.wellNamed : Element α → Bool
  | .text tag attributes _ => isName tag && wellNamedAttributes attributes
  | .group tag attributes children =>
      isName tag && wellNamedAttributes attributes && wellNamedAll children

def wellNamedAll : List (Element α) → Bool
  | [] => true
  | first :: others => first.wellNamed && wellNamedAll others

end

mutual

/-- The number of elements one in the other. -/
def Element.depth : Element α → Nat
  | .text _ _ _ => 1
  | .group _ _ children => depthAll children + 1

def depthAll : List (Element α) → Nat
  | [] => 0
  | first :: others => max first.depth (depthAll others)

end

-----------------------------------------------------------------------------------------
-- Lists of elements
-----------------------------------------------------------------------------------------

section Lists

variable {ι : Type} {element : ι → Element α} {items : List ι} {first second : List (Element α)}

@[simp]
theorem pairsAll_append : pairsAll (first ++ second) = pairsAll first ++ pairsAll second := by
  induction first with
  | nil => rfl
  | cons one others ih => rw [List.cons_append, pairsAll, pairsAll, ih, List.append_assoc]

@[simp]
theorem textsAll_append : textsAll (first ++ second) = textsAll first ++ textsAll second := by
  induction first with
  | nil => rfl
  | cons one others ih => rw [List.cons_append, textsAll, textsAll, ih, List.append_assoc]

@[simp]
theorem wellNamedAll_append
    : wellNamedAll (first ++ second) = (wellNamedAll first && wellNamedAll second) := by
  induction first with
  | nil => rfl
  | cons one others ih => rw [List.cons_append, wellNamedAll, wellNamedAll, ih, Bool.and_assoc]

@[simp]
theorem depthAll_append : depthAll (first ++ second) = max (depthAll first) (depthAll second) := by
  induction first with
  | nil => rw [List.nil_append, depthAll, Nat.zero_max]
  | cons one others ih => rw [List.cons_append, depthAll, depthAll, ih, Nat.max_assoc]

@[simp]
theorem pairsAll_map : pairsAll (items.map element) = items.flatMap fun x => (element x).pairs := by
  induction items with
  | nil => rfl
  | cons x others ih => rw [List.map_cons, pairsAll, ih, List.flatMap_cons]

@[simp]
theorem textsAll_map : textsAll (items.map element) = items.flatMap fun x => (element x).texts := by
  induction items with
  | nil => rfl
  | cons x others ih => rw [List.map_cons, textsAll, ih, List.flatMap_cons]

theorem wellNamedAll_map (each : ∀ x ∈ items, (element x).wellNamed)
    : wellNamedAll (items.map element) := by
  induction items with
  | nil => rfl
  | cons x others ih =>
      rw [List.forall_mem_cons] at each
      rw [List.map_cons, wellNamedAll, each.1, ih each.2]
      rfl

theorem depthAll_map {bound : Nat} (each : ∀ x ∈ items, (element x).depth ≤ bound)
    : depthAll (items.map element) ≤ bound := by
  induction items with
  | nil => exact Nat.zero_le _
  | cons x others ih =>
      rw [List.forall_mem_cons] at each
      exact Nat.max_le.mpr ⟨each.1, ih each.2⟩

end Lists

-----------------------------------------------------------------------------------------
-- Reading what was written
-----------------------------------------------------------------------------------------

variable {f : α → β} {g : α → γ} {read : Str → β → Option γ} {text : Str → Str}

theorem interpretAttributes_iff (attributes : List (Str × α))
    : interpretAttributes read (attributes.map fun pair => (pair.1, f pair.2))
        = some (attributes.map fun pair => (pair.1, g pair.2))
      ↔ ∀ pair ∈ attributes, read pair.1 (f pair.2) = some (g pair.2) := by
  unfold interpretAttributes
  induction attributes with
  | nil => simp
  | cons pair others ih =>
      rw [List.forall_mem_cons, ← ih, List.map_cons, List.map_cons, List.mapM_cons]
      cases value : read pair.1 (f pair.2) with
      | none => simp
      | some v =>
          simp only [Option.map_some, Option.bind_eq_bind, Option.bind_some, Option.some.injEq]
          cases (others.map fun pair => (pair.1, f pair.2)).mapM fun pair =>
              (read pair.1 pair.2).map fun value => (pair.1, value) with
          | none => simp
          | some rest => simp

mutual

theorem interpret_iff
    : ∀ element : Element α,
        (element.map f text).interpret read = some (element.map g id)
        ↔ (∀ pair ∈ element.pairs, read pair.1 (f pair.2) = some (g pair.2))
          ∧ ∀ content ∈ element.texts, text content = content
  | .text tag attributes content => by
      simp only [Element.map, Element.interpret, Element.pairs, Element.texts, id,
        List.mem_singleton, forall_eq, ← interpretAttributes_iff attributes]
      cases interpretAttributes read (attributes.map fun pair => (pair.1, f pair.2)) with
      | none => simp
      | some values => simp
  | .group tag attributes children => by
      have inner := interpretAll_iff children
      simp only [Element.map, Element.interpret, Element.pairs, Element.texts, List.mem_append,
        or_imp, forall_and, ← interpretAttributes_iff attributes]
      rw [and_assoc, ← inner]
      cases interpretAttributes read (attributes.map fun pair => (pair.1, f pair.2)) with
      | none => simp
      | some values =>
          cases interpretAll read (mapAll f text children) with
          | none => simp
          | some elements => simp

theorem interpretAll_iff
    : ∀ elements : List (Element α),
        interpretAll read (mapAll f text elements) = some (mapAll g id elements)
        ↔ (∀ pair ∈ pairsAll elements, read pair.1 (f pair.2) = some (g pair.2))
          ∧ ∀ content ∈ textsAll elements, text content = content
  | [] => by simp [mapAll, interpretAll, pairsAll, textsAll]
  | first :: others => by
      have one := interpret_iff first
      have more := interpretAll_iff others
      simp only [mapAll, interpretAll, pairsAll, textsAll, List.mem_append, or_imp, forall_and]
      rw [and_and_and_comm, ← one, ← more]
      cases (first.map f text).interpret read with
      | none => simp
      | some element =>
          cases interpretAll read (mapAll f text others) with
          | none => simp
          | some elements => simp

end

theorem validAttributes_map {write : α → Str} {attributes : List (Str × α)}
    (named : wellNamedAttributes attributes)
    (plain : ∀ pair ∈ attributes, (write pair.2).all isAttributeByte)
    : validAttributes (attributes.map fun pair => (pair.1, write pair.2)) := by
  unfold wellNamedAttributes at named
  rw [Bool.and_eq_true, List.all_eq_true] at named
  unfold validAttributes
  rw [Bool.and_eq_true, List.all_map, List.all_eq_true, List.map_map]
  refine ⟨?_, named.2⟩
  intro pair member
  simp only [Function.comp_apply, Bool.and_eq_true]
  exact ⟨named.1 pair member, plain pair member⟩

mutual

theorem valid_map {write : α → Str}
    : ∀ element : Element α, element.wellNamed
        → (∀ pair ∈ element.pairs, (write pair.2).all isAttributeByte)
        → (∀ content ∈ element.texts, (text content).all isChar)
        → (element.map write text).valid
  | .text tag attributes content, named, plain, permitted => by
      simp only [Element.wellNamed, Bool.and_eq_true] at named
      simp only [Element.map, Element.valid, Bool.and_eq_true]
      exact ⟨⟨named.1, validAttributes_map named.2 plain⟩,
        permitted content (List.mem_singleton_self _)⟩
  | .group tag attributes children, named, plain, permitted => by
      simp only [Element.wellNamed, Bool.and_eq_true] at named
      simp only [Element.pairs, List.mem_append, or_imp, forall_and] at plain
      simp only [Element.map, Element.valid, Bool.and_eq_true]
      exact ⟨⟨named.1.1, validAttributes_map named.1.2 plain.1⟩,
        validAll_map children named.2 plain.2 permitted⟩

theorem validAll_map {write : α → Str}
    : ∀ elements : List (Element α), wellNamedAll elements
        → (∀ pair ∈ pairsAll elements, (write pair.2).all isAttributeByte)
        → (∀ content ∈ textsAll elements, (text content).all isChar)
        → validAll (mapAll write text elements)
  | [], _, _, _ => rfl
  | first :: others, named, plain, permitted => by
      simp only [wellNamedAll, Bool.and_eq_true] at named
      simp only [pairsAll, List.mem_append, or_imp, forall_and] at plain
      simp only [textsAll, List.mem_append, or_imp, forall_and] at permitted
      simp only [mapAll, validAll, Bool.and_eq_true]
      exact ⟨valid_map first named.1 plain.1 permitted.1,
        validAll_map others named.2 plain.2 permitted.2⟩

end

end Xml
