import TagGrammar.Registry
import TagGrammar.Collection.OrderedMap
import TagGrammar.Collection.OrderedSet
import TagGrammar.Collection.Unseen

/-!
# Subtypes

Where a child refers to a type, elements of its subtypes may stand, too. Which types these are is
told by a function from types to lists of types. The usual one reads them off a registry: the
registered types whose supertypes lead to the type. Others are written down by hand.

A walk over types comes to an end if only finitely many types are ever reported, which a
`SubtypeSource` guarantees by listing them.
-/

namespace TagGrammar

/-! ### Subtypes in a registry -/

namespace Registry

/-- All types that some binding names as its supertype. -/
def parents (r : Registry) : List TypeName := r.bindings.filterMap (·.supertype)

theorem mem_parents_of_supertype? {r : Registry} {type parent : TypeName}
    (h : r.supertype? type = some parent) : parent ∈ r.parents := by
  obtain ⟨b, hb, hp⟩ := Option.bind_eq_some_iff.1 h
  exact List.mem_filterMap.2 ⟨b, List.mem_of_find?_eq_some hb, hp⟩

/-- The supertypes of a type, nearest first, up to the first that is in `seen` or has come. -/
def ascend (r : Registry) (seen : List TypeName) (type : TypeName) : List TypeName :=
  match _h : r.supertype? type with
  | none => []
  | some parent => if _hs : parent ∈ seen then [] else parent :: ascend r (parent :: seen) parent
termination_by (unseen r.parents seen).length
decreasing_by exact length_unseen_cons_lt (mem_parents_of_supertype? _h) _hs

theorem ascend_of_none {r : Registry} {seen : List TypeName} {type : TypeName}
    (h : r.supertype? type = none) : r.ascend seen type = [] := by
  rw [ascend]
  split
  · rfl
  · next parent hp =>
    rw [h] at hp
    cases hp

theorem ascend_of_some {r : Registry} {seen : List TypeName} {type parent : TypeName}
    (h : r.supertype? type = some parent) :
    r.ascend seen type =
      if parent ∈ seen then [] else parent :: r.ascend (parent :: seen) parent := by
  rw [ascend]
  split
  · next hnone =>
    rw [h] at hnone
    cases hnone
  · next p hp =>
    rw [h] at hp
    cases hp
    rfl

/-- The supertypes of a type, direct or not, nearest first. On a cycle the type is among them. -/
def supertypes (r : Registry) (type : TypeName) : List TypeName := r.ascend [] type

/-- The registered types, other than `type`, that have it among their supertypes. -/
def subtypes (r : Registry) (type : TypeName) : List TypeName :=
  r.knownTypes.filter fun t => decide (t ≠ type ∧ type ∈ r.supertypes t)

end Registry

/-! ### Subtypes written down -/

/-- For each type the subtypes that were written down for it, in order. -/
abbrev SubtypeTable := OrderedMap TypeName (OrderedSet TypeName)

namespace SubtypeTable

/-- Write down `child` as a subtype of `parent`. No type is a subtype of itself. -/
def register (table : SubtypeTable) (parent child : TypeName) : SubtypeTable :=
  if parent = child then table
  else table.insert parent (((table.get? parent).getD .empty).insert child)

/-- The table in which the pairs of a parent and a child are written down. -/
def ofList (pairs : List (TypeName × TypeName)) : SubtypeTable :=
  pairs.foldl (fun table p => table.register p.1 p.2) .empty

def subtypes (table : SubtypeTable) (type : TypeName) : List TypeName :=
  ((table.get? type).map (·.members)).getD []

end SubtypeTable

/-! ### Sources of subtypes -/

/-- A function that reports subtypes, along with the types it can report. -/
structure SubtypeSource where
  subtypes : TypeName → List TypeName
  /-- All types that are ever reported. -/
  answers : List TypeName
  /-- No other type is reported. -/
  mem_answers : ∀ type, ∀ t ∈ subtypes type, t ∈ answers

namespace SubtypeSource

/-- No type has subtypes. -/
def none : SubtypeSource := ⟨fun _ => [], [], by simp⟩

/-- The subtypes in a registry, where the supertypes of each registered type are looked up once and
for all. -/
def ofRegistry (r : Registry) : SubtypeSource :=
  let ancestry := r.knownTypes.map fun t => (t, r.supertypes t)
  { subtypes := fun type =>
      (ancestry.filter fun e => decide (e.1 ≠ type ∧ type ∈ e.2)).map Prod.fst
    answers := r.knownTypes
    mem_answers := by
      intro type t h
      obtain ⟨e, he, rfl⟩ := List.mem_map.1 h
      obtain ⟨u, hu, rfl⟩ := List.mem_map.1 (List.mem_filter.1 he).1
      exact hu }

@[simp] theorem ofRegistry_subtypes (r : Registry) (type : TypeName) :
    (ofRegistry r).subtypes type = r.subtypes type := by
  simp [ofRegistry, Registry.subtypes, List.filter_map, Function.comp_def]

/-- The answers of a list of pairs of a type and its subtypes; the first pair for a type counts. -/
def ofList (l : List (TypeName × List TypeName)) : SubtypeSource where
  subtypes type := ((l.find? fun p => decide (p.1 = type)).map Prod.snd).getD []
  answers := l.flatMap Prod.snd
  mem_answers := by
    intro type t h
    cases hf : l.find? (fun p => decide (p.1 = type)) with
    | none => simp [hf] at h
    | some p => exact List.mem_flatMap.2 ⟨p, List.mem_of_find?_eq_some hf, by simpa [hf] using h⟩

/-- The subtypes written down in a table. -/
def ofTable (table : SubtypeTable) : SubtypeSource where
  subtypes := SubtypeTable.subtypes table
  answers := table.entries.flatMap fun e => e.2.members
  mem_answers := by
    intro type t h
    unfold SubtypeTable.subtypes OrderedMap.get? at h
    cases hf : table.entries.find? (fun e => decide (e.1 = type)) with
    | none => simp [hf] at h
    | some e => exact List.mem_flatMap.2 ⟨e, List.mem_of_find?_eq_some hf, by simpa [hf] using h⟩

end SubtypeSource

end TagGrammar
