import TagGrammar.Registry
import TagGrammar.Collection.OrderedMap
import TagGrammar.Collection.Unseen

/-!
# Inheritance

A type inherits the attributes and children of its supertypes. The declarations are read from the
most general type down, and one that names the same accessor as an earlier one replaces it in its
place. Supertypes are followed up to the first type that is not registered or comes again, so cycles
do no harm.
-/

namespace TagGrammar.Registry

theorem mem_knownTypes_of_get? {r : Registry} {type : TypeName} {b : TypeBinding}
    (h : r.get? type = some b) : type ∈ r.knownTypes := by
  have hb := List.mem_of_find?_eq_some h
  have hn : b.name = type := by simpa using List.find?_some h
  exact hn ▸ List.mem_map_of_mem hb

/-- The bindings of a type and of its supertypes, nearest first, without those in `seen`. -/
def climb (r : Registry) (seen : List TypeName) (type : TypeName) : List TypeBinding :=
  match _h : r.get? type with
  | none => []
  | some b =>
    if _hs : type ∈ seen then []
    else
      b :: match b.supertype with
        | none => []
        | some parent => climb r (type :: seen) parent
termination_by (unseen r.knownTypes seen).length
decreasing_by exact length_unseen_cons_lt (mem_knownTypes_of_get? _h) _hs

theorem climb_of_none {r : Registry} {seen : List TypeName} {type : TypeName}
    (h : r.get? type = none) : r.climb seen type = [] := by
  rw [climb]
  split
  · rfl
  · next b hb =>
    rw [h] at hb
    cases hb

theorem climb_of_mem {r : Registry} {seen : List TypeName} {type : TypeName} (h : type ∈ seen) :
    r.climb seen type = [] := by
  rw [climb]
  split
  · rfl
  · rw [dif_pos h]

theorem climb_of_some {r : Registry} {seen : List TypeName} {type : TypeName} {b : TypeBinding}
    (h : r.get? type = some b) (hs : type ∉ seen) :
    r.climb seen type =
      b :: match b.supertype with
        | none => []
        | some parent => r.climb (type :: seen) parent := by
  rw [climb]
  split
  · next hnone =>
    rw [h] at hnone
    cases hnone
  · next c hc =>
    rw [h] at hc
    cases hc
    rw [dif_neg hs]

/-- The bindings from which a type inherits, its own included, most general first. -/
def lineage (r : Registry) (type : TypeName) : List TypeBinding := (r.climb [] type).reverse

/-- The last declaration for each accessor, at the place of the first. -/
def merge {α : Type u} (accessor : α → String) (declarations : List α) : List α :=
  (OrderedMap.ofList (declarations.map fun d => (accessor d, d))).entries.map Prod.snd

/-- The attributes of a type, inherited ones included. -/
def attributes (r : Registry) (type : TypeName) : List AttributeBinding :=
  merge (·.accessor) ((r.lineage type).flatMap (·.attributes))

/-- The children of a type, inherited ones included. -/
def children (r : Registry) (type : TypeName) : List ChildBinding :=
  merge (·.accessor) ((r.lineage type).flatMap (·.children))

/-! ### Everything inherited is declared somewhere -/

theorem mem_bindings_of_mem_climb {r : Registry} {seen : List TypeName} {type : TypeName}
    {b : TypeBinding} (h : b ∈ r.climb seen type) : b ∈ r.bindings := by
  fun_induction climb r seen type with
  | case1 => simp at h
  | case2 => simp at h
  | case3 seen type c hc hs ih =>
    rcases List.mem_cons.1 h with rfl | h
    · exact List.mem_of_find?_eq_some hc
    · split at h
      · simp at h
      · next parent _ => exact ih parent h

theorem mem_of_mem_merge {α : Type u} {accessor : α → String} {l : List α} {a : α}
    (h : a ∈ merge accessor l) : a ∈ l := by
  obtain ⟨e, he, rfl⟩ := List.mem_map.1 h
  obtain ⟨d, hd, rfl⟩ := List.mem_map.1 (OrderedMap.mem_of_mem_entries_ofList he)
  exact hd

theorem exists_binding_of_mem_merge {α : Type u} {accessor : α → String} {r : Registry}
    {type : TypeName} {declared : TypeBinding → List α} {a : α}
    (h : a ∈ merge accessor ((r.lineage type).flatMap declared)) :
    ∃ b ∈ r.bindings, a ∈ declared b := by
  obtain ⟨b, hb, ha⟩ := List.mem_flatMap.1 (mem_of_mem_merge h)
  exact ⟨b, mem_bindings_of_mem_climb (List.mem_reverse.1 hb), ha⟩

theorem exists_binding_of_mem_attributes {r : Registry} {type : TypeName} {a : AttributeBinding}
    (h : a ∈ r.attributes type) : ∃ b ∈ r.bindings, a ∈ b.attributes :=
  exists_binding_of_mem_merge h

theorem exists_binding_of_mem_children {r : Registry} {type : TypeName} {child : ChildBinding}
    (h : child ∈ r.children type) : ∃ b ∈ r.bindings, child ∈ b.children :=
  exists_binding_of_mem_merge h

end TagGrammar.Registry
