import TagGrammar.Proofs.Registration
import TagGrammar.Registry.Inheritance
import TagGrammar.Subtypes

/-!
# Registries that share bindings

Two registries may have the same bindings for some types, and differ for others. If supertypes and
element types of children do not lead out of the shared part, then within it both registries say the
same of every type: its tag, its attributes and its children, inherited ones included, and its
supertypes. Subtypes are another matter, because any type that is registered can declare itself a
subtype. But if the shared part takes in all types of the first registry, then the second has at
least the subtypes that the first one has (`SharesWith.subtypes_subset`).
-/

namespace TagGrammar.Registry

/-- The second registry has the bindings of the first one for a domain that takes in all types of
the first registry, and everything they refer to. -/
structure SharesWith (r r' : Registry) (domain : TypeName → Prop) : Prop where
  get? : ∀ {type}, domain type → r'.get? type = r.get? type
  known : ∀ {type}, type ∈ r.knownTypes → domain type
  supertype : ∀ {type parent}, domain type → r.supertype? type = some parent → domain parent
  child : ∀ {type child target}, domain type → child ∈ r.children type →
    child.valueType.elementType? = some target → domain target

namespace SharesWith

variable {r r' : Registry} {domain : TypeName → Prop} {type : TypeName}

theorem tag?_eq (h : r.SharesWith r' domain) (hd : domain type) : r'.tag? type = r.tag? type := by
  unfold tag?
  rw [h.get? hd]

theorem supertype?_eq (h : r.SharesWith r' domain) (hd : domain type) :
    r'.supertype? type = r.supertype? type := by
  unfold supertype?
  rw [h.get? hd]

theorem supertype_of_get? {b : TypeBinding} {parent : TypeName} (h : r.SharesWith r' domain)
    (hd : domain type) (hb : r.get? type = some b) (hp : b.supertype = some parent) :
    domain parent := by
  apply h.supertype hd
  unfold supertype?
  rw [hb]
  exact hp

/-! ## What is inherited -/

theorem climb_eq (h : r.SharesWith r' domain) (seen : List TypeName) (hd : domain type) :
    r'.climb seen type = r.climb seen type := by
  fun_induction climb r seen type with
  | case1 seen type hnone => exact climb_of_none ((h.get? hd).trans hnone)
  | case2 seen type b hb hseen => exact climb_of_mem hseen
  | case3 seen type b hb hseen ih =>
    rw [climb_of_some ((h.get? hd).trans hb) hseen]
    congr 1
    split
    · rfl
    · next parent hp => exact ih parent (h.supertype_of_get? hd hb hp)

theorem lineage_eq (h : r.SharesWith r' domain) (hd : domain type) :
    r'.lineage type = r.lineage type := by
  unfold lineage
  rw [h.climb_eq [] hd]

theorem attributes_eq (h : r.SharesWith r' domain) (hd : domain type) :
    r'.attributes type = r.attributes type := by
  unfold attributes
  rw [h.lineage_eq hd]

theorem children_eq (h : r.SharesWith r' domain) (hd : domain type) :
    r'.children type = r.children type := by
  unfold children
  rw [h.lineage_eq hd]

/-! ## Supertypes and subtypes -/

theorem ascend_eq (h : r.SharesWith r' domain) (seen : List TypeName) (hd : domain type) :
    r'.ascend seen type = r.ascend seen type := by
  fun_induction ascend r seen type with
  | case1 seen type hnone => exact ascend_of_none ((h.supertype?_eq hd).trans hnone)
  | case2 seen type parent hp hseen =>
    rw [ascend_of_some ((h.supertype?_eq hd).trans hp), if_pos hseen]
  | case3 seen type parent hp hseen ih =>
    rw [ascend_of_some ((h.supertype?_eq hd).trans hp), if_neg hseen, ih (h.supertype hd hp)]

theorem supertypes_eq (h : r.SharesWith r' domain) (hd : domain type) :
    r'.supertypes type = r.supertypes type :=
  h.ascend_eq [] hd

theorem mem_knownTypes (h : r.SharesWith r' domain) (hmem : type ∈ r.knownTypes) :
    type ∈ r'.knownTypes := by
  obtain ⟨b, hb⟩ := mem_knownTypes_iff.1 hmem
  exact mem_knownTypes_iff.2 ⟨b, (h.get? (h.known hmem)).trans hb⟩

/-- The second registry has at least the subtypes of the first one. -/
theorem subtypes_subset (h : r.SharesWith r' domain) : r.subtypes type ⊆ r'.subtypes type := by
  intro sub hsub
  obtain ⟨hmem, hbelow⟩ := List.mem_filter.1 hsub
  apply List.mem_filter.2
  rw [h.supertypes_eq (h.known hmem)]
  exact ⟨h.mem_knownTypes hmem, hbelow⟩

end SharesWith

end TagGrammar.Registry
