import TagGrammar.Proofs.Document
import TagGrammar.Proofs.Registration

/-!
# Valid registries

Validation looks at the declarations of each binding by itself. A walk goes further: it follows
inherited children, and it meets subtypes that nobody refers to. It does not leave a valid registry
nevertheless (`mem_knownTypes_of_mem_resolve`), because whatever is inherited is declared somewhere,
because both look behind one level of list, and because only registered types are subtypes.
-/

namespace TagGrammar

theorem TypeBinding.mem_references_of_supertype {b : TypeBinding} {parent : TypeName}
    (h : b.supertype = some parent) : (none, parent) ∈ b.references := by
  simp [references, h]

theorem TypeBinding.mem_references_of_child {b : TypeBinding} {child : ChildBinding}
    {target : TypeName} (hchild : child ∈ b.children)
    (htarget : child.valueType.elementType? = some target) :
    (some child.accessor, target) ∈ b.references := by
  apply List.mem_append_right
  exact List.mem_filterMap.2 ⟨child, hchild, by rw [htarget]; rfl⟩

namespace Registry

variable {r : Registry} {type root : TypeName}

/-- In a valid registry, inherited children refer to registered types. -/
theorem mem_knownTypes_of_child {child : ChildBinding} {target : TypeName}
    (hvalid : r.validate = .ok ()) (hchild : child ∈ r.children type)
    (htarget : child.valueType.elementType? = some target) : target ∈ r.knownTypes := by
  obtain ⟨b, hb, hmem⟩ := exists_binding_of_mem_children hchild
  have href := TypeBinding.mem_references_of_child hmem htarget
  exact validate_eq_ok_iff.1 hvalid b hb _ href

/-- No type leads out of a valid registry. -/
theorem closed_knownTypes (hvalid : r.validate = .ok ()) (factory : Option ValueFactory) :
    (Generator.ofRegistry r factory).vocabulary.Closed r.knownTypes := by
  intro type _ target htarget
  rcases List.mem_append.1 htarget with hsub | hchild
  · exact (SubtypeSource.ofRegistry r).mem_answers type target hsub
  · obtain ⟨child, hmem, helement⟩ := List.mem_filterMap.1 hchild
    exact mem_knownTypes_of_child hvalid hmem helement

/-- Every type that is visited on the way from a registered root of a valid registry is
registered. -/
theorem mem_knownTypes_of_mem_resolve {factory : Option ValueFactory}
    (hvalid : r.validate = .ok ()) (hroot : root ∈ r.knownTypes) :
    ∀ type ∈ ((Generator.ofRegistry r factory).resolve root .start).2.context.types,
      type ∈ r.knownTypes := by
  intro type htype
  have hvisit := (Generator.ofRegistry r factory).visit_depthFor root .start
  have hreached : (Generator.ofRegistry r factory).vocabulary.Reaches root type :=
    (Vocabulary.mem_types_iff_reaches hvisit).1 htype
  exact (closed_knownTypes hvalid factory).mem_of_reaches hroot hreached

end Registry

namespace Folders

theorem mem_knownTypes_of_mem_resolve_note : registry.validate = .ok () ∧
    note ∈ registry.knownTypes ∧
      ∀ type ∈ ((Generator.ofRegistry registry none).resolve note .start).2.context.types,
        type ∈ registry.knownTypes := by
  have hvalid : registry.validate = .ok () := Registry.validate_eq_ok_iff.2 (by decide +kernel)
  have hroot : note ∈ registry.knownTypes := by decide
  exact ⟨hvalid, hroot, Registry.mem_knownTypes_of_mem_resolve hvalid hroot⟩

end Folders

end TagGrammar
