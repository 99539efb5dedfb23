import TagGrammar.Proofs.RegistrationOrder
import TagGrammar.Proofs.Validity

/-!
# Extending a schema

Bindings are added to a registry. The added types may be subtypes of the earlier ones and lead to
other types yet, and back. If the registry was valid, nothing it says of its own types changes,
since these refer to types of the registry alone (`Registry.sharesWith_of_append`). So every
document over the registry is kept in the document over the extended one
(`Registry.hintsFor_register`).

Validity is needed: what an invalid registry refers to without having it may be added later, and the
new attributes of an ancestor are attributes of all its descendants.
-/

namespace TagGrammar

namespace Registry

variable {r r' : Registry} {bs : List TypeBinding} {factory : Option ValueFactory}
  {root : TypeName} {doc : HintDocument}

/-- A type for which there are hints is registered. -/
theorem mem_knownTypes_of_hintsFor
    (hdoc : (Generator.ofRegistry r factory).hintsFor root = some doc) : root ∈ r.knownTypes := by
  rw [Generator.hintsFor_eq] at hdoc
  obtain ⟨tag, htag, _⟩ := Option.map_eq_some_iff.1 hdoc
  obtain ⟨b, hb, _⟩ := Option.bind_eq_some_iff.1 htag
  exact mem_knownTypes_iff.2 ⟨b, hb⟩

/-- A valid registry does not lead out of itself, so it shares its types with every registry that
has more bindings. -/
theorem sharesWith_of_append (hvalid : r.validate = .ok ())
    (hbindings : r'.bindings = r.bindings ++ bs) : r.SharesWith r' (· ∈ r.knownTypes) where
  get? hd := by
    obtain ⟨b, hb⟩ := mem_knownTypes_iff.1 hd
    obtain ⟨hmem, hname⟩ := get?_eq_some_iff.1 hb
    rw [hb, get?_eq_some_iff, hbindings]
    exact ⟨List.mem_append_left _ hmem, hname⟩
  known hd := hd
  supertype hd hparent := by
    obtain ⟨b, hb, hsuper⟩ := Option.bind_eq_some_iff.1 hparent
    have href := TypeBinding.mem_references_of_supertype hsuper
    exact validate_eq_ok_iff.1 hvalid b (get?_eq_some_iff.1 hb).1 _ href
  child _ hchild htarget := mem_knownTypes_of_child hvalid hchild htarget

/-- Behind a valid registry, further bindings keep every document. -/
theorem exists_keptIn_of_append (hvalid : r.validate = .ok ())
    (hbindings : r'.bindings = r.bindings ++ bs)
    (hdoc : (Generator.ofRegistry r factory).hintsFor root = some doc) :
    ∃ doc', (Generator.ofRegistry r' factory).hintsFor root = some doc' ∧ doc.KeptIn r' doc' := by
  have hshares := sharesWith_of_append hvalid hbindings
  have hroot := mem_knownTypes_of_hintsFor hdoc
  have hsome : ((Generator.ofRegistry r' factory).hintsFor root).isSome := by
    rw [hshares.isSome_hintsFor hroot, hdoc]
    rfl
  obtain ⟨doc', hdoc'⟩ := Option.isSome_iff_exists.1 hsome
  exact ⟨doc', hdoc', hshares.keptIn_of_hintsFor hroot hdoc hdoc'⟩

/-- One more type in a valid registry, whatever it refers to: where there was a document there is
one, with the same top elements and all the tags, and the entry of a tag that belongs to one type
alone has the same attributes and at least the children and overrides that it had. -/
theorem hintsFor_register {b : TypeBinding} (hvalid : r.validate = .ok ())
    (hregister : r.register b = (.ok (), r'))
    (hdoc : (Generator.ofRegistry r factory).hintsFor root = some doc) :
    ∃ doc', (Generator.ofRegistry r' factory).hintsFor root = some doc' ∧ doc.KeptIn r' doc' :=
  exists_keptIn_of_append hvalid (register_eq_ok_iff.1 hregister).2.2 hdoc

end Registry

/-! ## Drawings with stars

A star is one more shape. It holds a drawing in turn, and has a group that is called a square. -/

namespace Drawings

def star : TypeBinding :=
  ⟨⟨"Star"⟩, some shape, some ⟨none⟩, [],
    [⟨"getDrawing", .reference, .element drawing⟩, ⟨"getRays", .named "square", .element group⟩]⟩

def starRegistry : Registry := ⟨bindings ++ [star], by decide⟩

theorem soleTag_group_with_star : starRegistry.SoleTag group "group" := by
  constructor <;> decide +kernel

theorem hintsFor_drawing_with_star : registry.validate = .ok () ∧
    registry.register star = (.ok (), starRegistry) ∧
      ∃ doc doc' e e', (Generator.ofRegistry registry none).hintsFor drawing = some doc ∧
        (Generator.ofRegistry starRegistry none).hintsFor drawing = some doc' ∧
          doc.KeptIn starRegistry doc' ∧ doc.get? "group" = some e ∧ doc'.get? "group" = some e' ∧
            e.KeptIn e' := by
  have hvalid : registry.validate = .ok () := Registry.validate_eq_ok_iff.2 (by decide +kernel)
  have hregister : registry.register star = (.ok (), starRegistry) :=
    Registry.register_eq_ok_iff.2 ⟨by decide +kernel, by decide +kernel, rfl⟩
  obtain ⟨doc, hdoc, hkeys⟩ := exists_hintsFor_drawing
  obtain ⟨doc', hdoc', hkept⟩ := Registry.hintsFor_register hvalid hregister hdoc
  obtain ⟨e, e', he, he', hgrown⟩ := hkept.entries group "group" soleTag_group_with_star
    (by simp [hkeys])
  exact ⟨hvalid, hregister, doc, doc', e, e', hdoc, hdoc', hkept, he, he', hgrown⟩

end Drawings

end TagGrammar
