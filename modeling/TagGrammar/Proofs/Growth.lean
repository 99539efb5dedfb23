import TagGrammar.Proofs.Entries
import TagGrammar.Proofs.SharedBindings

/-!
# Hints grow with the subtypes

A vocabulary grows, as seen from a root, when types get more subtypes and nothing else changes for
the types that can be met so far (`GrowsTo`). Then more types can be met, more tags are published,
and the grammar of every type keeps its attributes and gets more children and overrides at most. So
no hint is lost: each tag has an entry again, and where the tag belongs to one type alone, this
entry takes in the earlier one (`GrowsTo.entry`).

Registries that share their bindings are the case of interest: of the subtypes found in them, the
second has at least those of the first (`SharesWith.growsTo`), so the documents over the first are
kept in those over the second (`SharesWith.keptIn_of_hintsFor`).
-/

namespace TagGrammar

/-- The second descriptor has the tag and the attributes of the first one, all of its children and
all of its overrides. -/
structure Descriptor.KeptIn (d d' : Descriptor) : Prop where
  tag : d'.tag = d.tag
  attributes : d'.attributes = d.attributes
  children : ∀ t ∈ d.children.tags, t ∈ d'.children.tags
  overrides : ∀ t ∈ d.overrides.tags, t ∈ d'.overrides.tags

theorem Descriptor.KeptIn.antisymm {d d' : Descriptor} (h : d.KeptIn d') (h' : d'.KeptIn d) :
    d' = d := by
  have hchildren : d'.children = d.children :=
    TagSet.ext_mem fun t => ⟨h'.children t, h.children t⟩
  have hoverrides : d'.overrides = d.overrides :=
    TagSet.ext_mem fun t => ⟨h'.overrides t, h.overrides t⟩
  exact Descriptor.ext h.tag h.attributes hchildren hoverrides

namespace Vocabulary

variable {v v' : Vocabulary} {root type : TypeName}

/-! ## Tags of one type -/

/-- Of the types that can be met only this one has the tag, and no child is called so. -/
structure SoleTag (v : Vocabulary) (root type : TypeName) (name : String) : Prop where
  tag : ∀ t, v.Reaches root t → v.tag? t = some name → t = type
  children : ∀ t, v.Reaches root t → ∀ child ∈ v.children t, child.kind ≠ .named name

/-- The entry of a tag that belongs to one type alone is the grammar of this type. -/
theorem SoleTag.exists_declared {depth : Nat} {w : Walk} {name : String}
    (h : v.SoleTag root type name) (hw : v.visit depth root .start = some w)
    (hname : name ∈ w.context.toTable.tags) :
    v.Reaches root type ∧ ∃ e, w.context.toTable.get? name = some e ∧ v.Declares type e := by
  have hrest := (explored_of_visit hw).atRest
  obtain ⟨t, e, he, _, hentry⟩ := hrest.exists_entryOf hname
  cases hentry with
  | own mem tagged _ found =>
    have hreached := (mem_types_iff_reaches hw).1 mem
    obtain rfl := h.tag t hreached tagged
    obtain ⟨d, hd, hdeclared⟩ := hrest.exists_declared mem
    rw [found] at hd
    cases hd
    exact ⟨hreached, e, he, hdeclared⟩
  | copy visited mem named _ _ _ _ =>
    exact absurd named (h.children _ ((mem_types_iff_reaches hw).1 visited) _ mem)

/-! ## Growing vocabularies -/

/-- For the types that can be met from the root the second vocabulary says what the first one says,
and it reports all of their subtypes, and maybe more. -/
structure GrowsTo (v v' : Vocabulary) (root : TypeName) : Prop where
  factory : v'.factory = v.factory
  tag? : ∀ {type}, v.Reaches root type → v'.tag? type = v.tag? type
  attributes : ∀ {type}, v.Reaches root type → v'.attributes type = v.attributes type
  children : ∀ {type}, v.Reaches root type → v'.children type = v.children type
  subtypes : ∀ {type}, v.Reaches root type → v.subtypes type ⊆ v'.subtypes type

namespace GrowsTo

theorem reaches (h : v.GrowsTo v' root) (hr : v.Reaches root type) : v'.Reaches root type := by
  induction hr with
  | refl => exact .refl
  | subtype hr mem ih => exact ih.subtype (h.subtypes hr mem)
  | child hr mem element ih => exact ih.child ((h.children hr).symm ▸ mem) element

theorem soleTag {name : String} (h : v.GrowsTo v' root) (hsole : v'.SoleTag root type name) :
    v.SoleTag root type name where
  tag t hr htag := hsole.tag t (h.reaches hr) ((h.tag? hr).trans htag)
  children t hr child mem := hsole.children t (h.reaches hr) child ((h.children hr).symm ▸ mem)

theorem exists_subtype {tag : String} (h : v.GrowsTo v' root) (hr : v.Reaches root type)
    (hsub : ∃ sub ∈ v.subtypes type, v.tag? sub = some tag) :
    ∃ sub ∈ v'.subtypes type, v'.tag? sub = some tag := by
  obtain ⟨sub, hmem, htag⟩ := hsub
  exact ⟨sub, h.subtypes hr hmem, (h.tag? (hr.subtype hmem)).trans htag⟩

theorem standsFor {tag : String} {kind : ChildKind} (h : v.GrowsTo v' root)
    (hr : v.Reaches root type) (hstands : v.StandsFor tag type kind) :
    v'.StandsFor tag type kind := by
  cases kind with
  | named name => exact hstands
  | reference => exact hstands.imp (h.tag? hr).trans (h.exists_subtype hr)

/-- The grammar of a type keeps all that it had. -/
theorem keptIn {d d' : Descriptor} (h : v.GrowsTo v' root) (hr : v.Reaches root type)
    (hd : v.Declares type d) (hd' : v'.Declares type d') : d.KeptIn d' where
  tag := by rw [hd.tag, hd'.tag, h.tag? hr]
  attributes := by rw [hd.attributes, hd'.attributes, h.attributes hr, h.factory]
  children t ht := by
    obtain ⟨child, mem, target, hitem, hstands⟩ := (hd.children t).1 ht
    have htarget := hr.child mem (elementType?_eq_some_iff.2 hitem)
    rw [← h.children hr] at mem
    exact (hd'.children t).2 ⟨child, mem, target, hitem, h.standsFor htarget hstands⟩
  overrides t ht := (hd'.overrides t).2 (h.exists_subtype hr ((hd.overrides t).1 ht))

/-! ## Growing documents -/

variable {depth depth' : Nat} {w w' : Walk}

theorem mem_tags {name : String} (h : v.GrowsTo v' root) (hw : v.visit depth root .start = some w)
    (hw' : v'.visit depth' root .start = some w') (hname : name ∈ w.context.toTable.tags) :
    name ∈ w'.context.toTable.tags := by
  rw [(explored_of_visit hw').atRest.mem_tags_toTable_iff]
  simp only [mem_types_iff_reaches hw']
  rcases (explored_of_visit hw).atRest.mem_tags_toTable_iff.1 hname with
    ⟨t, hmem, htag⟩ | ⟨t, hmem, child, hchild, hnamed, helement⟩
  · have hr := (mem_types_iff_reaches hw).1 hmem
    exact .inl ⟨t, h.reaches hr, (h.tag? hr).trans htag⟩
  · have hr := (mem_types_iff_reaches hw).1 hmem
    exact .inr ⟨t, h.reaches hr, child, (h.children hr).symm ▸ hchild, hnamed, helement⟩

/-- The entry of a tag that belongs to one type alone keeps all that it had. -/
theorem entry {name : String} (h : v.GrowsTo v' root) (hw : v.visit depth root .start = some w)
    (hw' : v'.visit depth' root .start = some w') (hsole : v'.SoleTag root type name)
    (hname : name ∈ w.context.toTable.tags) :
    ∃ e e', w.context.toTable.get? name = some e ∧ w'.context.toTable.get? name = some e' ∧
      e.KeptIn e' := by
  obtain ⟨hr, e, he, hdeclared⟩ := (h.soleTag hsole).exists_declared hw hname
  obtain ⟨_, e', he', hdeclared'⟩ := hsole.exists_declared hw' (h.mem_tags hw hw' hname)
  exact ⟨e, e', he, he', h.keptIn hr hdeclared hdeclared'⟩

end GrowsTo

end Vocabulary

/-! ## Registries -/

namespace Registry

/-- The name is the tag of this registered type and of no other, and no child is called so. -/
structure SoleTag (r : Registry) (type : TypeName) (name : String) : Prop where
  tag : r.tag? type = some name
  sole : ∀ b ∈ r.bindings, b.tag? = some name → b.name = type
  unnamed : ∀ b ∈ r.bindings, ∀ child ∈ b.children, child.kind ≠ .named name

theorem SoleTag.vocabulary {r : Registry} {type : TypeName} {name : String} {v : Vocabulary}
    (h : r.SoleTag type name) (hv : v.registry = r) (root : TypeName) :
    v.SoleTag root type name where
  tag t _ htag := by
    obtain ⟨b, hb, hbtag⟩ := Option.bind_eq_some_iff.1 htag
    rw [hv, get?_eq_some_iff] at hb
    rw [← h.sole b hb.1 hbtag, hb.2]
  children t _ child mem := by
    obtain ⟨b, hb, hchild⟩ := exists_binding_of_mem_children mem
    exact h.unnamed b (hv ▸ hb) child hchild

namespace SharesWith

variable {r r' : Registry} {domain : TypeName → Prop} {root type : TypeName}

theorem subtypes_ofRegistry (r : Registry) (factory : Option ValueFactory) (type : TypeName) :
    (Generator.ofRegistry r factory).vocabulary.subtypes type = r.subtypes type :=
  SubtypeSource.ofRegistry_subtypes r type

theorem domain_of_reaches {factory : Option ValueFactory} (h : r.SharesWith r' domain)
    (hroot : domain root)
    (hr : (Generator.ofRegistry r factory).vocabulary.Reaches root type) : domain type := by
  induction hr with
  | refl => exact hroot
  | subtype _ mem _ =>
    rw [subtypes_ofRegistry] at mem
    exact h.known (List.mem_filter.1 mem).1
  | child _ mem element ih => exact h.child ih mem element

/-- The vocabularies of registries that share their bindings grow. -/
theorem growsTo (h : r.SharesWith r' domain) (hroot : domain root)
    (factory : Option ValueFactory) :
    (Generator.ofRegistry r factory).vocabulary.GrowsTo
      (Generator.ofRegistry r' factory).vocabulary root where
  factory := rfl
  tag? hr := h.tag?_eq (h.domain_of_reaches hroot hr)
  attributes hr := h.attributes_eq (h.domain_of_reaches hroot hr)
  children hr := h.children_eq (h.domain_of_reaches hroot hr)
  subtypes _ := by
    rw [subtypes_ofRegistry, subtypes_ofRegistry]
    exact h.subtypes_subset

end SharesWith

end Registry

/-! ## Documents -/

/-- Nothing in the first document is lost in the second: the tags are there again, and where a tag
belongs to one type of the registry alone, its entry takes in the earlier one. -/
structure HintDocument.KeptIn (r : Registry) (doc doc' : HintDocument) : Prop where
  top : doc'.topElements = doc.topElements
  tags : ∀ name ∈ doc.registry.tags, name ∈ doc'.registry.tags
  entries : ∀ type name, r.SoleTag type name → name ∈ doc.registry.tags →
    ∃ e e', doc.get? name = some e ∧ doc'.get? name = some e' ∧ e.KeptIn e'

namespace Registry.SharesWith

variable {r r' : Registry} {domain : TypeName → Prop} {root : TypeName}
  {factory : Option ValueFactory}

theorem isSome_hintsFor (h : r.SharesWith r' domain) (hroot : domain root) :
    ((Generator.ofRegistry r' factory).hintsFor root).isSome =
      ((Generator.ofRegistry r factory).hintsFor root).isSome := by
  rw [Generator.hintsFor_eq, Generator.hintsFor_eq, Option.isSome_map, Option.isSome_map]
  exact congrArg Option.isSome (h.tag?_eq hroot)

theorem keptIn_of_hintsFor {doc doc' : HintDocument} (h : r.SharesWith r' domain)
    (hroot : domain root) (hdoc : (Generator.ofRegistry r factory).hintsFor root = some doc)
    (hdoc' : (Generator.ofRegistry r' factory).hintsFor root = some doc') :
    doc.KeptIn r' doc' := by
  have hgrows := h.growsTo hroot factory
  have hw := (Generator.ofRegistry r factory).visit_depthFor root .start
  have hw' := (Generator.ofRegistry r' factory).visit_depthFor root .start
  rw [Generator.hintsFor_eq] at hdoc hdoc'
  obtain ⟨tag, htag, rfl⟩ := Option.map_eq_some_iff.1 hdoc
  obtain ⟨tag', htag', rfl⟩ := Option.map_eq_some_iff.1 hdoc'
  obtain rfl : tag' = tag := Option.some.inj (htag'.symm.trans ((h.tag?_eq hroot).trans htag))
  exact {
    top := rfl
    tags := fun name => hgrows.mem_tags hw hw'
    entries := fun type name hsole => hgrows.entry hw hw' (hsole.vocabulary rfl root) }

end Registry.SharesWith

end TagGrammar
