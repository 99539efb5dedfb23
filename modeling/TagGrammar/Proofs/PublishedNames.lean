import TagGrammar.Proofs.Document
import TagGrammar.Proofs.DocumentValue
import TagGrammar.Proofs.Registration

/-!
# The names in a document

Names come into a document by four ways: as the tag of a type, as the tag of a subtype, as the name
of an attribute, and as the name of a child. All of them lead back to a binding, so in a document
over a registry that was built by `register` they are XML Names (`published_names_valid`).

The reserved keys are no XML Names, so they cannot meet with the tags in one JSON object.
-/

namespace TagGrammar

/-- All names in the document are XML Names. -/
structure HintDocument.NamesValid (h : HintDocument) : Prop where
  top : ∀ t ∈ h.topElements, Name.isValid t
  globals : ∀ n ∈ h.globalAttributes.keys, Name.isValid n
  keys : ∀ t ∈ h.registry.tags, Name.isValid t
  attributes : ∀ e ∈ h.registry.entries, ∀ n ∈ e.2.attributes.keys, Name.isValid n
  children : ∀ e ∈ h.registry.entries, ∀ t ∈ e.2.children.tags, Name.isValid t
  overrides : ∀ e ∈ h.registry.entries, ∀ t ∈ e.2.overrides.tags, Name.isValid t

/-! ## From bindings -/

namespace Registry.NamesValid

variable {r : Registry} {type : TypeName}

theorem tag? {t : String} (h : r.NamesValid) (ht : r.tag? type = some t) : Name.isValid t := by
  obtain ⟨b, hb, htag⟩ := Option.bind_eq_some_iff.1 ht
  apply h b (List.mem_of_find?_eq_some hb)
  simp [TypeBinding.publishedNames, htag]

theorem xmlName {a : AttributeBinding} (h : r.NamesValid) (ha : a ∈ r.attributes type) :
    Name.isValid a.xmlName := by
  obtain ⟨b, hb, hmem⟩ := exists_binding_of_mem_attributes ha
  apply h b hb
  exact List.mem_append_left _ (List.mem_append_right _ (List.mem_map_of_mem hmem))

theorem child {c : ChildBinding} {n : String} (h : r.NamesValid) (hc : c ∈ r.children type)
    (hn : c.kind = .named n) : Name.isValid n := by
  obtain ⟨b, hb, hmem⟩ := exists_binding_of_mem_children hc
  apply h b hb
  refine List.mem_append_right _ (List.mem_filterMap.2 ⟨c, hmem, ?_⟩)
  unfold ChildBinding.name?
  rw [hn]

end Registry.NamesValid

/-! ## To documents -/

namespace Vocabulary

variable {v : Vocabulary} {type : TypeName}

theorem isValid_of_mem_overrides {t : String} (h : v.registry.NamesValid)
    (ht : t ∈ (v.overrides type).tags) : Name.isValid t := by
  obtain ⟨sub, _, htag⟩ := mem_overrides_iff.1 ht
  exact h.tag? htag

theorem isValid_of_mem_offers {child : ChildBinding} {t : String} (h : v.registry.NamesValid)
    (hchild : child ∈ v.children type) (ht : t ∈ v.offers child) : Name.isValid t := by
  obtain ⟨target, _, hstands⟩ := mem_offers_iff.1 ht
  cases hkind : child.kind with
  | named name =>
    rw [hkind] at hstands
    cases hstands
    exact h.child hchild hkind
  | reference =>
    rw [hkind] at hstands
    rcases hstands with htag | ⟨sub, _, htag⟩
    · exact h.tag? htag
    · exact h.tag? htag

theorem isValid_of_mem_keys {n : String} (h : v.registry.NamesValid)
    (hn : n ∈ (v.attributeTable type).keys) : Name.isValid n := by
  rw [keys_attributeTable, List.mem_eraseDups] at hn
  obtain ⟨a, ha, rfl⟩ := List.mem_map.1 hn
  exact h.xmlName ha

theorem isValid_of_mem_tags {depth : Nat} {root : TypeName} {w : Walk} {t : String}
    (h : v.registry.NamesValid) (hw : v.visit depth root .start = some w)
    (ht : t ∈ w.context.toTable.tags) : Name.isValid t := by
  rcases (explored_of_visit hw).atRest.mem_tags_toTable_iff.1 ht with
    ⟨type, _, htag⟩ | ⟨type, _, child, hchild, hnamed, _⟩
  · exact h.tag? htag
  · exact h.child hchild hnamed

/-- Where all names in the registry are XML Names, so are all names in a document. -/
theorem namesValid_of_hintsFor {depth : Nat} {root : TypeName} {doc : HintDocument}
    (hv : v.registry.NamesValid) (h : v.hintsFor depth root = some (some doc)) :
    doc.NamesValid := by
  obtain ⟨w, tag, hw, htag, rfl⟩ := exists_visit_of_hintsFor h
  have hshown : ∀ e ∈ w.context.toTable.entries, ∃ type before, v.Portrays before type e.2 := by
    intro e he
    obtain ⟨type, _, before, _, hp⟩ := (explored_of_visit hw).atRest.consistent
      |>.exists_portrayed_of_get?_toTable (TagTable.get?_eq_some_iff.2 he)
    exact ⟨type, before, hp⟩
  constructor
  case top =>
    intro t ht
    rw [List.mem_singleton.1 ht]
    exact hv.tag? htag
  case globals =>
    intro n hn
    cases hn
  case keys =>
    intro t ht
    exact isValid_of_mem_tags hv hw ht
  case attributes =>
    intro e he n hn
    obtain ⟨type, before, hp⟩ := hshown e he
    rw [hp.attributes] at hn
    exact isValid_of_mem_keys hv hn
  case children =>
    intro e he t ht
    obtain ⟨type, before, hp⟩ := hshown e he
    obtain ⟨child, hchild, _, hoffer⟩ := (hp.children t).1 ht
    exact isValid_of_mem_offers hv hchild hoffer
  case overrides =>
    intro e he t ht
    obtain ⟨type, before, hp⟩ := hshown e he
    rw [hp.overrides] at ht
    exact isValid_of_mem_overrides hv ht

/-- All names in a document are XML Names, whatever calls of `register` have built the registry. So
no tag is a reserved key, and the JSON value of the document has no key twice. -/
theorem published_names_valid {calls : List TypeBinding} {subtypes : TypeName → List TypeName}
    {factory : Option ValueFactory} {depth : Nat} {root : TypeName} {doc : HintDocument}
    (h : (⟨.ofCalls calls, subtypes, factory⟩ : Vocabulary).hintsFor depth root =
      some (some doc)) :
    doc.NamesValid ∧ HintDocument.topKey ∉ doc.registry.tags ∧
      HintDocument.globalAttributesKey ∉ doc.registry.tags ∧
        ∃ members, doc.toJson = .object members ∧ (members.map Prod.fst).Nodup := by
  have hnames : doc.NamesValid := namesValid_of_hintsFor (Registry.namesValid_ofCalls calls) h
  have htop : HintDocument.topKey ∉ doc.registry.tags := by
    intro ht
    exact absurd (hnames.keys _ ht) (by decide)
  have hglobals : HintDocument.globalAttributesKey ∉ doc.registry.tags := by
    intro ht
    exact absurd (hnames.keys _ ht) (by decide)
  exact ⟨hnames, htop, hglobals, doc.members, doc.toJson_eq,
    HintDocument.nodup_keys_members htop hglobals⟩

end Vocabulary

namespace Folders

/-- The bindings of the sample among others that are refused: two with bad names, and one for a type
that is already there. -/
def calls : List TypeBinding :=
  ⟨⟨"Top"⟩, none, some ⟨some "!top"⟩, [], []⟩ ::
    ⟨⟨"Mark"⟩, none, some ⟨none⟩, [⟨"isSet", some "", .boolean⟩], []⟩ ::
      registry.bindings ++ [⟨folder, none, some ⟨some "!attrs"⟩, [], []⟩]

theorem published_names_valid_folder : ∃ doc,
    (⟨.ofCalls calls, vocabulary.subtypes, none⟩ : Vocabulary).hintsFor 4 folder =
      some (some doc) ∧
    doc.NamesValid ∧ HintDocument.topKey ∉ doc.registry.tags ∧
      HintDocument.globalAttributesKey ∉ doc.registry.tags ∧
        ∃ members, doc.toJson = .object members ∧ (members.map Prod.fst).Nodup := by
  have hsome : (((⟨.ofCalls calls, vocabulary.subtypes, none⟩ : Vocabulary).hintsFor 4
      folder).bind id).isSome := by
    decide +kernel
  obtain ⟨doc, hdoc⟩ := Option.isSome_iff_exists.1 hsome
  obtain ⟨result, hresult, rfl⟩ := Option.bind_eq_some_iff.1 hdoc
  exact ⟨doc, hresult, Vocabulary.published_names_valid hresult⟩

end Folders

end TagGrammar
