import TagGrammar.HintDocument
import TagGrammar.Proofs.Json.RoundTrip
import TagGrammar.Proofs.Lookup

/-!
# The JSON value of a document

The value has no numbers and only four brackets within each other (`plain_toJson`), so it can be
read back. It shows the tags at the top, the global attributes, and of every descriptor the
attributes and the children, and nothing is lost of these (`members_inj`). As long as no tag is a
reserved key, no key occurs twice in it (`nodup_keys_members`).
-/

namespace TagGrammar

/-! ## Values of attributes -/

theorem valuesJson_inj {s t : Option ValueSet} (h : valuesJson s = valuesJson t) : s = t := by
  cases s with
  | none =>
    cases t with
    | none => rfl
    | some t => cases h
  | some s =>
    cases t with
    | none => cases h
    | some t =>
      have hmembers : s.members = t.members :=
        (List.map_inj_right fun _ _ => Json.string.inj).1 (Json.array.inj h)
      obtain ⟨members, _⟩ := s
      cases hmembers
      rfl

theorem attributesJson_inj {m n : OrderedMap String (Option ValueSet)}
    (h : attributesJson m = attributesJson n) : m = n := by
  have hentries : m.entries = n.entries := by
    refine (List.map_inj_right ?_).1 (Json.object.inj h)
    intro d e hde
    exact Prod.ext (Prod.mk.inj hde).1 (valuesJson_inj (Prod.mk.inj hde).2)
  obtain ⟨entries, _⟩ := m
  cases hentries
  rfl

theorem plain_strings (n : Nat) (l : List String) :
    Json.Plain (n + 1) (.array (l.map .string)) := by
  constructor
  intro item hitem
  obtain ⟨s, _, rfl⟩ := List.mem_map.1 hitem
  exact .string s

theorem plain_valuesJson (n : Nat) (values : Option ValueSet) :
    Json.Plain (n + 1) (valuesJson values) := by
  cases values with
  | none => exact .null
  | some values => exact plain_strings n values.members

theorem plain_attributesJson (n : Nat) (m : OrderedMap String (Option ValueSet)) :
    Json.Plain (n + 2) (attributesJson m) := by
  constructor
  intro member hmember
  obtain ⟨e, _, rfl⟩ := List.mem_map.1 hmember
  exact plain_valuesJson n e.2

/-! ## Descriptors -/

/-- What the JSON value shows of a descriptor, with the tag under which it stands. -/
structure ShownEntry where
  tag : String
  attributes : OrderedMap String (Option ValueSet)
  children : TagSet
  deriving DecidableEq

def Descriptor.shownAs (d : Descriptor) (tag : String) : ShownEntry :=
  ⟨tag, d.attributes, d.children⟩

namespace ShownEntry

def toMember (e : ShownEntry) : String × Json :=
  (e.tag, .object
    [("attrs", attributesJson e.attributes), ("children", .array (e.children.tags.map .string))])

theorem toMember_inj (d e : ShownEntry) (h : d.toMember = e.toMember) : d = e := by
  obtain ⟨tag, attributes, children⟩ := d
  obtain ⟨tag', attributes', ⟨tags, _⟩⟩ := e
  simp only [toMember, Prod.mk.injEq, Json.object.injEq, List.cons.injEq, true_and, and_true,
    Json.array.injEq] at h
  obtain ⟨rfl, hattributes, hchildren⟩ := h
  cases attributesJson_inj hattributes
  cases (List.map_inj_right fun _ _ => Json.string.inj).1 hchildren
  rfl

theorem plain_toMember (n : Nat) (e : ShownEntry) : Json.Plain (n + 3) e.toMember.2 := by
  constructor
  simp only [List.forall_mem_cons]
  exact ⟨plain_attributesJson n e.attributes, plain_strings (n + 1) e.children.tags,
    fun _ h => by cases h⟩

end ShownEntry

/-! ## Documents -/

namespace HintDocument

/-- The tags in ascending order, each with its attributes and its children. -/
def grammar (h : HintDocument) : List ShownEntry :=
  h.registry.entries.map fun e => e.2.shownAs e.1

/-- The members of the JSON value. -/
def members (h : HintDocument) : List (String × Json) :=
  (topKey, .array (h.topElements.map .string)) ::
    (globalAttributesKey, attributesJson h.globalAttributes) :: h.grammar.map (·.toMember)

theorem toJson_eq (h : HintDocument) : h.toJson = .object h.members := by
  rw [members, grammar, List.map_map]
  rfl

theorem keys_members (h : HintDocument) :
    h.members.map Prod.fst = topKey :: globalAttributesKey :: h.registry.tags := by
  simp only [members, grammar, List.map_cons, List.map_map, TagTable.tags]
  rfl

theorem nodup_keys_members {h : HintDocument} (htop : topKey ∉ h.registry.tags)
    (hglobals : globalAttributesKey ∉ h.registry.tags) :
    (h.members.map Prod.fst).Nodup := by
  rw [keys_members, List.nodup_cons, List.nodup_cons, List.mem_cons, not_or]
  exact ⟨⟨by decide, htop⟩, hglobals, h.registry.nodup_tags⟩

theorem members_inj {h h' : HintDocument} (hmembers : h.members = h'.members) :
    h.topElements = h'.topElements ∧ h.globalAttributes = h'.globalAttributes ∧
      h.grammar = h'.grammar := by
  simp only [members, List.cons.injEq, Prod.mk.injEq, true_and, Json.array.injEq] at hmembers
  obtain ⟨htop, hglobals, hgrammar⟩ := hmembers
  exact ⟨(List.map_inj_right fun _ _ => Json.string.inj).1 htop, attributesJson_inj hglobals,
    (List.map_inj_right ShownEntry.toMember_inj).1 hgrammar⟩

theorem plain_toJson (n : Nat) (h : HintDocument) : Json.Plain (n + 4) h.toJson := by
  rw [toJson_eq]
  constructor
  simp only [members, List.forall_mem_cons]
  refine ⟨plain_strings (n + 2) h.topElements, plain_attributesJson (n + 1) h.globalAttributes, ?_⟩
  intro member hmember
  obtain ⟨e, _, rfl⟩ := List.mem_map.1 hmember
  exact e.plain_toMember n

/-- The JSON value of a document is read back from its text, in either layout. -/
theorem parse_text_toJson (h : HintDocument) (layout : Json.Layout) :
    Json.parse (h.toJson.text layout) = .ok (.object h.members) := by
  rw [Json.parse_text (h.plain_toJson 123), toJson_eq]

end HintDocument

end TagGrammar
