import TagGrammar.HintDocument
import TagGrammar.Proofs.Lookup

/-!
# Additions to a descriptor

A descriptor is built up by additions: attributes are set, overrides and children are added. What it
has in the end can be told from the additions part by part (`addAll_eq`). Of the tags only their set
counts, so they may be added in any order, and more than once. Attributes are kept in the order in
which they were first set, each with its last values.
-/

namespace TagGrammar

/-! ## Maps and sets -/

namespace OrderedMap

variable {α : Type u} {β : Type v} [DecidableEq α]

/-- Writing pairs to a map is writing its entries first. -/
theorem foldl_insert_eq (m : OrderedMap α β) (l : List (α × β)) :
    l.foldl (fun m e => m.insert e.1 e.2) m = ofList (m.entries ++ l) := by
  have hstart : m.entries.foldl (fun m e => m.insert e.1 e.2) empty = m := m.ofList_entries
  unfold ofList
  rw [List.foldl_append, hstart]

end OrderedMap

theorem TagSet.insertAll_append (s : TagSet) (l m : List String) :
    s.insertAll (l ++ m) = (s.insertAll l).insertAll m :=
  List.foldl_append

/-! ## Additions -/

/-- Something that is added to a descriptor. -/
inductive Addition where
  | setAttribute (name : String) (values : Option ValueSet)
  | addOverride (tag : String)
  | addChildTag (tag : String)
  /-- All tags that may stand where this descriptor is expected become children. -/
  | addChild (child : Descriptor)

namespace Addition

/-- The attribute that is set, with its values. -/
def attribute? : Addition → Option (String × Option ValueSet)
  | .setAttribute name values => some (name, values)
  | _ => none

/-- The tags that become children. -/
def childTags : Addition → List String
  | .addChildTag tag => [tag]
  | .addChild child => child.substitutes
  | _ => []

/-- The tag that becomes an override. -/
def override? : Addition → Option String
  | .addOverride tag => some tag
  | _ => none

end Addition

namespace Descriptor

def add (d : Descriptor) : Addition → Descriptor
  | .setAttribute name values => d.setAttribute name values
  | .addOverride tag => d.addOverride tag
  | .addChildTag tag => d.addChildTag tag
  | .addChild child => d.addChild child

def addAll (d : Descriptor) (additions : List Addition) : Descriptor := additions.foldl add d

variable {d : Descriptor} {additions : List Addition}

/-- The parts of a descriptor are added to each by itself. -/
theorem addAll_eq (d : Descriptor) (additions : List Addition) :
    d.addAll additions = ⟨d.tag,
      .ofList (d.attributes.entries ++ additions.filterMap Addition.attribute?),
      d.children.insertAll (additions.flatMap Addition.childTags),
      d.overrides.insertAll (additions.filterMap Addition.override?)⟩ := by
  rw [← OrderedMap.foldl_insert_eq]
  induction additions generalizing d with
  | nil => rfl
  | cons a rest ih =>
    show (d.add a).addAll rest = _
    rw [ih, List.flatMap_cons, TagSet.insertAll_append]
    cases a <;> rfl

/-! ## Children and overrides -/

theorem mem_children_addAll_iff {t : String} :
    t ∈ (d.addAll additions).children.tags ↔
      t ∈ d.children.tags ∨ .addChildTag t ∈ additions ∨
        ∃ child, .addChild child ∈ additions ∧ (child.tag = some t ∨ t ∈ child.overrides.tags) := by
  have hadded : t ∈ additions.flatMap Addition.childTags ↔ .addChildTag t ∈ additions ∨
      ∃ child, .addChild child ∈ additions ∧
        (child.tag = some t ∨ t ∈ child.overrides.tags) := by
    rw [List.mem_flatMap]
    constructor
    · rintro ⟨a, ha, ht⟩
      cases a with
      | addChildTag tag =>
        rw [List.mem_singleton.1 ht]
        exact .inl ha
      | addChild child =>
        refine .inr ⟨child, ha, ?_⟩
        simpa [Addition.childTags, substitutes] using ht
      | _ => cases ht
    · rintro (ha | ⟨child, ha, ht⟩)
      · exact ⟨_, ha, List.mem_singleton.2 rfl⟩
      · exact ⟨_, ha, by simpa [Addition.childTags, substitutes] using ht⟩
  rw [addAll_eq, TagSet.mem_insertAll, hadded, or_comm]

theorem mem_overrides_addAll_iff {t : String} :
    t ∈ (d.addAll additions).overrides.tags ↔
      t ∈ d.overrides.tags ∨ .addOverride t ∈ additions := by
  have hadded : t ∈ additions.filterMap Addition.override? ↔ .addOverride t ∈ additions := by
    rw [List.mem_filterMap]
    constructor
    · rintro ⟨a, ha, ht⟩
      cases a with
      | addOverride tag =>
        cases ht
        exact ha
      | _ => cases ht
    · exact fun ha => ⟨_, ha, rfl⟩
  rw [addAll_eq, TagSet.mem_insertAll, hadded, or_comm]

/-! ## Attributes -/

/-- Attributes stand where they first came, those of before in front. -/
theorem keys_attributes_addAll (d : Descriptor) (additions : List Addition) :
    (d.addAll additions).attributes.keys = (d.attributes.keys ++
      (additions.filterMap Addition.attribute?).map Prod.fst).eraseDups := by
  rw [addAll_eq, OrderedMap.keys_ofList, List.map_append]
  rfl

/-- An attribute has the values that it was given last, or those of before. -/
theorem attribute?_addAll (d : Descriptor) (additions : List Addition) (name : String) :
    (d.addAll additions).attribute? name =
      (((additions.filterMap Addition.attribute?).reverse.find? fun e => decide (e.1 = name)).map
        Prod.snd).or (d.attribute? name) := by
  have hbefore : (d.attributes.entries.reverse.find? fun e => decide (e.1 = name)).map Prod.snd =
      d.attribute? name := by
    rw [← OrderedMap.get?_ofList, OrderedMap.ofList_entries]
    rfl
  unfold attribute? at *
  rw [addAll_eq, OrderedMap.get?_ofList, List.reverse_append, List.find?_append, Option.map_or,
    hbefore]

/-! ## The published form -/

/-- What is published depends on the attributes, as they were set, and on the set of the
children. -/
theorem toJson_addAll_congr {more : List Addition}
    (hchildren : ∀ t, t ∈ additions.flatMap Addition.childTags ↔
      t ∈ more.flatMap Addition.childTags)
    (hattributes : additions.filterMap Addition.attribute? =
      more.filterMap Addition.attribute?) :
    (d.addAll additions).toJson = (d.addAll more).toJson := by
  have hsame : (d.addAll additions).children = (d.addAll more).children := by
    apply TagSet.ext_mem
    intro t
    rw [addAll_eq, addAll_eq, TagSet.mem_insertAll, TagSet.mem_insertAll, hchildren]
  unfold toJson
  rw [hsame, addAll_eq, addAll_eq, hattributes]

/-- After any additions the children are the earlier ones and all that were added, in strictly
ascending order, and so are the overrides. Each attribute is there once, at the place where it was
first set, with the values that it was given last. So the published form depends on the attributes,
as they were set one after another, and on the set of the tags that were added as children. -/
theorem addAll_published (d : Descriptor) (additions : List Addition) :
    ((d.addAll additions).children.tags.Pairwise (· < ·) ∧
        ∀ t, t ∈ (d.addAll additions).children.tags ↔
          t ∈ d.children.tags ∨ .addChildTag t ∈ additions ∨ ∃ child, .addChild child ∈ additions ∧
            (child.tag = some t ∨ t ∈ child.overrides.tags)) ∧
      ((d.addAll additions).overrides.tags.Pairwise (· < ·) ∧
        ∀ t, t ∈ (d.addAll additions).overrides.tags ↔
          t ∈ d.overrides.tags ∨ .addOverride t ∈ additions) ∧
      ((d.addAll additions).attributes.keys.Nodup ∧
        (d.addAll additions).attributes.keys = (d.attributes.keys ++
          (additions.filterMap Addition.attribute?).map Prod.fst).eraseDups ∧
        ∀ name, (d.addAll additions).attribute? name =
          (((additions.filterMap Addition.attribute?).reverse.find? fun e =>
            decide (e.1 = name)).map Prod.snd).or (d.attribute? name)) ∧
      ∀ more, (∀ t, t ∈ additions.flatMap Addition.childTags ↔
          t ∈ more.flatMap Addition.childTags) →
        additions.filterMap Addition.attribute? = more.filterMap Addition.attribute? →
          (d.addAll additions).toJson.text .compact = (d.addAll more).toJson.text .compact := by
  refine ⟨⟨(d.addAll additions).children.ascending, fun t => mem_children_addAll_iff⟩,
    ⟨(d.addAll additions).overrides.ascending, fun t => mem_overrides_addAll_iff⟩,
    ⟨(d.addAll additions).attributes.nodup_keys, keys_attributes_addAll d additions,
      attribute?_addAll d additions⟩, ?_⟩
  intro more hchildren hattributes
  rw [toJson_addAll_congr hchildren hattributes]

end Descriptor

/-! ## A chest

Whatever may stand for a drawer, which is no element itself, is added as a child, or its tags are
added by themselves, one of them twice. -/

namespace Chest

def chest : Descriptor := .blank (some "chest")

def drawer : Descriptor := Descriptor.blank none |>.addOverride "b" |>.addOverride "A"

def atOnce : List Addition :=
  [.setAttribute "wood" none, .addChild drawer, .setAttribute "wood" (some .empty)]

def oneByOne : List Addition :=
  [.addChildTag "b", .setAttribute "wood" none, .addChildTag "A", .addOverride "box",
    .setAttribute "wood" (some .empty), .addChildTag "b"]

theorem published_chest :
    (∀ t, t ∈ atOnce.flatMap Addition.childTags ↔ t ∈ oneByOne.flatMap Addition.childTags) ∧
      atOnce.filterMap Addition.attribute? = oneByOne.filterMap Addition.attribute? ∧
      (chest.addAll atOnce).toJson.text .compact =
        (chest.addAll oneByOne).toJson.text .compact := by
  have hdrawer : atOnce.flatMap Addition.childTags = ["A", "b"] := by decide
  have htwice : oneByOne.flatMap Addition.childTags = ["b", "A", "b"] := rfl
  have htags : ∀ t, t ∈ atOnce.flatMap Addition.childTags ↔
      t ∈ oneByOne.flatMap Addition.childTags := by
    intro t
    rw [hdrawer, htwice]
    simp only [List.mem_cons, List.not_mem_nil, or_false]
    grind
  have hattributes : atOnce.filterMap Addition.attribute? =
      oneByOne.filterMap Addition.attribute? := rfl
  obtain ⟨_, _, _, hpublished⟩ := Descriptor.addAll_published chest atOnce
  exact ⟨htags, hattributes, hpublished oneByOne htags hattributes⟩

example : (chest.addAll oneByOne).toJson.text .compact =
    "\x7b\"attrs\":\x7b\"wood\":[]\x7d,\"children\":[\"A\",\"b\"]\x7d" := by
  decide +kernel

end Chest

end TagGrammar
