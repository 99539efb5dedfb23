import TagGrammar.Proofs.Walk.Rest

/-!
# Every visited type gets its declared grammar

What a type should have as its grammar can be said without a walk, from the vocabulary alone:
`Declares` lists it part by part. Whatever types are visited, in whatever order and however they
refer to each other, each of them ends with exactly this descriptor (`visitEach_declares`).

A child that is a reference brings in tags of another type, which may still be in the middle of its
own visit. That does no harm, because these are its tag and its overrides, and they are complete as
soon as the type is entered.
-/

namespace TagGrammar

namespace Vocabulary

/-- Elements of a child with this type may stand under the tag. -/
def StandsFor (v : Vocabulary) (tag : String) (target : TypeName) : ChildKind → Prop
  | .named name => tag = name
  | .reference => v.tag? target = some tag ∨ ∃ sub ∈ v.subtypes target, v.tag? sub = some tag

/-- The descriptor is the grammar that the vocabulary declares for the type. -/
structure Declares (v : Vocabulary) (type : TypeName) (d : Descriptor) : Prop where
  tag : d.tag = v.tag? type
  /-- The attributes are written in order. -/
  attributes : d.attributes = (v.attributes type).foldl
    (fun m a => m.insert a.xmlName (valuesFor v.factory a.xmlName a.valueType)) .empty
  /-- A repeated name keeps its first place. -/
  names : d.attributes.keys = ((v.attributes type).map (·.xmlName)).eraseDups
  /-- A repeated name has its last values. -/
  values : ∀ name, d.attribute? name =
    ((v.attributes type).reverse.find? fun a => decide (a.xmlName = name)).map
      fun a => valuesFor v.factory a.xmlName a.valueType
  overrides : ∀ t, t ∈ d.overrides.tags ↔ ∃ sub ∈ v.subtypes type, v.tag? sub = some t
  /-- Children that are no elements contribute nothing. -/
  children : ∀ t, t ∈ d.children.tags ↔ ∃ child ∈ v.children type, ∃ target,
    child.valueType.item? = some (.element target) ∧ v.StandsFor t target child.kind

variable {v : Vocabulary}

/-! ## The parts -/

theorem mem_overrides_iff {type : TypeName} {t : String} :
    t ∈ (v.overrides type).tags ↔ ∃ sub ∈ v.subtypes type, v.tag? sub = some t := by
  unfold overrides TagSet.ofList
  rw [TagSet.mem_insertAll, List.mem_filterMap]
  apply or_iff_left
  intro h
  cases h

theorem mem_offers_iff {child : ChildBinding} {t : String} :
    t ∈ v.offers child ↔ ∃ target, child.valueType.elementType? = some target ∧
      v.StandsFor t target child.kind := by
  unfold offers StandsFor
  cases child.valueType.elementType? with
  | none => simp
  | some target =>
    cases child.kind with
    | named name => simp
    | reference =>
      have hsub : t ∈ (v.outline target).overrides.tags ↔
          ∃ sub ∈ v.subtypes target, v.tag? sub = some t := mem_overrides_iff
      have htag : (v.outline target).tag = v.tag? target := rfl
      simp [Descriptor.substitutes, hsub, htag]

theorem elementType?_eq_some_iff {type : ValueType} {target : TypeName} :
    type.elementType? = some target ↔ type.item? = some (.element target) := by
  unfold ValueType.elementType?
  split
  · next t h => simp [h]
  · next h =>
    constructor
    · intro hn
      cases hn
    · intro hs
      exact absurd hs (h target)

theorem attributeTable_eq_foldl (v : Vocabulary) (type : TypeName) :
    v.attributeTable type = (v.attributes type).foldl
      (fun m a => m.insert a.xmlName (valuesFor v.factory a.xmlName a.valueType)) .empty := by
  unfold attributeTable OrderedMap.ofList
  rw [List.foldl_map]
  rfl

theorem keys_attributeTable (v : Vocabulary) (type : TypeName) :
    (v.attributeTable type).keys = ((v.attributes type).map (·.xmlName)).eraseDups := by
  unfold attributeTable
  rw [OrderedMap.keys_ofList, List.map_map]
  rfl

theorem get?_attributeTable (v : Vocabulary) (type : TypeName) (name : String) :
    (v.attributeTable type).get? name =
      ((v.attributes type).reverse.find? fun a => decide (a.xmlName = name)).map
        fun a => valuesFor v.factory a.xmlName a.valueType := by
  unfold attributeTable
  rw [OrderedMap.get?_ofList, ← List.map_reverse, List.find?_map, Option.map_map]
  rfl

/-- A descriptor that shows a type with all of its children settled is its declared grammar. -/
theorem Portrays.declares {log : List Event} {type : TypeName} {d : Descriptor}
    (h : v.Portrays log type d) (htag : d.tag = v.tag? type) (hall : v.AllSettled log type) :
    v.Declares type d where
  tag := htag
  attributes := h.attributes.trans (attributeTable_eq_foldl v type)
  names := by
    rw [h.attributes]
    exact keys_attributeTable v type
  values name := by
    unfold Descriptor.attribute?
    rw [h.attributes]
    exact get?_attributeTable v type name
  overrides t := by
    rw [h.overrides]
    exact mem_overrides_iff
  children t := by
    rw [h.mem_children_iff hall]
    simp only [mem_offers_iff, elementType?_eq_some_iff]

/-! ## Visited types -/

theorem AtRest.exists_declared {w : Walk} {type : TypeName} (h : v.AtRest w)
    (hmem : type ∈ w.context.types) :
    ∃ d, w.context.ofType? type = some d ∧ v.Declares type d := by
  obtain ⟨d, hd, htag, hp⟩ := h.consistent.exists_descriptor hmem
  exact ⟨d, hd, hp.declares htag (h.finished type hmem).children⟩

/-- After any visits, one after another in one context, every visited type has exactly its declared
grammar. -/
theorem visitEach_declares {v : Vocabulary} {calls : List (Nat × TypeName)} {w : Walk}
    (h : v.visitEach calls .start = some w) :
    (∀ call ∈ calls, call.2 ∈ w.context.types) ∧
      ∀ type ∈ w.context.types, ∃ d, w.context.ofType? type = some d ∧ v.Declares type d := by
  have hexplored := explored_of_visitEach h
  constructor
  · intro call hcall
    exact hexplored.done call.2 (List.mem_map.2 ⟨call, hcall, rfl⟩)
  · intro type hmem
    apply hexplored.atRest.exists_declared
    exact hmem

end Vocabulary

/-! ## Folders

Folders hold notes and folders, and have a trash, which is a folder again. An entry is anything that
a folder can hold; it counts itself among its subtypes. -/

namespace Folders

/-- Anything that a folder can hold. -/
def entry : TypeName := ⟨"Entry"⟩

def folder : TypeName := ⟨"Folder"⟩

def note : TypeName := ⟨"Note"⟩

def registry : Registry where
  bindings := [
    ⟨entry, none, none, [⟨"getTitle", some "title", .scalar "string"⟩], []⟩,
    ⟨folder, some entry, some ⟨some "folder"⟩, [⟨"isOpen", some "open", .boolean⟩],
      [⟨"getEntries", .reference, .list (.element entry)⟩,
        ⟨"getTrash", .named "trash", .element folder⟩, ⟨"getRest", .reference, .erasedList⟩]⟩,
    ⟨note, some entry, some ⟨some "note"⟩, [], [⟨"getPlace", .reference, .element folder⟩]⟩]
  nodup_names := by decide

/-- The declared types, where only entries have subtypes. -/
def vocabulary : Vocabulary where
  registry := registry
  subtypes type := if type = entry then [folder, note, entry] else []
  factory := none

theorem visitEach_folders_declares : ∃ w,
    vocabulary.visitEach [(4, note), (4, folder), (0, entry)] .start = some w ∧
      (∀ call ∈ [(4, note), (4, folder), (0, entry)], call.2 ∈ w.context.types) ∧
        ∀ type ∈ w.context.types,
          ∃ d, w.context.ofType? type = some d ∧ vocabulary.Declares type d := by
  have hsome : (vocabulary.visitEach [(4, note), (4, folder), (0, entry)] .start).isSome := by
    decide +kernel
  obtain ⟨w, hw⟩ := Option.isSome_iff_exists.1 hsome
  exact ⟨w, hw, Vocabulary.visitEach_declares hw⟩

end Folders

end TagGrammar
