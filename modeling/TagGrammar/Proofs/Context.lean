import TagGrammar.Context
import TagGrammar.Proofs.Lookup

/-!
# What is found in a context

For each way to change a context, what is found in it afterwards by type, by tag and by index; and
what the table of a context has for a tag.
-/

namespace TagGrammar.Context

theorem mem_types_iff {c : Context} {type : TypeName} :
    type ∈ c.types ↔ ∃ id, c.idOf? type = some id := OrderedMap.mem_keys_iff

/-! ## By type -/

@[simp] theorem idOf?_addTagged (c : Context) (d : Descriptor) (type : TypeName) :
    (c.addTagged d).idOf? type = c.idOf? type := rfl

@[simp] theorem idOf?_modify (c : Context) (id : Nat) (f : Descriptor → Descriptor)
    (type : TypeName) : (c.modify id f).idOf? type = c.idOf? type := rfl

@[simp] theorem idOf?_addType (c : Context) (type other : TypeName) (d : Descriptor) :
    (c.addType type d).idOf? other = if type = other then some c.size else c.idOf? other :=
  c.byType.get?_insert type other c.size

/-- A type keeps its index when another type is created. -/
theorem idOf?_addType_of_new {c : Context} {type other : TypeName} {id : Nat} {d : Descriptor}
    (new : type ∉ c.types) (h : c.idOf? other = some id) :
    (c.addType type d).idOf? other = some id := by
  have hne : type ≠ other := by
    rintro rfl
    apply new
    exact mem_types_iff.2 ⟨id, h⟩
  rw [idOf?_addType, if_neg hne]
  exact h

theorem mem_types_addType {c : Context} {type other : TypeName} {d : Descriptor}
    (new : type ∉ c.types) :
    other ∈ (c.addType type d).types ↔ other ∈ c.types ∨ other = type := by
  rw [types_addType, if_neg new, List.mem_append, List.mem_singleton]

theorem ofType?_eq_some_iff {c : Context} {type : TypeName} {d : Descriptor} :
    c.ofType? type = some d ↔ ∃ id, c.idOf? type = some id ∧ c.descriptors[id]? = some d :=
  Option.bind_eq_some_iff

/-! ## By tag -/

/-- The index that a tag leads to. -/
def tagged? (c : Context) (tag : String) : Option Nat := c.byTag.get? tag

@[simp] theorem tagged?_modify (c : Context) (id : Nat) (f : Descriptor → Descriptor)
    (tag : String) : (c.modify id f).tagged? tag = c.tagged? tag := rfl

@[simp] theorem tagged?_addTagged (c : Context) (d : Descriptor) (tag : String) :
    (c.addTagged d).tagged? tag = if d.tag = some tag then some c.size else c.tagged? tag := by
  unfold tagged? addTagged
  cases hd : d.tag with
  | none => simp
  | some t => simp [OrderedMap.get?_insert]

@[simp] theorem tagged?_addType (c : Context) (type : TypeName) (d : Descriptor) (tag : String) :
    (c.addType type d).tagged? tag = if d.tag = some tag then some c.size else c.tagged? tag :=
  c.tagged?_addTagged d tag

/-! ## By index -/

@[simp] theorem size_modify (c : Context) (id : Nat) (f : Descriptor → Descriptor) :
    (c.modify id f).size = c.size :=
  Array.size_modify

@[simp] theorem size_addTagged (c : Context) (d : Descriptor) :
    (c.addTagged d).size = c.size + 1 :=
  Array.size_push d

@[simp] theorem size_addType (c : Context) (type : TypeName) (d : Descriptor) :
    (c.addType type d).size = c.size + 1 :=
  Array.size_push d

theorem descriptors_addTagged (c : Context) (d : Descriptor) (id : Nat) :
    (c.addTagged d).descriptors[id]? = if id = c.size then some d else c.descriptors[id]? :=
  Array.getElem?_push

theorem descriptors_addType (c : Context) (type : TypeName) (d : Descriptor) (id : Nat) :
    (c.addType type d).descriptors[id]? = if id = c.size then some d else c.descriptors[id]? :=
  Array.getElem?_push

theorem descriptors_modify (c : Context) (id other : Nat) (f : Descriptor → Descriptor) :
    (c.modify id f).descriptors[other]? =
      if id = other then c.descriptors[other]?.map f else c.descriptors[other]? :=
  Array.getElem?_modify

/-- What has an index was there before whatever is created next. -/
theorem ne_size_of_descriptors {c : Context} {id : Nat} {d : Descriptor}
    (h : c.descriptors[id]? = some d) : id ≠ c.size := by
  obtain ⟨hlt, _⟩ := Array.getElem?_eq_some_iff.1 h
  exact Nat.ne_of_lt hlt

theorem descriptors_addTagged_of_some {c : Context} {id : Nat} {d e : Descriptor}
    (h : c.descriptors[id]? = some e) : (c.addTagged d).descriptors[id]? = some e := by
  rw [descriptors_addTagged, if_neg (ne_size_of_descriptors h)]
  exact h

theorem descriptors_addType_of_some {c : Context} {type : TypeName} {id : Nat} {d e : Descriptor}
    (h : c.descriptors[id]? = some e) : (c.addType type d).descriptors[id]? = some e :=
  descriptors_addTagged_of_some h

/-! ## The table -/

/-- The table has for a tag the descriptor that the tag leads to. -/
theorem get?_toTable_eq_some_iff {c : Context} {tag : String} {d : Descriptor} :
    c.toTable.get? tag = some d ↔ ∃ id, c.tagged? tag = some id ∧ c.descriptors[id]? = some d := by
  let entry (e : String × Nat) : Option (String × Descriptor) :=
    (c.descriptors[e.2]?).map fun d => (e.1, d)
  have hfst : ∀ e x, entry e = some x → x.1 = e.1 := by
    intro e x hx
    obtain ⟨d, _, rfl⟩ := Option.map_eq_some_iff.1 hx
    rfl
  have hnodup := c.byTag.nodup_keys.sublist (sublist_map_fst_filterMap hfst c.byTag.entries)
  rw [show c.toTable = .ofList (c.byTag.entries.filterMap entry) from rfl,
    TagTable.get?_ofList_eq_some_iff hnodup, List.mem_filterMap]
  constructor
  · rintro ⟨⟨t, id⟩, hmem, he⟩
    obtain ⟨d', hd', heq⟩ := Option.map_eq_some_iff.1 he
    cases heq
    exact ⟨id, OrderedMap.get?_eq_some_iff.2 hmem, hd'⟩
  · rintro ⟨id, hid, hd⟩
    refine ⟨(tag, id), OrderedMap.get?_eq_some_iff.1 hid, ?_⟩
    simp [entry, hd]

end TagGrammar.Context
