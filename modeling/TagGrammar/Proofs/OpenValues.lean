import TagGrammar.Proofs.Entries
import TagGrammar.Proofs.Walk.Lockstep

/-!
# Where the factory of values decides

A factory of values is asked about attributes whose items are neither truth values nor of an
enumeration, and what it says is used for the values of these attributes and for nothing else. It is
not asked about an erased list, which has no items. But it is asked about a list of erased lists:
what is known of its items is that they are lists (`Boards.values_differ_on_erased_items`). So two
runs that differ in nothing but the factory write the same log; and from the log every entry can be
read off, except for these values (`hintsFor_withFactory`).

Several attributes of a type can have one name, and then the last of them decides on its values
(`decider?`). The entry of a name shows one type, the same in both runs, and the values of an
attribute differ exactly if the decider is open and the two factories disagree on it (`Contested`).
-/

namespace TagGrammar

/-! ## Values of one attribute -/

/-- Neither truth values nor the members of an enumeration: values are for the factory to tell. All
lists that occur as items are open, erased ones as well. -/
def ValueType.IsOpen : ValueType → Prop
  | .boolean => False
  | .enumeration _ _ => False
  | _ => True

/-- What the factory, if there is one, says of an attribute of this name and type. -/
def opinion (factory : Option ValueFactory) (name : String) (type : ValueType) : Option ValueSet :=
  factory.bind fun f => f name type

theorem values_classify_of_isOpen {factory : Option ValueFactory} {name : String}
    {type : ValueType} (h : type.IsOpen) :
    (classify factory name type).values = opinion factory name type := by
  unfold classify opinion
  cases type with
  | boolean => cases h
  | enumeration => cases h
  | _ =>
    dsimp only
    split
    · next values hvalues => exact hvalues.symm
    · next hnone => exact hnone.symm

theorem classify_eq_of_not_isOpen (factory factory' : Option ValueFactory) {name : String}
    {type : ValueType} (h : ¬ type.IsOpen) :
    classify factory' name type = classify factory name type := by
  cases type with
  | boolean => rfl
  | enumeration => rfl
  | _ => exact absurd trivial h

/-- A list of erased lists has items, and the factory is asked about them. -/
theorem valuesFor_list_erasedList (factory : Option ValueFactory) (name : String) :
    valuesFor factory name (.list .erasedList) = opinion factory name .erasedList :=
  values_classify_of_isOpen trivial

/-- An attribute has other values with another factory exactly if its items are open and the two
factories disagree on them. An erased list has no items. -/
theorem valuesFor_ne_iff {factory factory' : Option ValueFactory} {name : String}
    {type : ValueType} :
    valuesFor factory' name type ≠ valuesFor factory name type ↔
      ∃ item, type.item? = some item ∧ item.IsOpen ∧
        opinion factory name item ≠ opinion factory' name item := by
  unfold valuesFor
  cases type.item? with
  | none => simp
  | some item =>
    by_cases hopen : item.IsOpen
    · simp [values_classify_of_isOpen hopen, hopen, eq_comm]
    · simp [classify_eq_of_not_isOpen factory factory' hopen, hopen]

namespace Vocabulary

/-- The vocabulary with another factory of values, or without one. -/
def withFactory (v : Vocabulary) (factory : Option ValueFactory) : Vocabulary :=
  { v with factory := factory }

/-- The attribute that decides on the values of a name: the last one called so. -/
def decider? (v : Vocabulary) (type : TypeName) (name : String) : Option AttributeBinding :=
  (v.attributes type).reverse.find? fun a => decide (a.xmlName = name)

/-- The items of the deciding attribute are open, and the two factories disagree on them. So the
attribute is no erased list, but its items may be erased lists. -/
def Contested (v : Vocabulary) (factory : Option ValueFactory) (type : TypeName) (name : String) :
    Prop :=
  ∃ a item, v.decider? type name = some a ∧ a.valueType.item? = some item ∧ item.IsOpen ∧
    opinion v.factory name item ≠ opinion factory name item

variable {v : Vocabulary} {factory : Option ValueFactory}

theorem attributeTable_get?_eq_decider? (type : TypeName) (name : String) :
    (v.attributeTable type).get? name =
      (v.decider? type name).map fun a => valuesFor v.factory name a.valueType := by
  rw [get?_attributeTable]
  show (v.decider? type name).map _ = _
  apply Option.map_congr
  intro a ha
  have hname : a.xmlName = name := by simpa using List.find?_some ha
  rw [hname]

theorem get?_attributeTable_ne_iff (type : TypeName) (name : String) :
    ((v.withFactory factory).attributeTable type).get? name ≠ (v.attributeTable type).get? name ↔
      v.Contested factory type name := by
  have hdecider : (v.withFactory factory).decider? type name = v.decider? type name := rfl
  rw [attributeTable_get?_eq_decider?, attributeTable_get?_eq_decider?, hdecider]
  unfold Contested
  cases v.decider? type name with
  | none => simp
  | some a =>
    rw [Option.map_some, Option.map_some, ne_eq, Option.some.injEq, ← ne_eq]
    show valuesFor factory name _ ≠ _ ↔ _
    rw [valuesFor_ne_iff]
    simp

/-! ## Entries that show one type -/

/-- Both descriptors show the type, one for each of two factories. They say the same of all but the
values that the factories contest. -/
structure ShowAlike (v : Vocabulary) (factory : Option ValueFactory) (type : TypeName)
    (e e' : Descriptor) : Prop where
  children : e'.children = e.children
  overrides : e'.overrides = e.overrides
  /-- The names of the attributes, in order, are the same. -/
  names : e'.attributes.keys = e.attributes.keys
  /-- The attributes are those of the type. -/
  values : ∀ name, e.attribute? name =
    (v.decider? type name).map fun a => valuesFor v.factory name a.valueType
  contested : ∀ name, e'.attribute? name ≠ e.attribute? name ↔ v.Contested factory type name

theorem Portrays.showAlike {log : List Event} {type : TypeName} {e e' : Descriptor}
    (h : v.Portrays log type e) (h' : (v.withFactory factory).Portrays log type e') :
    v.ShowAlike factory type e e' where
  children := by
    apply TagSet.ext_mem
    intro t
    rw [h'.children, h.children]
    -- what a child offers are tags, which no factory has a say in
    rfl
  overrides := h'.overrides.trans h.overrides.symm
  names := by
    rw [h.attributes, h'.attributes, keys_attributeTable, keys_attributeTable]
    rfl
  values name := by
    unfold Descriptor.attribute?
    rw [h.attributes]
    exact attributeTable_get?_eq_decider? type name
  contested name := by
    unfold Descriptor.attribute?
    rw [h.attributes, h'.attributes]
    exact get?_attributeTable_ne_iff type name

/-- Where nothing is contested, both descriptors are the same. -/
theorem ShowAlike.eq {type : TypeName} {e e' : Descriptor} (h : v.ShowAlike factory type e e')
    (htag : e'.tag = e.tag) (hnone : ∀ name, ¬ v.Contested factory type name) : e' = e := by
  have hattributes : e'.attributes = e.attributes := by
    apply OrderedMap.ext_get? h.names
    intro name
    by_contra hne
    exact hnone name ((h.contested name).1 hne)
  exact Descriptor.ext htag hattributes h.children h.overrides

end Vocabulary

/-! ## Two runs with one log -/

/-- Both walks have visited the same types, created as many descriptors, and written the same
log. -/
structure Walk.SameCourse (w w' : Walk) : Prop where
  types : w'.context.types = w.context.types
  size : w'.context.size = w.context.size
  history : w'.history = w.history

namespace Walk.SameCourse

variable {w w' : Walk} {v : Vocabulary} {factory : Option ValueFactory}

theorem enter (h : w.SameCourse w') (type : TypeName) :
    (w.enter v type).SameCourse (w'.enter (v.withFactory factory) type) where
  types := by rw [Vocabulary.types_enter, Vocabulary.types_enter, h.types]
  size := by simp [h.size]
  history := by
    rw [history_enter, history_enter, h.history]
    rfl

theorem note (h : w.SameCourse w') (e : Event) : (w.note e).SameCourse (w'.note e) where
  types := h.types
  size := h.size
  history := by rw [history_note, history_note, h.history]

theorem settle (h : w.SameCourse w') (type : TypeName) (id : Nat) (child : ChildBinding)
    (target : TypeName) :
    (w.settle type id child target).SameCourse (w'.settle type id child target) where
  types := by rw [types_settle, types_settle, h.types]
  size := by
    unfold Walk.settle attach
    cases child.kind <;> simp [h.size]
  history := by rw [history_settle, history_settle, h.history]

end Walk.SameCourse

namespace Vocabulary

variable {v : Vocabulary} {factory : Option ValueFactory} {root : TypeName}

theorem lockstep_withFactory (v : Vocabulary) (factory : Option ValueFactory) (root : TypeName) :
    Lockstep v (v.withFactory factory) root Walk.SameCourse where
  subtypes _ := rfl
  children _ := rfl
  types hw := hw.types
  size hw := hw.size
  enter hw _ := hw.enter _
  note hw := hw.note _
  settle hw := hw.settle _ _ _ _

theorem publishes_withFactory_iff {name : String} {e : Event} :
    (v.withFactory factory).Publishes name e ↔ v.Publishes name e := by
  constructor
  · rintro (_ | ⟨mem, named⟩)
    · exact .visit
    · exact .copy mem named
  · rintro (_ | ⟨mem, named⟩)
    · exact .visit
    · exact .copy mem named

theorem lastPublished_withFactory_iff {log before : List Event} {name : String} {e : Event} :
    (v.withFactory factory).LastPublished log name before e ↔
      v.LastPublished log name before e := by
  unfold LastPublished
  simp only [publishes_withFactory_iff]

/-- The event that published a name last tells which type the entry shows, and as of when. -/
theorem AtRest.exists_lastPublished {w : Walk} {name : String} {type : TypeName} {e : Descriptor}
    (h : v.AtRest w) (hentry : v.EntryOf w name type e) :
    ∃ before last, v.LastPublished w.history name before last ∧
      ((last = .visitingType type (some name) ∧ v.Portrays w.history type e) ∨
        ∃ parent accessor, last = .resolvedChild parent accessor type ∧
          v.Portrays before type e) := by
  cases hentry with
  | own mem _ last found =>
    obtain ⟨d, hd, _, hp⟩ := h.consistent.exists_descriptor mem
    rw [found] at hd
    cases hd
    exact ⟨_, _, last, .inl ⟨rfl, hp⟩⟩
  | copy _ _ _ _ last portrays _ => exact ⟨_, _, last, .inr ⟨_, _, rfl, portrays⟩⟩

/-- In two runs with one log the entry of a name shows the same type. -/
theorem EntryOf.showAlike {w w' : Walk} {name : String} {type type' : TypeName}
    {e e' : Descriptor} (hw : v.AtRest w) (hw' : (v.withFactory factory).AtRest w')
    (hlog : w'.history = w.history) (h : v.EntryOf w name type e)
    (h' : (v.withFactory factory).EntryOf w' name type' e') :
    type' = type ∧ v.ShowAlike factory type e e' := by
  obtain ⟨before, last, hlast, hcase⟩ := hw.exists_lastPublished h
  obtain ⟨before', last', hlast', hcase'⟩ := hw'.exists_lastPublished h'
  rw [hlog, lastPublished_withFactory_iff] at hlast'
  obtain ⟨rfl, rfl⟩ := hlast.unique hlast'
  rw [hlog] at hcase'
  rcases hcase with ⟨hvisit, hp⟩ | ⟨parent, accessor, hcopy, hp⟩
  · rcases hcase' with ⟨hvisit', hp'⟩ | ⟨_, _, hcopy', _⟩
    · rw [hvisit] at hvisit'
      cases hvisit'
      exact ⟨rfl, hp.showAlike hp'⟩
    · rw [hvisit] at hcopy'
      cases hcopy'
  · rcases hcase' with ⟨hvisit', _⟩ | ⟨_, _, hcopy', hp'⟩
    · rw [hcopy] at hvisit'
      cases hvisit'
    · rw [hcopy] at hcopy'
      cases hcopy'
      exact ⟨rfl, hp.showAlike hp'⟩

/-! ## The documents -/

/-- The type can be met from the root and has the tag, or it is the type of a child along the way
that has this name. -/
def ClaimsFrom (v : Vocabulary) (root type : TypeName) (name : String) : Prop :=
  (v.Reaches root type ∧ v.tag? type = some name) ∨
    ∃ parent child, v.NamedAlong root name parent child type

theorem Claims.claimsFrom {depth : Nat} {w : Walk} {type : TypeName} {name : String}
    (h : v.Claims w.context.types type name) (hw : v.visit depth root .start = some w) :
    v.ClaimsFrom root type name := by
  rcases h with ⟨hmem, htag⟩ | ⟨parent, hmem, child, hchild, named, element⟩
  · exact .inl ⟨(mem_types_iff_reaches hw).1 hmem, htag⟩
  · exact .inr ⟨parent, child, (mem_types_iff_reaches hw).1 hmem, hchild, named, element⟩

theorem rel_visit_withFactory (v : Vocabulary) (factory : Option ValueFactory) (root : TypeName)
    (depth : Nat) : Option.Rel Walk.SameCourse (v.visit depth root .start)
      ((v.withFactory factory).visit depth root .start) :=
  (lockstep_withFactory v factory root).visit depth .refl ⟨rfl, rfl, rfl⟩

theorem sameCourse_of_visit {depth : Nat} {w w' : Walk} (hw : v.visit depth root .start = some w)
    (hw' : (v.withFactory factory).visit depth root .start = some w') : w.SameCourse w' := by
  have hrel := rel_visit_withFactory v factory root depth
  rw [hw, hw'] at hrel
  cases hrel with
  | some h => exact h

theorem isSome_hintsFor_withFactory (v : Vocabulary) (factory : Option ValueFactory)
    (root : TypeName) (depth : Nat) :
    ((v.withFactory factory).hintsFor depth root).map Option.isSome =
      (v.hintsFor depth root).map Option.isSome := by
  have hrel := rel_visit_withFactory v factory root depth
  generalize hw : v.visit depth root .start = result at hrel
  generalize hw' : (v.withFactory factory).visit depth root .start = result' at hrel
  cases hrel with
  | none =>
    unfold hintsFor
    rw [resolve_eq, resolve_eq, hw, hw']
  | some _ =>
    rw [hintsFor_of_visit hw, hintsFor_of_visit hw', Option.map_some, Option.map_some,
      Option.isSome_map, Option.isSome_map]
    rfl

/-- In two runs with one log the entries of a name show one type that claims it. -/
theorem exists_showAlike {depth : Nat} {w w' : Walk} {name : String}
    (hw : v.visit depth root .start = some w)
    (hw' : (v.withFactory factory).visit depth root .start = some w')
    (hname : name ∈ w.context.toTable.tags) (hname' : name ∈ w'.context.toTable.tags) :
    ∃ type, v.ClaimsFrom root type name ∧ ∃ e e', w.context.toTable.get? name = some e ∧
      w'.context.toTable.get? name = some e' ∧ e.tag = some name ∧ e'.tag = some name ∧
        v.ShowAlike factory type e e' := by
  have hrest := (explored_of_visit hw).atRest
  have hrest' := (explored_of_visit hw').atRest
  obtain ⟨type, e, he, htag, hentry⟩ := hrest.exists_entryOf hname
  obtain ⟨type', e', he', htag', hentry'⟩ := hrest'.exists_entryOf hname'
  obtain ⟨rfl, halike⟩ :=
    hentry.showAlike hrest hrest' (sameCourse_of_visit hw hw').history hentry'
  exact ⟨_, hentry.claims.claimsFrom hw, e, e', he, he', htag, htag', halike⟩

theorem tags_toTable_withFactory {depth : Nat} {w w' : Walk}
    (hw : v.visit depth root .start = some w)
    (hw' : (v.withFactory factory).visit depth root .start = some w') :
    w'.context.toTable.tags = w.context.toTable.tags := by
  apply TagTable.tags_eq_of_mem_iff
  intro name
  rw [(explored_of_visit hw).atRest.mem_tags_toTable_iff,
    (explored_of_visit hw').atRest.mem_tags_toTable_iff, (sameCourse_of_visit hw hw').types]
  rfl

/-- Whatever the factory of values, there are hints or there are none. The documents have the same
top elements and the same tags, and the entries of a tag show one type that claims it, with the same
children, overrides and names of attributes. The values of an attribute differ exactly if they are
contested, and where none are, the documents are identical. -/
theorem hintsFor_withFactory (v : Vocabulary) (factory : Option ValueFactory) (root : TypeName)
    (depth : Nat) :
    ((v.withFactory factory).hintsFor depth root).map Option.isSome =
        (v.hintsFor depth root).map Option.isSome ∧
      ∀ doc doc', v.hintsFor depth root = some (some doc) →
        (v.withFactory factory).hintsFor depth root = some (some doc') →
          doc'.topElements = doc.topElements ∧ doc'.registry.tags = doc.registry.tags ∧
            ∃ shown : String → TypeName,
              (∀ name ∈ doc.registry.tags, v.ClaimsFrom root (shown name) name ∧
                ∃ e e', doc.get? name = some e ∧ doc'.get? name = some e' ∧
                  e.tag = some name ∧ e'.tag = some name ∧
                    v.ShowAlike factory (shown name) e e') ∧
                ((∀ name ∈ doc.registry.tags, ∀ n, ¬ v.Contested factory (shown name) n) →
                  doc' = doc) := by
  refine ⟨isSome_hintsFor_withFactory v factory root depth, fun doc doc' hdoc hdoc' => ?_⟩
  obtain ⟨w, tag, hw, htag, rfl⟩ := exists_visit_of_hintsFor hdoc
  obtain ⟨w', tag', hw', htag', rfl⟩ := exists_visit_of_hintsFor hdoc'
  obtain rfl : tag' = tag := Option.some.inj (htag'.symm.trans htag)
  have htags := tags_toTable_withFactory hw hw'
  have hshown : ∀ name, ∃ type, name ∈ w.context.toTable.tags → v.ClaimsFrom root type name ∧
      ∃ e e', w.context.toTable.get? name = some e ∧ w'.context.toTable.get? name = some e' ∧
        e.tag = some name ∧ e'.tag = some name ∧ v.ShowAlike factory type e e' := by
    intro name
    by_cases hname : name ∈ w.context.toTable.tags
    · obtain ⟨type, h⟩ := exists_showAlike hw hw' hname (htags ▸ hname)
      exact ⟨type, fun _ => h⟩
    · exact ⟨root, fun h => absurd h hname⟩
  choose shown hshown using hshown
  refine ⟨rfl, htags, shown, hshown, fun hnone => ?_⟩
  have htable : w'.context.toTable = w.context.toTable := by
    apply TagTable.ext_get?
    intro name
    by_cases hname : name ∈ w.context.toTable.tags
    · obtain ⟨_, e, e', he, he', hetag, hetag', halike⟩ := hshown name hname
      rw [he, he', halike.eq (hetag'.trans hetag.symm) (hnone name hname)]
    · have hname' : name ∉ w'.context.toTable.tags := htags ▸ hname
      rw [TagTable.mem_tags_iff] at hname hname'
      rw [Option.eq_none_iff_forall_not_mem.2 fun e he => hname ⟨e, he⟩,
        Option.eq_none_iff_forall_not_mem.2 fun e he => hname' ⟨e, he⟩]
  rw [htable]

end Vocabulary

/-! ## Tickets

A ticket has attributes of all kinds, and two that are called a mark, of which the last one is a
truth value. A ticket can have a parent, which is a ticket again. -/

namespace Tickets

def ticket : TypeName := ⟨"Ticket"⟩

def registry : Registry where
  bindings := [
    ⟨ticket, none, some ⟨some "ticket"⟩,
      [⟨"getState", some "state", .enumeration "State" ["OPEN", "DONE"]⟩,
        ⟨"getMark", some "mark", .scalar "string"⟩,
        ⟨"getYears", some "year", .list (.scalar "int")⟩,
        ⟨"getRest", some "rest", .erasedList⟩, ⟨"isMarked", some "mark", .boolean⟩],
      [⟨"getParent", .named "parent", .element ticket⟩]⟩]
  nodup_names := by decide

def vocabulary : Vocabulary := ⟨registry, registry.subtypes, none⟩

/-- Suggests the same years for everything. -/
def years : ValueFactory := fun _ _ => some (.ofList ["1979", "1980"])

theorem contested_year : vocabulary.Contested (some years) ticket "year" :=
  ⟨⟨"getYears", some "year", .list (.scalar "int")⟩, .scalar "int", by decide +kernel, rfl, trivial,
    by decide⟩

theorem hintsFor_ticket_with_years : vocabulary.Contested (some years) ticket "year" ∧
    ∃ doc doc', vocabulary.hintsFor 2 ticket = some (some doc) ∧
      (vocabulary.withFactory (some years)).hintsFor 2 ticket = some (some doc') ∧
        doc'.topElements = doc.topElements ∧ doc'.registry.tags = doc.registry.tags ∧
          ∃ shown : String → TypeName,
            (∀ name ∈ doc.registry.tags, vocabulary.ClaimsFrom ticket (shown name) name ∧
              ∃ e e', doc.get? name = some e ∧ doc'.get? name = some e' ∧
                e.tag = some name ∧ e'.tag = some name ∧
                  vocabulary.ShowAlike (some years) (shown name) e e') ∧
              ((∀ name ∈ doc.registry.tags, ∀ n,
                ¬ vocabulary.Contested (some years) (shown name) n) → doc' = doc) := by
  have hsome : (vocabulary.hintsFor 2 ticket).join.isSome := by decide +kernel
  have hsome' : ((vocabulary.withFactory (some years)).hintsFor 2 ticket).join.isSome := by
    decide +kernel
  obtain ⟨doc, hdoc⟩ := Option.isSome_iff_exists.1 hsome
  obtain ⟨doc', hdoc'⟩ := Option.isSome_iff_exists.1 hsome'
  rw [Option.join_eq_some_iff] at hdoc hdoc'
  exact ⟨contested_year, doc, doc', hdoc, hdoc',
    (Vocabulary.hintsFor_withFactory vocabulary (some years) ticket 2).2 doc doc' hdoc hdoc'⟩

end Tickets

/-! ## Boards

A board has rows, of which nothing is known but that they are lists. -/

namespace Boards

def board : TypeName := ⟨"Board"⟩

def rows : AttributeBinding := ⟨"getRows", some "rows", .list .erasedList⟩

def registry : Registry where
  bindings := [⟨board, none, some ⟨none⟩, [rows], []⟩]
  nodup_names := by decide

def vocabulary : Vocabulary := ⟨registry, registry.subtypes, none⟩

theorem eq_rows_of_decider? {type : TypeName} {name : String} {a : AttributeBinding}
    (h : vocabulary.decider? type name = some a) : a = rows := by
  have hmem : a ∈ registry.attributes type := List.mem_reverse.1 (List.mem_of_find?_eq_some h)
  obtain ⟨b, hb, ha⟩ := Registry.exists_binding_of_mem_attributes hmem
  rw [List.mem_singleton.1 hb] at ha
  exact List.mem_singleton.1 ha

/-- What a document says of the rows, with a factory or without one. -/
theorem exists_rows_of_hintsFor (factory : Option ValueFactory) (values : Option (Option ValueSet))
    (h : (((vocabulary.withFactory factory).hintsFor 1 board).join.bind (·.get? "board")).map
      (·.attribute? "rows") = some values) :
    ∃ doc e, (vocabulary.withFactory factory).hintsFor 1 board = some (some doc) ∧
      doc.get? "board" = some e ∧ e.attribute? "rows" = values := by
  obtain ⟨e, hbind, hvalues⟩ := Option.map_eq_some_iff.1 h
  obtain ⟨doc, hdoc, he⟩ := Option.bind_eq_some_iff.1 hbind
  exact ⟨doc, e, Option.join_eq_some_iff.1 hdoc, he, hvalues⟩

/-- The values of the rows depend on the factory, although their items are erased lists. -/
theorem values_differ_on_erased_items : ∃ doc doc' e e',
    vocabulary.hintsFor 1 board = some (some doc) ∧
      (vocabulary.withFactory (some Tickets.years)).hintsFor 1 board = some (some doc') ∧
      doc.get? "board" = some e ∧ doc'.get? "board" = some e' ∧
      e'.attribute? "rows" ≠ e.attribute? "rows" ∧
      ¬ ∃ type a item, vocabulary.decider? type "rows" = some a ∧
        a.valueType.item? = some item ∧ item.IsOpen ∧ item ≠ .erasedList ∧
          opinion vocabulary.factory "rows" item ≠ opinion (some Tickets.years) "rows" item := by
  obtain ⟨doc, e, hdoc, he, hnone⟩ :=
    exists_rows_of_hintsFor none (some none) (by decide +kernel)
  obtain ⟨doc', e', hdoc', he', hyears⟩ :=
    exists_rows_of_hintsFor (some Tickets.years) (some (some (.ofList ["1979", "1980"])))
      (by decide +kernel)
  refine ⟨doc, doc', e, e', hdoc, hdoc', he, he', ?_, ?_⟩
  · rw [hnone, hyears]
    decide
  · rintro ⟨type, a, item, ha, hitem, _, herased, _⟩
    rw [eq_rows_of_decider? ha] at hitem
    cases hitem
    exact herased rfl

end Boards

end TagGrammar
