import TagGrammar.Proofs.Document

/-!
# What a copy shows

A name that only one type claims is published for that type, by its visit or by a copy of its
descriptor. The entry for the name has all attributes and overrides of the type. Its children are
another matter: a copy is never changed after it was made, and it may be made while the children of
the type are still being settled. `entry_complete_iff` tells from the log whether any are missing.

Types that do not lead back to themselves are always finished when they are copied.
-/

namespace TagGrammar

namespace Vocabulary

/-! ## Claims -/

/-- The type is visited and has the tag, or is the type of a child of this name. -/
def Claims (v : Vocabulary) (visited : List TypeName) (type : TypeName) (name : String) : Prop :=
  (type ∈ visited ∧ v.tag? type = some name) ∨
    ∃ t ∈ visited, ∃ child ∈ v.children t, child.kind = .named name ∧
      child.valueType.elementType? = some type

instance (v : Vocabulary) (visited : List TypeName) (type : TypeName) (name : String) :
    Decidable (v.Claims visited type name) :=
  inferInstanceAs (Decidable (_ ∨ _))

/-- No other type has the tag, and all children of this name are of the type. -/
structure SoleClaim (v : Vocabulary) (visited : List TypeName) (type : TypeName) (name : String) :
    Prop where
  tag : ∀ t ∈ visited, v.tag? t = some name → t = type
  children : ∀ t ∈ visited, ∀ child ∈ v.children t, child.kind = .named name →
    ∀ target ∈ child.valueType.elementType?, target = type

/-! ## Publications -/

/-- The event is the last one that publishes the name, and these events came before it. -/
def LastPublished (v : Vocabulary) (log : List Event) (name : String) (before : List Event)
    (e : Event) : Prop :=
  ∃ after, log = before ++ e :: after ∧ v.Publishes name e ∧ ∀ x ∈ after, ¬ v.Publishes name x

/-- When the name was published last, the type was just being visited, or the children of the type
that were settled by then offered all that its children ever offer. -/
def PublishedInFull (v : Vocabulary) (log : List Event) (type : TypeName) (name : String) : Prop :=
  ∃ before e, v.LastPublished log name before e ∧
    (e = .visitingType type (some name) ∨
      ∀ child ∈ v.children type, ∀ t ∈ v.offers child,
        ∃ settled ∈ v.children type, Settled before type settled ∧ t ∈ v.offers settled)

variable {v : Vocabulary}

/-- Of two last publications neither comes after the other. -/
theorem LastPublished.eq_of_append {log before more : List Event} {name : String} {e e' : Event}
    (h : v.LastPublished log name before e) (h' : v.LastPublished log name (before ++ more) e') :
    more = [] ∧ e = e' := by
  obtain ⟨after, hsplit, _, hlast⟩ := h
  obtain ⟨after', hsplit', hp', _⟩ := h'
  rw [hsplit, List.append_assoc] at hsplit'
  have heq : e :: after = more ++ e' :: after' := List.append_cancel_left hsplit'
  cases more with
  | nil =>
    injection heq with hhead
    exact ⟨rfl, hhead⟩
  | cons x more =>
    injection heq with _ htail
    have hmem : e' ∈ after := by
      rw [htail]
      simp
    exact absurd hp' (hlast e' hmem)

theorem LastPublished.unique {log before before' : List Event} {name : String} {e e' : Event}
    (h : v.LastPublished log name before e) (h' : v.LastPublished log name before' e') :
    before = before' ∧ e = e' := by
  have hbefore : before <+: log := by
    obtain ⟨after, hsplit, _⟩ := h
    exact ⟨_, hsplit.symm⟩
  have hbefore' : before' <+: log := by
    obtain ⟨after, hsplit, _⟩ := h'
    exact ⟨_, hsplit.symm⟩
  rcases List.prefix_or_prefix_of_prefix hbefore hbefore' with ⟨more, rfl⟩ | ⟨more, rfl⟩
  · obtain ⟨rfl, rfl⟩ := h.eq_of_append h'
    simp
  · obtain ⟨rfl, rfl⟩ := h'.eq_of_append h
    simp

/-! ## Types that lead back to themselves -/

/-- A type leads to itself by at least one step. -/
def Recurs (v : Vocabulary) (type : TypeName) : Prop :=
  ∃ next ∈ v.successors type, v.Reaches next type

theorem Reaches.eq_or_exists_next {type other : TypeName} (h : v.Reaches type other) :
    type = other ∨ ∃ next ∈ v.successors type, v.Reaches next other := by
  induction h with
  | refl => exact .inl rfl
  | @subtype t sub _ mem ih =>
    rcases ih with rfl | ⟨next, hnext, hr⟩
    · exact .inr ⟨sub, List.mem_append_left _ mem, .refl⟩
    · exact .inr ⟨next, hnext, hr.subtype mem⟩
  | @child t target child _ mem element ih =>
    rcases ih with rfl | ⟨next, hnext, hr⟩
    · exact .inr ⟨target, List.mem_append_right _ (List.mem_filterMap.2 ⟨child, mem, element⟩),
        .refl⟩
    · exact .inr ⟨next, hnext, hr.child mem element⟩

theorem recurs_of_child {type target : TypeName} {child : ChildBinding}
    (h : v.Reaches target type) (mem : child ∈ v.children type)
    (element : child.valueType.elementType? = some target) : v.Recurs target := by
  rcases h.eq_or_exists_next with rfl | ⟨next, hnext, hr⟩
  · exact ⟨target, List.mem_append_right _ (List.mem_filterMap.2 ⟨child, mem, element⟩), .refl⟩
  · exact ⟨next, hnext, hr.child mem element⟩

/-! ## The entry of a name -/

/-- The entry of a name shows the type as it was when the name was published last: it is the
descriptor of the type, or a copy that was made for a child when these events had come. -/
inductive EntryOf (v : Vocabulary) (w : Walk) (name : String) (type : TypeName) (e : Descriptor) :
    Prop where
  | own {before : List Event} (mem : type ∈ w.context.types) (tagged : v.tag? type = some name)
      (last : v.LastPublished w.history name before (.visitingType type (some name)))
      (found : w.context.ofType? type = some e)
  | copy {parent : TypeName} {child : ChildBinding} {before : List Event}
      (visited : parent ∈ w.context.types) (mem : child ∈ v.children parent)
      (named : child.kind = .named name) (element : child.valueType.elementType? = some type)
      (last : v.LastPublished w.history name before (.resolvedChild parent child.accessor type))
      (portrays : v.Portrays before type e) (ready : v.AllSettled before type ∨ v.Recurs type)

theorem EntryOf.claims {w : Walk} {type : TypeName} {name : String} {e : Descriptor}
    (h : v.EntryOf w name type e) : v.Claims w.context.types type name := by
  cases h with
  | own mem tagged _ _ => exact .inl ⟨mem, tagged⟩
  | copy visited mem named element _ _ _ => exact .inr ⟨_, visited, _, mem, named, element⟩

theorem AtRest.exists_entryOf {w : Walk} {name : String} (h : v.AtRest w)
    (hkey : name ∈ w.context.toTable.tags) :
    ∃ type e, w.context.toTable.get? name = some e ∧ e.tag = some name ∧
      v.EntryOf w name type e := by
  obtain ⟨id, hid⟩ := h.consistent.mem_tags_toTable_iff.1 hkey
  cases h.consistent.published hid with
  | @own type _ before after found split last =>
    have hmem : .visitingType type (some name) ∈ w.history := by
      rw [split]
      simp
    obtain ⟨htype, htag⟩ := h.consistent.visits.1 hmem
    obtain ⟨e, he, hetag, _⟩ := h.consistent.described found
    exact ⟨type, e, Context.get?_toTable_eq_some_iff.2 ⟨id, hid, he⟩, hetag.trans htag.symm,
      .own htype htag.symm ⟨after, split, .visit, last⟩
        (Context.ofType?_eq_some_iff.2 ⟨id, found, he⟩)⟩
  | @copy parent target child _ e before after mem named element split last ready entry tagged
      portrays _ =>
    have hmem : .resolvedChild parent child.accessor target ∈ w.history := by
      rw [split]
      simp
    exact ⟨target, e, Context.get?_toTable_eq_some_iff.2 ⟨id, hid, entry⟩, tagged,
      .copy (h.consistent.resolved hmem).1 mem named element ⟨after, split, .copy mem named, last⟩
        portrays (ready.imp_right fun hr => recurs_of_child hr mem element)⟩

theorem SoleClaim.eq_of_claims {visited : List TypeName} {type other : TypeName} {name : String}
    (h : v.SoleClaim visited type name) (hclaims : v.Claims visited other name) : other = type := by
  rcases hclaims with ⟨hmem, htag⟩ | ⟨t, hmem, child, hchild, named, element⟩
  · exact h.tag other hmem htag
  · exact h.children t hmem child hchild named other element

/-- The entry of a name that one type alone claims shows this type. -/
theorem AtRest.exists_entry {w : Walk} {type : TypeName} {name : String} {d : Descriptor}
    (h : v.AtRest w) (hsole : v.SoleClaim w.context.types type name)
    (hd : w.context.ofType? type = some d) (hkey : name ∈ w.context.toTable.tags) :
    ∃ e before last, w.context.toTable.get? name = some e ∧ e.tag = some name ∧
      v.LastPublished w.history name before last ∧
        ((last = .visitingType type (some name) ∧ e = d) ∨
          (last ≠ .visitingType type (some name) ∧ v.Portrays before type e ∧
            (v.AllSettled before type ∨ v.Recurs type))) := by
  obtain ⟨other, e, he, hetag, hentry⟩ := h.exists_entryOf hkey
  have heq : other = type := hsole.eq_of_claims hentry.claims
  subst heq
  cases hentry with
  | own _ _ last found =>
    rw [hd] at found
    cases found
    exact ⟨d, _, _, he, hetag, last, .inl ⟨rfl, rfl⟩⟩
  | copy _ _ _ _ last portrays ready =>
    exact ⟨e, _, _, he, hetag, last, .inr ⟨by simp, portrays, ready⟩⟩

theorem AtRest.key_of_claims {w : Walk} {type : TypeName} {name : String} (h : v.AtRest w)
    (hclaims : v.Claims w.context.types type name) : name ∈ w.context.toTable.tags := by
  rw [h.mem_tags_toTable_iff]
  rcases hclaims with ⟨hmem, htag⟩ | ⟨t, hmem, child, hchild, named, element⟩
  · exact .inl ⟨type, hmem, htag⟩
  · exact .inr ⟨t, hmem, child, hchild, named, type, element⟩

theorem AtRest.mem_types_of_claims {w : Walk} {type : TypeName} {name : String} (h : v.AtRest w)
    (hclaims : v.Claims w.context.types type name) : type ∈ w.context.types := by
  rcases hclaims with ⟨hmem, _⟩ | ⟨t, hmem, child, hchild, _, element⟩
  · exact hmem
  · exact h.mem_types_of_reaches hmem (.child .refl hchild element)

/-- A copy has no children that its type does not have. -/
theorem Portrays.children_subset {before log : List Event} {type : TypeName} {d e : Descriptor}
    (he : v.Portrays before type e) (hd : v.Portrays log type d) (hall : v.AllSettled log type) :
    ∀ t ∈ e.children.tags, t ∈ d.children.tags := by
  intro t ht
  obtain ⟨child, hchild, _, hoffer⟩ := (he.children t).1 ht
  rw [hd.mem_children_iff hall]
  exact ⟨child, hchild, hoffer⟩

/-- A copy of a type that was finished has all of its children. -/
theorem Portrays.children_eq {before log : List Event} {type : TypeName} {d e : Descriptor}
    (he : v.Portrays before type e) (hd : v.Portrays log type d)
    (hbefore : v.AllSettled before type) (hall : v.AllSettled log type) :
    e.children = d.children := by
  apply TagSet.ext_mem
  intro t
  rw [he.mem_children_iff hbefore, hd.mem_children_iff hall]

/-- A copy has all children of its type exactly if the children of the type that were settled when
it was made offered all that its children ever offer. -/
theorem Portrays.children_eq_iff {before log : List Event} {type : TypeName} {d e : Descriptor}
    (he : v.Portrays before type e) (hd : v.Portrays log type d) (hall : v.AllSettled log type) :
    e.children = d.children ↔ ∀ child ∈ v.children type, ∀ t ∈ v.offers child,
      ∃ settled ∈ v.children type, Settled before type settled ∧ t ∈ v.offers settled := by
  constructor
  · intro heq child hchild t ht
    have htd : t ∈ d.children.tags := (hd.mem_children_iff hall).2 ⟨child, hchild, ht⟩
    rw [← heq] at htd
    exact (he.children t).1 htd
  · intro hfull
    apply TagSet.ext_mem
    intro t
    rw [he.children, hd.mem_children_iff hall]
    constructor
    · rintro ⟨child, hchild, _, ht⟩
      exact ⟨child, hchild, ht⟩
    · rintro ⟨child, hchild, ht⟩
      exact hfull child hchild t ht

end Vocabulary

/-! ## Items in items

An item can hold items, under a name of their own. The copy for this name is made before the child
is added to the type, and so the entry for it has no children at all. -/

namespace Items

/-- A node, the only type. -/
def node : TypeName := ⟨"Node"⟩

def registry : Registry where
  bindings := [
    ⟨node, none, some ⟨some "node"⟩, [], [⟨"getItems", .named "item", .list (.element node)⟩]⟩]
  nodup_names := by decide

def vocabulary : Vocabulary := ⟨registry, registry.subtypes, none⟩

/-- The walk from a node. -/
def walk : Walk := (vocabulary.visit 2 node .start).get (by decide +kernel)

def document : HintDocument := .ofRoot "node" walk.context.toTable

theorem visit_node : vocabulary.visit 2 node .start = some walk := (Option.some_get _).symm

theorem hintsFor_node : vocabulary.hintsFor 2 node = some (some document) := by
  have htag : vocabulary.tag? node = some "node" := by decide +kernel
  rw [Vocabulary.hintsFor_of_visit visit_node, htag]
  rfl

theorem claims_item : vocabulary.Claims walk.context.types node "item" := by decide +kernel

theorem soleClaim_item : vocabulary.SoleClaim walk.context.types node "item" := by
  constructor <;> decide +kernel

end Items

/-! ## Complete entries -/

/-- The entry for a name that one type alone claims has all attributes and overrides of the type,
and no children that the type does not have. It has all of them exactly if none was missing when
the name was published last, and so in any case if the type does not lead back to itself. -/
theorem Vocabulary.entry_complete_iff {v : Vocabulary} {depth : Nat} {root : TypeName} {w : Walk}
    {doc : HintDocument} (hw : v.visit depth root .start = some w)
    (hdoc : v.hintsFor depth root = some (some doc)) {type : TypeName} {name : String}
    (hclaims : v.Claims w.context.types type name)
    (hsole : v.SoleClaim w.context.types type name) :
    ∃ d e, w.context.ofType? type = some d ∧ v.Declares type d ∧ doc.get? name = some e ∧
      e.tag = some name ∧ e.attributes = d.attributes ∧ e.overrides = d.overrides ∧
        (∀ t ∈ e.children.tags, t ∈ d.children.tags) ∧
          (e.children = d.children ↔ v.PublishedInFull w.history type name) ∧
            (¬ v.Recurs type → e.children = d.children) := by
  have hrest := (explored_of_visit hw).atRest
  have hmem := hrest.mem_types_of_claims hclaims
  have hall := (hrest.finished type hmem).children
  obtain ⟨d, hd, hdtag, hdp⟩ := hrest.consistent.exists_descriptor hmem
  obtain ⟨e, before, last, he, hetag, hpub, hcases⟩ :=
    hrest.exists_entry hsole hd (hrest.key_of_claims hclaims)
  have hget : doc.get? name = some e := by
    obtain ⟨w', tag, hw', _, rfl⟩ := exists_visit_of_hintsFor hdoc
    rw [hw] at hw'
    cases hw'
    exact he
  refine ⟨d, e, hd, hdp.declares hdtag hall, hget, hetag, ?_⟩
  rcases hcases with ⟨rfl, rfl⟩ | ⟨hne, hep, hready⟩
  · -- the entry is the descriptor of the type
    have hfull : v.PublishedInFull w.history type name := ⟨before, _, hpub, .inl rfl⟩
    exact ⟨rfl, rfl, fun _ ht => ht, iff_of_true rfl hfull, fun _ => rfl⟩
  · -- the entry is a copy
    refine ⟨hep.attributes.trans hdp.attributes.symm, hep.overrides.trans hdp.overrides.symm,
      hep.children_subset hdp hall, ?_, ?_⟩
    · rw [hep.children_eq_iff hdp hall]
      constructor
      · intro hfull
        exact ⟨before, last, hpub, .inr hfull⟩
      · rintro ⟨before', last', hpub', hfull⟩
        obtain ⟨rfl, rfl⟩ := hpub.unique hpub'
        exact hfull.resolve_left hne
    · intro hrec
      exact hep.children_eq hdp (hready.resolve_right hrec) hall

namespace Items

theorem item_complete_iff :
    vocabulary.visit 2 node .start = some walk ∧
      vocabulary.hintsFor 2 node = some (some document) ∧
      vocabulary.Claims walk.context.types node "item" ∧
      vocabulary.SoleClaim walk.context.types node "item" ∧
      ∃ d e, walk.context.ofType? node = some d ∧ vocabulary.Declares node d ∧
        document.get? "item" = some e ∧ e.tag = some "item" ∧ e.attributes = d.attributes ∧
          e.overrides = d.overrides ∧ (∀ t ∈ e.children.tags, t ∈ d.children.tags) ∧
            (e.children = d.children ↔ vocabulary.PublishedInFull walk.history node "item") ∧
              (¬ vocabulary.Recurs node → e.children = d.children) :=
  ⟨visit_node, hintsFor_node, claims_item, soleClaim_item,
    Vocabulary.entry_complete_iff visit_node hintsFor_node claims_item soleClaim_item⟩

/-- A copy may lack children of its type, although no other type claims its name. -/
theorem not_forall_entry_complete : ¬ ∀ (v : Vocabulary) (depth : Nat) (root : TypeName) (w : Walk)
    (doc : HintDocument) (type : TypeName) (name : String),
    v.visit depth root .start = some w → v.hintsFor depth root = some (some doc) →
      v.Claims w.context.types type name → v.SoleClaim w.context.types type name →
        ∃ d e, w.context.ofType? type = some d ∧ doc.get? name = some e ∧
          e.attributes = d.attributes ∧ e.overrides = d.overrides ∧ e.children = d.children := by
  intro h
  obtain ⟨d, e, hd, he, _, _, hchildren⟩ :=
    h _ _ _ _ _ _ _ visit_node hintsFor_node claims_item soleClaim_item
  have hfull : (walk.context.ofType? node).map (·.children.tags) = some ["item"] := by
    decide +kernel
  have hempty : (document.get? "item").map (·.children.tags) = some [] := by decide +kernel
  rw [hd, Option.map_some, Option.some.injEq] at hfull
  rw [he, Option.map_some, Option.some.injEq, hchildren, hfull] at hempty
  cases hempty

end Items

end TagGrammar
