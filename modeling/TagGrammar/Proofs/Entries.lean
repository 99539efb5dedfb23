import Mathlib.Data.List.Pairwise
import TagGrammar.Proofs.Copies

/-!
# What an entry shows

* `entries_show_claimants` — every entry of a document shows a visited type that claims its name,
  with all of its attributes and overrides, and with no child that the type does not have.
* `top_entry_cases` — the entry of the root's own tag shows the root, unless a child somewhere has
  that tag for its name; then the last such child to be settled decides.

Whichever descriptor a tag leads to, it may have been copied in the middle of a visit. What a copy
can lack at that moment are children, and nothing else.
-/

namespace TagGrammar

/-- The descriptor `e` has exactly the attributes and the overrides of `d`, and no child that `d`
does not have. -/
structure Descriptor.IsExcerptOf (e d : Descriptor) : Prop where
  attributes : e.attributes = d.attributes
  overrides : e.overrides = d.overrides
  children : ∀ t ∈ e.children.tags, t ∈ d.children.tags

theorem Descriptor.IsExcerptOf.refl (d : Descriptor) : d.IsExcerptOf d := ⟨rfl, rfl, fun _ ht => ht⟩

namespace Vocabulary

variable {v : Vocabulary}

/-! ## Entries and the types that claim them -/

theorem Portrays.isExcerptOf {before log : List Event} {type : TypeName} {d e : Descriptor}
    (he : v.Portrays before type e) (hd : v.Portrays log type d) (hall : v.AllSettled log type) :
    e.IsExcerptOf d where
  attributes := he.attributes.trans hd.attributes.symm
  overrides := he.overrides.trans hd.overrides.symm
  children := he.children_subset hd hall

/-- An entry is an excerpt of the finished descriptor of the type that it shows, and all of it if
the type does not lead back to itself. -/
theorem AtRest.exists_excerpted {w : Walk} {type : TypeName} {name : String} {e : Descriptor}
    (h : v.AtRest w) (hentry : v.EntryOf w name type e) :
    ∃ d, w.context.ofType? type = some d ∧ v.Declares type d ∧ e.IsExcerptOf d ∧
      (¬ v.Recurs type → e.children = d.children) := by
  have hmem := h.mem_types_of_claims hentry.claims
  have hall := (h.finished type hmem).children
  obtain ⟨d, hd, hdtag, hdp⟩ := h.consistent.exists_descriptor hmem
  refine ⟨d, hd, hdp.declares hdtag hall, ?_⟩
  cases hentry with
  | own _ _ _ found =>
    rw [hd] at found
    cases found
    exact ⟨.refl e, fun _ => rfl⟩
  | copy _ _ _ _ _ portrays ready =>
    refine ⟨portrays.isExcerptOf hdp hall, fun hrec => ?_⟩
    exact portrays.children_eq hdp (ready.resolve_right hrec) hall

/-- Every entry of a document shows a visited type that claims its name, whatever cycles there are,
and whichever tags collide. -/
theorem entries_show_claimants {v : Vocabulary} {depth : Nat} {root : TypeName} {tag : String}
    {w : Walk} (htag : v.tag? root = some tag) (hw : v.visit depth root .start = some w) :
    ∃ doc, v.hintsFor depth root = some (some doc) ∧
      ∀ name ∈ doc.registry.tags, ∃ e, doc.get? name = some e ∧ e.tag = some name ∧
        ∃ type ∈ w.context.types, v.Claims w.context.types type name ∧
          ∃ d, w.context.ofType? type = some d ∧ v.Declares type d ∧ e.IsExcerptOf d := by
  have hrest := (explored_of_visit hw).atRest
  have hdoc := hintsFor_of_visit hw
  rw [htag, Option.map_some] at hdoc
  refine ⟨_, hdoc, fun name hname => ?_⟩
  obtain ⟨type, e, he, hetag, hentry⟩ := hrest.exists_entryOf hname
  obtain ⟨d, hd, hdeclared, hexcerpt, _⟩ := hrest.exists_excerpted hentry
  exact ⟨e, he, hetag, type, hrest.mem_types_of_claims hentry.claims, hentry.claims, d, hd,
    hdeclared, hexcerpt⟩

end Vocabulary

namespace Folders

theorem entries_folder_show_claimants : vocabulary.tag? folder = some "folder" ∧
    ∃ w, vocabulary.visit 4 folder .start = some w ∧
      ∃ doc, vocabulary.hintsFor 4 folder = some (some doc) ∧
        ∀ name ∈ doc.registry.tags, ∃ e, doc.get? name = some e ∧ e.tag = some name ∧
          ∃ type ∈ w.context.types, vocabulary.Claims w.context.types type name ∧
            ∃ d, w.context.ofType? type = some d ∧ vocabulary.Declares type d ∧
              e.IsExcerptOf d := by
  have htag : vocabulary.tag? folder = some "folder" := by decide +kernel
  have hsome : (vocabulary.visit 4 folder .start).isSome := by decide +kernel
  obtain ⟨w, hw⟩ := Option.isSome_iff_exists.1 hsome
  exact ⟨htag, w, hw, Vocabulary.entries_show_claimants htag hw⟩

end Folders

/-! ## The entry at the top -/

/-- No two bindings have the same tag. -/
def Registry.DistinctTags (r : Registry) : Prop := (r.bindings.filterMap (·.tag?)).Nodup

instance (r : Registry) : Decidable r.DistinctTags := inferInstanceAs (Decidable (List.Nodup _))

theorem Registry.DistinctTags.eq_of_tag? {r : Registry} (h : r.DistinctTags) {a b : TypeName}
    {tag : String} (ha : r.tag? a = some tag) (hb : r.tag? b = some tag) : a = b := by
  obtain ⟨x, hx, hxtag⟩ := Option.bind_eq_some_iff.1 ha
  obtain ⟨y, hy, hytag⟩ := Option.bind_eq_some_iff.1 hb
  have hsymm : Std.Symm fun p q : TypeBinding =>
      ∀ t, p.tag? = some t → ∀ t', q.tag? = some t' → t ≠ t' :=
    ⟨fun p q hpq t ht t' ht' heq => hpq t' ht' t ht heq.symm⟩
  have hxy : x = y := by
    by_contra hne
    exact (List.pairwise_filterMap.1 h).forall (List.mem_of_find?_eq_some hx)
      (List.mem_of_find?_eq_some hy) hne tag hxtag tag hytag rfl
  have hxname : x.name = a := by simpa using List.find?_some hx
  have hyname : y.name = b := by simpa using List.find?_some hy
  rw [← hxname, ← hyname, hxy]

namespace Vocabulary

variable {v : Vocabulary}

/-- The child is an element of the name, declared on a type that is met from the root. -/
structure NamedAlong (v : Vocabulary) (root : TypeName) (name : String) (parent : TypeName)
    (child : ChildBinding) (target : TypeName) : Prop where
  reached : v.Reaches root parent
  mem : child ∈ v.children parent
  named : child.kind = .named name
  element : child.valueType.elementType? = some target

/-- The visit of the root comes before everything else. -/
theorem exists_history_eq_cons {depth : Nat} {root : TypeName} {w : Walk}
    (h : v.visit depth root .start = some w) :
    ∃ rest, w.history = .visitingType root (v.tag? root) :: rest := by
  cases runs_of_visit depth root _ _ h with
  | known seen => exact absurd seen (not_mem_types_start root)
  | enter _ below within =>
    obtain ⟨rest, hrest⟩ := (below.extends.trans within.extends).history
    rw [Walk.history_enter] at hrest
    exact ⟨_, hrest.symm⟩

/-- Nothing comes before the visit of the root, which is its only one. -/
theorem eq_nil_of_history_eq {depth : Nat} {root : TypeName} {tag : Option String} {w : Walk}
    {before after : List Event} (h : v.visit depth root .start = some w)
    (hsplit : w.history = before ++ .visitingType root tag :: after) : before = [] := by
  have hnodup : (visited w.history).Nodup := by
    rw [(explored_of_visit h).steps.visited_eq]
    exact w.context.byType.nodup_keys
  obtain ⟨rest, hrest⟩ := exists_history_eq_cons h
  cases before with
  | nil => rfl
  | cons e before =>
    rw [hrest, List.cons_append] at hsplit
    injection hsplit with _ htail
    have hmem : root ∈ visited rest := by
      rw [htail, visited_append]
      exact List.mem_append_right _ List.mem_cons_self
    rw [hrest] at hnodup
    exact absurd hmem (List.nodup_cons.1 hnodup).1

/-- While the visit of the root is the last publication of its tag, no child has the tag for its
name. -/
theorem not_namedAlong_of_lastPublished {depth : Nat} {root parent target : TypeName}
    {name : String} {child : ChildBinding} {w : Walk} {before : List Event}
    (h : v.visit depth root .start = some w)
    (hlast : v.LastPublished w.history name before (.visitingType root (some name))) :
    ¬ v.NamedAlong root name parent child target := by
  intro hchild
  have hparent := (mem_types_iff_reaches h).2 hchild.reached
  obtain ⟨aim, _, hsettled⟩ := ((explored_of_visit h).atRest.finished parent hparent).children child
    hchild.mem target hchild.element
  obtain ⟨after, hsplit, _, hafter⟩ := hlast
  obtain rfl := eq_nil_of_history_eq h hsplit
  rw [hsplit] at hsettled
  rcases List.mem_cons.1 hsettled with heq | hmem
  · cases heq
  · exact hafter _ hmem (.copy hchild.mem hchild.named)

end Vocabulary

/-! ## Pages

A page has a title. It can hold a link to another page, and the element for that link is again
called a page, although a link has nothing but a target. -/

namespace Pages

def page : TypeName := ⟨"Page"⟩

def link : TypeName := ⟨"Link"⟩

def registry : Registry where
  bindings := [
    ⟨page, none, some ⟨some "page"⟩, [⟨"getTitle", some "title", .scalar "string"⟩],
      [⟨"getLink", .named "page", .element link⟩]⟩,
    ⟨link, none, none, [⟨"getHref", some "href", .scalar "string"⟩], []⟩]
  nodup_names := by decide

def vocabulary : Vocabulary := ⟨registry, registry.subtypes, none⟩

theorem distinctTags : vocabulary.registry.DistinctTags := by decide +kernel

theorem tag?_page : vocabulary.tag? page = some "page" := by decide +kernel

/-- The walk from a page. -/
def walk : Walk := (vocabulary.visit 3 page .start).get (by decide +kernel)

theorem visit_page : vocabulary.visit 3 page .start = some walk := (Option.some_get _).symm

end Pages

namespace Vocabulary

/-- Where no two types have the same tag, a root with a tag has a document as soon as finitely many
types can be met from it, and its tag stands alone at the top. The entry of this tag is the grammar
of the root if no child along the way has the tag for its name. Otherwise the last such child to be
settled decides, and the entry shows the type of that child. -/
theorem top_entry_cases {v : Vocabulary} {root : TypeName} {tag : String}
    (hdistinct : v.registry.DistinctTags) (htag : v.tag? root = some tag) :
    ({t | v.Reaches root t}.Finite → ∃ depth w, v.visit depth root .start = some w) ∧
      ∀ depth w, v.visit depth root .start = some w →
        ∃ doc, v.hintsFor depth root = some (some doc) ∧ doc.topElements = [tag] ∧
          ∃ e, doc.get? tag = some e ∧
            (((∀ parent child target, ¬ v.NamedAlong root tag parent child target) ∧
                v.Declares root e) ∨
              ∃ parent child target before, v.NamedAlong root tag parent child target ∧
                v.LastPublished w.history tag before
                  (.resolvedChild parent child.accessor target) ∧
                  ∃ d, w.context.ofType? target = some d ∧ v.Declares target d ∧
                    e.IsExcerptOf d ∧ (¬ v.Recurs target → e.children = d.children)) := by
  refine ⟨exists_visit_iff_finite.2, fun depth w hw => ?_⟩
  have hexplored := explored_of_visit hw
  have hrest := hexplored.atRest
  have hdoc := hintsFor_of_visit hw
  rw [htag, Option.map_some] at hdoc
  obtain ⟨type, e, he, _, hentry⟩ := hrest.exists_entryOf (hrest.key_of_tag? hexplored.done htag)
  refine ⟨_, hdoc, rfl, e, he, ?_⟩
  obtain ⟨d, hd, hdeclared, hexcerpt, hfull⟩ := hrest.exists_excerpted hentry
  cases hentry with
  | own _ tagged last found =>
    -- no other type has the tag
    obtain rfl := hdistinct.eq_of_tag? htag tagged
    rw [hd] at found
    cases found
    exact .inl ⟨fun _ _ _ => not_namedAlong_of_lastPublished hw last, hdeclared⟩
  | @copy parent child before visited mem named element last _ _ =>
    have hreached := (mem_types_iff_reaches hw).1 visited
    exact .inr ⟨parent, child, type, before, ⟨hreached, mem, named, element⟩, last, d, hd,
      hdeclared, hexcerpt, hfull⟩

end Vocabulary

namespace Pages

theorem top_entry_page_cases : vocabulary.registry.DistinctTags ∧
    vocabulary.tag? page = some "page" ∧ vocabulary.visit 3 page .start = some walk ∧
      ∃ doc, vocabulary.hintsFor 3 page = some (some doc) ∧ doc.topElements = ["page"] ∧
        ∃ e, doc.get? "page" = some e ∧
          (((∀ parent child target,
                ¬ vocabulary.NamedAlong page "page" parent child target) ∧
              vocabulary.Declares page e) ∨
            ∃ parent child target before,
              vocabulary.NamedAlong page "page" parent child target ∧
                vocabulary.LastPublished walk.history "page" before
                  (.resolvedChild parent child.accessor target) ∧
                  ∃ d, walk.context.ofType? target = some d ∧ vocabulary.Declares target d ∧
                    e.IsExcerptOf d ∧
                      (¬ vocabulary.Recurs target → e.children = d.children)) :=
  ⟨distinctTags, tag?_page, visit_page,
    (Vocabulary.top_entry_cases distinctTags tag?_page).2 3 walk visit_page⟩

/-- The entry at the top may be that of another type, although no other type has its tag. -/
theorem not_forall_top_entry_declares : ¬ ∀ (v : Vocabulary) (root : TypeName) (tag : String)
    (depth : Nat) (w : Walk), v.registry.DistinctTags → v.tag? root = some tag →
      v.visit depth root .start = some w →
        ∃ doc, v.hintsFor depth root = some (some doc) ∧ doc.topElements = [tag] ∧
          ∃ e, doc.get? tag = some e ∧ v.Declares root e := by
  intro h
  obtain ⟨doc, hdoc, _, e, he, hdeclared⟩ := h _ _ _ _ _ distinctTags tag?_page visit_page
  have hshown : ((vocabulary.hintsFor 3 page).bind fun d => d.bind fun d => d.get? "page").map
      (·.attributes.keys) = some ["href"] := by decide +kernel
  have hnames : ((vocabulary.attributes page).map (·.xmlName)).eraseDups = ["title"] := by
    decide +kernel
  rw [hdoc, Option.bind_some, Option.bind_some, he, Option.map_some, hdeclared.names, hnames]
    at hshown
  exact absurd hshown (by decide)

end Pages

end TagGrammar
