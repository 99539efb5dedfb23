import Mathlib.Data.Set.Finite.Basic
import TagGrammar.Generator
import TagGrammar.Proofs.DeclaredGrammar

/-!
# The tags of a document

* `closed_of_hintsFor` — a document is closed: no tag in it is without an entry.
* `tags_iff_reaches` — a document has an entry for every name that can be met from the root, and for
  no other; and there is a document as soon as only finitely many types can be met.

Neither holds in the middle of a walk, where the overrides of a type name types that have not been
visited yet. Both are read off a walk at rest.
-/

namespace TagGrammar

variable {v : Vocabulary}

/-- No tag in the document is without an entry. -/
structure HintDocument.Closed (h : HintDocument) : Prop where
  top : ∀ t ∈ h.topElements, t ∈ h.registry.tags
  children : ∀ e ∈ h.registry.entries, ∀ t ∈ e.2.children.tags, t ∈ h.registry.tags
  overrides : ∀ e ∈ h.registry.entries, ∀ t ∈ e.2.overrides.tags, t ∈ h.registry.tags

namespace Vocabulary

/-! ## From a walk to a document -/

theorem AtRest.conclude {w : Walk} {root : TypeName} {id : Nat} (h : v.AtRest w)
    (hid : w.context.idOf? root = some id) :
    (w.conclude root id).1 = (v.tag? root).map fun tag => .ofRoot tag w.context.toTable := by
  obtain ⟨d, hd, hdeclared⟩ := h.exists_declared (Context.mem_types_iff.2 ⟨id, hid⟩)
  unfold Walk.conclude
  rw [Context.get_of_idOf? hid, hd, Option.getD_some, hdeclared.tag]
  cases v.tag? root <;> rfl

/-- A root with a tag has a document as soon as the walk from it ends. -/
theorem hintsFor_of_visit {depth : Nat} {root : TypeName} {w : Walk}
    (h : v.visit depth root .start = some w) :
    v.hintsFor depth root =
      some ((v.tag? root).map fun tag => .ofRoot tag w.context.toTable) := by
  obtain ⟨id, hresolve, hid⟩ := exists_resolve_of_visit h
  unfold hintsFor
  rw [hresolve, Option.map_some]
  exact congrArg some ((explored_of_visit h).atRest.conclude hid)

theorem exists_visit_of_hintsFor {depth : Nat} {root : TypeName} {doc : HintDocument}
    (h : v.hintsFor depth root = some (some doc)) :
    ∃ w tag, v.visit depth root .start = some w ∧ v.tag? root = some tag ∧
      doc = .ofRoot tag w.context.toTable := by
  obtain ⟨⟨id, w⟩, hresolve, _⟩ := Option.map_eq_some_iff.1 h
  have hw := visit_of_resolve hresolve
  rw [hintsFor_of_visit hw] at h
  obtain ⟨tag, htag, hdoc⟩ := Option.map_eq_some_iff.1 (Option.some.inj h)
  exact ⟨w, tag, hw, htag, hdoc.symm⟩

/-! ## Closed documents -/

namespace AtRest

variable {w : Walk}

theorem key_of_tag? {type : TypeName} {t : String} (h : v.AtRest w)
    (hmem : type ∈ w.context.types) (htag : v.tag? type = some t) :
    t ∈ w.context.toTable.tags :=
  h.mem_tags_toTable_iff.2 (.inl ⟨type, hmem, htag⟩)

theorem key_of_override {type : TypeName} {t : String} (h : v.AtRest w)
    (hmem : type ∈ w.context.types) (ht : t ∈ (v.overrides type).tags) :
    t ∈ w.context.toTable.tags := by
  obtain ⟨sub, hsub, htag⟩ := mem_overrides_iff.1 ht
  exact h.key_of_tag? ((h.finished type hmem).subtypes sub hsub) htag

theorem key_of_offer {type : TypeName} {child : ChildBinding} {t : String} (h : v.AtRest w)
    (hmem : type ∈ w.context.types) (hchild : child ∈ v.children type)
    (ht : t ∈ v.offers child) : t ∈ w.context.toTable.tags := by
  obtain ⟨target, element, hstands⟩ := mem_offers_iff.1 ht
  have htarget : target ∈ w.context.types :=
    h.mem_types_of_reaches hmem (.child .refl hchild element)
  cases hkind : child.kind with
  | named name =>
    rw [hkind] at hstands
    cases hstands
    exact h.mem_tags_toTable_iff.2 (.inr ⟨type, hmem, child, hchild, hkind, target, element⟩)
  | reference =>
    rw [hkind] at hstands
    rcases hstands with htag | hsub
    · exact h.key_of_tag? htarget htag
    · exact h.key_of_override htarget (mem_overrides_iff.2 hsub)

end AtRest

/-- A document is closed, whatever cycles there are, and whichever tags collide. -/
theorem closed_of_hintsFor {v : Vocabulary} {depth : Nat} {root : TypeName} {doc : HintDocument}
    (h : v.hintsFor depth root = some (some doc)) : doc.Closed := by
  obtain ⟨w, tag, hw, htag, rfl⟩ := exists_visit_of_hintsFor h
  have hexplored := explored_of_visit hw
  have hrest := hexplored.atRest
  have hshown : ∀ e ∈ w.context.toTable.entries, ∃ type ∈ w.context.types, ∃ before,
      before <+: w.history ∧ v.Portrays before type e.2 := by
    intro e he
    exact hrest.consistent.exists_portrayed_of_get?_toTable (TagTable.get?_eq_some_iff.2 he)
  -- every entry shows a visited type, so its tags come from types that are visited as well
  constructor
  · intro t ht
    rw [List.mem_singleton.1 ht]
    exact hrest.key_of_tag? hexplored.done htag
  · intro e he t ht
    obtain ⟨type, hmem, before, _, hp⟩ := hshown e he
    obtain ⟨child, hchild, _, hoffer⟩ := (hp.children t).1 ht
    exact hrest.key_of_offer hmem hchild hoffer
  · intro e he t ht
    obtain ⟨type, hmem, before, _, hp⟩ := hshown e he
    rw [hp.overrides] at ht
    exact hrest.key_of_override hmem ht

end Vocabulary

namespace Generator

variable {g : Generator} {root : TypeName} {tag : String}

/-- The hints for a root are those of the walk from it. -/
theorem hintsFor_eq (g : Generator) (root : TypeName) :
    g.hintsFor root =
      (g.registry.tag? root).map fun tag =>
        .ofRoot tag (g.resolve root .start).2.context.toTable := by
  have h := Vocabulary.hintsFor_of_visit (g.visit_depthFor root .start)
  rw [g.vocabulary_hintsFor] at h
  exact Option.some.inj h

/-- A root with a tag has hints, in which its tag stands at the top and has an entry. -/
theorem exists_hintsFor (h : g.registry.tag? root = some tag) :
    ∃ doc, g.hintsFor root = some doc ∧ doc.topElements = [tag] ∧ tag ∈ doc.registry.tags := by
  have hexplored := explored_of_visit (g.visit_depthFor root .start)
  have hkey := hexplored.atRest.key_of_tag? hexplored.done h
  rw [hintsFor_eq, h]
  exact ⟨_, rfl, rfl, hkey⟩

end Generator

namespace Folders

theorem hintsFor_folder_closed :
    ∃ doc, vocabulary.hintsFor 4 folder = some (some doc) ∧ doc.Closed := by
  have hsome : ((vocabulary.hintsFor 4 folder).bind id).isSome := by decide +kernel
  obtain ⟨doc, hdoc⟩ := Option.isSome_iff_exists.1 hsome
  obtain ⟨result, hresult, rfl⟩ := Option.bind_eq_some_iff.1 hdoc
  exact ⟨doc, hresult, Vocabulary.closed_of_hintsFor hresult⟩

end Folders

/-! ## What can be met from a root -/

namespace Vocabulary

theorem mem_types_iff_reaches {depth : Nat} {root type : TypeName} {w : Walk}
    (h : v.visit depth root .start = some w) :
    type ∈ w.context.types ↔ v.Reaches root type := by
  have hexplored := explored_of_visit h
  have hdone : ∀ origin ∈ [root], origin ∈ w.context.types := by
    intro origin ho
    rw [List.mem_singleton.1 ho]
    exact hexplored.done
  rw [hexplored.mem_types_iff hdone]
  constructor
  · rintro ⟨origin, ho, hr⟩
    rw [← List.mem_singleton.1 ho]
    exact hr
  · exact fun hr => ⟨root, List.mem_singleton.2 rfl, hr⟩

/-- Types that can all be met lead only to each other. -/
theorem closed_of_mem_iff_reaches {root : TypeName} {whole : List TypeName}
    (h : ∀ t, t ∈ whole ↔ v.Reaches root t) : v.Closed whole := by
  intro type hmem t ht
  rw [h] at hmem ⊢
  rcases List.mem_append.1 ht with ht | ht
  · exact hmem.subtype ht
  · exact hmem.elementType ht

/-- Where only finitely many types can be met, a visit ends. -/
theorem exists_visit_of_finite {root : TypeName} (h : {t | v.Reaches root t}.Finite) (w : Walk) :
    ∃ depth w', v.visit depth root w = some w' := by
  have hmem : ∀ t, t ∈ h.toFinset.toList ↔ v.Reaches root t := by
    intro t
    rw [Finset.mem_toList, Set.Finite.mem_toFinset]
    rfl
  -- as many levels are enough as there are types to visit, and one more
  have hsome := visit_isSome (closed_of_mem_iff_reaches hmem) ((hmem root).2 .refl)
    (Nat.lt_succ_self (unseen _ w.context.types).length)
  obtain ⟨w', hw'⟩ := Option.isSome_iff_exists.1 hsome
  exact ⟨_, w', hw'⟩

/-- A walk ends exactly where only finitely many types can be met. -/
theorem exists_visit_iff_finite {root : TypeName} :
    (∃ depth w, v.visit depth root .start = some w) ↔ {t | v.Reaches root t}.Finite := by
  constructor
  · rintro ⟨depth, w, h⟩
    apply w.context.types.finite_toSet.subset
    intro t ht
    exact (mem_types_iff_reaches h).2 ht
  · intro hfin
    exact exists_visit_of_finite hfin .start

/-- A root with a tag has a document exactly if finitely many types can be met from it. The walk
then visits these types and no others, and the document has an entry for each of their tags, for
the name of each of their children that is an element, and for nothing else. -/
theorem tags_iff_reaches {v : Vocabulary} {root : TypeName} {tag : String}
    (htag : v.tag? root = some tag) :
    ((∃ depth doc, v.hintsFor depth root = some (some doc)) ↔ {t | v.Reaches root t}.Finite) ∧
      ∀ depth w, v.visit depth root .start = some w →
        (∀ t, t ∈ w.context.types ↔ v.Reaches root t) ∧
          ∃ doc, v.hintsFor depth root = some (some doc) ∧
            ∀ k, k ∈ doc.registry.tags ↔
              (∃ t, v.Reaches root t ∧ v.tag? t = some k) ∨
                ∃ t, v.Reaches root t ∧ ∃ child ∈ v.children t, child.kind = .named k ∧
                  ∃ target, child.valueType.elementType? = some target := by
  have hdoc : ∀ depth w, v.visit depth root .start = some w →
      v.hintsFor depth root = some (some (.ofRoot tag w.context.toTable)) := by
    intro depth w hw
    rw [hintsFor_of_visit hw, htag, Option.map_some]
  constructor
  · rw [← exists_visit_iff_finite]
    constructor
    · rintro ⟨depth, doc, h⟩
      obtain ⟨w, _, hw, _, _⟩ := exists_visit_of_hintsFor h
      exact ⟨depth, w, hw⟩
    · rintro ⟨depth, w, hw⟩
      exact ⟨depth, _, hdoc depth w hw⟩
  · intro depth w hw
    have hmem : ∀ t, t ∈ w.context.types ↔ v.Reaches root t := fun _ => mem_types_iff_reaches hw
    refine ⟨hmem, _, hdoc depth w hw, fun k => ?_⟩
    show k ∈ w.context.toTable.tags ↔ _
    rw [(explored_of_visit hw).atRest.mem_tags_toTable_iff]
    simp only [hmem]

end Vocabulary

namespace Folders

theorem tags_folder_iff_reaches : vocabulary.tag? folder = some "folder" ∧
    {t | vocabulary.Reaches folder t}.Finite ∧
      ∃ w, vocabulary.visit 4 folder .start = some w ∧
        (∀ t, t ∈ w.context.types ↔ vocabulary.Reaches folder t) ∧
          ∃ doc, vocabulary.hintsFor 4 folder = some (some doc) ∧
            ∀ k, k ∈ doc.registry.tags ↔
              (∃ t, vocabulary.Reaches folder t ∧ vocabulary.tag? t = some k) ∨
                ∃ t, vocabulary.Reaches folder t ∧
                  ∃ child ∈ vocabulary.children t, child.kind = .named k ∧
                    ∃ target, child.valueType.elementType? = some target := by
  have htag : vocabulary.tag? folder = some "folder" := by decide +kernel
  have hsome : (vocabulary.visit 4 folder .start).isSome := by decide +kernel
  obtain ⟨w, hw⟩ := Option.isSome_iff_exists.1 hsome
  obtain ⟨hfinite, hall⟩ := Vocabulary.tags_iff_reaches htag
  obtain ⟨hmem, doc, hdoc, hkeys⟩ := hall 4 w hw
  exact ⟨htag, hfinite.1 ⟨4, doc, hdoc⟩, w, hw, hmem, doc, hdoc, hkeys⟩

end Folders

end TagGrammar
