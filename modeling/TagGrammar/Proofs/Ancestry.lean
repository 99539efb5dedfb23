import Mathlib.Logic.Relation
import TagGrammar.Proofs.Lookup
import TagGrammar.Proofs.Registration
import TagGrammar.Subtypes

/-!
# Ancestors

Inheritance and substitution both follow supertypes upwards, each in a way of its own: `climb` marks
the type that it stands on and wants it registered, `ascend` marks the type it goes to next and does
not look whether that one is registered. On every chain, also on one that ends in a cycle, they meet
the same ancestors:

    mem_lineage_iff : b ∈ r.lineage type ↔
      b ∈ r.bindings ∧ ReflTransGen r.HasSupertype type b.name
    mem_supertypes_iff : ancestor ∈ r.supertypes type ↔
      TransGen r.HasSupertype type ancestor

So a type inherits from another one exactly if it may stand in for it, and then it has all of its
accessors (`mem_lineage_iff_mem_subtypes`).
-/

namespace TagGrammar

namespace Registry

open Relation (ReflTransGen TransGen)

variable {r : Registry} {type parent ancestor : TypeName} {seen : List TypeName} {b : TypeBinding}

/-- The type has a binding that names the parent as its supertype. -/
def HasSupertype (r : Registry) (type parent : TypeName) : Prop := r.supertype? type = some parent

theorem HasSupertype.unique {other : TypeName} (h : r.HasSupertype type parent)
    (h' : r.HasSupertype type other) : parent = other :=
  Option.some.inj (Eq.trans (Eq.symm h) h')

theorem hasSupertype_iff_of_get? (h : r.get? type = some b) :
    r.HasSupertype type parent ↔ b.supertype = some parent := by
  unfold HasSupertype supertype?
  rw [h, Option.bind_some]

theorem HasSupertype.exists_get? (h : r.HasSupertype type parent) : ∃ b, r.get? type = some b := by
  obtain ⟨b, hb, _⟩ := Option.bind_eq_some_iff.1 h
  exact ⟨b, hb⟩

/-- The supertypes of each of these types are among them. -/
def UpwardClosed (r : Registry) (types : List TypeName) : Prop :=
  ∀ t ∈ types, ∀ parent, r.HasSupertype t parent → parent ∈ types

theorem UpwardClosed.mem_of_reflTransGen (h : r.UpwardClosed seen) (hmem : type ∈ seen)
    (hup : ReflTransGen r.HasSupertype type ancestor) : ancestor ∈ seen := by
  induction hup with
  | refl => exact hmem
  | tail _ hstep ih => exact h _ ih _ hstep

/-! ## The ancestors from which a type inherits -/

theorem reflTransGen_of_mem_climb (h : b ∈ r.climb seen type) :
    ReflTransGen r.HasSupertype type b.name := by
  fun_induction climb r seen type with
  | case1 => simp at h
  | case2 => simp at h
  | case3 seen type c hc hs ih =>
    rcases List.mem_cons.1 h with rfl | h
    · have hname : b.name = type := (get?_eq_some_iff.1 hc).2
      rw [hname]
    · split at h
      · simp at h
      · next parent hparent =>
        have hstep : r.HasSupertype type parent := (hasSupertype_iff_of_get? hc).2 hparent
        exact .head hstep (ih parent h)

/-- The marked types are the ones on which the climb has stood before, so the supertype of each of
them is marked as well or is where the climb stands now. -/
theorem mem_climb_of_reflTransGen
    (hseen : ∀ t ∈ seen, ∀ parent, r.HasSupertype t parent → parent ∈ seen ∨ parent = type)
    (hup : ReflTransGen r.HasSupertype type b.name) (hb : r.get? b.name = some b) :
    b ∈ r.climb seen type ∨ b.name ∈ seen := by
  fun_induction climb r seen type with
  | case1 seen type hnone =>
    -- the climb ends here, and so do the supertypes
    rcases ReflTransGen.cases_head hup with heq | ⟨parent, hstep, _⟩
    · rw [heq, hb] at hnone
      cases hnone
    · obtain ⟨c, hc⟩ := hstep.exists_get?
      rw [hc] at hnone
      cases hnone
  | case2 seen type c hc hmem =>
    -- the climb has come back to where it was, and has marked the whole cycle
    have hclosed : r.UpwardClosed seen := by
      intro t ht parent hstep
      rcases hseen t ht parent hstep with h | rfl
      · exact h
      · exact hmem
    exact .inr (hclosed.mem_of_reflTransGen hmem hup)
  | case3 seen type c hc hs ih =>
    rcases ReflTransGen.cases_head hup with heq | ⟨parent, hstep, hrest⟩
    · rw [heq, hb] at hc
      cases hc
      exact .inl List.mem_cons_self
    · have hparent : c.supertype = some parent := (hasSupertype_iff_of_get? hc).1 hstep
      have hmarked : ∀ t ∈ type :: seen, ∀ p, r.HasSupertype t p →
          p ∈ type :: seen ∨ p = parent := by
        intro t ht p hp
        rcases List.mem_cons.1 ht with rfl | ht
        · exact .inr (hp.unique hstep)
        · rcases hseen t ht p hp with h | rfl
          · exact .inl (List.mem_cons_of_mem _ h)
          · exact .inl List.mem_cons_self
      rw [hparent]
      rcases ih parent hmarked hrest with h | h
      · exact .inl (List.mem_cons_of_mem _ h)
      · rcases List.mem_cons.1 h with heq | h
        · -- a cycle leads back to the type itself
          rw [heq, hc] at hb
          cases hb
          exact .inl List.mem_cons_self
        · exact .inr h

/-- A type inherits from the bindings of itself and of everything above it. -/
theorem mem_lineage_iff :
    b ∈ r.lineage type ↔ b ∈ r.bindings ∧ ReflTransGen r.HasSupertype type b.name := by
  unfold lineage
  rw [List.mem_reverse]
  constructor
  · intro h
    exact ⟨mem_bindings_of_mem_climb h, reflTransGen_of_mem_climb h⟩
  · rintro ⟨hmem, hup⟩
    have hb : r.get? b.name = some b := get?_eq_some_iff.2 ⟨hmem, rfl⟩
    have hstart : ∀ t ∈ ([] : List TypeName), ∀ parent, r.HasSupertype t parent →
        parent ∈ [] ∨ parent = type := by simp
    exact (mem_climb_of_reflTransGen hstart hup hb).resolve_right List.not_mem_nil

/-! ## The types for which a type may stand in -/

theorem transGen_of_mem_ascend (h : ancestor ∈ r.ascend seen type) :
    TransGen r.HasSupertype type ancestor := by
  fun_induction ascend r seen type with
  | case1 => simp at h
  | case2 => simp at h
  | case3 seen type parent hstep hs ih =>
    rcases List.mem_cons.1 h with rfl | h
    · exact .single hstep
    · exact .head hstep (ih h)

/-- The marked types are the ones to which the ascent has gone, so the supertype of each of them is
marked as well, but for the one that the ascent has just come to. -/
theorem mem_ascend_of_transGen
    (hseen : ∀ t ∈ seen, t ≠ type → ∀ parent, r.HasSupertype t parent → parent ∈ seen)
    (hup : TransGen r.HasSupertype type ancestor) :
    ancestor ∈ r.ascend seen type ∨ ancestor ∈ seen := by
  fun_induction ascend r seen type with
  | case1 seen type hnone =>
    obtain ⟨parent, hstep, _⟩ := TransGen.head'_iff.1 hup
    rw [HasSupertype, hnone] at hstep
    cases hstep
  | case2 seen type parent hstep hmem =>
    have hclosed : r.UpwardClosed seen := by
      intro t ht p hp
      by_cases heq : t = type
      · subst heq
        rw [hp.unique hstep]
        exact hmem
      · exact hseen t ht heq p hp
    obtain ⟨p, hp, hrest⟩ := TransGen.head'_iff.1 hup
    rw [hp.unique hstep] at hrest
    exact .inr (hclosed.mem_of_reflTransGen hmem hrest)
  | case3 seen type parent hstep hs ih =>
    have hmarked : ∀ t ∈ parent :: seen, t ≠ parent → ∀ p, r.HasSupertype t p →
        p ∈ parent :: seen := by
      intro t ht hne p hp
      have ht : t ∈ seen := (List.mem_cons.1 ht).resolve_left hne
      by_cases heq : t = type
      · subst heq
        rw [hp.unique hstep]
        exact List.mem_cons_self
      · exact List.mem_cons_of_mem _ (hseen t ht heq p hp)
    obtain ⟨p, hp, hrest⟩ := TransGen.head'_iff.1 hup
    rw [hp.unique hstep] at hrest
    rcases Relation.reflTransGen_iff_eq_or_transGen.1 hrest with rfl | hrest
    · exact .inl List.mem_cons_self
    · rcases ih hmarked hrest with h | h
      · exact .inl (List.mem_cons_of_mem _ h)
      · rcases List.mem_cons.1 h with rfl | h
        · exact .inl List.mem_cons_self
        · exact .inr h

/-- The supertypes of a type are everything above it, registered or not. -/
theorem mem_supertypes_iff :
    ancestor ∈ r.supertypes type ↔ TransGen r.HasSupertype type ancestor := by
  constructor
  · exact transGen_of_mem_ascend
  · intro hup
    have hstart : ∀ t ∈ ([] : List TypeName), t ≠ type → ∀ parent, r.HasSupertype t parent →
        parent ∈ [] := by simp
    exact (mem_ascend_of_transGen hstart hup).resolve_right List.not_mem_nil

theorem mem_subtypes_iff {sub : TypeName} :
    sub ∈ r.subtypes type ↔
      sub ∈ r.knownTypes ∧ sub ≠ type ∧ TransGen r.HasSupertype sub type := by
  unfold subtypes
  rw [List.mem_filter, decide_eq_true_iff, mem_supertypes_iff]

/-! ## What descendants have of their ancestors -/

theorem mem_accessors_merge_iff {α : Type u} {accessor : α → String} {l : List α} {a : String} :
    a ∈ (merge accessor l).map accessor ↔ a ∈ l.map accessor := by
  rw [map_accessor_merge, List.mem_eraseDups]

/-- Whatever a type inherits from, its descendants inherit from. -/
theorem lineage_subset_of_reflTransGen (hup : ReflTransGen r.HasSupertype type ancestor) :
    r.lineage ancestor ⊆ r.lineage type := by
  intro b hb
  obtain ⟨hmem, habove⟩ := mem_lineage_iff.1 hb
  exact mem_lineage_iff.2 ⟨hmem, hup.trans habove⟩

/-- What is declared along the lineage of an ancestor is declared along that of the type, so the
accessors are found again, even where another declaration has taken the place of theirs. -/
theorem accessors_subset_of_reflTransGen {α : Type u} (accessor : α → String)
    (declared : TypeBinding → List α) (hup : ReflTransGen r.HasSupertype type ancestor) :
    (merge accessor ((r.lineage ancestor).flatMap declared)).map accessor ⊆
      (merge accessor ((r.lineage type).flatMap declared)).map accessor := by
  intro a ha
  rw [mem_accessors_merge_iff] at ha ⊢
  obtain ⟨d, hd, rfl⟩ := List.mem_map.1 ha
  obtain ⟨b, hb, hd⟩ := List.mem_flatMap.1 hd
  have hmem : d ∈ (r.lineage type).flatMap declared :=
    List.mem_flatMap.2 ⟨b, lineage_subset_of_reflTransGen hup hb, hd⟩
  exact List.mem_map_of_mem hmem

/-- A type inherits from another one exactly if it is one of its subtypes, whatever cycles there
are, and then it has an attribute and a child for each accessor that the other one has. -/
theorem mem_lineage_iff_mem_subtypes (htype : type ∈ r.knownTypes)
    (hancestor : ancestor ∈ r.knownTypes) (hne : type ≠ ancestor) :
    ((∃ b ∈ r.lineage type, b.name = ancestor) ↔
        type ∈ (SubtypeSource.ofRegistry r).subtypes ancestor) ∧
      (type ∈ (SubtypeSource.ofRegistry r).subtypes ancestor →
        (r.attributes ancestor).map (·.accessor) ⊆ (r.attributes type).map (·.accessor) ∧
          (r.children ancestor).map (·.accessor) ⊆ (r.children type).map (·.accessor)) := by
  rw [SubtypeSource.ofRegistry_subtypes, mem_subtypes_iff]
  refine ⟨⟨?_, ?_⟩, ?_⟩
  · rintro ⟨b, hb, rfl⟩
    have hup : ReflTransGen r.HasSupertype type b.name := (mem_lineage_iff.1 hb).2
    rcases Relation.reflTransGen_iff_eq_or_transGen.1 hup with heq | hup
    · exact absurd heq.symm hne
    · exact ⟨htype, hne, hup⟩
  · rintro ⟨_, _, hup⟩
    obtain ⟨b, hb⟩ := mem_knownTypes_iff.1 hancestor
    obtain ⟨hmem, rfl⟩ := get?_eq_some_iff.1 hb
    exact ⟨b, mem_lineage_iff.2 ⟨hmem, hup.to_reflTransGen⟩, rfl⟩
  · rintro ⟨_, _, hup⟩
    exact ⟨accessors_subset_of_reflTransGen _ _ hup.to_reflTransGen,
      accessors_subset_of_reflTransGen _ _ hup.to_reflTransGen⟩

end Registry

/-! ## Shifts

A shift and a break are declared as kinds of each other. A night is a shift with a start of its
own. -/

namespace Shifts

def shift : TypeName := ⟨"Shift"⟩
def pause : TypeName := ⟨"Break"⟩
def night : TypeName := ⟨"Night"⟩

def registry : Registry where
  bindings := [
    ⟨night, some shift, some ⟨none⟩, [⟨"getStart", some "from", .scalar "time"⟩], []⟩,
    ⟨shift, some pause, some ⟨none⟩, [⟨"getStart", none, .scalar "time"⟩],
      [⟨"getBreaks", .reference, .list (.element pause)⟩]⟩,
    ⟨pause, some shift, some ⟨none⟩, [⟨"isPaid", none, .boolean⟩], []⟩]
  nodup_names := by decide

theorem night_inherits_from_break : night ∈ registry.knownTypes ∧ pause ∈ registry.knownTypes ∧
    night ≠ pause ∧ (∃ b ∈ registry.lineage night, b.name = pause) ∧
      night ∈ (SubtypeSource.ofRegistry registry).subtypes pause ∧
        (registry.attributes pause).map (·.accessor) ⊆
          (registry.attributes night).map (·.accessor) ∧
        (registry.children pause).map (·.accessor) ⊆
          (registry.children night).map (·.accessor) := by
  have hnight : night ∈ registry.knownTypes := by decide
  have hpause : pause ∈ registry.knownTypes := by decide
  have hne : night ≠ pause := by decide
  obtain ⟨hiff, haccessors⟩ := Registry.mem_lineage_iff_mem_subtypes hnight hpause hne
  have hsub : night ∈ (SubtypeSource.ofRegistry registry).subtypes pause := by decide +kernel
  exact ⟨hnight, hpause, hne, hiff.2 hsub, hsub, haccessors hsub⟩

end Shifts

end TagGrammar
