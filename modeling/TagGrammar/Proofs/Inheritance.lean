import Mathlib.Data.List.Chain
import TagGrammar.Proofs.Ancestry
import TagGrammar.Proofs.Redeclaration

/-!
# What a type inherits

The chain of a type goes from its binding to that of its supertype, and so on, up to the first type
that is not registered or has come before. It can be said without climbing (`IsChainOf`), and the
climb finds it:

    isChainOf_iff : r.IsChainOf type chain ↔ chain = r.climb [] type

Along the chain the nearest declaration of an accessor wins, and the accessor keeps the place that
it was given by the most general type that declares it (`Inherits`). On a chain that does not lead
back to the type, that is what the supertype has, with the type's own declarations merged in
(`Extends`). Attributes and children follow the same rules (`inherits_along_chain`).
-/

namespace TagGrammar

namespace Registry

open Relation (ReflTransGen TransGen)

variable {r : Registry} {type parent : TypeName} {seen : List TypeName} {b : TypeBinding}
  {chain : List TypeBinding}

/-! ## Chains -/

/-- The one binding names the other one's type as its supertype. -/
def LinkedTo (r : Registry) (b c : TypeBinding) : Prop :=
  ∃ parent, b.supertype = some parent ∧ r.get? parent = some c

/-- The chain of a type: its binding, that of its supertype, and so on, up to the first type that is
not registered or is on the chain already. -/
structure IsChainOf (r : Registry) (type : TypeName) (chain : List TypeBinding) : Prop where
  starts : chain.head? = r.get? type
  linked : chain.IsChain r.LinkedTo
  distinct : (chain.map (·.name)).Nodup
  /-- The chain does not stop short of a registered type. -/
  closed : ∀ b ∈ chain, ∀ parent, b.supertype = some parent →
    r.get? parent = none ∨ parent ∈ chain.map (·.name)

/-! ### The climb keeps to the chain -/

theorem head?_climb (h : type ∉ seen) : (r.climb seen type).head? = r.get? type := by
  cases hb : r.get? type with
  | none =>
    rw [climb_of_none hb]
    rfl
  | some b =>
    rw [climb_of_some hb h]
    rfl

/-- The climb does not come to a type that it has seen. -/
theorem name_not_mem_of_mem_climb (h : b ∈ r.climb seen type) : b.name ∉ seen := by
  fun_induction climb r seen type with
  | case1 => simp at h
  | case2 => simp at h
  | case3 seen type c hc hs ih =>
    rcases List.mem_cons.1 h with rfl | h
    · rwa [(get?_eq_some_iff.1 hc).2]
    · split at h
      · simp at h
      · next parent _ =>
        intro hmem
        exact ih parent h (List.mem_cons_of_mem _ hmem)

theorem nodup_names_climb (r : Registry) (seen : List TypeName) (type : TypeName) :
    ((r.climb seen type).map (·.name)).Nodup := by
  fun_induction climb r seen type with
  | case1 => exact List.nodup_nil
  | case2 => exact List.nodup_nil
  | case3 seen type c hc hs ih =>
    split
    · exact List.nodup_singleton _
    · next parent _ =>
      refine List.nodup_cons.2 ⟨?_, ih parent⟩
      intro hmem
      obtain ⟨b, hb, hname⟩ := List.mem_map.1 hmem
      have htype : b.name = type := hname.trans (get?_eq_some_iff.1 hc).2
      exact name_not_mem_of_mem_climb hb (htype ▸ List.mem_cons_self)

theorem linked_climb (r : Registry) (seen : List TypeName) (type : TypeName) :
    (r.climb seen type).IsChain r.LinkedTo := by
  fun_induction climb r seen type with
  | case1 => exact .nil
  | case2 => exact .nil
  | case3 seen type c hc hs ih =>
    split
    · exact .singleton c
    · next parent hparent =>
      refine (ih parent).cons fun next hnext => ⟨parent, hparent, ?_⟩
      by_cases hmem : parent ∈ type :: seen
      · rw [climb_of_mem hmem] at hnext
        cases hnext
      · rwa [head?_climb hmem] at hnext

theorem isChainOf_climb (r : Registry) (type : TypeName) : r.IsChainOf type (r.climb [] type) where
  starts := head?_climb List.not_mem_nil
  linked := linked_climb r [] type
  distinct := nodup_names_climb r [] type
  closed := by
    intro b hb parent hparent
    cases hc : r.get? parent with
    | none => exact .inl rfl
    | some c =>
      right
      -- what is above a type on the chain is above the type itself
      obtain ⟨hmem, hup⟩ := mem_lineage_iff.1 (List.mem_reverse.2 hb)
      obtain ⟨hregistered, rfl⟩ := get?_eq_some_iff.1 hc
      have hstep : r.HasSupertype b.name c.name :=
        (hasSupertype_iff_of_get? (get?_eq_some_iff.2 ⟨hmem, rfl⟩)).2 hparent
      have habove : c ∈ r.lineage type := mem_lineage_iff.2 ⟨hregistered, hup.tail hstep⟩
      exact List.mem_map_of_mem (List.mem_reverse.1 habove)

/-! ### There is no other chain -/

/-- The induction is on the chain; what has gone before is marked as seen. -/
theorem eq_climb_of_linked (hstarts : chain.head? = r.get? type)
    (hlinked : chain.IsChain r.LinkedTo)
    (hdistinct : (chain.map (·.name)).Nodup) (hfresh : ∀ b ∈ chain, b.name ∉ seen)
    (hclosed : ∀ b ∈ chain, ∀ parent, b.supertype = some parent →
      r.get? parent = none ∨ parent ∈ seen ∨ parent ∈ chain.map (·.name)) :
    chain = r.climb seen type := by
  induction chain generalizing seen type with
  | nil => exact (climb_of_none hstarts.symm).symm
  | cons b rest ih =>
    have hb : r.get? type = some b := hstarts.symm
    have hname : b.name = type := (get?_eq_some_iff.1 hb).2
    have hseen : type ∉ seen := hname ▸ hfresh b List.mem_cons_self
    rw [climb_of_some hb hseen]
    congr 1
    cases rest with
    | nil =>
      cases hparent : b.supertype with
      | none => rfl
      | some parent =>
        rcases hclosed b List.mem_cons_self parent hparent with h | h | h
        · exact (climb_of_none h).symm
        · exact (climb_of_mem (List.mem_cons_of_mem _ h)).symm
        · have hself : parent = type := (List.mem_singleton.1 h).trans hname
          exact (climb_of_mem (hself ▸ List.mem_cons_self)).symm
    | cons c rest =>
      obtain ⟨⟨parent, hparent, hc⟩, hlinked⟩ := List.isChain_cons_cons.1 hlinked
      obtain ⟨hnew, hdistinct⟩ := List.nodup_cons.1 hdistinct
      have hnew : type ∉ (c :: rest).map (·.name) := hname ▸ hnew
      rw [hparent]
      apply ih hc.symm hlinked hdistinct
      · intro d hd hmem
        rcases List.mem_cons.1 hmem with heq | hmem
        · exact hnew (heq ▸ List.mem_map_of_mem hd)
        · exact hfresh d (List.mem_cons_of_mem _ hd) hmem
      · intro d hd p hp
        rcases hclosed d (List.mem_cons_of_mem _ hd) p hp with h | h | h
        · exact .inl h
        · exact .inr (.inl (List.mem_cons_of_mem _ h))
        · rw [List.map_cons, hname] at h
          rcases List.mem_cons.1 h with rfl | h
          · exact .inr (.inl List.mem_cons_self)
          · exact .inr (.inr h)

/-- A type has one chain, and the climb finds it. -/
theorem isChainOf_iff : r.IsChainOf type chain ↔ chain = r.climb [] type := by
  constructor
  · intro h
    refine eq_climb_of_linked h.starts h.linked h.distinct (fun _ _ => List.not_mem_nil) ?_
    intro b hb parent hparent
    exact (h.closed b hb parent hparent).imp id .inr
  · rintro rfl
    exact isChainOf_climb r type

/-! ## Along a chain -/

/-- What is visible through declarations along a chain, nearest first. -/
structure Inherits {α : Type} (accessor : α → String) (declared : TypeBinding → List α)
    (chain : List TypeBinding) (visible : List α) : Prop where
  /-- No accessor is there twice. -/
  distinct : (visible.map accessor).Nodup
  /-- The accessors are those that are declared somewhere on the chain. -/
  complete : ∀ a, a ∈ visible.map accessor ↔ ∃ b ∈ chain, a ∈ (declared b).map accessor
  /-- The nearest type that declares an accessor decides, by its last declaration. -/
  nearest : ∀ d ∈ visible, ∃ nearer b farther, chain = nearer ++ b :: farther ∧
    (∀ c ∈ nearer, accessor d ∉ (declared c).map accessor) ∧ IsLast accessor (declared b) d
  /-- The accessors come in the order of their first declarations, most general types first. -/
  ordered : (visible.map accessor).Pairwise fun a b =>
    ((chain.reverse.flatMap declared).map accessor).idxOf a <
      ((chain.reverse.flatMap declared).map accessor).idxOf b

variable {α : Type} {accessor : α → String} {declared : TypeBinding → List α} {d : α}

/-- The last declaration along the reversed chain is the last one of the nearest type. -/
theorem exists_nearest_of_isLast (h : IsLast accessor (chain.reverse.flatMap declared) d) :
    ∃ nearer b farther, chain = nearer ++ b :: farther ∧
      (∀ c ∈ nearer, accessor d ∉ (declared c).map accessor) ∧ IsLast accessor (declared b) d := by
  induction chain with
  | nil => exact absurd h not_isLast_nil
  | cons b rest ih =>
    rw [List.reverse_cons, List.flatMap_append, List.flatMap_singleton, isLast_append] at h
    rcases h with h | ⟨hown, h⟩
    · exact ⟨[], b, rest, rfl, by simp, h⟩
    · obtain ⟨nearer, c, farther, rfl, hnearer, hlast⟩ := ih h
      exact ⟨b :: nearer, c, farther, rfl, List.forall_mem_cons.2 ⟨hown, hnearer⟩, hlast⟩

theorem inherits_merge (accessor : α → String) (declared : TypeBinding → List α)
    (chain : List TypeBinding) :
    Inherits accessor declared chain (merge accessor (chain.reverse.flatMap declared)) where
  distinct := nodup_merge _ _
  complete a := by
    rw [mem_accessors_merge_iff]
    simp only [List.mem_map, List.mem_flatMap, List.mem_reverse]
    constructor
    · rintro ⟨d, ⟨b, hb, hd⟩, rfl⟩
      exact ⟨b, hb, d, hd, rfl⟩
    · rintro ⟨b, hb, d, hd, rfl⟩
      exact ⟨d, ⟨b, hb, hd⟩, rfl⟩
  nearest _ hd := exists_nearest_of_isLast (mem_merge_iff.1 hd)
  ordered := pairwise_idxOf_merge _ _

/-! ## From the supertype -/

/-- What is visible is what is inherited, with own declarations merged in one by one: each replaces
the one with its accessor in its place, or comes behind all others. -/
structure Extends {α : Type} (accessor : α → String) (inherited own visible : List α) : Prop where
  merged : visible = own.foldl (redeclare accessor) inherited
  /-- The inherited accessors come first, and in their order. -/
  inheritedFirst : inherited.map accessor <+: visible.map accessor

/-- Only the types above matter for what has been seen. -/
theorem climb_congr {seen' : List TypeName}
    (h : ∀ t, ReflTransGen r.HasSupertype type t → (t ∈ seen ↔ t ∈ seen')) :
    r.climb seen type = r.climb seen' type := by
  fun_induction climb r seen type generalizing seen' with
  | case1 seen type hnone => exact (climb_of_none hnone).symm
  | case2 seen type b hb hmem => exact (climb_of_mem ((h type .refl).1 hmem)).symm
  | case3 seen type b hb hs ih =>
    rw [climb_of_some hb (mt (h type .refl).2 hs)]
    congr 1
    cases hparent : b.supertype with
    | none => rfl
    | some parent =>
      apply ih parent
      intro t ht
      have hstep : r.HasSupertype type parent := (hasSupertype_iff_of_get? hb).2 hparent
      rw [List.mem_cons, List.mem_cons, h t (.head hstep ht)]

/-- A type that is not above itself stands in front of the chain of its supertype. -/
theorem lineage_eq_concat (hb : r.get? type = some b) (hparent : b.supertype = some parent)
    (hacyclic : ¬ TransGen r.HasSupertype type type) :
    r.lineage type = r.lineage parent ++ [b] := by
  have hstep : r.HasSupertype type parent := (hasSupertype_iff_of_get? hb).2 hparent
  have hrest : r.climb [type] parent = r.climb [] parent := by
    apply climb_congr
    intro t ht
    simp only [List.mem_singleton, List.not_mem_nil, iff_false]
    rintro rfl
    exact hacyclic (.head' hstep ht)
  rw [lineage, lineage, climb_of_some hb List.not_mem_nil, hparent]
  show (b :: r.climb [type] parent).reverse = _
  rw [hrest, List.reverse_cons]

theorem extends_merge (accessor : α → String) (declared : TypeBinding → List α)
    (hb : r.get? type = some b) (hparent : b.supertype = some parent)
    (hacyclic : ¬ TransGen r.HasSupertype type type) :
    Extends accessor (merge accessor ((r.lineage parent).flatMap declared)) (declared b)
      (merge accessor ((r.lineage type).flatMap declared)) := by
  rw [lineage_eq_concat hb hparent hacyclic, List.flatMap_append, List.flatMap_singleton]
  exact ⟨merge_append _ _ _, prefix_merge_append _ _ _⟩

/-- A type has one chain. Along it every accessor has the last declaration of the nearest type, at
the place of the first declaration from the most general type down. If the chain does not lead back
to the type, its own declarations are merged into what its supertype has. All of this holds of
attributes and of children. -/
theorem inherits_along_chain (r : Registry) (type : TypeName) :
    ∃ chain, r.IsChainOf type chain ∧ (∀ other, r.IsChainOf type other → other = chain) ∧
      Inherits (·.accessor) (·.attributes) chain (r.attributes type) ∧
      Inherits (·.accessor) (·.children) chain (r.children type) ∧
      ∀ b parent, r.get? type = some b → b.supertype = some parent →
        ¬ TransGen r.HasSupertype type type →
          Extends (·.accessor) (r.attributes parent) b.attributes (r.attributes type) ∧
          Extends (·.accessor) (r.children parent) b.children (r.children type) := by
  refine ⟨r.climb [] type, isChainOf_climb r type, fun _ => isChainOf_iff.1, inherits_merge _ _ _,
    inherits_merge _ _ _, ?_⟩
  intro b parent hb hparent hacyclic
  exact ⟨extends_merge _ _ hb hparent hacyclic, extends_merge _ _ hb hparent hacyclic⟩

end Registry

/-! ## Early shifts

An early shift is a shift, and shifts and breaks are kinds of each other. It declares its start
twice, and a bonus, which no other shift has. -/

namespace Shifts

open Relation (TransGen)

def early : TypeName := ⟨"Early"⟩

def earlyBinding : TypeBinding :=
  ⟨early, some shift, none, [⟨"getStart", some "from", .scalar "time"⟩,
    ⟨"getBonus", none, .scalar "int"⟩, ⟨"getStart", some "at", .scalar "time"⟩], []⟩

def withEarly : Registry := ⟨earlyBinding :: registry.bindings, by decide⟩

theorem early_inherits_along_chain : withEarly.get? early = some earlyBinding ∧
    ¬ TransGen withEarly.HasSupertype early early ∧
    ∃ chain, withEarly.IsChainOf early chain ∧ chain.map (·.name) = [early, shift, pause] ∧
      Registry.Inherits (·.accessor) (·.attributes) chain (withEarly.attributes early) ∧
      Registry.Extends (·.accessor) (withEarly.attributes shift) earlyBinding.attributes
        (withEarly.attributes early) ∧
      withEarly.attributes early = [⟨"isPaid", none, .boolean⟩,
        ⟨"getStart", some "at", .scalar "time"⟩, ⟨"getBonus", none, .scalar "int"⟩] := by
  have hget : withEarly.get? early = some earlyBinding := by decide
  have hacyclic : ¬ TransGen withEarly.HasSupertype early early := by
    rw [← Registry.mem_supertypes_iff]
    decide +kernel
  obtain ⟨chain, hchain, honly, hattributes, _, hextends⟩ :=
    Registry.inherits_along_chain withEarly early
  have hnames : chain.map (·.name) = [early, shift, pause] := by
    rw [← honly _ (Registry.isChainOf_climb withEarly early)]
    decide +kernel
  obtain ⟨hmerged, _⟩ := hextends earlyBinding shift hget rfl hacyclic
  exact ⟨hget, hacyclic, chain, hchain, hnames, hattributes, hmerged, by decide +kernel⟩

end Shifts

end TagGrammar
