import TagGrammar.Subtypes
import TagGrammar.Walk

/-!
# The walk comes to an end

Every visit that does anything adds a type to the context. So if all types that can be met are among
finitely many, a depth of one more than the number of those without a descriptor is enough:

    visit_isSome : Closed v whole → type ∈ whole →
      (unseen whole w.context.types).length < depth → (v.visit depth type w).isSome
-/

namespace TagGrammar.Vocabulary

/-- No type in `whole` leads out of it. -/
def Closed (v : Vocabulary) (whole : List TypeName) : Prop :=
  ∀ type ∈ whole, v.successors type ⊆ whole

/-- A step of a walk that comes to an end and forgets no type. -/
def Proceeds (step : Walk → Option Walk) (w : Walk) : Prop :=
  ∃ w', step w = some w' ∧ w.context.types ⊆ w'.context.types

theorem proceeds_foldlM {α : Type} (step : Walk → α → Option Walk) (l : List α) (start : Walk)
    (h : ∀ a ∈ l, ∀ w, start.context.types ⊆ w.context.types → Proceeds (step · a) w) :
    Proceeds (fun w => l.foldlM step w) start := by
  suffices ∀ w, start.context.types ⊆ w.context.types → Proceeds (fun w => l.foldlM step w) w from
    this start (List.Subset.refl _)
  induction l with
  | nil => exact fun w _ => ⟨w, rfl, List.Subset.refl _⟩
  | cons a l ih =>
    intro w hw
    obtain ⟨w₁, h₁, s₁⟩ := h a List.mem_cons_self w hw
    obtain ⟨w₂, h₂, s₂⟩ := ih (fun b hb => h b (List.mem_cons_of_mem _ hb)) w₁
      (List.Subset.trans hw s₁)
    refine ⟨w₂, ?_, List.Subset.trans s₁ s₂⟩
    simp only [List.foldlM_cons, h₁]
    exact h₂

theorem types_enter (w : Walk) (v : Vocabulary) (type : TypeName) :
    (w.enter v type).context.types =
      if type ∈ w.context.types then w.context.types else w.context.types ++ [type] :=
  w.context.types_addType type (v.outline type)

theorem types_attach (w : Walk) (id : Nat) (kind : ChildKind) (d : Descriptor) :
    (w.attach id kind d).context.types = w.context.types := by
  cases kind <;> rfl

theorem proceeds_visitChild {v : Vocabulary} {depth : Nat} {type : TypeName} {id : Nat} {w : Walk}
    {child : ChildBinding}
    (h : ∀ target, child.valueType.elementType? = some target → Proceeds (v.visit depth target) w) :
    Proceeds (fun w => visitChild (v.resolve depth) type id w child) w := by
  unfold visitChild Proceeds
  unfold ValueType.elementType? at h
  split
  · exact ⟨_, rfl, List.Subset.refl _⟩
  · next target ht =>
    obtain ⟨w', hw', hs⟩ := h target (by simp [ht])
    obtain ⟨⟨resolved, _⟩, hresolve, rfl⟩ := Option.map_eq_some_iff.1 hw'
    refine ⟨_, by simp only [hresolve]; rfl, ?_⟩
    rw [show ∀ (x : Walk) e, (x.note e).context = x.context from fun _ _ => rfl, types_attach]
    exact hs
  · exact ⟨_, rfl, List.Subset.refl _⟩

theorem visit_proceeds {v : Vocabulary} {whole : List TypeName} (hv : v.Closed whole) :
    ∀ (depth : Nat) (type : TypeName) (w : Walk), type ∈ whole →
      (unseen whole w.context.types).length < depth → Proceeds (v.visit depth type) w
  | 0, _, _, _, h => absurd h (Nat.not_lt_zero _)
  | depth + 1, type, w, hmem, hlt => by
    by_cases hknown : type ∈ w.context.types
    · exact ⟨w, visit_of_mem hknown, List.Subset.refl _⟩
    · have htypes := types_enter w v type
      rw [if_neg hknown] at htypes
      have hstep : w.context.types ⊆ (w.enter v type).context.types := by
        rw [htypes]
        exact List.subset_append_left _ _
      have hless : ∀ x : Walk, (w.enter v type).context.types ⊆ x.context.types →
          (unseen whole x.context.types).length < depth := by
        intro x hx
        have h₁ : (unseen whole (type :: w.context.types)).length
            < (unseen whole w.context.types).length := length_unseen_cons_lt hmem hknown
        have h₂ : (unseen whole x.context.types).length
            ≤ (unseen whole (type :: w.context.types)).length := by
          refine length_unseen_le_of_subset (List.cons_subset.2 ⟨?_, List.Subset.trans hstep hx⟩)
          exact hx (by rw [htypes]; simp)
        omega
      obtain ⟨w₁, h₁, s₁⟩ := proceeds_foldlM (fun w t => v.visit depth t w) (v.subtypes type)
        (w.enter v type) fun t ht x hx =>
          visit_proceeds hv depth t x (hv type hmem (List.mem_append_left _ ht)) (hless x hx)
      obtain ⟨w₂, h₂, s₂⟩ := proceeds_foldlM
        (visitChild (v.resolve depth) type w.context.size) (v.children type) w₁
        fun child hc x hx => proceeds_visitChild fun target ht =>
          visit_proceeds hv depth target x
            (hv type hmem (List.mem_append_right _ (List.mem_filterMap.2 ⟨child, hc, ht⟩)))
            (hless x (List.Subset.trans s₁ hx))
      refine ⟨w₂, ?_, List.Subset.trans hstep (List.Subset.trans s₁ s₂)⟩
      rw [visit_succ_of_new hknown]
      exact (congrArg (· >>= _) h₁).trans h₂

theorem visit_isSome {v : Vocabulary} {whole : List TypeName} (hv : v.Closed whole)
    {depth : Nat} {type : TypeName} {w : Walk} (hmem : type ∈ whole)
    (h : (unseen whole w.context.types).length < depth) : (v.visit depth type w).isSome := by
  obtain ⟨w', hw', -⟩ := visit_proceeds hv depth type w hmem h
  simp [hw']

theorem resolve_isSome {v : Vocabulary} {whole : List TypeName} (hv : v.Closed whole)
    {depth : Nat} {type : TypeName} {w : Walk} (hmem : type ∈ whole)
    (h : (unseen whole w.context.types).length < depth) : (v.resolve depth type w).isSome := by
  rw [← Option.isSome_map]
  exact visit_isSome hv hmem h

end TagGrammar.Vocabulary
