import TagGrammar.Proofs.Walk.Steps

/-!
# Two walks in lockstep

Two vocabularies that have the same subtypes and the same children, as far as types can be met from
a root, make the same steps in the same order. So a relation between two states that every such step
keeps relates the two walks all along, and one of them ends exactly if the other does
(`Lockstep.visit`). Of types that cannot be met nothing is asked.
-/

namespace TagGrammar

universe u v w

/-! ## Computations that stay related -/

theorem rel_bind {α : Type u} {β : Type v} {γ δ : Type w} {R : α → β → Prop} {S : γ → δ → Prop}
    {x : Option α} {y : Option β} {f : α → Option γ} {g : β → Option δ} (hxy : Option.Rel R x y)
    (h : ∀ a b, R a b → Option.Rel S (f a) (g b)) : Option.Rel S (x.bind f) (y.bind g) := by
  cases hxy with
  | some hab => exact h _ _ hab
  | none => exact .none

/-- Two loops over one list stay related if every turn keeps them related. -/
theorem rel_foldlM {α : Type u} {β : Type v} {γ : Type v} {R : β → γ → Prop} {l : List α}
    {f : β → α → Option β} {g : γ → α → Option γ}
    (hturn : ∀ a ∈ l, ∀ b c, R b c → Option.Rel R (f b a) (g c a)) {b : β} {c : γ} (h : R b c) :
    Option.Rel R (l.foldlM f b) (l.foldlM g c) := by
  induction l generalizing b c with
  | nil => exact .some h
  | cons a l ih =>
    rw [List.foldlM_cons, List.foldlM_cons]
    apply rel_bind (hturn a List.mem_cons_self b c h)
    intro b' c' h'
    exact ih (fun x hx => hturn x (List.mem_cons_of_mem _ hx)) h'

/-! ## Lockstep -/

/-- The relation holds between the states of two walks as long as both walks take the same steps,
and it lets them take the same steps. -/
structure Lockstep (v v' : Vocabulary) (root : TypeName) (R : Walk → Walk → Prop) : Prop where
  subtypes : ∀ {type}, v.Reaches root type → v'.subtypes type = v.subtypes type
  children : ∀ {type}, v.Reaches root type → v'.children type = v.children type
  types : ∀ {w w'}, R w w' → w'.context.types = w.context.types
  size : ∀ {w w'}, R w w' → w'.context.size = w.context.size
  enter : ∀ {w w' type}, R w w' → v.Reaches root type → R (w.enter v type) (w'.enter v' type)
  note : ∀ {w w' e}, R w w' → R (w.note e) (w'.note e)
  settle : ∀ {w w' type id child target}, R w w' →
    R (w.settle type id child target) (w'.settle type id child target)

namespace Lockstep

variable {v v' : Vocabulary} {root : TypeName} {R : Walk → Walk → Prop}

theorem visitChild (h : Lockstep v v' root R) {depth : Nat} {type : TypeName} {id : Nat}
    {child : ChildBinding}
    (hvisit : ∀ target, child.valueType.elementType? = some target → ∀ w w', R w w' →
      Option.Rel R (v.visit depth target w) (v'.visit depth target w'))
    {w w' : Walk} (hw : R w w') :
    Option.Rel R (Vocabulary.visitChild (v.resolve depth) type id w child)
      (Vocabulary.visitChild (v'.resolve depth) type id w' child) := by
  cases hskip : child.skip? type with
  | some e =>
    rw [Vocabulary.visitChild_skip hskip, Vocabulary.visitChild_skip hskip]
    exact .some (h.note hw)
  | none =>
    obtain ⟨target, element⟩ := Vocabulary.skip?_eq_none_iff.1 hskip
    rw [Vocabulary.visitChild_element element, Vocabulary.visitChild_element element,
      Option.map_eq_bind, Option.map_eq_bind]
    apply rel_bind (hvisit target element w w' hw)
    intro w₁ w₁' hw₁
    exact .some (h.settle hw₁)

theorem visit_known (h : Lockstep v v' root R) {depth : Nat} {type : TypeName} {w w' : Walk}
    (hw : R w w') (known : type ∈ w.context.types) :
    Option.Rel R (v.visit depth type w) (v'.visit depth type w') := by
  rw [Vocabulary.visit_of_mem known, Vocabulary.visit_of_mem (h.types hw ▸ known)]
  exact .some hw

/-- Visits with the same depth end both or not at all, and in related states. -/
theorem visit (h : Lockstep v v' root R) (depth : Nat) {type : TypeName} {w w' : Walk}
    (hreached : v.Reaches root type) (hw : R w w') :
    Option.Rel R (v.visit depth type w) (v'.visit depth type w') := by
  induction depth generalizing type w w' with
  | zero =>
    by_cases known : type ∈ w.context.types
    · exact h.visit_known hw known
    · have new' : type ∉ w'.context.types := h.types hw ▸ known
      rw [Vocabulary.visit_zero_of_new known, Vocabulary.visit_zero_of_new new']
      exact .none
  | succ depth ih =>
    by_cases known : type ∈ w.context.types
    · exact h.visit_known hw known
    · have new' : type ∉ w'.context.types := h.types hw ▸ known
      rw [Vocabulary.visit_succ_of_new known, Vocabulary.visit_succ_of_new new',
        h.subtypes hreached, h.children hreached, h.size hw]
      -- first the subtypes, then the children
      have hbelow : Option.Rel R
          ((v.subtypes type).foldlM (fun w t => v.visit depth t w) (w.enter v type))
          ((v.subtypes type).foldlM (fun w t => v'.visit depth t w) (w'.enter v' type)) := by
        apply rel_foldlM _ (h.enter hw hreached)
        intro sub hsub w₁ w₁' hw₁
        exact ih (hreached.subtype hsub) hw₁
      apply rel_bind hbelow
      intro w₁ w₁' hw₁
      apply rel_foldlM _ hw₁
      intro child hchild w₂ w₂' hw₂
      apply h.visitChild _ hw₂
      intro target element w₃ w₃' hw₃
      exact ih (hreached.child hchild element) hw₃

end Lockstep

end TagGrammar
