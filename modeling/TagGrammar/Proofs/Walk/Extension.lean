import TagGrammar.Proofs.Context
import TagGrammar.Walk

/-!
# A walk only adds

The log gets longer, and a type keeps the index of its descriptor (`Extends`). So the index that
`resolve` gives is the one under which the type is found from then on
(`Vocabulary.extends_of_resolve`): whatever is read at this index is read of the type.
-/

namespace TagGrammar

/-- The events so far, oldest first. -/
def Walk.history (w : Walk) : List Event := w.log.toList

namespace Walk

@[simp] theorem history_start : start.history = [] := rfl

@[simp] theorem history_note (w : Walk) (e : Event) : (w.note e).history = w.history ++ [e] :=
  Array.toList_push

@[simp] theorem context_note (w : Walk) (e : Event) : (w.note e).context = w.context := rfl

@[simp] theorem history_enter (w : Walk) (v : Vocabulary) (type : TypeName) :
    (w.enter v type).history = w.history ++ (.visitingType type (v.tag? type)
      :: (v.attributes type).map fun a => .foundAttribute type a.xmlName) := by
  unfold history enter noteAll
  exact Array.toList_appendList

@[simp] theorem context_enter (w : Walk) (v : Vocabulary) (type : TypeName) :
    (w.enter v type).context = w.context.addType type (v.outline type) := rfl

@[simp] theorem idOf?_enter (w : Walk) (v : Vocabulary) (type : TypeName) :
    (w.enter v type).context.idOf? type = some w.context.size := by
  rw [context_enter, Context.idOf?_addType, if_pos rfl]

@[simp] theorem history_attach (w : Walk) (id : Nat) (kind : ChildKind) (d : Descriptor) :
    (w.attach id kind d).history = w.history := by
  cases kind <;> rfl

@[simp] theorem idOf?_attach (w : Walk) (id : Nat) (kind : ChildKind) (d : Descriptor)
    (type : TypeName) : (w.attach id kind d).context.idOf? type = w.context.idOf? type := by
  cases kind <;> rfl

end Walk

/-! ## What is kept -/

/-- Nothing that the log says or that is found by type is lost on the way from `w` to `w'`. -/
structure Extends (w w' : Walk) : Prop where
  history : w.history <+: w'.history
  idOf? : ∀ {type : TypeName} {id : Nat}, w.context.idOf? type = some id →
    w'.context.idOf? type = some id

namespace Extends

theorem refl (w : Walk) : Extends w w := ⟨List.prefix_refl _, id⟩

theorem trans {w w₁ w₂ : Walk} (h₁ : Extends w w₁) (h₂ : Extends w₁ w₂) : Extends w w₂ :=
  ⟨h₁.history.trans h₂.history, fun h => h₂.idOf? (h₁.idOf? h)⟩

theorem types {w w' : Walk} (h : Extends w w') : w.context.types ⊆ w'.context.types := by
  intro type htype
  obtain ⟨id, hid⟩ := Context.mem_types_iff.1 htype
  exact Context.mem_types_iff.2 ⟨id, h.idOf? hid⟩

/-- A loop keeps what every turn keeps. -/
theorem foldlM {α : Type} {turn : Walk → α → Option Walk}
    (hturn : ∀ a w w', turn w a = some w' → Extends w w') {l : List α} {w w' : Walk}
    (h : l.foldlM turn w = some w') : Extends w w' := by
  induction l generalizing w with
  | nil =>
    cases h
    exact .refl _
  | cons a l ih =>
    rw [List.foldlM_cons] at h
    obtain ⟨w₁, h₁, h₂⟩ := Option.bind_eq_some_iff.1 h
    exact (hturn a w w₁ h₁).trans (ih h₂)

end Extends

namespace Walk

theorem extends_enter {w : Walk} {v : Vocabulary} {type : TypeName}
    (new : type ∉ w.context.types) : Extends w (w.enter v type) where
  history := by
    rw [history_enter]
    exact List.prefix_append _ _
  idOf? hid := by
    rw [context_enter]
    exact Context.idOf?_addType_of_new new hid

theorem extends_note (w : Walk) (e : Event) : Extends w (w.note e) where
  history := by
    rw [history_note]
    exact List.prefix_append _ _
  idOf? := id

theorem extends_attach (w : Walk) (id : Nat) (kind : ChildKind) (d : Descriptor) :
    Extends w (w.attach id kind d) where
  history := (w.history_attach id kind d).symm ▸ List.prefix_refl _
  idOf? hid := by
    rw [idOf?_attach]
    exact hid

end Walk

/-! ## What is visited -/

namespace Vocabulary

theorem extends_of_visitChild {resolve : TypeName → Walk → Option (Nat × Walk)}
    (hresolve : ∀ target w id w', resolve target w = some (id, w') → Extends w w')
    {type : TypeName} {id : Nat} {child : ChildBinding} {w w' : Walk}
    (h : visitChild resolve type id w child = some w') : Extends w w' := by
  unfold visitChild at h
  split at h
  · cases h
    exact w.extends_note _
  · next target _ =>
    obtain ⟨⟨resolved, w₁⟩, h₁, h⟩ := Option.bind_eq_some_iff.1 h
    cases h
    exact (hresolve target w resolved w₁ h₁).trans
      ((w₁.extends_attach _ _ _).trans (Walk.extends_note _ _))
  · cases h
    exact w.extends_note _

/-- The index that is given for a type is the one under which it is found from then on. -/
theorem extends_of_resolve {v : Vocabulary} {depth : Nat} {type : TypeName} {w w' : Walk} {id : Nat}
    (h : v.resolve depth type w = some (id, w')) :
    Extends w w' ∧ w'.context.idOf? type = some id := by
  induction depth generalizing type w w' id with
  | zero =>
    unfold resolve at h
    cases hid : w.context.idOf? type with
    | some known =>
      rw [hid] at h
      cases h
      exact ⟨.refl w, hid⟩
    | none =>
      rw [hid] at h
      cases h
  | succ depth ih =>
    cases hid : w.context.idOf? type with
    | some known =>
      rw [resolve_of_idOf? hid] at h
      cases h
      exact ⟨.refl w, hid⟩
    | none =>
      have new := Context.idOf?_eq_none_iff.1 hid
      rw [resolve_succ_of_new new] at h
      obtain ⟨w₁, h₁, h⟩ := Option.bind_eq_some_iff.1 h
      obtain ⟨w₂, h₂, h⟩ := Option.bind_eq_some_iff.1 h
      cases h
      have hbelow : Extends (w.enter v type) w₁ := by
        refine Extends.foldlM (fun t u u' hu => ?_) h₁
        obtain ⟨⟨_, _⟩, hresolve, rfl⟩ := Option.map_eq_some_iff.1 hu
        exact (ih hresolve).1
      have hwithin : Extends w₁ w' :=
        Extends.foldlM
          (fun child u u' hu => extends_of_visitChild (fun _ _ _ _ hr => (ih hr).1) hu) h₂
      have hrest := hbelow.trans hwithin
      exact ⟨(Walk.extends_enter new).trans hrest, hrest.idOf? (w.idOf?_enter v type)⟩

/-- So the index can be read off the end of a visit. -/
theorem resolve_eq (v : Vocabulary) (depth : Nat) (type : TypeName) (w : Walk) :
    v.resolve depth type w =
      (v.visit depth type w).bind fun w' => (w'.context.idOf? type).map fun id => (id, w') := by
  unfold visit
  cases h : v.resolve depth type w with
  | none => rfl
  | some r =>
    rw [Option.map_some, Option.bind_some, (extends_of_resolve h).2]
    rfl

theorem exists_resolve_of_visit {v : Vocabulary} {depth : Nat} {type : TypeName} {w w' : Walk}
    (h : v.visit depth type w = some w') :
    ∃ id, v.resolve depth type w = some (id, w') ∧ w'.context.idOf? type = some id := by
  obtain ⟨⟨id, _⟩, hresolve, rfl⟩ := Option.map_eq_some_iff.1 h
  exact ⟨id, hresolve, (extends_of_resolve hresolve).2⟩

end Vocabulary

end TagGrammar
