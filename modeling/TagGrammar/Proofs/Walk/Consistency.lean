import TagGrammar.Proofs.Walk.History

/-!
# The log tells the context

Everything in the context can be read off the log. A type has a descriptor once the log has seen it
visited, and the descriptor offers what the children settled so far offer. A tag leads to what the
last event that published it has created: the descriptor of a type, or a copy of one, which shows
the type as it was when the copy was made.

`Consistent` says all this, and `Steps.consistent` that no walk breaks it.
-/

namespace TagGrammar

variable {v : Vocabulary}

/-- How a descriptor came to be the one that a tag leads to. -/
inductive Publication (v : Vocabulary) (c : Context) (log : List Event) (tag : String) :
    Nat → Prop where
  /-- It is the descriptor of a type. -/
  | own {type : TypeName} {id : Nat} {before after : List Event} (found : c.idOf? type = some id)
      (split : log = before ++ .visitingType type (some tag) :: after)
      (last : ∀ e ∈ after, ¬ v.Publishes tag e) : Publication v c log tag id
  /-- It is a copy that was made for a named child, and is no descriptor of a type. -/
  | copy {type target : TypeName} {child : ChildBinding} {id : Nat} {d : Descriptor}
      {before after : List Event} (mem : child ∈ v.children type)
      (named : child.kind = .named tag) (element : child.valueType.elementType? = some target)
      (split : log = before ++ .resolvedChild type child.accessor target :: after)
      (last : ∀ e ∈ after, ¬ v.Publishes tag e)
      (ready : v.AllSettled before target ∨ v.Reaches target type)
      (entry : c.descriptors[id]? = some d) (tagged : d.tag = some tag)
      (portrays : v.Portrays before target d) (apart : ∀ t, c.idOf? t ≠ some id) :
      Publication v c log tag id

/-- The context is what the log says. -/
structure Consistent (v : Vocabulary) (c : Context) (log : List Event) : Prop where
  visits : ∀ {type tag}, .visitingType type tag ∈ log ↔ type ∈ c.types ∧ tag = v.tag? type
  resolved : ∀ {type accessor target}, .resolvedChild type accessor target ∈ log →
    type ∈ c.types ∧ target ∈ c.types ∧
      ∃ child ∈ v.children type, child.accessor = accessor ∧
        child.valueType.elementType? = some target
  distinct : ∀ {type other id}, c.idOf? type = some id → c.idOf? other = some id → type = other
  described : ∀ {type id}, c.idOf? type = some id →
    ∃ d, c.descriptors[id]? = some d ∧ d.tag = v.tag? type ∧ v.Portrays log type d
  published : ∀ {tag id}, c.tagged? tag = some id → Publication v c log tag id
  keys : ∀ {tag}, (∃ id, c.tagged? tag = some id) ↔ ∃ e ∈ log, v.Publishes tag e

theorem consistent_empty : Consistent v .empty [] where
  visits := by simp [Context.types, Context.empty, OrderedMap.keys, OrderedMap.empty]
  resolved := by simp
  distinct := by simp [Context.idOf?, Context.empty]
  described := by simp [Context.idOf?, Context.empty]
  published := by simp [Context.tagged?, Context.empty]
  keys := by simp [Context.tagged?, Context.empty]

namespace Consistent

variable {c : Context} {log : List Event}

theorem exists_descriptor {type : TypeName} (h : Consistent v c log) (hmem : type ∈ c.types) :
    ∃ d, c.ofType? type = some d ∧ d.tag = v.tag? type ∧ v.Portrays log type d := by
  obtain ⟨id, hid⟩ := Context.mem_types_iff.1 hmem
  obtain ⟨d, hd, htag, hp⟩ := h.described hid
  exact ⟨d, Context.ofType?_eq_some_iff.2 ⟨id, hid, hd⟩, htag, hp⟩

theorem id_ne_size {type : TypeName} {id : Nat} (h : Consistent v c log)
    (hid : c.idOf? type = some id) : id ≠ c.size := by
  obtain ⟨d, hd, _⟩ := h.described hid
  exact Context.ne_size_of_descriptors hd

/-- A type that has not been visited has no settled child. -/
theorem not_settled_of_new {type : TypeName} {child : ChildBinding} (h : Consistent v c log)
    (new : type ∉ c.types) : ¬ Settled log type child := by
  rintro ⟨target, _, hmem⟩
  exact new (h.resolved hmem).1

end Consistent

/-! ## Publications last -/

theorem not_publishes_append {after es : List Event} {tag : String}
    (h : ∀ e ∈ after, ¬ v.Publishes tag e) (hes : ∀ e ∈ es, ¬ v.Publishes tag e) :
    ∀ e ∈ after ++ es, ¬ v.Publishes tag e := by
  intro e he
  rcases List.mem_append.1 he with he | he
  · exact h e he
  · exact hes e he

/-- A publication stays what it is while the log gets events that do not publish its tag. -/
theorem Publication.extend {c c' : Context} {log es : List Event} {tag : String} {id : Nat}
    (h : Publication v c log tag id) (hes : ∀ e ∈ es, ¬ v.Publishes tag e)
    (hid : ∀ {t i}, c.idOf? t = some i → c'.idOf? t = some i)
    (hentry : ∀ {d}, (∀ t, c.idOf? t ≠ some id) → c.descriptors[id]? = some d →
      c'.descriptors[id]? = some d ∧ ∀ t, c'.idOf? t ≠ some id) :
    Publication v c' (log ++ es) tag id := by
  cases h with
  | own found split last =>
    have hsplit := congrArg (· ++ es) split
    rw [List.append_assoc, List.cons_append] at hsplit
    exact .own (hid found) hsplit (not_publishes_append last hes)
  | copy mem named element split last ready entry tagged portrays apart =>
    have hsplit := congrArg (· ++ es) split
    rw [List.append_assoc, List.cons_append] at hsplit
    obtain ⟨entry', apart'⟩ := hentry apart entry
    exact .copy mem named element hsplit (not_publishes_append last hes) ready entry' tagged
      portrays apart'

/-- A key that is new, or an event that publishes it: both come together. -/
theorem exists_publishes_append_iff {log : List Event} {e : Event} {tag : String} :
    (∃ x ∈ log ++ [e], v.Publishes tag x) ↔ v.Publishes tag e ∨ ∃ x ∈ log, v.Publishes tag x := by
  simp only [List.mem_append, List.mem_singleton]
  constructor
  · rintro ⟨x, hx | rfl, hp⟩
    · exact .inr ⟨x, hx, hp⟩
    · exact .inl hp
  · rintro (hp | ⟨x, hx, hp⟩)
    · exact ⟨e, .inr rfl, hp⟩
    · exact ⟨x, .inl hx, hp⟩

/-! ## Quiet events -/

namespace Consistent

variable {c : Context} {log : List Event}

theorem quiet {es : List Event} (h : Consistent v c log) (hes : ∀ e ∈ es, e.Quiet) :
    Consistent v c (log ++ es) where
  visits := by
    intro type tag
    rw [List.mem_append, h.visits]
    apply or_iff_left
    intro hmem
    exact (hes _ hmem).1 _ _ rfl
  resolved := by
    intro type accessor target hmem
    rcases List.mem_append.1 hmem with hmem | hmem
    · exact h.resolved hmem
    · exact absurd rfl ((hes _ hmem).2 _ _ _)
  distinct := h.distinct
  described := by
    intro type id hid
    obtain ⟨d, hd, htag, hp⟩ := h.described hid
    refine ⟨d, hd, htag, hp.congr fun child _ => ?_⟩
    apply settled_append_of_none
    intro e he
    exact (hes e he).2 type
  published hid :=
    (h.published hid).extend (fun e he => (hes e he).not_publishes _) id fun ha he => ⟨he, ha⟩
  keys := by
    intro tag
    rw [h.keys]
    constructor
    · rintro ⟨e, he, hp⟩
      exact ⟨e, List.mem_append_left _ he, hp⟩
    · rintro ⟨e, he, hp⟩
      rcases List.mem_append.1 he with he | he
      · exact ⟨e, he, hp⟩
      · exact absurd hp ((hes e he).not_publishes _)

/-! ## A new type -/

theorem portrays_outline {type : TypeName} (h : Consistent v c log) (new : type ∉ c.types) :
    v.Portrays log type (v.outline type) where
  attributes := rfl
  overrides := rfl
  children t := by
    constructor
    · intro ht
      cases ht
    · rintro ⟨child, _, hset, _⟩
      exact absurd hset (h.not_settled_of_new new)

/-- A visit settles no child. -/
theorem settled_append_visit_iff {log : List Event} {type other : TypeName} {tag : Option String}
    {child : ChildBinding} :
    Settled (log ++ [.visitingType type tag]) other child ↔ Settled log other child := by
  apply settled_append_of_none
  simp

section Visit

variable {type : TypeName}

theorem visits_addType (h : Consistent v c log) (new : type ∉ c.types) {t : TypeName}
    {tag : Option String} : .visitingType t tag ∈ log ++ [.visitingType type (v.tag? type)] ↔
      t ∈ (c.addType type (v.outline type)).types ∧ tag = v.tag? t := by
  rw [List.mem_append, List.mem_singleton, h.visits, Context.mem_types_addType new]
  constructor
  · rintro (⟨ht, htag⟩ | heq)
    · exact ⟨.inl ht, htag⟩
    · injection heq with htype htag
      subst htype
      exact ⟨.inr rfl, htag⟩
  · rintro ⟨ht | rfl, rfl⟩
    · left
      exact ⟨ht, rfl⟩
    · right
      rfl

theorem resolved_addType (h : Consistent v c log) (new : type ∉ c.types) {t target : TypeName}
    {accessor : String}
    (ht : .resolvedChild t accessor target ∈ log ++ [.visitingType type (v.tag? type)]) :
    t ∈ (c.addType type (v.outline type)).types ∧
      target ∈ (c.addType type (v.outline type)).types ∧
        ∃ child ∈ v.children t, child.accessor = accessor ∧
          child.valueType.elementType? = some target := by
  have hold : .resolvedChild t accessor target ∈ log := by simpa using ht
  obtain ⟨hparent, htarget, hchild⟩ := h.resolved hold
  rw [Context.mem_types_addType new, Context.mem_types_addType new]
  exact ⟨.inl hparent, .inl htarget, hchild⟩

/-- The index of the new type is not that of another one. -/
theorem distinct_addType (h : Consistent v c log) {t u : TypeName} {id : Nat}
    (ht : (c.addType type (v.outline type)).idOf? t = some id)
    (hu : (c.addType type (v.outline type)).idOf? u = some id) : t = u := by
  rw [Context.idOf?_addType] at ht hu
  split at ht <;> split at hu
  · next h₁ h₂ => exact h₁.symm.trans h₂
  · cases ht
    exact absurd rfl (h.id_ne_size hu)
  · cases hu
    exact absurd rfl (h.id_ne_size ht)
  · exact h.distinct ht hu

theorem described_addType (h : Consistent v c log) (new : type ∉ c.types) {t : TypeName} {id : Nat}
    (ht : (c.addType type (v.outline type)).idOf? t = some id) :
    ∃ d, (c.addType type (v.outline type)).descriptors[id]? = some d ∧ d.tag = v.tag? t ∧
      v.Portrays (log ++ [.visitingType type (v.tag? type)]) t d := by
  rw [Context.idOf?_addType] at ht
  split at ht
  · next heq =>
    subst heq
    cases ht
    have hentry : (c.addType type (v.outline type)).descriptors[c.size]? =
        some (v.outline type) := by
      rw [Context.descriptors_addType, if_pos rfl]
    exact ⟨_, hentry, rfl, (h.portrays_outline new).congr fun _ _ => settled_append_visit_iff⟩
  · obtain ⟨d, hd, htag, hp⟩ := h.described ht
    have hentry : (c.addType type (v.outline type)).descriptors[id]? = some d :=
      Context.descriptors_addType_of_some hd
    exact ⟨d, hentry, htag, hp.congr fun _ _ => settled_append_visit_iff⟩

theorem published_addType (h : Consistent v c log) (new : type ∉ c.types) {tag : String} {id : Nat}
    (hid : (c.addType type (v.outline type)).tagged? tag = some id) :
    Publication v (c.addType type (v.outline type)) (log ++ [.visitingType type (v.tag? type)])
      tag id := by
  rw [Context.tagged?_addType] at hid
  split at hid
  · next htag =>
    -- the tag leads to the new type
    cases hid
    have hself : (c.addType type (v.outline type)).idOf? type = some c.size := by
      rw [Context.idOf?_addType, if_pos rfl]
    have hsplit : log ++ [.visitingType type (v.tag? type)] =
        log ++ .visitingType type (some tag) :: [] := by
      rw [← htag]
      rfl
    exact .own hself hsplit (by simp)
  · next htag =>
    -- the tag leads where it led before; a copy does not become the descriptor of the new type
    apply (h.published hid).extend
    · intro e he
      rw [List.mem_singleton.1 he, publishes_visit_iff]
      exact htag
    · exact Context.idOf?_addType_of_new new
    · intro d apart hd
      refine ⟨Context.descriptors_addType_of_some hd, fun t ht => ?_⟩
      rw [Context.idOf?_addType] at ht
      split at ht
      · cases ht
        exact Context.ne_size_of_descriptors hd rfl
      · exact apart t ht

theorem keys_addType (h : Consistent v c log) {tag : String} :
    (∃ id, (c.addType type (v.outline type)).tagged? tag = some id) ↔
      ∃ e ∈ log ++ [.visitingType type (v.tag? type)], v.Publishes tag e := by
  rw [exists_publishes_append_iff, publishes_visit_iff, ← h.keys]
  simp only [Context.tagged?_addType]
  split
  · next htag => exact iff_of_true ⟨_, rfl⟩ (.inl htag)
  · next htag => exact (or_iff_right htag).symm

theorem visit (h : Consistent v c log) (new : type ∉ c.types) :
    Consistent v (c.addType type (v.outline type)) (log ++ [.visitingType type (v.tag? type)]) where
  visits := h.visits_addType new
  resolved := h.resolved_addType new
  distinct := h.distinct_addType
  described := h.described_addType new
  published := h.published_addType new
  keys := h.keys_addType

end Visit

end Consistent

/-! ## A settled child -/

/-- What attaching a child does to the descriptor it is attached to. -/
def Descriptor.attached (d : Descriptor) (kind : ChildKind) (target : Descriptor) : Descriptor :=
  match kind with
  | .reference => d.addChild target
  | .named name => d.addChildTag name

theorem tag_attached (d : Descriptor) (kind : ChildKind) (target : Descriptor) :
    (d.attached kind target).tag = d.tag := by
  cases kind <;> rfl

namespace Walk

variable {w : Walk} {type target : TypeName} {id : Nat} {child : ChildBinding}

theorem tagged?_settle (tag : String) :
    (w.settle type id child target).context.tagged? tag =
      if child.kind = .named tag then some w.context.size else w.context.tagged? tag := by
  unfold settle attach
  rw [context_note]
  cases child.kind with
  | reference => simp
  | named name => simp [Descriptor.cloneAs]

theorem descriptors_settle_self {d t : Descriptor} (hd : w.context.descriptors[id]? = some d)
    (ht : w.context.ofType? target = some t) :
    (w.settle type id child target).context.descriptors[id]? =
      some (d.attached child.kind t) := by
  unfold settle attach
  rw [context_note, ht]
  cases child.kind with
  | reference =>
    show (w.context.modify _ _).descriptors[id]? = _
    rw [Context.descriptors_modify, if_pos rfl, hd]
    rfl
  | named name =>
    show ((w.context.addTagged _).modify _ _).descriptors[id]? = _
    rw [Context.descriptors_modify, if_pos rfl, Context.descriptors_addTagged_of_some hd]
    rfl

theorem descriptors_settle_other {i : Nat} {d : Descriptor}
    (hd : w.context.descriptors[i]? = some d) (hne : id ≠ i) :
    (w.settle type id child target).context.descriptors[i]? = some d := by
  unfold settle attach
  rw [context_note]
  cases child.kind with
  | reference =>
    show (w.context.modify _ _).descriptors[i]? = _
    rw [Context.descriptors_modify, if_neg hne, hd]
  | named name =>
    show ((w.context.addTagged _).modify _ _).descriptors[i]? = _
    rw [Context.descriptors_modify, if_neg hne, Context.descriptors_addTagged_of_some hd]

theorem descriptors_settle_copy (type : TypeName) {name : String} {t : Descriptor}
    (named : child.kind = .named name) (ht : w.context.ofType? target = some t)
    (hne : id ≠ w.context.size) :
    (w.settle type id child target).context.descriptors[w.context.size]? =
      some (t.cloneAs name) := by
  unfold settle attach
  rw [context_note, ht, named]
  show ((w.context.addTagged _).modify _ _).descriptors[_]? = _
  rw [Context.descriptors_modify, if_neg hne, Context.descriptors_addTagged, if_pos rfl]
  rfl

end Walk

/-- A child offers exactly the tags that attaching it adds. -/
theorem mem_children_attached {target : TypeName} {child : ChildBinding} {d t : Descriptor}
    {log : List Event} {x : String} (element : child.valueType.elementType? = some target)
    (htag : t.tag = v.tag? target) (hp : v.Portrays log target t) :
    x ∈ (d.attached child.kind t).children.tags ↔ x ∈ v.offers child ∨ x ∈ d.children.tags := by
  unfold Descriptor.attached Vocabulary.offers
  rw [element]
  cases child.kind with
  | reference =>
    have hsub : t.substitutes = (v.outline target).substitutes := by
      unfold Descriptor.substitutes
      rw [htag, hp.overrides]
      rfl
    show x ∈ (d.children.insertAll t.substitutes).tags ↔ _
    rw [TagSet.mem_insertAll, hsub]
  | named name =>
    show x ∈ (d.children.insert name).tags ↔ _
    rw [TagSet.mem_insert, List.mem_singleton]

theorem portrays_attached {type target : TypeName} {child : ChildBinding} {d t : Descriptor}
    {log : List Event} (mem : child ∈ v.children type)
    (element : child.valueType.elementType? = some target) (hd : v.Portrays log type d)
    (htag : t.tag = v.tag? target) (ht : v.Portrays log target t) :
    v.Portrays (log ++ [.resolvedChild type child.accessor target]) type
      (d.attached child.kind t) where
  attributes := by
    rw [← hd.attributes]
    cases child.kind <;> rfl
  overrides := by
    rw [← hd.overrides]
    cases child.kind <;> rfl
  children x := by
    rw [mem_children_attached element htag ht, hd.children]
    constructor
    · rintro (hx | ⟨other, hmem, hset, hx⟩)
      · exact ⟨child, mem, (settled_append_resolved_iff mem mem element).2 (.inr rfl), hx⟩
      · exact ⟨other, hmem, (settled_append_resolved_iff mem hmem element).2 (.inl hset), hx⟩
    · rintro ⟨other, hmem, hset, hx⟩
      rcases (settled_append_resolved_iff mem hmem element).1 hset with hset | rfl
      · exact .inr ⟨other, hmem, hset, hx⟩
      · exact .inl hx

namespace Consistent

variable {w : Walk} {type target : TypeName} {id : Nat} {child : ChildBinding}

theorem described_settle (h : Consistent v w.context w.history)
    (found : w.context.idOf? type = some id) (mem : child ∈ v.children type)
    (element : child.valueType.elementType? = some target) (known : target ∈ w.context.types)
    {other : TypeName} {i : Nat}
    (hi : (w.settle type id child target).context.idOf? other = some i) :
    ∃ d, (w.settle type id child target).context.descriptors[i]? = some d ∧ d.tag = v.tag? other ∧
      v.Portrays (w.history ++ [.resolvedChild type child.accessor target]) other d := by
  obtain ⟨t, ht, httag, htp⟩ := h.exists_descriptor known
  rw [Walk.idOf?_settle] at hi
  obtain ⟨d, hd, htag, hp⟩ := h.described hi
  by_cases heq : type = other
  · subst heq
    rw [found] at hi
    cases hi
    exact ⟨_, Walk.descriptors_settle_self hd ht, (tag_attached _ _ _).trans htag,
      portrays_attached mem element hp httag htp⟩
  · -- another type keeps its descriptor, and no child of it was settled
    have hne : id ≠ i := by
      rintro rfl
      exact heq (h.distinct found hi)
    refine ⟨d, Walk.descriptors_settle_other hd hne, htag, hp.congr fun _ _ => ?_⟩
    apply settled_append_of_none
    simp [heq]

theorem published_settle (h : Consistent v w.context w.history)
    (found : w.context.idOf? type = some id) (mem : child ∈ v.children type)
    (element : child.valueType.elementType? = some target) (known : target ∈ w.context.types)
    (ready : v.AllSettled w.history target ∨ v.Reaches target type) {tag : String} {i : Nat}
    (hi : (w.settle type id child target).context.tagged? tag = some i) :
    Publication v (w.settle type id child target).context
      (w.history ++ [.resolvedChild type child.accessor target]) tag i := by
  rw [Walk.tagged?_settle] at hi
  split at hi
  · next named =>
    -- the tag leads to the copy that was made for the child
    cases hi
    obtain ⟨t, ht, _, htp⟩ := h.exists_descriptor known
    have hsplit : w.history ++ [.resolvedChild type child.accessor target] =
        w.history ++ .resolvedChild type child.accessor target :: [] := rfl
    have hentry := Walk.descriptors_settle_copy type named ht (h.id_ne_size found)
    have hcopy : v.Portrays w.history target (t.cloneAs tag) :=
      ⟨htp.attributes, htp.overrides, htp.children⟩
    refine .copy mem named element hsplit (by simp) ready hentry rfl hcopy ?_
    intro u hu
    rw [Walk.idOf?_settle] at hu
    exact h.id_ne_size hu rfl
  · next named =>
    -- the tag leads where it led before; a copy is not what the child was attached to
    apply (h.published hi).extend
    · intro e he
      rw [List.mem_singleton.1 he, publishes_resolved_iff mem]
      exact named
    · intro u j hu
      rw [Walk.idOf?_settle]
      exact hu
    · intro d apart hd
      have hne : id ≠ i := by
        rintro rfl
        exact apart type found
      refine ⟨Walk.descriptors_settle_other hd hne, fun u => ?_⟩
      rw [Walk.idOf?_settle]
      exact apart u

theorem keys_settle (h : Consistent v w.context w.history) (mem : child ∈ v.children type)
    {tag : String} :
    (∃ i, (w.settle type id child target).context.tagged? tag = some i) ↔
      ∃ e ∈ w.history ++ [.resolvedChild type child.accessor target], v.Publishes tag e := by
  rw [exists_publishes_append_iff, publishes_resolved_iff mem, ← h.keys]
  simp only [Walk.tagged?_settle]
  split
  · next named => exact iff_of_true ⟨_, rfl⟩ (.inl named)
  · next named => exact (or_iff_right named).symm

theorem settle (h : Consistent v w.context w.history) (found : w.context.idOf? type = some id)
    (mem : child ∈ v.children type) (element : child.valueType.elementType? = some target)
    (known : target ∈ w.context.types)
    (ready : v.AllSettled w.history target ∨ v.Reaches target type) :
    Consistent v (w.settle type id child target).context
      (w.settle type id child target).history := by
  rw [Walk.history_settle]
  constructor
  case visits =>
    intro other tag
    rw [Walk.types_settle, ← h.visits]
    simp
  case resolved =>
    intro other accessor aim hmem
    rw [Walk.types_settle]
    rcases List.mem_append.1 hmem with hmem | hmem
    · exact h.resolved hmem
    · cases List.mem_singleton.1 hmem
      exact ⟨Context.mem_types_iff.2 ⟨id, found⟩, known, child, mem, rfl, element⟩
  case distinct =>
    intro t u i ht hu
    rw [Walk.idOf?_settle] at ht hu
    exact h.distinct ht hu
  case described => exact h.described_settle found mem element known
  case published => exact h.published_settle found mem element known ready
  case keys => exact h.keys_settle mem

end Consistent

/-! ## Steps -/

theorem Step.consistent {w w' : Walk} (h : Step v w w') (hc : Consistent v w.context w.history) :
    Consistent v w'.context w'.history := by
  cases h with
  | @enter type new =>
    have hquiet : ∀ e ∈ (v.attributes type).map fun a => Event.foundAttribute type a.xmlName,
        e.Quiet := by
      intro e he
      obtain ⟨a, _, rfl⟩ := List.mem_map.1 he
      exact quiet_foundAttribute _ _
    rw [Walk.history_enter, Walk.context_enter]
    -- first the visit itself, then the attributes, which come with it
    have hall := (hc.visit new).quiet hquiet
    rw [List.append_assoc] at hall
    exact hall
  | skip _ _ skipped =>
    rw [Walk.history_note, Walk.context_note]
    apply hc.quiet
    intro e he
    rw [List.mem_singleton.1 he]
    exact quiet_of_skip? skipped
  | settle found mem element known ready => exact hc.settle found mem element known ready

/-- No walk breaks what the log says of the context. -/
theorem Steps.consistent {w w' : Walk} (h : Steps v w w')
    (hc : Consistent v w.context w.history) : Consistent v w'.context w'.history :=
  h.keep (P := fun w => Consistent v w.context w.history) (fun _ _ => Step.consistent) hc

end TagGrammar
