import TagGrammar.Proofs.Walk.Steps

/-!
# What the log says

A log is read in three ways. It says which children of a type have been settled, and so what the
descriptor of the type offers by then (`Portrays`). It says which events came with a new descriptor
for a tag (`Publishes`). And it says which types have been visited, each of them once (`visited`).

All other events are quiet: they say nothing of any kind.
-/

namespace TagGrammar

variable {v : Vocabulary}

/-! ## What events say -/

namespace Vocabulary

/-- The tags under which the elements of a child may stand. -/
def offers (v : Vocabulary) (child : ChildBinding) : List String :=
  match child.valueType.elementType? with
  | none => []
  | some target =>
    match child.kind with
    | .reference => (v.outline target).substitutes
    | .named name => [name]

/-- The descriptor shows the type as it is after the log: with all of its attributes and overrides,
and with what its settled children offer. -/
structure Portrays (v : Vocabulary) (log : List Event) (type : TypeName) (d : Descriptor) :
    Prop where
  attributes : d.attributes = v.attributeTable type
  overrides : d.overrides = v.overrides type
  children : ∀ t, t ∈ d.children.tags ↔
    ∃ child ∈ v.children type, Settled log type child ∧ t ∈ v.offers child

/-- The event comes with a new descriptor for the tag. -/
inductive Publishes (v : Vocabulary) (tag : String) : Event → Prop where
  | visit {type : TypeName} : Publishes v tag (.visitingType type (some tag))
  | copy {type target : TypeName} {child : ChildBinding} (mem : child ∈ v.children type)
      (named : child.kind = .named tag) :
      Publishes v tag (.resolvedChild type child.accessor target)

end Vocabulary

/-- The event neither visits a type nor settles a child. -/
def Event.Quiet (e : Event) : Prop :=
  (∀ type tag, e ≠ .visitingType type tag) ∧
    ∀ type accessor target, e ≠ .resolvedChild type accessor target

theorem quiet_foundAttribute (type : TypeName) (name : String) :
    (Event.foundAttribute type name).Quiet := by
  constructor <;> simp

theorem quiet_of_skip? {child : ChildBinding} {type : TypeName} {e : Event}
    (h : child.skip? type = some e) : e.Quiet := by
  unfold ChildBinding.skip? at h
  split at h
  · cases h
    constructor <;> simp
  · cases h
  · cases h
    constructor <;> simp

theorem Event.Quiet.not_publishes {e : Event} (h : e.Quiet) (tag : String) :
    ¬ v.Publishes tag e := by
  intro hp
  cases hp with
  | visit => exact h.1 _ _ rfl
  | copy _ _ => exact h.2 _ _ _ rfl

theorem publishes_visit_iff {type : TypeName} {t : Option String} {tag : String} :
    v.Publishes tag (.visitingType type t) ↔ t = some tag := by
  constructor
  · intro h
    cases h
    rfl
  · rintro rfl
    exact .visit

theorem publishes_resolved_iff {type target : TypeName} {child : ChildBinding} {tag : String}
    (mem : child ∈ v.children type) :
    v.Publishes tag (.resolvedChild type child.accessor target) ↔ child.kind = .named tag := by
  constructor
  · intro h
    generalize hacc : child.accessor = accessor at h
    cases h with
    | copy mem' named => rw [Registry.eq_of_accessor_eq mem mem' hacc, named]
  · exact .copy mem

/-! ## Settled children -/

theorem settled_append_iff {log es : List Event} {type : TypeName} {child : ChildBinding} :
    Settled (log ++ es) type child ↔ Settled log type child ∨ Settled es type child := by
  unfold Settled
  simp only [List.mem_append]
  constructor
  · rintro ⟨target, ht, h | h⟩
    · exact .inl ⟨target, ht, h⟩
    · exact .inr ⟨target, ht, h⟩
  · rintro (⟨target, ht, h⟩ | ⟨target, ht, h⟩)
    · exact ⟨target, ht, .inl h⟩
    · exact ⟨target, ht, .inr h⟩

/-- Events that settle no child of the type do not change what is settled. -/
theorem settled_append_of_none {log es : List Event} {type : TypeName} {child : ChildBinding}
    (h : ∀ e ∈ es, ∀ accessor target, e ≠ .resolvedChild type accessor target) :
    Settled (log ++ es) type child ↔ Settled log type child := by
  rw [settled_append_iff]
  constructor
  · rintro (hs | ⟨target, _, hmem⟩)
    · exact hs
    · exact absurd rfl (h _ hmem _ target)
  · exact .inl

/-- Settling one child of a type settles no other. -/
theorem settled_append_resolved_iff {log : List Event} {type target : TypeName}
    {child other : ChildBinding} (mem : child ∈ v.children type) (mem' : other ∈ v.children type)
    (element : child.valueType.elementType? = some target) :
    Settled (log ++ [.resolvedChild type child.accessor target]) type other ↔
      Settled log type other ∨ other = child := by
  rw [settled_append_iff]
  apply or_congr Iff.rfl
  constructor
  · rintro ⟨t, _, hmem⟩
    -- the log knows children by their accessors, of which none has two
    have heq := List.mem_singleton.1 hmem
    injection heq with _ hacc _
    exact Registry.eq_of_accessor_eq mem' mem hacc
  · rintro rfl
    exact ⟨target, element, List.mem_singleton.2 rfl⟩

theorem Vocabulary.Portrays.congr {log more : List Event} {type : TypeName} {d : Descriptor}
    (h : v.Portrays log type d)
    (hs : ∀ child ∈ v.children type, Settled more type child ↔ Settled log type child) :
    v.Portrays more type d where
  attributes := h.attributes
  overrides := h.overrides
  children t := by
    rw [h.children]
    constructor
    · rintro ⟨child, hmem, hset, ht⟩
      exact ⟨child, hmem, (hs child hmem).2 hset, ht⟩
    · rintro ⟨child, hmem, hset, ht⟩
      exact ⟨child, hmem, (hs child hmem).1 hset, ht⟩

/-! ## Visited types -/

/-- The type that an event visits, if it is a visit. -/
def Event.visit? : Event → Option TypeName
  | .visitingType type _ => some type
  | _ => none

/-- The types that the events visit, in order. -/
def visited (log : List Event) : List TypeName := log.filterMap Event.visit?

@[simp] theorem visited_append (log es : List Event) :
    visited (log ++ es) = visited log ++ visited es :=
  List.filterMap_append

theorem Event.Quiet.visit?_eq_none {e : Event} (h : e.Quiet) : e.visit? = none := by
  cases e with
  | visitingType type tag => exact absurd rfl (h.1 type tag)
  | _ => rfl

theorem visited_enter (w : Walk) (v : Vocabulary) (type : TypeName) :
    visited (w.enter v type).history = visited w.history ++ [type] := by
  have hquiet : visited ((v.attributes type).map fun a => .foundAttribute type a.xmlName) = [] := by
    apply List.filterMap_eq_nil_iff.2
    intro e he
    obtain ⟨a, _, rfl⟩ := List.mem_map.1 he
    rfl
  rw [Walk.history_enter, visited_append]
  congr 1
  show type :: visited _ = _
  rw [hquiet]

theorem Step.visited_eq {w w' : Walk} (h : Step v w w') (hw : visited w.history = w.context.types) :
    visited w'.history = w'.context.types := by
  cases h with
  | enter new => rw [visited_enter, hw, Walk.context_enter, Context.types_addType, if_neg new]
  | skip _ _ skipped =>
    rw [Walk.history_note, visited_append, hw, Walk.context_note]
    show w.context.types ++ visited [_] = _
    simp [visited, (quiet_of_skip? skipped).visit?_eq_none]
  | settle _ _ _ _ _ =>
    rw [Walk.history_settle, visited_append, hw, Walk.types_settle]
    exact List.append_nil _

/-- The types of a context are the visited ones, in the order of the visits. -/
theorem Steps.visited_eq {w : Walk} (h : Steps v .start w) : visited w.history = w.context.types :=
  h.keep (P := fun w => visited w.history = w.context.types) (fun _ _ => Step.visited_eq) rfl

end TagGrammar
