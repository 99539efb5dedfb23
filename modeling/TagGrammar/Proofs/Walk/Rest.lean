import TagGrammar.Proofs.Walk.Consistency
import TagGrammar.Proofs.Walk.Exploration

/-!
# A walk at rest

Between outermost visits every visited type is finished, and the context is what the log says. Both
together settle what a context contains: the visited types are closed under all ways in which one
type leads to another, and the keys are the tags of visited types and the names of their children.
-/

namespace TagGrammar

variable {v : Vocabulary}

/-- No visit is under way: every visited type is finished, and the context is what the log says. -/
structure Vocabulary.AtRest (v : Vocabulary) (w : Walk) : Prop where
  consistent : Consistent v w.context w.history
  finished : ∀ type ∈ w.context.types, v.Finished w type

theorem not_mem_types_start (type : TypeName) : type ∉ Walk.start.context.types := by
  intro h
  cases h

theorem awaits_start (type : TypeName) : v.Awaits .start type :=
  fun t ht => absurd ht (not_mem_types_start t)

theorem Explored.atRest {task : Task} {w : Walk} (h : Explored v task .start w) : v.AtRest w where
  consistent := h.steps.consistent consistent_empty
  finished type htype := (h.fresh_or_finished type htype).resolve_left (not_mem_types_start type)

theorem explored_of_visit {depth : Nat} {root : TypeName} {w : Walk}
    (h : v.visit depth root .start = some w) : Explored v (.visit root) .start w :=
  (Vocabulary.runs_of_visit depth root _ _ h).explores (awaits_start root)

theorem explored_of_visitEach {calls : List (Nat × TypeName)} {w : Walk}
    (h : v.visitEach calls .start = some w) :
    Explored v (.visitAll (calls.map Prod.snd)) .start w :=
  (Vocabulary.runs_of_visitEach h).explores fun type _ => awaits_start type

/-- Once all children of a type are settled, its descriptor offers what any of them offers. -/
theorem Vocabulary.Portrays.mem_children_iff {log : List Event} {type : TypeName} {d : Descriptor}
    (h : v.Portrays log type d) (hall : v.AllSettled log type) {t : String} :
    t ∈ d.children.tags ↔ ∃ child ∈ v.children type, t ∈ v.offers child := by
  rw [h.children]
  constructor
  · rintro ⟨child, hmem, _, ht⟩
    exact ⟨child, hmem, ht⟩
  · rintro ⟨child, hmem, ht⟩
    cases helem : child.valueType.elementType? with
    | none =>
      unfold Vocabulary.offers at ht
      rw [helem] at ht
      cases ht
    | some target => exact ⟨child, hmem, hall child hmem target helem, ht⟩

/-! ## Keys and entries -/

namespace Consistent

variable {c : Context} {log : List Event}

/-- Whatever a tag leads to shows a visited type as it was at some moment. -/
theorem exists_portrayed {tag : String} {id : Nat} (h : Consistent v c log)
    (hid : c.tagged? tag = some id) :
    ∃ d, c.descriptors[id]? = some d ∧
      ∃ type ∈ c.types, ∃ before, before <+: log ∧ v.Portrays before type d := by
  cases h.published hid with
  | own found split _ =>
    obtain ⟨d, hd, _, hp⟩ := h.described found
    exact ⟨d, hd, _, Context.mem_types_iff.2 ⟨_, found⟩, log, List.prefix_refl _, hp⟩
  | copy _ _ _ split _ _ entry _ portrays _ =>
    refine ⟨_, entry, _, ?_, _, ?_, portrays⟩
    · exact (h.resolved (split ▸ List.mem_append_right _ List.mem_cons_self)).2.1
    · rw [split]
      exact List.prefix_append _ _

theorem mem_tags_toTable_iff {tag : String} (h : Consistent v c log) :
    tag ∈ c.toTable.tags ↔ ∃ id, c.tagged? tag = some id := by
  rw [TagTable.mem_tags_iff]
  simp only [Context.get?_toTable_eq_some_iff]
  constructor
  · rintro ⟨_, id, hid, _⟩
    exact ⟨id, hid⟩
  · rintro ⟨id, hid⟩
    obtain ⟨d, hd, _⟩ := h.exists_portrayed hid
    exact ⟨d, id, hid, hd⟩

theorem exists_portrayed_of_get?_toTable {tag : String} {d : Descriptor} (h : Consistent v c log)
    (hd : c.toTable.get? tag = some d) :
    ∃ type ∈ c.types, ∃ before, before <+: log ∧ v.Portrays before type d := by
  obtain ⟨id, hid, hentry⟩ := Context.get?_toTable_eq_some_iff.1 hd
  obtain ⟨e, he, hshown⟩ := h.exists_portrayed hid
  rw [hentry] at he
  cases he
  exact hshown

end Consistent

namespace Vocabulary.AtRest

variable {w : Walk}

/-- The visited types are closed under all ways in which one type leads to another. -/
theorem mem_types_of_reaches {type other : TypeName} (h : v.AtRest w)
    (hmem : type ∈ w.context.types) (hr : v.Reaches type other) : other ∈ w.context.types := by
  induction hr with
  | refl => exact hmem
  | subtype _ mem ih => exact (h.finished _ ih).subtypes _ mem
  | child _ mem element ih =>
    obtain ⟨target, htarget, hlog⟩ := (h.finished _ ih).children _ mem _ element
    rw [element] at htarget
    cases htarget
    exact (h.consistent.resolved hlog).2.1

/-- The keys are the tags of visited types and the names of their children. -/
theorem mem_tags_toTable_iff {tag : String} (h : v.AtRest w) :
    tag ∈ w.context.toTable.tags ↔
      (∃ type ∈ w.context.types, v.tag? type = some tag) ∨
        ∃ type ∈ w.context.types, ∃ child ∈ v.children type, child.kind = .named tag ∧
          ∃ target, child.valueType.elementType? = some target := by
  rw [h.consistent.mem_tags_toTable_iff, h.consistent.keys]
  constructor
  · rintro ⟨e, he, hp⟩
    cases hp with
    | visit =>
      obtain ⟨hmem, htag⟩ := h.consistent.visits.1 he
      exact .inl ⟨_, hmem, htag.symm⟩
    | copy mem named =>
      obtain ⟨htype, _, child, hc, hacc, helem⟩ := h.consistent.resolved he
      rw [Registry.eq_of_accessor_eq hc mem hacc] at helem
      exact .inr ⟨_, htype, _, mem, named, _, helem⟩
  · rintro (⟨type, hmem, htag⟩ | ⟨type, hmem, child, hc, named, target, helem⟩)
    · exact ⟨_, h.consistent.visits.2 ⟨hmem, htag.symm⟩, .visit⟩
    · obtain ⟨_, _, hlog⟩ := (h.finished type hmem).children child hc target helem
      exact ⟨_, hlog, .copy hc named⟩

end Vocabulary.AtRest

/-- A walk visits the types that can be reached from those that it was asked to visit. -/
theorem Explored.mem_types_iff {task : Task} {w : Walk} {type : TypeName}
    (h : Explored v task .start w) (hdone : ∀ origin ∈ task.targets, origin ∈ w.context.types) :
    type ∈ w.context.types ↔ ∃ origin ∈ task.targets, v.Reaches origin type := by
  constructor
  · intro hmem
    exact ((h.fresh type hmem).resolve_left (not_mem_types_start type)).2
  · rintro ⟨origin, ho, hr⟩
    exact h.atRest.mem_types_of_reaches (hdone origin ho) hr

end TagGrammar
