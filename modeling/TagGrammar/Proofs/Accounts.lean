import Mathlib.Algebra.BigOperators.Group.Finset.Piecewise
import TagGrammar.Proofs.Document

/-!
# What the log tells of each type

Between two events of a type may stand those of all types that are visited in the meantime. Taken
by themselves, the events of a visited type are its account: the visit, then its attributes in
order, then one event for each of its children in order, whether the child is settled or passed
over (`Vocabulary.account`). Of any other type the log tells nothing.

In the middle of a walk the accounts of some types are not complete. What the log has told of a type
and what is still to be told of it make up its account at every moment (`Runs.balanced`), and at the
end nothing is left to be told.
-/

namespace TagGrammar

/-! ## Events and types -/

namespace Event

/-- The type that an event tells of. -/
def subject? : Event → Option TypeName
  | .visitingType type _ | .foundAttribute type _ | .skippedErased type _ | .skippedValue type _ _
  | .resolvedChild type _ _ => some type
  | .loadedSchema _ _ | .rootWithoutTag _ | .generatedHints _ _ _ => none

/-- The name of the attribute that an event tells of. -/
def attribute? : Event → Option String
  | .foundAttribute _ name => some name
  | _ => none

/-- The accessor of the child that an event tells of. -/
def child? : Event → Option String
  | .skippedErased _ accessor | .skippedValue _ accessor _ | .resolvedChild _ accessor _ =>
    some accessor
  | _ => none

end Event

/-- The event with which a child is done: a list of unknown items is passed over with a warning, a
child that is no element without one, and any other is settled. -/
def ChildBinding.event (child : ChildBinding) (type : TypeName) : Event :=
  match child.valueType.item? with
  | none => .skippedErased type child.accessor
  | some (.element target) => .resolvedChild type child.accessor target
  | some other => .skippedValue type child.accessor other

/-- What there is to tell of a type before its children. -/
def Vocabulary.opening (v : Vocabulary) (type : TypeName) : List Event :=
  .visitingType type (v.tag? type)
    :: (v.attributes type).map fun a => .foundAttribute type a.xmlName

/-- All that there is to tell of a type. -/
def Vocabulary.account (v : Vocabulary) (type : TypeName) : List Event :=
  v.opening type ++ (v.children type).map (·.event type)

/-- What the events tell of a type, in order. -/
def told (log : List Event) (type : TypeName) : List Event :=
  log.filter fun e => decide (e.subject? = some type)

@[simp] theorem told_append (log es : List Event) (type : TypeName) :
    told (log ++ es) type = told log type ++ told es type :=
  List.filter_append _ _

theorem told_singleton {e : Event} {type : TypeName} (h : e.subject? = some type) (t : TypeName) :
    told [e] t = if t = type then [e] else [] := by
  unfold told
  rw [List.filter_singleton, h]
  by_cases ht : t = type
  · simp [ht]
  · simp [ht, Ne.symm ht]

/-- Events of one type tell nothing of another one. -/
theorem told_of_forall {log : List Event} {type : TypeName}
    (h : ∀ e ∈ log, e.subject? = some type) (t : TypeName) :
    told log t = if t = type then log else [] := by
  induction log with
  | nil => simp [told]
  | cons e log ih =>
    obtain ⟨he, hlog⟩ := List.forall_mem_cons.1 h
    rw [← List.singleton_append, told_append, told_singleton he, ih hlog]
    split <;> rfl

namespace ChildBinding

variable {child : ChildBinding} {type : TypeName}

@[simp] theorem subject?_event (child : ChildBinding) (type : TypeName) :
    (child.event type).subject? = some type := by
  unfold event
  split <;> rfl

@[simp] theorem child?_event (child : ChildBinding) (type : TypeName) :
    (child.event type).child? = some child.accessor := by
  unfold event
  split <;> rfl

theorem event_of_skip {e : Event} (h : child.skip? type = some e) : child.event type = e := by
  unfold skip? at h
  unfold event
  split at h <;> simp_all

theorem event_of_element {target : TypeName} (h : child.valueType.elementType? = some target) :
    child.event type = .resolvedChild type child.accessor target := by
  unfold event
  rw [Vocabulary.elementType?_eq_some_iff.1 h]

/-- Only a list of unknown items is worth a warning. -/
theorem level_event_eq_warning_iff :
    (child.event type).level = .warning ↔ child.valueType = .erasedList := by
  unfold event ValueType.item?
  cases child.valueType with
  | list item => cases item <;> simp [Event.level]
  | _ => simp [Event.level]

end ChildBinding

variable {v : Vocabulary}

/-! ## In the middle of a walk -/

/-- What a task is to tell of a type on behalf of the children that are given to it. -/
def Task.due : Task → TypeName → List Event
  | .settleAll type _ children, t => if t = type then children.map (·.event type) else []
  | _, _ => []

/-- What the log has told of a type and what is pending make up the account of the type, if it is in
the context; if it is not, there is neither. -/
def Vocabulary.Balanced (v : Vocabulary) (w : Walk) (pending : TypeName → List Event) : Prop :=
  ∀ t, told w.history t ++ pending t = if t ∈ w.context.types then v.account t else []

theorem told_history_enter (w : Walk) (v : Vocabulary) (type t : TypeName) :
    told (w.enter v type).history t =
      told w.history t ++ if t = type then v.opening type else [] := by
  rw [Walk.history_enter, told_append]
  congr 1
  apply told_of_forall
  simp [Event.subject?]

/-- With the child at its head, a task is to tell one event more. -/
theorem Task.due_cons {type : TypeName} {id : Nat} {child : ChildBinding}
    {rest : List ChildBinding} (t : TypeName) :
    (Task.settleAll type id (child :: rest)).due t =
      told [child.event type] t ++ (Task.settleAll type id rest).due t := by
  rw [told_singleton (child.subject?_event type)]
  by_cases ht : t = type <;> simp [Task.due, ht]

namespace Vocabulary.Balanced

variable {w : Walk} {type : TypeName} {pending : TypeName → List Event}

/-- A type that is entered is told of at once, but for its children. -/
theorem enter (new : type ∉ w.context.types) (h : v.Balanced w pending) :
    v.Balanced (w.enter v type) fun t =>
      (Task.settleAll type w.context.size (v.children type)).due t ++ pending t := by
  intro t
  rw [told_history_enter, Walk.context_enter, Context.types_addType, if_neg new]
  by_cases ht : t = type
  · -- nothing has been told of the type before, and nothing else is pending
    subst ht
    have hnone := h t
    rw [if_neg new, List.append_eq_nil_iff] at hnone
    simp [hnone.1, hnone.2, Task.due, account]
  · simpa [Task.due, ht] using h t

/-- An event that was to be told next is told. -/
theorem tell {w' : Walk} {es : List Event} (h : v.Balanced w fun t => told es t ++ pending t)
    (hlog : w'.history = w.history ++ es) (htypes : w'.context.types = w.context.types) :
    v.Balanced w' pending := by
  intro t
  rw [hlog, htypes, told_append, List.append_assoc]
  exact h t

end Vocabulary.Balanced

/-- A run tells what its task is to tell, and of the types that it adds it tells the whole
account. -/
theorem Runs.balanced {task : Task} {w w' : Walk} (h : Runs v task w w')
    {pending : TypeName → List Event} (hw : v.Balanced w fun t => task.due t ++ pending t) :
    v.Balanced w' pending := by
  induction h generalizing pending with
  | known _ => exact hw
  | enter new _ _ ihbelow ihwithin => exact ihwithin (ihbelow (hw.enter new))
  | visitNil => exact hw
  | visitCons _ _ ihfirst ihothers => exact ihothers (ihfirst hw)
  | settleNil =>
    intro t
    simpa [Task.due] using hw t
  | @skip type id child rest e w w' skipped _ ihothers =>
    apply ihothers
    simp only [Task.due_cons, child.event_of_skip skipped, List.append_assoc] at hw
    exact hw.tell (w.history_note e) rfl
  | @settle type target id child rest w w₁ w₂ element _ _ ihfirst ihothers =>
    -- the events of the child's type come before that of the child
    apply ihothers
    have hfirst : v.Balanced w₁ fun t =>
      (Task.settleAll type id (child :: rest)).due t ++ pending t := ihfirst hw
    simp only [Task.due_cons, child.event_of_element element, List.append_assoc] at hfirst
    exact hfirst.tell (w₁.history_settle type id child target)
      (w₁.types_settle type id child target)

/-! ## When a walk has ended -/

/-- Nothing is left to be told of any type. -/
theorem Runs.told_eq {roots : List TypeName} {w : Walk} (h : Runs v (.visitAll roots) .start w)
    (t : TypeName) : told w.history t = if t ∈ w.context.types then v.account t else [] := by
  have hstart : v.Balanced .start fun t => (Task.visitAll roots).due t ++ [] := by
    intro t
    rfl
  have hend : v.Balanced w fun _ => [] := h.balanced hstart
  simpa using hend t

/-! ## The parts of an account -/

section Parts

variable {type : TypeName}

/-- Each attribute is told of once, in the order of the attributes. -/
theorem filterMap_attribute?_account (v : Vocabulary) (type : TypeName) :
    (v.account type).filterMap Event.attribute? = (v.attributes type).map (·.xmlName) := by
  have hopening : (v.opening type).filterMap Event.attribute? =
      (v.attributes type).map (·.xmlName) := by
    unfold Vocabulary.opening
    rw [List.filterMap_cons, List.filterMap_map]
    exact congrFun List.filterMap_eq_map _
  have hchildren : ∀ e ∈ (v.children type).map (·.event type), e.attribute? = none := by
    intro e he
    obtain ⟨child, _, rfl⟩ := List.mem_map.1 he
    unfold ChildBinding.event
    split <;> rfl
  rw [Vocabulary.account, List.filterMap_append, hopening, List.filterMap_eq_nil_iff.2 hchildren,
    List.append_nil]

/-- Each child is told of once. -/
theorem filter_child?_account {child : ChildBinding} (hmem : child ∈ v.children type) :
    (v.account type).filter (fun e => decide (e.child? = some child.accessor)) =
      [child.event type] := by
  have hopening : ∀ e ∈ v.opening type, ¬ decide (e.child? = some child.accessor) = true := by
    simp [Vocabulary.opening, Event.child?]
  have hsame : ∀ c ∈ v.children type,
      decide ((c.event type).child? = some child.accessor) = decide (c = child) := by
    intro c hc
    rw [ChildBinding.child?_event, decide_eq_decide, Option.some.injEq]
    constructor
    · intro h
      exact Registry.eq_of_accessor_eq hc hmem h
    · rintro rfl
      rfl
  have hnodup : (v.children type).Nodup := (v.registry.nodup_accessors type).of_map
  rw [Vocabulary.account, List.filter_append, List.filter_eq_nil_iff.2 hopening, List.nil_append,
    List.filter_map]
  show ((v.children type).filter fun c =>
    decide ((c.event type).child? = some child.accessor)).map _ = _
  rw [List.filter_congr hsame, List.filter_eq, List.count_eq_one_of_mem hnodup hmem]
  rfl

/-- There is a warning for each child that is a list of unknown items. -/
theorem countP_warning_account (v : Vocabulary) (type : TypeName) :
    (v.account type).countP (fun e => decide (e.level = .warning)) =
      (v.children type).countP fun child => decide (child.valueType = .erasedList) := by
  have hopening : ∀ e ∈ v.opening type, ¬ decide (e.level = .warning) = true := by
    simp [Vocabulary.opening, Event.level]
  rw [Vocabulary.account, List.countP_append, List.countP_eq_zero.2 hopening, Nat.zero_add,
    List.countP_map]
  apply List.countP_congr
  intro child _
  simp [ChildBinding.level_event_eq_warning_iff]

end Parts

/-- Events that tell of given types can be counted type by type. -/
theorem countP_eq_sum_told {log : List Event} {types : Finset TypeName} {p : Event → Bool}
    (h : ∀ e ∈ log, p e → ∃ t ∈ types, e.subject? = some t) :
    log.countP p = ∑ t ∈ types, (told log t).countP p := by
  induction log with
  | nil => simp [told]
  | cons e log ih =>
    obtain ⟨he, hlog⟩ := List.forall_mem_cons.1 h
    have hhead : [e].countP p = ∑ t ∈ types, (told [e] t).countP p := by
      by_cases hp : p e
      · obtain ⟨type, hmem, hsubject⟩ := he hp
        simp [told_singleton hsubject, apply_ite (List.countP p), hp, hmem]
      · have hnone : ∀ t, (told [e] t).countP p = 0 := by
          intro t
          apply List.countP_eq_zero.2
          intro x hx
          rwa [List.mem_singleton.1 (List.mem_filter.1 hx).1]
        simp [hp, hnone]
    rw [← List.singleton_append, List.countP_append, hhead, ih hlog, ← Finset.sum_add_distrib]
    simp only [told_append, List.countP_append]

/-! ## The events on the way to the hints -/

namespace Vocabulary

/-- The events on the way to the hints for a root, if the depth is enough. -/
def eventsFor (v : Vocabulary) (depth : Nat) (root : TypeName) : Option (List Event) :=
  (v.resolve depth root .start).map fun (id, w) => w.history ++ [(w.conclude root id).2]

/-- The log tells of each type that can be met from the root, and of all of its attributes and
children, once. -/
structure Accounted (v : Vocabulary) (root : TypeName) (log : List Event) : Prop where
  visits : ∀ t, v.Reaches root t → (visited log).count t = 1
  /-- The attributes are told of in order. -/
  attributes : ∀ t, v.Reaches root t →
    (told log t).filterMap Event.attribute? = (v.attributes t).map (·.xmlName)
  /-- With each child it is done in one way: settled, or passed over with a warning or without. -/
  children : ∀ t, v.Reaches root t → ∀ child ∈ v.children t,
    (told log t).filter (fun e => decide (e.child? = some child.accessor)) = [child.event t]
  /-- Nothing else is told of the type, and a child that is passed over is followed by the next. -/
  account : ∀ t, v.Reaches root t → told log t = v.account t
  /-- Of other types nothing is told. -/
  silent : ∀ t, ¬ v.Reaches root t → told log t = []
  warnings : ∃ reached : Finset TypeName, (∀ t, t ∈ reached ↔ v.Reaches root t) ∧
    log.countP (fun e => decide (e.level = .warning)) =
      ∑ t ∈ reached, (v.children t).countP fun child => decide (child.valueType = .erasedList)

variable {depth : Nat} {root : TypeName} {w : Walk}

theorem subject?_conclude (w : Walk) (root : TypeName) (id : Nat) :
    (w.conclude root id).2.subject? = none := by
  unfold Walk.conclude
  split <;> rfl

theorem visit?_conclude (w : Walk) (root : TypeName) (id : Nat) :
    (w.conclude root id).2.visit? = none := by
  unfold Walk.conclude
  split <;> rfl

/-- The last event tells of no type. -/
theorem told_concluded (h : v.visit depth root .start = some w) (id : Nat) (t : TypeName) :
    told (w.history ++ [(w.conclude root id).2]) t =
      if t ∈ w.context.types then v.account t else [] := by
  have hrun : Runs v (.visitAll [root]) .start w :=
    .visitCons (runs_of_visit depth root _ _ h) .visitNil
  have hlast : told [(w.conclude root id).2] t = [] := by
    simp [told, subject?_conclude]
  rw [told_append, hlast, List.append_nil, hrun.told_eq]

/-- There are as many warnings as the visited types have lists of unknown items. -/
theorem countP_warning_concluded (h : v.visit depth root .start = some w) (id : Nat) :
    (w.history ++ [(w.conclude root id).2]).countP (fun e => decide (e.level = .warning)) =
      ∑ t ∈ w.context.types.toFinset,
        (v.children t).countP fun child => decide (child.valueType = .erasedList) := by
  have htold := told_concluded h id
  have hsubject : ∀ e ∈ w.history ++ [(w.conclude root id).2], decide (e.level = .warning) = true →
      ∃ t ∈ w.context.types.toFinset, e.subject? = some t := by
    intro e he hlevel
    obtain ⟨t, ht⟩ : ∃ t, e.subject? = some t := by
      cases e with
      | skippedErased type accessor => exact ⟨type, rfl⟩
      | _ => simp [Event.level] at hlevel
    refine ⟨t, ?_, ht⟩
    have hmem : e ∈ told (w.history ++ [(w.conclude root id).2]) t :=
      List.mem_filter.2 ⟨he, by simp [ht]⟩
    rw [List.mem_toFinset]
    by_contra hnot
    rw [htold, if_neg hnot] at hmem
    cases hmem
  rw [countP_eq_sum_told hsubject]
  apply Finset.sum_congr rfl
  intro t ht
  rw [htold, if_pos (List.mem_toFinset.1 ht), countP_warning_account]

theorem accounted_of_visit (h : v.visit depth root .start = some w) (id : Nat) :
    v.Accounted root (w.history ++ [(w.conclude root id).2]) := by
  have hmem : ∀ t, t ∈ w.context.types ↔ v.Reaches root t := fun _ => mem_types_iff_reaches h
  have hvisited : visited (w.history ++ [(w.conclude root id).2]) = w.context.types := by
    rw [visited_append, (explored_of_visit h).steps.visited_eq]
    simp [visited, visit?_conclude]
  have haccount : ∀ t, v.Reaches root t →
      told (w.history ++ [(w.conclude root id).2]) t = v.account t := by
    intro t ht
    rw [told_concluded h id, if_pos ((hmem t).2 ht)]
  constructor
  case visits =>
    intro t ht
    rw [hvisited]
    exact List.count_eq_one_of_mem w.context.byType.nodup_keys ((hmem t).2 ht)
  case attributes =>
    intro t ht
    rw [haccount t ht, filterMap_attribute?_account]
  case children =>
    intro t ht child hchild
    rw [haccount t ht, filter_child?_account hchild]
  case account => exact haccount
  case silent =>
    intro t ht
    rw [told_concluded h id, if_neg fun hold => ht ((hmem t).1 hold)]
  case warnings =>
    exact ⟨w.context.types.toFinset, fun t => by rw [List.mem_toFinset, hmem],
      countP_warning_concluded h id⟩

/-- There is a log exactly if finitely many types can be met from the root, and it accounts for
each of them, each attribute and each child once. -/
theorem eventsFor_accounted {v : Vocabulary} (root : TypeName) :
    ((∃ depth log, v.eventsFor depth root = some log) ↔ {t | v.Reaches root t}.Finite) ∧
      ∀ depth log, v.eventsFor depth root = some log → v.Accounted root log := by
  constructor
  · rw [← exists_visit_iff_finite]
    constructor
    · rintro ⟨depth, log, h⟩
      obtain ⟨⟨_, w⟩, hresolve, _⟩ := Option.map_eq_some_iff.1 h
      exact ⟨depth, w, visit_of_resolve hresolve⟩
    · rintro ⟨depth, w, hw⟩
      obtain ⟨_, hresolve, _⟩ := exists_resolve_of_visit hw
      exact ⟨depth, _, Option.map_eq_some_iff.2 ⟨_, hresolve, rfl⟩⟩
  · intro depth log h
    obtain ⟨⟨id, w⟩, hresolve, rfl⟩ := Option.map_eq_some_iff.1 h
    exact accounted_of_visit (visit_of_resolve hresolve) id

end Vocabulary

namespace Generator

/-- A generator takes a depth that is enough. -/
theorem vocabulary_eventsFor (g : Generator) (root : TypeName) :
    g.vocabulary.eventsFor (g.depthFor root) root = some (g.eventsFor root) := by
  rw [Vocabulary.eventsFor, resolve_depthFor]
  rfl

/-- So its log accounts for everything. -/
theorem accounted (g : Generator) (root : TypeName) :
    g.vocabulary.Accounted root (g.eventsFor root) :=
  Vocabulary.accounted_of_visit (g.visit_depthFor root .start) _

end Generator

/-! ## Shelves

A shelf holds odds of unknown types, labels, and boxes, in this order. A box knows its shelf, and
may hold odds, too. -/

namespace Shelves

def shelf : TypeName := ⟨"Shelf"⟩

def box : TypeName := ⟨"Box"⟩

def registry : Registry where
  bindings := [
    ⟨shelf, none, some ⟨none⟩, [⟨"getRoom", none, .scalar "string"⟩, ⟨"isOpen", none, .boolean⟩],
      [⟨"getOdds", .reference, .erasedList⟩, ⟨"getLabels", .reference, .list (.scalar "string")⟩,
        ⟨"getBoxes", .reference, .list (.element box)⟩]⟩,
    ⟨box, none, some ⟨none⟩, [],
      [⟨"getShelf", .named "place", .element shelf⟩, ⟨"getOdds", .reference, .erasedList⟩]⟩]
  nodup_names := by decide

def vocabulary : Vocabulary := ⟨registry, registry.subtypes, none⟩

/-- The events of the box stand among those of the shelf, where it is settled. -/
example : (vocabulary.eventsFor 2 shelf).map (·.map Event.subject?) =
    some [some shelf, some shelf, some shelf, some shelf, some shelf, some box, some box, some box,
      some shelf, none] := by
  decide +kernel

theorem eventsFor_shelf_accounted : ∃ log, vocabulary.eventsFor 2 shelf = some log ∧
    vocabulary.Accounted shelf log ∧
      log.countP (fun e => decide (e.level = .warning)) = 2 := by
  obtain ⟨log, hlog, hcount⟩ : ∃ log, vocabulary.eventsFor 2 shelf = some log ∧
      log.countP (fun e => decide (e.level = .warning)) = 2 :=
    Option.map_eq_some_iff.1 (by decide +kernel)
  exact ⟨log, hlog, (Vocabulary.eventsFor_accounted shelf).2 2 log hlog, hcount⟩

end Shelves

end TagGrammar
