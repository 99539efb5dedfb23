import TagGrammar.Proofs.Walk.Calls

/-!
# What is done after a task has returned

When a task returns, those within which it was begun go on. What they do from then on changes none
of the descriptors that the task has created: a type whose children are settled was entered before
the task was begun, and so was its descriptor created before, while visits that are begun later
change only what they create themselves.

* `Calls.frame_after` — this holds when the outer task returns,
* `Precedes.frame` — and at every moment before that.
-/

namespace TagGrammar

variable {v : Vocabulary}

/-! ## The descriptors that are changed -/

/-- The descriptors that the task is to change are in the context. -/
def Task.HasOwn (task : Task) (c : Context) : Prop := ∀ id ∈ task.own, id < c.size

theorem hasOwn_visit (type : TypeName) (c : Context) : (Task.visit type).HasOwn c := by
  simp [Task.HasOwn, Task.own]

theorem hasOwn_visitAll (types : List TypeName) (c : Context) :
    (Task.visitAll types).HasOwn c := by
  simp [Task.HasOwn, Task.own]

/-- A type has its descriptor as soon as it is entered. -/
theorem hasOwn_settleAll {type : TypeName} {w w₁ : Walk} (children : List ChildBinding)
    (hsize : (w.enter v type).context.size ≤ w₁.context.size) :
    (Task.settleAll type w.context.size children).HasOwn w₁.context := by
  intro id hid
  have hself : id = w.context.size := hid
  rw [Walk.size_enter] at hsize
  exact hself ▸ hsize

theorem Task.HasOwn.mono {task : Task} {c c' : Context} (h : task.HasOwn c)
    (hsize : c.size ≤ c'.size) : task.HasOwn c' :=
  fun id hid => Nat.lt_of_lt_of_le (h id hid) hsize

theorem Task.HasOwn.subset {task : Task} {c : Context} (h : task.HasOwn c) :
    task.own ⊆ {id | id < c.size} := h

theorem Walk.size_le_settle (w : Walk) (type : TypeName) (id : Nat) (child : ChildBinding)
    (target : TypeName) : w.context.size ≤ (w.settle type id child target).context.size :=
  (w.frame_settle type id child target).size

theorem Calls.hasOwn {task sub : Task} {w u : Walk} {stack : List TypeName}
    (h : Calls v task w stack sub u) (hown : task.HasOwn w.context) : sub.HasOwn u.context := by
  induction h with
  | here => exact hown
  | subtypes _ _ ih => exact ih (hasOwn_visitAll _ _)
  | children _ below _ ih => exact ih (hasOwn_settleAll _ below.frame.size)
  | first _ ih => exact ih (hasOwn_visit _ _)
  | others _ _ ih => exact ih (hasOwn_visitAll _ _)
  | skip _ _ ih => exact ih hown
  | child _ _ ih => exact ih (hasOwn_visit _ _)
  | @settle type target id child _ _ w₁ _ _ _ _ first _ ih =>
    exact ih ((hown.mono first.frame.size).mono (w₁.size_le_settle type id child target))

/-! ## Until the outer task returns -/

/-- What is done after the inner task leaves alone what the inner task has created. -/
theorem Calls.frame_after {task sub : Task} {w w' u u' : Walk} {stack : List TypeName}
    (h : Calls v task u stack sub w) (hsub : Runs v sub w w') (htask : Runs v task u u')
    (hown : task.HasOwn u.context) :
    Context.Frame {id | id < w.context.size} w'.context u'.context := by
  induction h generalizing u' with
  | here =>
    rw [hsub.unique htask]
    exact .refl _ _
  | @subtypes type u w _ _ new call ih =>
    cases htask with
    | known seen => exact absurd seen new
    | enter _ below within =>
      -- the children of the type are attached to a descriptor that was there before `w`
      have hlater := (hasOwn_settleAll (v.children type) call.frame.size).subset
      exact (ih hsub below (hasOwn_visitAll _ _)).trans (within.frame.mono hlater)
  | @children type u w₁ w _ _ new below call ih =>
    cases htask with
    | known seen => exact absurd seen new
    | enter _ below' within =>
      cases below.unique below'
      exact ih hsub within (hasOwn_settleAll _ below.frame.size)
  | first _ ih =>
    cases htask with
    | visitCons first others =>
      have hfirst := ih hsub first (hasOwn_visit _ _)
      exact hfirst.trans (others.frame.mono (Set.empty_subset _))
  | others first _ ih =>
    cases htask with
    | visitCons first' others =>
      cases first.unique first'
      exact ih hsub others (hasOwn_visitAll _ _)
  | skip skipped _ ih =>
    cases htask with
    | skip skipped' others =>
      cases Option.some.inj (skipped.symm.trans skipped')
      exact ih hsub others hown
    | settle element _ _ => exact absurd skipped (Vocabulary.not_skipped element)
  | @child type target id child rest u w _ _ element call ih =>
    cases htask with
    | skip skipped _ => exact absurd skipped (Vocabulary.not_skipped element)
    | @settle _ _ _ _ _ _ w₁ _ element' first others =>
      cases Option.some.inj (element.symm.trans element')
      have hid := (hown.mono call.frame.size).subset
      have hfirst := ih hsub first (hasOwn_visit _ _)
      have hsettled := hfirst.trans ((w₁.frame_settle type id child target).mono hid)
      exact hsettled.trans (others.frame.mono hid)
  | @settle type target id child _ _ w₁ _ _ _ element first call ih =>
    cases htask with
    | skip skipped _ => exact absurd skipped (Vocabulary.not_skipped element)
    | settle element' first' others =>
      cases Option.some.inj (element.symm.trans element')
      cases first.unique first'
      have hsize := w₁.size_le_settle type id child target
      exact ih hsub others ((hown.mono first.frame.size).mono hsize)

/-! ## At every moment before that -/

/-- On the way of doing `task` from the state `u`, the task `sub` is begun in the state `w` and
returns, and after that the task `next` is begun in the state `x`. -/
inductive Precedes (v : Vocabulary) : Task → Walk → Task → Walk → Task → Walk → Prop where
  /-- Subtypes are visited before children are settled, -/
  | subtypes {type : TypeName} {u w₁ w x : Walk} {sub next : Task} {outer later : List TypeName}
      (new : type ∉ u.context.types)
      (call : Calls v (.visitAll (v.subtypes type)) (u.enter v type) outer sub w)
      (below : Runs v (.visitAll (v.subtypes type)) (u.enter v type) w₁)
      (after : Calls v (.settleAll type u.context.size (v.children type)) w₁ later next x) :
      Precedes v (.visit type) u sub w next x
  /-- types are visited one after another, -/
  | first {type : TypeName} {rest : List TypeName} {u w₁ w x : Walk} {sub next : Task}
      {outer later : List TypeName} (call : Calls v (.visit type) u outer sub w)
      (first : Runs v (.visit type) u w₁) (after : Calls v (.visitAll rest) w₁ later next x) :
      Precedes v (.visitAll (type :: rest)) u sub w next x
  /-- and so are children settled. -/
  | child {type target : TypeName} {id : Nat} {child : ChildBinding} {rest : List ChildBinding}
      {u w₁ w x : Walk} {sub next : Task} {outer later : List TypeName}
      (element : child.valueType.elementType? = some target)
      (call : Calls v (.visit target) u outer sub w) (first : Runs v (.visit target) u w₁)
      (after : Calls v (.settleAll type id rest) (w₁.settle type id child target) later next x) :
      Precedes v (.settleAll type id (child :: rest)) u sub w next x
  /-- All of this may happen within another task. -/
  | within {task inner sub next : Task} {u y w x : Walk} {outer : List TypeName}
      (call : Calls v task u outer inner y) (h : Precedes v inner y sub w next x) :
      Precedes v task u sub w next x

/-- What is done until the later task is begun leaves alone what the earlier one has created. -/
theorem Precedes.frame {task sub next : Task} {u w w' x : Walk}
    (h : Precedes v task u sub w next x) (hsub : Runs v sub w w')
    (hown : task.HasOwn u.context) :
    Context.Frame {id | id < w.context.size} w'.context x.context := by
  induction h with
  | @subtypes type _ _ _ _ _ _ _ _ new call below after =>
    have hlater := (hasOwn_settleAll (v.children type) call.frame.size).subset
    exact (call.frame_after hsub below (hasOwn_visitAll _ _)).trans (after.frame.mono hlater)
  | first call first after =>
    have hfirst := call.frame_after hsub first (hasOwn_visit _ _)
    exact hfirst.trans (after.frame.mono (Set.empty_subset _))
  | @child type target id child _ _ w₁ _ _ _ _ _ _ element call first after =>
    have hid := (hown.mono call.frame.size).subset
    have hfirst := call.frame_after hsub first (hasOwn_visit _ _)
    have hsettled := hfirst.trans ((w₁.frame_settle type id child target).mono hid)
    exact hsettled.trans (after.frame.mono hid)
  | within call _ ih => exact ih hsub (call.hasOwn hown)

end TagGrammar
