import TagGrammar.Proofs.Walk.Steps

/-!
# A walk leaves nothing unfinished

A type that is met again while it is still being visited is left alone, so what holds of all visited
types holds only between the outermost visits. What is true at every moment is that a visited type
either is finished, or leads to the type that is being visited. `Runs.explores` keeps this up
through a whole run, and finds two things at its end: the run was made of steps, and every type
that is new is finished.
-/

namespace TagGrammar

variable {v : Vocabulary}

namespace Vocabulary

/-- Nothing is left to do for a type: its subtypes are visited, and its children settled. -/
structure Finished (v : Vocabulary) (w : Walk) (type : TypeName) : Prop where
  subtypes : ∀ sub ∈ v.subtypes type, sub ∈ w.context.types
  children : v.AllSettled w.history type

theorem Finished.mono {w w' : Walk} {type : TypeName} (h : Extends w w')
    (hf : v.Finished w type) : v.Finished w' type where
  subtypes sub hsub := h.types (hf.subtypes sub hsub)
  children := h.allSettled hf.children

/-- Each visited type is finished, or leads to the type that is to be visited. -/
def Awaits (v : Vocabulary) (w : Walk) (type : TypeName) : Prop :=
  ∀ t ∈ w.context.types, v.Finished w t ∨ v.Reaches t type

theorem Awaits.subtype {w : Walk} {type sub : TypeName} (h : v.Awaits w type)
    (mem : sub ∈ v.subtypes type) : v.Awaits w sub :=
  fun t ht => (h t ht).imp id fun hr => hr.subtype mem

theorem Awaits.child {w : Walk} {type target : TypeName} {child : ChildBinding}
    (h : v.Awaits w type) (mem : child ∈ v.children type)
    (element : child.valueType.elementType? = some target) : v.Awaits w target :=
  fun t ht => (h t ht).imp id fun hr => hr.child mem element

/-- What is added after `w` is finished, so `w'` awaits what `w` awaits. -/
theorem Awaits.extend {w w' : Walk} {type : TypeName} (h : v.Awaits w type) (hx : Extends w w')
    (hnew : ∀ t ∈ w'.context.types, t ∈ w.context.types ∨ v.Finished w' t) : v.Awaits w' type := by
  intro t ht
  rcases hnew t ht with hold | hfin
  · exact (h t hold).imp (Finished.mono hx) id
  · exact .inl hfin

end Vocabulary

namespace Task

/-- The types that a task asks to be visited. -/
def targets : Task → List TypeName
  | .visit type => [type]
  | .visitAll types => types
  | .settleAll _ _ children => children.filterMap (·.valueType.elementType?)

/-- What a task needs to be done properly. -/
def Ready (v : Vocabulary) (w : Walk) : Task → Prop
  | .visit type => v.Awaits w type
  | .visitAll types => ∀ type ∈ types, v.Awaits w type
  | .settleAll type id children =>
    w.context.idOf? type = some id ∧ children ⊆ v.children type ∧ v.Awaits w type

/-- What a task leaves behind. -/
def Done (w : Walk) : Task → Prop
  | .visit type => type ∈ w.context.types
  | .visitAll types => ∀ type ∈ types, type ∈ w.context.types
  | .settleAll type _ children => ∀ child ∈ children, ∀ target,
      child.valueType.elementType? = some target → Settled w.history type child

end Task

/-- What a run comes to. -/
structure Explored (v : Vocabulary) (task : Task) (w w' : Walk) : Prop where
  /-- The run was made of steps. -/
  steps : Steps v w w'
  /-- The task is done. -/
  done : task.Done w'
  /-- What is new is finished, and the task led to it. -/
  fresh : ∀ t ∈ w'.context.types, t ∈ w.context.types ∨
    (v.Finished w' t ∧ ∃ origin ∈ task.targets, v.Reaches origin t)

namespace Explored

theorem fresh_or_finished {task : Task} {w w' : Walk} (h : Explored v task w w') :
    ∀ t ∈ w'.context.types, t ∈ w.context.types ∨ v.Finished w' t :=
  fun t ht => (h.fresh t ht).imp id And.left

/-- One run after another: what is new after the second is new after one of them. -/
theorem fresh_trans {first second : Task} (task : Task) {w w₁ w₂ : Walk}
    (h₁ : Explored v first w w₁) (h₂ : Explored v second w₁ w₂)
    (hfirst : ∀ origin ∈ first.targets, ∃ o ∈ task.targets, v.Reaches o origin)
    (hsecond : ∀ origin ∈ second.targets, ∃ o ∈ task.targets, v.Reaches o origin) :
    ∀ t ∈ w₂.context.types, t ∈ w.context.types ∨
      (v.Finished w₂ t ∧ ∃ origin ∈ task.targets, v.Reaches origin t) := by
  intro t ht
  rcases h₂.fresh t ht with ht₁ | ⟨hfin, origin, ho, hr⟩
  · rcases h₁.fresh t ht₁ with hold | ⟨hfin, origin, ho, hr⟩
    · exact .inl hold
    · obtain ⟨o, hmem, hro⟩ := hfirst origin ho
      exact .inr ⟨hfin.mono h₂.steps.extends, o, hmem, hro.trans hr⟩
  · obtain ⟨o, hmem, hro⟩ := hsecond origin ho
    exact .inr ⟨hfin, o, hmem, hro.trans hr⟩

end Explored

/-! ## The cases of a run -/

theorem awaits_enter {w : Walk} {type : TypeName} (new : type ∉ w.context.types)
    (h : v.Awaits w type) : v.Awaits (w.enter v type) type := by
  intro t ht
  have hx : Extends w (w.enter v type) := (Step.enter new).extends
  rw [Walk.context_enter, Context.mem_types_addType new] at ht
  rcases ht with hold | rfl
  · exact (h t hold).imp (Vocabulary.Finished.mono hx) id
  · right
    exact .refl

theorem explored_enter {type : TypeName} {w w₁ w₂ : Walk} (new : type ∉ w.context.types)
    (hbelow : Explored v (.visitAll (v.subtypes type)) (w.enter v type) w₁)
    (hwithin : Explored v (.settleAll type w.context.size (v.children type)) w₁ w₂) :
    Explored v (.visit type) w w₂ := by
  have hx := hbelow.steps.extends.trans hwithin.steps.extends
  have hself : type ∈ (w.enter v type).context.types := by
    rw [Walk.context_enter, Context.mem_types_addType new]
    exact .inr rfl
  have hfinished : v.Finished w₂ type := by
    constructor
    · intro sub hsub
      exact hwithin.steps.extends.types (hbelow.done sub hsub)
    · exact hwithin.done
  have hsub : ∀ origin ∈ v.subtypes type, ∃ o ∈ [type], v.Reaches o origin := by
    intro origin hmem
    exact ⟨type, List.mem_singleton.2 rfl, .subtype .refl hmem⟩
  have hchild : ∀ origin ∈ (v.children type).filterMap (·.valueType.elementType?),
      ∃ o ∈ [type], v.Reaches o origin := by
    intro origin hmem
    exact ⟨type, List.mem_singleton.2 rfl, Vocabulary.Reaches.refl.elementType hmem⟩
  refine ⟨.head (.enter new) (hbelow.steps.trans hwithin.steps), hx.types hself, ?_⟩
  intro t ht
  rcases hbelow.fresh_trans (.visit type) hwithin hsub hchild t ht with hmem | hnew
  · rw [Walk.context_enter, Context.mem_types_addType new] at hmem
    rcases hmem with hold | rfl
    · exact .inl hold
    · exact .inr ⟨hfinished, t, List.mem_singleton.2 rfl, .refl⟩
  · exact .inr hnew

theorem explored_visitCons {type : TypeName} {rest : List TypeName} {w w₁ w₂ : Walk}
    (hfirst : Explored v (.visit type) w w₁) (hothers : Explored v (.visitAll rest) w₁ w₂) :
    Explored v (.visitAll (type :: rest)) w w₂ := by
  refine ⟨hfirst.steps.trans hothers.steps, ?_, ?_⟩
  · intro t ht
    rcases List.mem_cons.1 ht with rfl | ht
    · exact hothers.steps.extends.types hfirst.done
    · exact hothers.done t ht
  · apply hfirst.fresh_trans _ hothers
    · intro origin ho
      rw [List.mem_singleton.1 ho]
      exact ⟨type, List.mem_cons_self, .refl⟩
    · intro origin ho
      exact ⟨origin, List.mem_cons_of_mem _ ho, .refl⟩

theorem exists_target_of_mem_rest {type : TypeName} {id : Nat} {child : ChildBinding}
    {rest : List ChildBinding} {origin : TypeName}
    (h : origin ∈ (Task.settleAll type id rest).targets) :
    ∃ o ∈ (Task.settleAll type id (child :: rest)).targets, v.Reaches o origin := by
  obtain ⟨c, hc, hct⟩ := List.mem_filterMap.1 h
  exact ⟨origin, List.mem_filterMap.2 ⟨c, List.mem_cons_of_mem _ hc, hct⟩, .refl⟩

theorem explored_skip {type : TypeName} {id : Nat} {child : ChildBinding}
    {rest : List ChildBinding} {e : Event} {w w' : Walk} (skipped : child.skip? type = some e)
    (hstep : Step v w (w.note e)) (hothers : Explored v (.settleAll type id rest) (w.note e) w') :
    Explored v (.settleAll type id (child :: rest)) w w' := by
  refine ⟨.head hstep hothers.steps, ?_, ?_⟩
  · intro c hc target ht
    rcases List.mem_cons.1 hc with rfl | hc
    · exact absurd skipped (Vocabulary.not_skipped ht)
    · exact hothers.done c hc target ht
  · intro t ht
    rcases hothers.fresh t ht with hold | ⟨hfin, origin, ho, hr⟩
    · exact .inl hold
    · obtain ⟨o, hmem, hro⟩ := exists_target_of_mem_rest ho
      exact .inr ⟨hfin, o, hmem, hro.trans hr⟩

theorem explored_settle {type target : TypeName} {i : Nat} {child : ChildBinding}
    {rest : List ChildBinding} {w w₁ w₂ : Walk}
    (element : child.valueType.elementType? = some target)
    (hfirst : Explored v (.visit target) w w₁) (hstep : Step v w₁ (w₁.settle type i child target))
    (hothers : Explored v (.settleAll type i rest) (w₁.settle type i child target) w₂) :
    Explored v (.settleAll type i (child :: rest)) w w₂ := by
  have hx := hstep.extends
  -- the visit of the child's type, together with the step that settles the child
  have hfirst' : Explored v (.visit target) w (w₁.settle type i child target) := by
    refine ⟨hfirst.steps.tail hstep, hx.types hfirst.done, ?_⟩
    intro t ht
    rw [Walk.types_settle] at ht
    exact (hfirst.fresh t ht).imp id fun ⟨hfin, hreach⟩ => ⟨hfin.mono hx, hreach⟩
  refine ⟨hfirst'.steps.trans hothers.steps, ?_, ?_⟩
  · intro c hc t ht
    rcases List.mem_cons.1 hc with rfl | hc
    · apply Settled.mono hothers.steps.extends.history.subset
      refine ⟨target, element, ?_⟩
      rw [Walk.history_settle]
      simp
    · exact hothers.done c hc t ht
  · apply hfirst'.fresh_trans _ hothers
    · intro origin ho
      rw [List.mem_singleton.1 ho]
      exact ⟨target, List.mem_filterMap.2 ⟨child, List.mem_cons_self, element⟩, .refl⟩
    · intro origin ho
      exact exists_target_of_mem_rest ho

/-! ## Runs -/

/-- A run that is started properly is made of steps, and finishes all types that it visits. -/
theorem Runs.explores {task : Task} {w w' : Walk} (h : Runs v task w w') (hready : task.Ready v w) :
    Explored v task w w' := by
  induction h with
  | known seen => exact ⟨.refl, seen, fun _ ht => .inl ht⟩
  | enter new _ _ ihbelow ihwithin =>
    -- the type itself is not finished, but leads to all that is visited below it
    have hself := awaits_enter new hready
    have hbelow := ihbelow fun sub hsub => hself.subtype hsub
    have hx := hbelow.steps.extends
    have hwithin := ihwithin ⟨hx.idOf? (Walk.idOf?_enter _ v _), List.Subset.refl _,
      hself.extend hx hbelow.fresh_or_finished⟩
    exact explored_enter new hbelow hwithin
  | visitNil => exact ⟨.refl, by simp [Task.Done], fun _ ht => .inl ht⟩
  | @visitCons type rest _ _ _ _ _ ihfirst ihothers =>
    have hfirst := ihfirst (hready type List.mem_cons_self)
    have hx := hfirst.steps.extends
    have hothers := ihothers fun t ht =>
      (hready t (List.mem_cons_of_mem _ ht)).extend hx hfirst.fresh_or_finished
    exact explored_visitCons hfirst hothers
  | settleNil => exact ⟨.refl, by simp [Task.Done], fun _ ht => .inl ht⟩
  | @skip type i child rest e w _ skipped _ ihothers =>
    obtain ⟨hfound, hsub, hawaits⟩ := hready
    have hstep : Step v w (w.note e) :=
      .skip (Context.mem_types_iff.2 ⟨i, hfound⟩) (hsub List.mem_cons_self) skipped
    have hothers := ihothers ⟨hfound, fun c hc => hsub (List.mem_cons_of_mem _ hc),
      hawaits.extend hstep.extends fun t ht => .inl ht⟩
    exact explored_skip skipped hstep hothers
  | @settle type target i child rest w w₁ _ element _ _ ihfirst ihothers =>
    obtain ⟨hfound, hsub, hawaits⟩ := hready
    have hmem : child ∈ v.children type := hsub List.mem_cons_self
    have hfirst := ihfirst (hawaits.child hmem element)
    have hx := hfirst.steps.extends
    have hawaits₁ := hawaits.extend hx hfirst.fresh_or_finished
    -- the type of the child is finished by now, unless the walk came here through it
    have hready₁ : v.AllSettled w₁.history target ∨ v.Reaches target type :=
      (hawaits₁ target hfirst.done).imp Vocabulary.Finished.children id
    have hstep : Step v w₁ (w₁.settle type i child target) :=
      .settle (hx.idOf? hfound) hmem element hfirst.done hready₁
    have hothers := ihothers ⟨hstep.extends.idOf? (hx.idOf? hfound),
      fun c hc => hsub (List.mem_cons_of_mem _ hc), hawaits₁.extend hstep.extends fun t ht =>
        .inl (Walk.types_settle _ _ _ _ _ ▸ ht)⟩
    exact explored_settle element hfirst hstep hothers

end TagGrammar
