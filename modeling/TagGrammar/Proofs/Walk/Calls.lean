import TagGrammar.Proofs.Walk.Exploration
import TagGrammar.Proofs.Walk.Frame

/-!
# Calls within calls

While a task is being done, other tasks are begun: a visit to a type asks for visits to its subtypes
and to the types of its children. `Calls v task w stack sub u` says that on the way of doing `task`
from the state `w`, the task `sub` is begun in the state `u`, while the visits to the types in
`stack` are under way. It asks nothing of what comes after, so it holds in the middle of a run, and
of runs that have no end.

* `Calls.underWay` — the types under way are distinct. None of them was known when the outer task
  began, and all of them are known when the inner task begins.
* `Vocabulary.perform_eq_some_iff` — the depth that a walk takes is the number of visits under way,
  that of a new type included.
* `Calls.frame` — what happens before the inner task changes no descriptor that was there when the
  outer task began, but for the one that the outer task is to change.
-/

namespace TagGrammar

/-- On the way of doing a task from the state `w`, the task `sub` is begun in the state `u`, within
visits to the types in `stack`, of which the outermost comes first. -/
inductive Calls (v : Vocabulary) : Task → Walk → List TypeName → Task → Walk → Prop where
  | here {task : Task} {w : Walk} : Calls v task w [] task w
  /-- A visit to a type is under way while its subtypes are visited, -/
  | subtypes {type : TypeName} {w u : Walk} {stack : List TypeName} {sub : Task}
      (new : type ∉ w.context.types)
      (call : Calls v (.visitAll (v.subtypes type)) (w.enter v type) stack sub u) :
      Calls v (.visit type) w (type :: stack) sub u
  /-- and after that while its children are settled. -/
  | children {type : TypeName} {w w₁ u : Walk} {stack : List TypeName} {sub : Task}
      (new : type ∉ w.context.types)
      (below : Runs v (.visitAll (v.subtypes type)) (w.enter v type) w₁)
      (call : Calls v (.settleAll type w.context.size (v.children type)) w₁ stack sub u) :
      Calls v (.visit type) w (type :: stack) sub u
  | first {type : TypeName} {rest : List TypeName} {w u : Walk} {stack : List TypeName} {sub : Task}
      (call : Calls v (.visit type) w stack sub u) :
      Calls v (.visitAll (type :: rest)) w stack sub u
  | others {type : TypeName} {rest : List TypeName} {w w₁ u : Walk} {stack : List TypeName}
      {sub : Task} (first : Runs v (.visit type) w w₁)
      (call : Calls v (.visitAll rest) w₁ stack sub u) :
      Calls v (.visitAll (type :: rest)) w stack sub u
  | skip {type : TypeName} {id : Nat} {child : ChildBinding} {rest : List ChildBinding} {e : Event}
      {w u : Walk} {stack : List TypeName} {sub : Task} (skipped : child.skip? type = some e)
      (call : Calls v (.settleAll type id rest) (w.note e) stack sub u) :
      Calls v (.settleAll type id (child :: rest)) w stack sub u
  | child {type target : TypeName} {id : Nat} {child : ChildBinding} {rest : List ChildBinding}
      {w u : Walk} {stack : List TypeName} {sub : Task}
      (element : child.valueType.elementType? = some target)
      (call : Calls v (.visit target) w stack sub u) :
      Calls v (.settleAll type id (child :: rest)) w stack sub u
  | settle {type target : TypeName} {id : Nat} {child : ChildBinding} {rest : List ChildBinding}
      {w w₁ u : Walk} {stack : List TypeName} {sub : Task}
      (element : child.valueType.elementType? = some target)
      (first : Runs v (.visit target) w w₁)
      (call : Calls v (.settleAll type id rest) (w₁.settle type id child target) stack sub u) :
      Calls v (.settleAll type id (child :: rest)) w stack sub u

variable {v : Vocabulary}

/-- A task is done in one way only. -/
theorem Runs.unique {task : Task} {w w₁ w₂ : Walk} (h₁ : Runs v task w w₁)
    (h₂ : Runs v task w w₂) : w₁ = w₂ := by
  obtain ⟨m, hm⟩ := Vocabulary.perform_of_runs h₁
  obtain ⟨n, hn⟩ := Vocabulary.perform_of_runs h₂
  have hm' := hm (max m n) (Nat.le_max_left m n)
  have hn' := hn (max m n) (Nat.le_max_right m n)
  rw [hm'] at hn'
  exact Option.some.inj hn'

/-! ## What is known when a task is begun -/

section Begun

variable {task sub : Task} {w u : Walk} {stack : List TypeName}

/-- Up to the beginning of the inner task, the walk does what any run does. -/
theorem Calls.extends (h : Calls v task w stack sub u) : Extends w u := by
  induction h with
  | here => exact .refl _
  | subtypes new _ ih => exact (Walk.extends_enter new).trans ih
  | children new below _ ih => exact (Walk.extends_enter new).trans (below.extends.trans ih)
  | first _ ih => exact ih
  | others first _ ih => exact first.extends.trans ih
  | skip _ _ ih => exact (Walk.extends_note _ _).trans ih
  | child _ _ ih => exact ih
  | settle _ first _ ih => exact first.extends.trans ((Walk.extends_settle _ _ _ _ _).trans ih)

/-- A task that is begun within an inner task is begun within the outer one. -/
theorem Calls.trans {last : Task} {x : Walk} {more : List TypeName}
    (h : Calls v task w stack sub u) (hmore : Calls v sub u more last x) :
    Calls v task w (stack ++ more) last x := by
  induction h with
  | here => exact hmore
  | subtypes new _ ih => exact .subtypes new (ih hmore)
  | children new below _ ih => exact .children new below (ih hmore)
  | first _ ih => exact .first (ih hmore)
  | others first _ ih => exact .others first (ih hmore)
  | skip skipped _ ih => exact .skip skipped (ih hmore)
  | child element _ ih => exact .child element (ih hmore)
  | settle element first _ ih => exact .settle element first (ih hmore)

/-- A visit to a new type comes under way itself. -/
theorem Calls.enter {type : TypeName} (h : Calls v task w stack (.visit type) u)
    (new : type ∉ u.context.types) :
    Calls v task w (stack ++ [type]) (.visitAll (v.subtypes type)) (u.enter v type) :=
  h.trans (.subtypes new .here)

theorem Calls.frame (h : Calls v task w stack sub u) :
    Context.Frame task.own w.context u.context := by
  induction h with
  | here => exact .refl _ _
  | subtypes new _ ih => exact (Walk.frame_enter v new).trans ih
  | children new below _ ih =>
    exact ((Walk.frame_enter v new).trans below.frame).trans_first ih
  | first _ ih => exact ih
  | others first _ ih => exact first.frame.trans ih
  | skip _ _ ih => exact ih
  | @child _ _ id _ _ _ _ _ _ _ _ ih => exact ih.mono (Set.empty_subset {id})
  | @settle type target id child _ _ w₁ _ _ _ _ first _ ih =>
    have hfirst := first.frame.mono (Set.empty_subset {id})
    exact (hfirst.trans (w₁.frame_settle type id child target)).trans ih

/-- The types in the stack are distinct, and they have become known on the way from `w` to `u`. -/
structure UnderWay (w u : Walk) (stack : List TypeName) : Prop where
  nodup : stack.Nodup
  new : ∀ t ∈ stack, t ∉ w.context.types
  known : ∀ t ∈ stack, t ∈ u.context.types

namespace UnderWay

variable {w₁ : Walk}

theorem nil (w u : Walk) : UnderWay w u [] := ⟨.nil, by simp, by simp⟩

theorem of_extends (hs : UnderWay w₁ u stack) (h : Extends w w₁) : UnderWay w u stack where
  nodup := hs.nodup
  new t ht hw := hs.new t ht (h.types hw)
  known := hs.known

/-- A type is known as soon as it is entered, so it does not come under way again. -/
theorem enter {type : TypeName} (hs : UnderWay w₁ u stack) (new : type ∉ w.context.types)
    (h₁ : Extends (w.enter v type) w₁) (hu : Extends w₁ u) : UnderWay w u (type :: stack) := by
  have hself : type ∈ w₁.context.types := by
    apply h₁.types
    rw [Walk.context_enter, Context.mem_types_addType new]
    exact .inr rfl
  constructor
  · exact List.nodup_cons.2 ⟨fun hmem => hs.new type hmem hself, hs.nodup⟩
  · intro t ht
    rcases List.mem_cons.1 ht with rfl | ht
    · exact new
    · exact (hs.of_extends ((Walk.extends_enter new).trans h₁)).new t ht
  · intro t ht
    rcases List.mem_cons.1 ht with rfl | ht
    · exact hu.types hself
    · exact hs.known t ht

end UnderWay

theorem Calls.underWay (h : Calls v task w stack sub u) : UnderWay w u stack := by
  induction h with
  | here => exact .nil _ _
  | subtypes new call ih => exact ih.enter new (.refl _) call.extends
  | children new below call ih => exact ih.enter new below.extends call.extends
  | first _ ih => exact ih
  | others first _ ih => exact ih.of_extends first.extends
  | skip _ _ ih => exact ih.of_extends (Walk.extends_note _ _)
  | child _ _ ih => exact ih
  | settle _ first _ ih =>
    exact ih.of_extends (first.extends.trans (Walk.extends_settle _ _ _ _ _))

/-- A visit that is under way was begun within those before it in the stack, when its type was not
known yet. -/
theorem Calls.exists_begun (h : Calls v task w stack sub u) {outer inner : List TypeName}
    {t : TypeName} (hstack : stack = outer ++ t :: inner) :
    ∃ x, Calls v task w outer (.visit t) x ∧ t ∉ x.context.types := by
  induction h generalizing outer with
  | here => simp at hstack
  | @subtypes type w _ _ _ new _ ih =>
    -- with nothing before `t` in the stack, it is the type that is entered here
    cases outer with
    | nil =>
      injection hstack with htype _
      exact ⟨w, htype ▸ .here, htype ▸ new⟩
    | cons first outer =>
      injection hstack with htype hstack
      obtain ⟨x, call, hx⟩ := ih hstack
      exact ⟨x, htype ▸ .subtypes new call, hx⟩
  | @children type w _ _ _ _ new below _ ih =>
    cases outer with
    | nil =>
      injection hstack with htype _
      exact ⟨w, htype ▸ .here, htype ▸ new⟩
    | cons first outer =>
      injection hstack with htype hstack
      obtain ⟨x, call, hx⟩ := ih hstack
      exact ⟨x, htype ▸ .children new below call, hx⟩
  | first _ ih =>
    obtain ⟨x, call, hx⟩ := ih hstack
    exact ⟨x, .first call, hx⟩
  | others first _ ih =>
    obtain ⟨x, call, hx⟩ := ih hstack
    exact ⟨x, .others first call, hx⟩
  | skip skipped _ ih =>
    obtain ⟨x, call, hx⟩ := ih hstack
    exact ⟨x, .skip skipped call, hx⟩
  | child element _ ih =>
    obtain ⟨x, call, hx⟩ := ih hstack
    exact ⟨x, .child element call, hx⟩
  | settle element first _ ih =>
    obtain ⟨x, call, hx⟩ := ih hstack
    exact ⟨x, .settle element first call, hx⟩

/-- The outer task leads to all types that are under way. -/
theorem Calls.exists_reaches (h : Calls v task w stack sub u) :
    ∀ t ∈ stack, ∃ origin ∈ task.targets, v.Reaches origin t := by
  induction h with
  | here => simp
  | @subtypes type _ _ _ _ _ _ ih =>
    intro t ht
    refine ⟨type, List.mem_singleton.2 rfl, ?_⟩
    rcases List.mem_cons.1 ht with rfl | ht
    · exact .refl
    · obtain ⟨next, hnext, hr⟩ := ih t ht
      exact (Vocabulary.Reaches.subtype .refl hnext).trans hr
  | @children type _ _ _ _ _ _ _ _ ih =>
    intro t ht
    refine ⟨type, List.mem_singleton.2 rfl, ?_⟩
    rcases List.mem_cons.1 ht with rfl | ht
    · exact .refl
    · obtain ⟨next, hnext, hr⟩ := ih t ht
      exact (Vocabulary.Reaches.refl.elementType hnext).trans hr
  | first _ ih =>
    intro t ht
    obtain ⟨origin, ho, hr⟩ := ih t ht
    exact ⟨origin, List.mem_cons.2 (.inl (List.mem_singleton.1 ho)), hr⟩
  | others _ _ ih =>
    intro t ht
    obtain ⟨origin, ho, hr⟩ := ih t ht
    exact ⟨origin, List.mem_cons_of_mem _ ho, hr⟩
  | skip _ _ ih | settle _ _ _ ih =>
    intro t ht
    obtain ⟨origin, ho, hr⟩ := ih t ht
    obtain ⟨o, hmem, hro⟩ := exists_target_of_mem_rest ho
    exact ⟨o, hmem, hro.trans hr⟩
  | @child type target _ child _ _ _ _ _ element _ ih =>
    intro t ht
    obtain ⟨origin, ho, hr⟩ := ih t ht
    rw [List.mem_singleton.1 ho] at hr
    exact ⟨target, List.mem_filterMap.2 ⟨child, List.mem_cons_self, element⟩, hr⟩

end Begun

/-! ## How many visits are under way -/

namespace Vocabulary

/-- Every visit to a new type that the task asks for is begun within fewer than `depth` others. -/
def DeepEnough (v : Vocabulary) (depth : Nat) (task : Task) (w : Walk) : Prop :=
  ∀ stack t u, Calls v task w stack (.visit t) u → t ∉ u.context.types → stack.length < depth

theorem perform_of_deepEnough {depth : Nat} {task : Task} {w w' : Walk} (h : Runs v task w w')
    (hdeep : v.DeepEnough depth task w) : v.perform depth task w = some w' := by
  induction h generalizing depth with
  | known seen => exact visit_of_mem seen
  | @enter type w w₁ w₂ new below _ ihbelow ihwithin =>
    have hpos : 0 < depth := hdeep [] type w .here new
    obtain ⟨depth, rfl⟩ : ∃ d, depth = d + 1 := ⟨depth - 1, by omega⟩
    refine (perform_new_iff new).2 ⟨w₁, ihbelow ?_, ihwithin ?_⟩
    · intro stack t u call ht
      exact Nat.lt_of_succ_lt_succ (hdeep (type :: stack) t u (.subtypes new call) ht)
    · intro stack t u call ht
      exact Nat.lt_of_succ_lt_succ (hdeep (type :: stack) t u (.children new below call) ht)
  | visitNil => rfl
  | @visitCons type rest w w₁ w₂ first _ ihfirst ihothers =>
    have h₁ := ihfirst fun stack t u call => hdeep stack t u (.first call)
    have h₂ := ihothers fun stack t u call => hdeep stack t u (.others first call)
    exact perform_visitCons_iff.2 ⟨w₁, h₁, h₂⟩
  | settleNil => rfl
  | skip skipped _ ihothers =>
    rw [perform_skip skipped]
    exact ihothers fun stack t u call => hdeep stack t u (.skip skipped call)
  | @settle type target id child rest w w₁ w₂ element first _ ihfirst ihothers =>
    have h₁ := ihfirst fun stack t u call => hdeep stack t u (.child element call)
    have h₂ := ihothers fun stack t u call => hdeep stack t u (.settle element first call)
    exact (perform_element_iff element).2 ⟨w₁, h₁, h₂⟩

theorem deepEnough_of_perform {depth : Nat} {task : Task} {w w' : Walk}
    (h : v.perform depth task w = some w') : v.DeepEnough depth task w := by
  intro stack t u call
  generalize hsub : Task.visit t = sub at call
  induction call generalizing depth w' with
  | here =>
    intro new
    subst hsub
    cases depth with
    | zero =>
      rw [perform_zero v new] at h
      cases h
    | succ depth => exact Nat.succ_pos depth
  | subtypes new _ ih =>
    intro ht
    cases depth with
    | zero =>
      rw [perform_zero v new] at h
      cases h
    | succ depth =>
      obtain ⟨_, h₁, _⟩ := (perform_new_iff new).1 h
      exact Nat.succ_lt_succ (ih h₁ hsub ht)
  | children new below _ ih =>
    intro ht
    cases depth with
    | zero =>
      rw [perform_zero v new] at h
      cases h
    | succ depth =>
      -- the children are begun in the state of which `call` speaks, as there is no other
      obtain ⟨_, h₁, h₂⟩ := (perform_new_iff new).1 h
      rw [(runs_of_perform h₁).unique below] at h₂
      exact Nat.succ_lt_succ (ih h₂ hsub ht)
  | first _ ih =>
    obtain ⟨_, h₁, _⟩ := perform_visitCons_iff.1 h
    exact ih h₁ hsub
  | others first _ ih =>
    obtain ⟨_, h₁, h₂⟩ := perform_visitCons_iff.1 h
    rw [(runs_of_perform h₁).unique first] at h₂
    exact ih h₂ hsub
  | skip skipped _ ih =>
    rw [perform_skip skipped] at h
    exact ih h hsub
  | child element _ ih =>
    obtain ⟨_, h₁, _⟩ := (perform_element_iff element).1 h
    exact ih h₁ hsub
  | settle element first _ ih =>
    obtain ⟨_, h₁, h₂⟩ := (perform_element_iff element).1 h
    rw [(runs_of_perform h₁).unique first] at h₂
    exact ih h₂ hsub

/-- A depth is enough exactly if no visit to a new type is begun within as many others. -/
theorem perform_eq_some_iff {depth : Nat} {task : Task} {w w' : Walk} :
    v.perform depth task w = some w' ↔ Runs v task w w' ∧ v.DeepEnough depth task w :=
  ⟨fun h => ⟨runs_of_perform h, deepEnough_of_perform h⟩, fun h => perform_of_deepEnough h.1 h.2⟩

end Vocabulary

end TagGrammar
