import TagGrammar.Proofs.Walk.Extension

/-!
# Runs of a walk

`Runs v task w w'` says that the state `w` becomes `w'` when the task is done. It has no depth, and
one rule for each thing that can happen: a type is known or entered, a child is skipped or settled.

* `runs_iff` — the rules are those of the walk: a run is what some depth is enough for.
* `runs_of_visitEach` — visits one after another, each with a depth of its own, are one run.
-/

namespace TagGrammar

/-- What a walk has to do. -/
inductive Task where
  | visit (type : TypeName)
  | visitAll (types : List TypeName)
  /-- Deal with children of the type whose descriptor is at `id`. -/
  | settleAll (type : TypeName) (id : Nat) (children : List ChildBinding)

/-- The event with which a child is passed over, unless it is an element. -/
def ChildBinding.skip? (child : ChildBinding) (type : TypeName) : Option Event :=
  match child.valueType.item? with
  | none => some (.skippedErased type child.accessor)
  | some (.element _) => none
  | some other => some (.skippedValue type child.accessor other)

/-- Attach a child whose type has been visited, and say so. -/
def Walk.settle (w : Walk) (type : TypeName) (id : Nat) (child : ChildBinding)
    (target : TypeName) : Walk :=
  (w.attach id child.kind ((w.context.ofType? target).getD default)).note
    (.resolvedChild type child.accessor target)

/-- The state `w` becomes `w'` when the task is done. -/
inductive Runs (v : Vocabulary) : Task → Walk → Walk → Prop where
  | known {type : TypeName} {w : Walk} (seen : type ∈ w.context.types) :
      Runs v (.visit type) w w
  | enter {type : TypeName} {w w₁ w₂ : Walk} (new : type ∉ w.context.types)
      (below : Runs v (.visitAll (v.subtypes type)) (w.enter v type) w₁)
      (within : Runs v (.settleAll type w.context.size (v.children type)) w₁ w₂) :
      Runs v (.visit type) w w₂
  | visitNil {w : Walk} : Runs v (.visitAll []) w w
  | visitCons {type : TypeName} {rest : List TypeName} {w w₁ w₂ : Walk}
      (first : Runs v (.visit type) w w₁) (others : Runs v (.visitAll rest) w₁ w₂) :
      Runs v (.visitAll (type :: rest)) w w₂
  | settleNil {type : TypeName} {id : Nat} {w : Walk} : Runs v (.settleAll type id []) w w
  | skip {type : TypeName} {id : Nat} {child : ChildBinding} {rest : List ChildBinding} {e : Event}
      {w w' : Walk} (skipped : child.skip? type = some e)
      (others : Runs v (.settleAll type id rest) (w.note e) w') :
      Runs v (.settleAll type id (child :: rest)) w w'
  | settle {type target : TypeName} {id : Nat} {child : ChildBinding} {rest : List ChildBinding}
      {w w₁ w₂ : Walk} (element : child.valueType.elementType? = some target)
      (first : Runs v (.visit target) w w₁)
      (others : Runs v (.settleAll type id rest) (w₁.settle type id child target) w₂) :
      Runs v (.settleAll type id (child :: rest)) w w₂

namespace Vocabulary

variable {v : Vocabulary}

/-- Do a task with a given depth. -/
def perform (v : Vocabulary) (depth : Nat) : Task → Walk → Option Walk
  | .visit type, w => v.visit depth type w
  | .visitAll types, w => types.foldlM (fun w t => v.visit depth t w) w
  | .settleAll type id children, w => children.foldlM (visitChild (v.resolve depth) type id) w

/-- Visit types one after another, each with a depth of its own. -/
def visitEach (v : Vocabulary) (calls : List (Nat × TypeName)) (w : Walk) : Option Walk :=
  calls.foldlM (fun w call => v.visit call.1 call.2 w) w

/-! ## The cases of a child -/

theorem skip?_eq_none_iff {child : ChildBinding} {type : TypeName} :
    child.skip? type = none ↔ ∃ target, child.valueType.elementType? = some target := by
  unfold ChildBinding.skip? ValueType.elementType?
  split <;> simp_all

/-- A child that is an element is not passed over. -/
theorem not_skipped {child : ChildBinding} {type target : TypeName} {e : Event}
    (element : child.valueType.elementType? = some target) : child.skip? type ≠ some e := by
  rw [skip?_eq_none_iff.2 ⟨target, element⟩]
  simp

theorem visitChild_skip {resolve : TypeName → Walk → Option (Nat × Walk)} {type : TypeName}
    {id : Nat} {w : Walk} {child : ChildBinding} {e : Event} (h : child.skip? type = some e) :
    visitChild resolve type id w child = some (w.note e) := by
  unfold ChildBinding.skip? at h
  unfold visitChild
  cases hitem : child.valueType.item? with
  | none =>
    rw [hitem] at h
    cases h
    rfl
  | some item =>
    rw [hitem] at h
    cases item with
    | element target => cases h
    | _ =>
      cases h
      rfl

/-- The descriptor at the index that comes back is found under the type of the child as well. -/
theorem visitChild_element {depth : Nat} {type target : TypeName} {id : Nat} {w : Walk}
    {child : ChildBinding} (h : child.valueType.elementType? = some target) :
    visitChild (v.resolve depth) type id w child =
      (v.visit depth target w).map fun w => w.settle type id child target := by
  unfold ValueType.elementType? at h
  unfold visitChild visit
  split at h
  · next t hitem =>
    cases h
    rw [hitem]
    show ((v.resolve depth target w).bind fun r =>
      some ((r.2.attach id child.kind (r.2.context.get r.1)).note _)) = _
    cases hresolve : v.resolve depth target w with
    | none => rfl
    | some r =>
      have hget := Context.get_of_idOf? (extends_of_resolve hresolve).2
      rw [Option.bind_some, hget]
      rfl
  · cases h

/-! ## How a task is done -/

section Perform

variable {depth : Nat} {type target : TypeName} {id : Nat} {child : ChildBinding} {w w' : Walk}

theorem perform_zero (v : Vocabulary) (new : type ∉ w.context.types) :
    v.perform 0 (.visit type) w = none :=
  visit_zero_of_new new

theorem perform_new_iff (new : type ∉ w.context.types) :
    v.perform (depth + 1) (.visit type) w = some w' ↔
      ∃ w₁, v.perform depth (.visitAll (v.subtypes type)) (w.enter v type) = some w₁ ∧
        v.perform depth (.settleAll type w.context.size (v.children type)) w₁ = some w' := by
  show v.visit (depth + 1) type w = some w' ↔ _
  rw [visit_succ_of_new new]
  exact Option.bind_eq_some_iff

theorem perform_visitCons_iff {rest : List TypeName} :
    v.perform depth (.visitAll (type :: rest)) w = some w' ↔
      ∃ w₁, v.perform depth (.visit type) w = some w₁ ∧
        v.perform depth (.visitAll rest) w₁ = some w' :=
  Option.bind_eq_some_iff

theorem perform_skip {rest : List ChildBinding} {e : Event} (h : child.skip? type = some e) :
    v.perform depth (.settleAll type id (child :: rest)) w =
      v.perform depth (.settleAll type id rest) (w.note e) := by
  show (child :: rest).foldlM (visitChild (v.resolve depth) type id) w = _
  rw [List.foldlM_cons, visitChild_skip h]
  rfl

theorem perform_element_iff {rest : List ChildBinding}
    (h : child.valueType.elementType? = some target) :
    v.perform depth (.settleAll type id (child :: rest)) w = some w' ↔
      ∃ w₁, v.perform depth (.visit target) w = some w₁ ∧
        v.perform depth (.settleAll type id rest) (w₁.settle type id child target) = some w' := by
  show (child :: rest).foldlM (visitChild (v.resolve depth) type id) w = some w' ↔ _
  rw [List.foldlM_cons, visitChild_element h]
  constructor
  · intro hw
    obtain ⟨_, hsettled, h₂⟩ := Option.bind_eq_some_iff.1 hw
    obtain ⟨w₁, h₁, rfl⟩ := Option.map_eq_some_iff.1 hsettled
    exact ⟨w₁, h₁, h₂⟩
  · rintro ⟨w₁, h₁, h₂⟩
    exact Option.bind_eq_some_iff.2 ⟨_, Option.map_eq_some_iff.2 ⟨w₁, h₁, rfl⟩, h₂⟩

end Perform

/-! ## Walks are runs -/

theorem runs_of_perform_visitAll {depth : Nat}
    (ih : ∀ type w w', v.perform depth (.visit type) w = some w' → Runs v (.visit type) w w')
    {types : List TypeName} {w w' : Walk} (h : v.perform depth (.visitAll types) w = some w') :
    Runs v (.visitAll types) w w' := by
  induction types generalizing w with
  | nil =>
    cases h
    exact .visitNil
  | cons type rest ihrest =>
    obtain ⟨w₁, h₁, h₂⟩ := perform_visitCons_iff.1 h
    exact .visitCons (ih type w w₁ h₁) (ihrest h₂)

theorem runs_of_perform_settleAll {depth : Nat}
    (ih : ∀ type w w', v.perform depth (.visit type) w = some w' → Runs v (.visit type) w w')
    {type : TypeName} {id : Nat} {children : List ChildBinding} {w w' : Walk}
    (h : v.perform depth (.settleAll type id children) w = some w') :
    Runs v (.settleAll type id children) w w' := by
  induction children generalizing w with
  | nil =>
    cases h
    exact .settleNil
  | cons child rest ihrest =>
    cases hs : child.skip? type with
    | some e =>
      rw [perform_skip hs] at h
      exact .skip hs (ihrest h)
    | none =>
      obtain ⟨target, element⟩ := skip?_eq_none_iff.1 hs
      obtain ⟨w₁, h₁, h₂⟩ := (perform_element_iff element).1 h
      exact .settle element (ih target w w₁ h₁) (ihrest h₂)

theorem runs_of_visit : ∀ (depth : Nat) (type : TypeName) (w w' : Walk),
    v.visit depth type w = some w' → Runs v (.visit type) w w' := by
  intro depth
  induction depth with
  | zero =>
    intro type w w' h
    by_cases hseen : type ∈ w.context.types
    · rw [visit_of_mem hseen] at h
      cases h
      exact .known hseen
    · have hnone : v.visit 0 type w = none := perform_zero v hseen
      rw [hnone] at h
      cases h
  | succ depth ih =>
    intro type w w' h
    by_cases hseen : type ∈ w.context.types
    · rw [visit_of_mem hseen] at h
      cases h
      exact .known hseen
    · obtain ⟨w₁, h₁, h₂⟩ := (perform_new_iff hseen).1 h
      exact .enter hseen (runs_of_perform_visitAll ih h₁) (runs_of_perform_settleAll ih h₂)

theorem runs_of_perform {depth : Nat} {task : Task} {w w' : Walk}
    (h : v.perform depth task w = some w') : Runs v task w w' := by
  cases task with
  | visit type => exact runs_of_visit depth type w w' h
  | visitAll types => exact runs_of_perform_visitAll (runs_of_visit depth) h
  | settleAll type id children => exact runs_of_perform_settleAll (runs_of_visit depth) h

/-! ## Runs are walks -/

/-- Every depth from some point on is enough for a run. -/
theorem perform_of_runs {task : Task} {w w' : Walk} (h : Runs v task w w') :
    ∃ enough, ∀ depth, enough ≤ depth → v.perform depth task w = some w' := by
  induction h with
  | known seen => exact ⟨0, fun depth _ => visit_of_mem seen⟩
  | @enter type w w₁ w₂ new _ _ ihbelow ihwithin =>
    obtain ⟨m, hm⟩ := ihbelow
    obtain ⟨n, hn⟩ := ihwithin
    refine ⟨max m n + 1, fun depth hdepth => ?_⟩
    obtain ⟨depth, rfl⟩ : ∃ d, depth = d + 1 := ⟨depth - 1, by omega⟩
    exact (perform_new_iff new).2 ⟨w₁, hm depth (by omega), hn depth (by omega)⟩
  | visitNil => exact ⟨0, fun _ _ => rfl⟩
  | @visitCons type rest w w₁ w₂ _ _ ihfirst ihothers =>
    obtain ⟨m, hm⟩ := ihfirst
    obtain ⟨n, hn⟩ := ihothers
    refine ⟨max m n, fun depth hdepth => ?_⟩
    exact perform_visitCons_iff.2 ⟨w₁, hm depth (by omega), hn depth (by omega)⟩
  | settleNil => exact ⟨0, fun _ _ => rfl⟩
  | @skip type id child rest e w w' skipped _ ihothers =>
    obtain ⟨n, hn⟩ := ihothers
    refine ⟨n, fun depth hdepth => ?_⟩
    rw [perform_skip skipped]
    exact hn depth hdepth
  | @settle type target id child rest w w₁ w₂ element _ _ ihfirst ihothers =>
    obtain ⟨m, hm⟩ := ihfirst
    obtain ⟨n, hn⟩ := ihothers
    refine ⟨max m n, fun depth hdepth => ?_⟩
    exact (perform_element_iff element).2 ⟨w₁, hm depth (by omega), hn depth (by omega)⟩

/-- A run is what some depth is enough for. -/
theorem runs_iff {task : Task} {w w' : Walk} :
    Runs v task w w' ↔ ∃ depth, v.perform depth task w = some w' := by
  constructor
  · intro h
    obtain ⟨enough, he⟩ := perform_of_runs h
    exact ⟨enough, he enough (Nat.le_refl _)⟩
  · rintro ⟨depth, h⟩
    exact runs_of_perform h

/-- Visits one after another, each with a depth of its own, are one run. -/
theorem runs_of_visitEach {calls : List (Nat × TypeName)} {w w' : Walk}
    (h : v.visitEach calls w = some w') : Runs v (.visitAll (calls.map Prod.snd)) w w' := by
  induction calls generalizing w with
  | nil =>
    cases h
    exact .visitNil
  | cons call rest ih =>
    unfold visitEach at h
    rw [List.foldlM_cons] at h
    obtain ⟨w₁, h₁, h₂⟩ := Option.bind_eq_some_iff.1 h
    exact .visitCons (runs_of_visit call.1 call.2 w w₁ h₁) (ih h₂)

end Vocabulary

end TagGrammar
