import Mathlib.Algebra.BigOperators.Ring.Finset
import TagGrammar.Proofs.Document
import TagGrammar.Proofs.Walk.Frame

/-!
# The size of a context

A descriptor is created when a type is entered, and when a named child is settled; nothing else
creates one. The children of a type are settled once, when the type is visited for the first time.
So a context has one descriptor for every type that was visited, and one for every named child of
such a type, and it does not matter in which order types were visited, or how often.

In the middle of a walk some children are yet to be settled. `Runs.size_add_weight` therefore weighs
the types that a run has added: the size grows by their weight, and by the copies that the run makes
on behalf of a type that it has found.
-/

namespace TagGrammar

/-- The child is a named element, so a copy of a descriptor is kept under its name. -/
def ChildBinding.isCopied (child : ChildBinding) : Bool :=
  match child.kind, child.valueType.elementType? with
  | .named _, some _ => true
  | _, _ => false

namespace Vocabulary

/-- The number of named children of a type that are elements. -/
def copies (v : Vocabulary) (type : TypeName) : Nat := (v.children type).countP (·.isCopied)

/-- The number of descriptors that belong to types: their own, and the copies for their children. -/
def weight (v : Vocabulary) (types : List TypeName) : Nat :=
  (types.map fun type => v.copies type + 1).sum

end Vocabulary

/-- The copies that a task makes for children that are given to it. -/
def Task.copies : Task → Nat
  | .visit _ => 0
  | .visitAll _ => 0
  | .settleAll _ _ children => children.countP (·.isCopied)

variable {v : Vocabulary}

/-! ## Steps -/

theorem Walk.weight_enter {w : Walk} {type : TypeName} (new : type ∉ w.context.types) :
    v.weight (w.enter v type).context.types = v.weight w.context.types + (v.copies type + 1) := by
  unfold Vocabulary.weight
  rw [Vocabulary.types_enter, if_neg new, List.map_append, List.sum_append, List.map_singleton,
    List.sum_singleton]

theorem Walk.size_settle (w : Walk) (type : TypeName) (id : Nat) {child : ChildBinding}
    {target : TypeName} (element : child.valueType.elementType? = some target) :
    (w.settle type id child target).context.size =
      w.context.size + if child.isCopied then 1 else 0 := by
  unfold Walk.settle Walk.attach ChildBinding.isCopied
  rw [Walk.context_note, element]
  cases child.kind with
  | reference => exact Context.size_modify _ _ _
  | named name => rw [Context.size_modify, Context.size_addTagged, if_pos rfl]

/-- A child that is passed over is not copied. -/
theorem isCopied_of_skip {child : ChildBinding} {type : TypeName} {e : Event}
    (skipped : child.skip? type = some e) : child.isCopied = false := by
  unfold ChildBinding.isCopied
  cases element : child.valueType.elementType? with
  | none => cases child.kind <;> rfl
  | some target => exact absurd skipped (Vocabulary.not_skipped element)

/-! ## Runs -/

/-- The size grows by the weight of the types that are added, and by the copies that are made for
given children. -/
theorem Runs.size_add_weight {task : Task} {w w' : Walk} (h : Runs v task w w') :
    w'.context.size + v.weight w.context.types =
      w.context.size + v.weight w'.context.types + task.copies := by
  induction h with
  | known _ => rfl
  | @enter type w w₁ w₂ new _ _ ihbelow ihwithin =>
    -- the new type brings the copies for its children, which are made last
    have hsize := w.size_enter v type
    have hweight := w.weight_enter (v := v) new
    have hcopies : (Task.settleAll type w.context.size (v.children type)).copies = v.copies type :=
      rfl
    simp only [Task.copies] at *
    omega
  | visitNil => rfl
  | visitCons _ _ ihfirst ihothers =>
    simp only [Task.copies] at *
    omega
  | settleNil => rfl
  | skip skipped _ ihothers =>
    -- nothing is made for the child, and it was not counted
    simp only [Task.copies, List.countP_cons, isCopied_of_skip skipped] at *
    exact ihothers
  | @settle type target id child _ _ w₁ _ element _ _ ihfirst ihothers =>
    -- the visit makes no copy of its own accord; settling makes one, if the child is counted
    have hsize := w₁.size_settle type id element
    have htypes := w₁.types_settle type id child target
    simp only [Task.copies, List.countP_cons, htypes] at *
    omega

/-- A type that is not known gets the next index, whatever is visited on its behalf. -/
theorem Runs.idOf?_new {type : TypeName} {w w' : Walk} (h : Runs v (.visit type) w w')
    (new : type ∉ w.context.types) : w'.context.idOf? type = some w.context.size := by
  cases h with
  | known seen => exact absurd seen new
  | enter _ below within => exact within.extends.idOf? (below.extends.idOf? (w.idOf?_enter v type))

namespace Vocabulary

variable {calls : List (Nat × TypeName)} {w : Walk}

/-! ## Visits one after another -/

theorem mem_types_visitEach_iff {type : TypeName} (h : v.visitEach calls .start = some w) :
    type ∈ w.context.types ↔ ∃ root ∈ calls.map Prod.snd, v.Reaches root type :=
  (explored_of_visitEach h).mem_types_iff (explored_of_visitEach h).done

theorem count_visited (h : v.visitEach calls .start = some w) {type : TypeName}
    (hmem : type ∈ w.context.types) : (visited w.history).count type = 1 := by
  rw [(explored_of_visitEach h).steps.visited_eq]
  exact List.count_eq_one_of_mem w.context.byType.nodup_keys hmem

/-- There are as many descriptors as there are visited types and named children of them. -/
theorem size_visitEach (h : v.visitEach calls .start = some w) :
    w.context.size =
      w.context.types.toFinset.card + ∑ t ∈ w.context.types.toFinset, v.copies t := by
  have hnodup : w.context.types.Nodup := w.context.byType.nodup_keys
  have hsize := (runs_of_visitEach h).size_add_weight
  have hstart : Walk.start.context.size + v.weight w.context.types = v.weight w.context.types :=
    Nat.zero_add _
  calc w.context.size = v.weight w.context.types := hsize.trans hstart
    _ = ∑ t ∈ w.context.types.toFinset, (v.copies t + 1) := (List.sum_toFinset _ hnodup).symm
    _ = w.context.types.toFinset.card + ∑ t ∈ w.context.types.toFinset, v.copies t := by
      rw [Finset.sum_add_distrib, Finset.card_eq_sum_ones, Nat.add_comm]

theorem exists_visitEach_of_finite {types : List TypeName}
    (h : ∀ root ∈ types, {t | v.Reaches root t}.Finite) (w : Walk) :
    ∃ calls w', calls.map Prod.snd = types ∧ v.visitEach calls w = some w' := by
  induction types generalizing w with
  | nil => exact ⟨[], w, rfl, rfl⟩
  | cons root rest ih =>
    obtain ⟨depth, w₁, h₁⟩ := exists_visit_of_finite (h root List.mem_cons_self) w
    obtain ⟨calls, w₂, hcalls, h₂⟩ := ih (fun r hr => h r (List.mem_cons_of_mem _ hr)) w₁
    refine ⟨(depth, root) :: calls, w₂, by rw [List.map_cons, hcalls], ?_⟩
    unfold visitEach
    rw [List.foldlM_cons, h₁]
    exact h₂

/-- In whatever order visits are made, they reach the same types. -/
theorem size_visitEach_perm {calls' : List (Nat × TypeName)} {w' : Walk}
    (hperm : (calls'.map Prod.snd).Perm (calls.map Prod.snd))
    (h : v.visitEach calls .start = some w) (h' : v.visitEach calls' .start = some w') :
    w'.context.size = w.context.size := by
  have htypes : w'.context.types.toFinset = w.context.types.toFinset := by
    ext t
    simp only [List.mem_toFinset, mem_types_visitEach_iff h, mem_types_visitEach_iff h',
      hperm.mem_iff]
  rw [size_visitEach h, size_visitEach h', htypes]

/-! ## The index of a type -/

/-- A new type gets the number of descriptors so far as its index. -/
theorem resolve_new {depth : Nat} {type : TypeName} {u u' : Walk} {id : Nat}
    (new : u.context.idOf? type = none) (h : v.resolve depth type u = some (id, u')) :
    id = u.context.size := by
  have hrun := runs_of_visit depth type u u' (visit_of_resolve h)
  have hid := hrun.idOf?_new (Context.idOf?_eq_none_iff.1 new)
  rw [(extends_of_resolve h).2] at hid
  exact Option.some.inj hid

/-- Once a type has its index, it gets the same one after all other visits. -/
theorem resolve_again {depth : Nat} {type : TypeName} {u u' later : Walk} {id : Nat}
    (h : v.resolve depth type u = some (id, u')) (hlater : v.visitEach calls u' = some later)
    (again : Nat) : v.resolve again type later = some (id, later) :=
  resolve_of_idOf? ((runs_of_visitEach hlater).extends.idOf? (extends_of_resolve h).2)

/-- For a type that is known its index is given, and nothing is done. For a type that is new the
next index is given, by a visit that ends if only finitely many types can be met, and from then on
it is this index that is given for the type. After any visits, one after another in one context,
each type that can be reached has been visited once, and there is one descriptor for each of these
types and one for each of their named children. The visits can be made in every other order, with
the same size. -/
theorem visitEach_size {v : Vocabulary} {calls : List (Nat × TypeName)} {w : Walk}
    (h : v.visitEach calls .start = some w) :
    (∀ u type id, u.context.idOf? type = some id →
        ∀ depth, v.resolve depth type u = some (id, u)) ∧
      (∀ u type, u.context.idOf? type = none →
        ({t | v.Reaches type t}.Finite → ∃ depth id u', v.resolve depth type u = some (id, u')) ∧
          ∀ depth id u', v.resolve depth type u = some (id, u') → id = u.context.size) ∧
      (∀ depth type u id u', v.resolve depth type u = some (id, u') →
        ∀ more later, v.visitEach more u' = some later →
          ∀ again, v.resolve again type later = some (id, later)) ∧
      (∃ reached : Finset TypeName,
        (∀ t, t ∈ reached ↔ ∃ root ∈ calls.map Prod.snd, v.Reaches root t) ∧
          (∀ t ∈ reached, (visited w.history).count t = 1) ∧
          w.context.size = reached.card + ∑ t ∈ reached, v.copies t) ∧
      ∀ types, types.Perm (calls.map Prod.snd) →
        (∃ calls' w', calls'.map Prod.snd = types ∧ v.visitEach calls' .start = some w') ∧
          ∀ calls' w', calls'.map Prod.snd = types → v.visitEach calls' .start = some w' →
            w'.context.size = w.context.size := by
  refine ⟨fun _ _ _ hid _ => resolve_of_idOf? hid, ?_, ?_,
    ⟨w.context.types.toFinset, ?_, ?_, size_visitEach h⟩, ?_⟩
  · intro u type hnone
    refine ⟨fun hfinite => ?_, fun _ _ _ hu => resolve_new hnone hu⟩
    obtain ⟨depth, u', hu'⟩ := exists_visit_of_finite hfinite u
    obtain ⟨id, hresolve, _⟩ := exists_resolve_of_visit hu'
    exact ⟨depth, id, u', hresolve⟩
  · intro depth type u id u' hu more later hlater again
    exact resolve_again hu hlater again
  · intro t
    rw [List.mem_toFinset]
    exact mem_types_visitEach_iff h
  · intro t ht
    exact count_visited h (List.mem_toFinset.1 ht)
  · intro types hperm
    constructor
    · apply exists_visitEach_of_finite
      intro root hroot
      apply w.context.types.finite_toSet.subset
      intro t hr
      exact (mem_types_visitEach_iff h).2 ⟨root, hperm.mem_iff.1 hroot, hr⟩
    · rintro calls' w' rfl h'
      exact size_visitEach_perm hperm h h'

end Vocabulary

namespace Folders

/-- Three types share a context; only the trash of a folder is a named child. A folder is the second
type that is met, and would be the first one in a context of its own. -/
theorem visitEach_folders_size : ∃ w,
    vocabulary.visitEach [(4, note), (4, folder), (0, entry)] .start = some w ∧
      w.context.size = 4 ∧
      (∃ reached : Finset TypeName, reached.card = 3 ∧ ∑ t ∈ reached, vocabulary.copies t = 1 ∧
        ∀ t, t ∈ reached ↔ ∃ root ∈ [note, folder, entry], vocabulary.Reaches root t) ∧
      vocabulary.resolve 0 folder w = some (1, w) ∧
      (∃ u, vocabulary.resolve 4 folder .start = some (0, u) ∧
        vocabulary.resolve 0 folder u = some (0, u)) ∧
      ∃ calls' w', calls'.map Prod.snd = [entry, note, folder] ∧
        vocabulary.visitEach calls' .start = some w' ∧ w'.context.size = 4 := by
  obtain ⟨w, hw, hfound⟩ : ∃ w,
      vocabulary.visitEach [(4, note), (4, folder), (0, entry)] .start = some w ∧
        (w.context.size, w.context.types, w.context.idOf? folder) =
          (4, [note, folder, entry], some 1) :=
    Option.map_eq_some_iff.1 (by decide +kernel)
  obtain ⟨hsize, htypes, hfolder⟩ : w.context.size = 4 ∧ w.context.types = [note, folder, entry] ∧
      w.context.idOf? folder = some 1 := by simpa using hfound
  obtain ⟨⟨_, u⟩, hu, rfl⟩ : ∃ r, vocabulary.resolve 4 folder .start = some r ∧ r.1 = 0 :=
    Option.map_eq_some_iff.1 (by decide +kernel)
  obtain ⟨hknown, _, hagain, ⟨reached, hreached, _, _⟩, hperm⟩ := Vocabulary.visitEach_size hw
  have hset : reached = {note, folder, entry} := by
    ext t
    rw [hreached, ← Vocabulary.mem_types_visitEach_iff hw, htypes]
    simp
  obtain ⟨⟨calls', w', hcalls', hw'⟩, hall⟩ := hperm [entry, note, folder] (by decide)
  refine ⟨w, hw, hsize, ⟨reached, ?_, ?_, hreached⟩, hknown w folder 1 hfolder 0,
    ⟨u, hu, hagain 4 folder .start _ u hu [] u rfl 0⟩, calls', w', hcalls', hw', ?_⟩
  · rw [hset]
    decide
  · rw [hset]
    decide +kernel
  · rw [hall calls' w' hcalls' hw', hsize]

end Folders

end TagGrammar
