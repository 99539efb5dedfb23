import Mathlib.Logic.Relation
import TagGrammar.Proofs.Context
import TagGrammar.Proofs.Walk.Runs
import TagGrammar.Walk.Termination

/-!
# Steps of a walk

A walk changes its state in three ways: a new type is entered, a child is passed over, a child is
settled. `Step` has one rule for each of them, with all that holds when it is taken. Whatever one
step keeps, a walk keeps.

Steps only ever add (`Step.extends`): the log gets longer, and a type keeps the index of its
descriptor.
-/

namespace TagGrammar

open Relation (ReflTransGen)

/-! ## Where a type leads to -/

/-- The types to which a type leads, through subtypes and through children that are elements. -/
inductive Vocabulary.Reaches (v : Vocabulary) (root : TypeName) : TypeName → Prop where
  | refl : Reaches v root root
  | subtype {type sub : TypeName} (h : Reaches v root type) (mem : sub ∈ v.subtypes type) :
      Reaches v root sub
  | child {type target : TypeName} {child : ChildBinding} (h : Reaches v root type)
      (mem : child ∈ v.children type) (element : child.valueType.elementType? = some target) :
      Reaches v root target

theorem Vocabulary.Reaches.trans {v : Vocabulary} {a b c : TypeName} (hab : v.Reaches a b)
    (hbc : v.Reaches b c) : v.Reaches a c := by
  induction hbc with
  | refl => exact hab
  | subtype _ mem ih => exact ih.subtype mem
  | child _ mem element ih => exact ih.child mem element

theorem Vocabulary.Reaches.elementType {v : Vocabulary} {root type target : TypeName}
    (h : v.Reaches root type)
    (mem : target ∈ (v.children type).filterMap (·.valueType.elementType?)) :
    v.Reaches root target := by
  obtain ⟨child, hchild, element⟩ := List.mem_filterMap.1 mem
  exact h.child hchild element

/-- Types that lead only to each other are not left. -/
theorem Vocabulary.Closed.mem_of_reaches {v : Vocabulary} {whole : List TypeName}
    {root type : TypeName} (h : v.Closed whole) (hroot : root ∈ whole)
    (hr : v.Reaches root type) : type ∈ whole := by
  induction hr with
  | refl => exact hroot
  | subtype _ mem ih => exact h _ ih (List.mem_append_left _ mem)
  | @child type target child _ mem element ih =>
    have htarget : target ∈ (v.children type).filterMap (·.valueType.elementType?) :=
      List.mem_filterMap.2 ⟨child, mem, element⟩
    exact h _ ih (List.mem_append_right _ htarget)

/-! ## The log -/

/-- The child is an element, and the log says that it has been settled. -/
def Settled (log : List Event) (type : TypeName) (child : ChildBinding) : Prop :=
  ∃ target, child.valueType.elementType? = some target ∧
    .resolvedChild type child.accessor target ∈ log

/-- All children of the type that are elements have been settled. -/
def Vocabulary.AllSettled (v : Vocabulary) (log : List Event) (type : TypeName) : Prop :=
  ∀ child ∈ v.children type, ∀ target, child.valueType.elementType? = some target →
    Settled log type child

theorem Settled.mono {log more : List Event} {type : TypeName} {child : ChildBinding}
    (h : log ⊆ more) (hs : Settled log type child) : Settled more type child := by
  obtain ⟨target, ht, hmem⟩ := hs
  exact ⟨target, ht, h hmem⟩

theorem Vocabulary.AllSettled.mono {v : Vocabulary} {log more : List Event} {type : TypeName}
    (h : log ⊆ more) (hs : v.AllSettled log type) : v.AllSettled more type :=
  fun child hmem target ht => (hs child hmem target ht).mono h

namespace Walk

@[simp] theorem history_settle (w : Walk) (type : TypeName) (id : Nat) (child : ChildBinding)
    (target : TypeName) : (w.settle type id child target).history =
      w.history ++ [.resolvedChild type child.accessor target] := by
  unfold settle
  rw [history_note, history_attach]

@[simp] theorem idOf?_settle (w : Walk) (type : TypeName) (id : Nat) (child : ChildBinding)
    (target other : TypeName) :
    (w.settle type id child target).context.idOf? other = w.context.idOf? other := by
  unfold settle
  rw [context_note, idOf?_attach]

@[simp] theorem types_settle (w : Walk) (type : TypeName) (id : Nat) (child : ChildBinding)
    (target : TypeName) : (w.settle type id child target).context.types = w.context.types := by
  unfold settle
  rw [context_note, Vocabulary.types_attach]

end Walk

/-! ## Steps -/

/-- One change of the state of a walk.

A child is settled while the children of its type are settled, or else the type of the child leads
back to the type whose child it is: then it is still being visited. -/
inductive Step (v : Vocabulary) : Walk → Walk → Prop where
  | enter {w : Walk} {type : TypeName} (new : type ∉ w.context.types) : Step v w (w.enter v type)
  | skip {w : Walk} {type : TypeName} {child : ChildBinding} {e : Event}
      (known : type ∈ w.context.types) (mem : child ∈ v.children type)
      (skipped : child.skip? type = some e) : Step v w (w.note e)
  | settle {w : Walk} {type target : TypeName} {id : Nat} {child : ChildBinding}
      (found : w.context.idOf? type = some id) (mem : child ∈ v.children type)
      (element : child.valueType.elementType? = some target)
      (known : target ∈ w.context.types)
      (ready : v.AllSettled w.history target ∨ v.Reaches target type) :
      Step v w (w.settle type id child target)

/-- Any number of steps. -/
abbrev Steps (v : Vocabulary) : Walk → Walk → Prop := ReflTransGen (Step v)

/-- What one step keeps, any number of steps keep. -/
theorem Steps.keep {v : Vocabulary} {P : Walk → Prop} (hstep : ∀ w w', Step v w w' → P w → P w')
    {w w' : Walk} (h : Steps v w w') (hw : P w) : P w' := by
  induction h with
  | refl => exact hw
  | tail _ hlast ih => exact hstep _ _ hlast ih

/-! ## Steps only add -/

namespace Extends

theorem allSettled {v : Vocabulary} {w w' : Walk} {type : TypeName} (h : Extends w w')
    (hs : v.AllSettled w.history type) : v.AllSettled w'.history type :=
  hs.mono h.history.subset

end Extends

theorem Walk.extends_settle (w : Walk) (type : TypeName) (id : Nat) (child : ChildBinding)
    (target : TypeName) : Extends w (w.settle type id child target) :=
  (w.extends_attach _ _ _).trans (Walk.extends_note _ _)

theorem Step.extends {v : Vocabulary} {w w' : Walk} (h : Step v w w') : Extends w w' := by
  cases h with
  | enter new => exact Walk.extends_enter new
  | skip _ _ _ => exact w.extends_note _
  | settle _ _ _ _ _ => exact w.extends_settle _ _ _ _

theorem Steps.extends {v : Vocabulary} {w w' : Walk} (h : Steps v w w') : Extends w w' := by
  induction h with
  | refl => exact .refl w
  | tail _ hlast ih => exact ih.trans hlast.extends

/-- A run only adds, also one that was not started properly. -/
theorem Runs.extends {v : Vocabulary} {task : Task} {w w' : Walk} (h : Runs v task w w') :
    Extends w w' := by
  induction h with
  | known _ => exact .refl _
  | enter new _ _ ihbelow ihwithin =>
    exact (Walk.extends_enter new).trans (ihbelow.trans ihwithin)
  | visitNil => exact .refl _
  | visitCons _ _ ihfirst ihothers => exact ihfirst.trans ihothers
  | settleNil => exact .refl _
  | skip _ _ ihothers => exact (Walk.extends_note _ _).trans ihothers
  | settle _ _ _ ihfirst ihothers =>
    exact ihfirst.trans ((Walk.extends_settle _ _ _ _ _).trans ihothers)

end TagGrammar
