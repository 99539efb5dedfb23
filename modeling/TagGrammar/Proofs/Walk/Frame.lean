import Mathlib.Data.Set.Basic
import TagGrammar.Proofs.Walk.Steps

/-!
# What a run leaves alone

A run creates descriptors, and changes few of those that it finds: dealing with the children of a
type changes the descriptor of this type only, and a visit changes none. `Frame own c c'` says this
of two contexts, where `own` are the indices that were free to change, and `Runs.frame` says it of
every run.

Nothing is asked of the state in which the run begins. So this holds in the middle of other visits
as well as between them.
-/

namespace TagGrammar

variable {v : Vocabulary}

namespace Context

/-- On the way from `c` to `c'` nothing was lost, and of the descriptors in `c` only those at the
indices in `own` were changed. -/
structure Frame (own : Set Nat) (c c' : Context) : Prop where
  size : c.size ≤ c'.size
  descriptors : ∀ id < c.size, id ∉ own → c'.descriptors[id]? = c.descriptors[id]?
  idOf? : ∀ {type : TypeName} {id : Nat}, c.idOf? type = some id → c'.idOf? type = some id
  /-- A tag leads where it led before, or to a descriptor that is new. -/
  tagged? : ∀ tag : String, c'.tagged? tag = c.tagged? tag ∨
    ∃ id, c'.tagged? tag = some id ∧ c.size ≤ id ∧ id < c'.size

namespace Frame

variable {own more : Set Nat} {c c₁ c₂ : Context}

theorem refl (own : Set Nat) (c : Context) : Frame own c c where
  size := Nat.le_refl _
  descriptors _ _ _ := rfl
  idOf? := id
  tagged? _ := .inl rfl

theorem mono (h : Frame own c c₁) (hsub : own ⊆ more) : Frame more c c₁ where
  size := h.size
  descriptors id hlt hid := h.descriptors id hlt fun hown => hid (hsub hown)
  idOf? := h.idOf?
  tagged? := h.tagged?

/-- What is created on the first way may be changed on the second. -/
theorem trans_of (h₁ : Frame own c c₁) (h₂ : Frame more c₁ c₂)
    (hsub : ∀ id ∈ more, id < c.size → id ∈ own) : Frame own c c₂ where
  size := Nat.le_trans h₁.size h₂.size
  descriptors id hlt hid := by
    have hmore : id ∉ more := fun hmem => hid (hsub id hmem hlt)
    rw [h₂.descriptors id (Nat.lt_of_lt_of_le hlt h₁.size) hmore, h₁.descriptors id hlt hid]
  idOf? hid := h₂.idOf? (h₁.idOf? hid)
  tagged? tag := by
    rcases h₂.tagged? tag with h | ⟨id, h, hle, hlt⟩
    · rw [h]
      rcases h₁.tagged? tag with h | ⟨id, h, hle, hlt⟩
      · exact .inl h
      · exact .inr ⟨id, h, hle, Nat.lt_of_lt_of_le hlt h₂.size⟩
    · exact .inr ⟨id, h, Nat.le_trans h₁.size hle, hlt⟩

theorem trans (h₁ : Frame own c c₁) (h₂ : Frame own c₁ c₂) : Frame own c c₂ :=
  h₁.trans_of h₂ fun _ hmem _ => hmem

/-- The first descriptor that is created is not among those that were there before. -/
theorem trans_first (h₁ : Frame own c c₁) (h₂ : Frame {c.size} c₁ c₂) : Frame own c c₂ := by
  apply h₁.trans_of h₂
  intro id hid hlt
  have hself : id = c.size := hid
  exact absurd hself (Nat.ne_of_lt hlt)

end Frame

/-! ## Changes of a context -/

theorem descriptors_addTagged_of_lt {c : Context} {id : Nat} (d : Descriptor) (h : id < c.size) :
    (c.addTagged d).descriptors[id]? = c.descriptors[id]? := by
  rw [descriptors_addTagged, if_neg (Nat.ne_of_lt h)]

theorem frame_addTagged (c : Context) (d : Descriptor) : Frame ∅ c (c.addTagged d) where
  size := by
    rw [size_addTagged]
    exact Nat.le_succ _
  descriptors _ hlt _ := descriptors_addTagged_of_lt d hlt
  idOf? hid := by
    rw [idOf?_addTagged]
    exact hid
  tagged? tag := by
    rw [tagged?_addTagged, size_addTagged]
    split
    · exact .inr ⟨c.size, rfl, Nat.le_refl _, Nat.lt_succ_self _⟩
    · exact .inl rfl

theorem frame_addType {c : Context} {type : TypeName} (d : Descriptor) (new : type ∉ c.types) :
    Frame ∅ c (c.addType type d) where
  size := (frame_addTagged c d).size
  descriptors := (frame_addTagged c d).descriptors
  idOf? := idOf?_addType_of_new new
  tagged? := (frame_addTagged c d).tagged?

theorem frame_modify (c : Context) (id : Nat) (f : Descriptor → Descriptor) :
    Frame {id} c (c.modify id f) where
  size := by rw [size_modify]
  descriptors other _ hne := by
    have hne' : id ≠ other := fun heq => hne heq.symm
    rw [descriptors_modify, if_neg hne']
  idOf? hid := by
    rw [idOf?_modify]
    exact hid
  tagged? tag := by
    rw [tagged?_modify]
    exact .inl rfl

end Context

/-! ## Runs -/

open Context (Frame)

theorem Walk.size_enter (w : Walk) (v : Vocabulary) (type : TypeName) :
    (w.enter v type).context.size = w.context.size + 1 := by
  rw [context_enter, Context.size_addType]

theorem Walk.frame_enter {w : Walk} {type : TypeName} (v : Vocabulary)
    (new : type ∉ w.context.types) : Frame ∅ w.context (w.enter v type).context :=
  Context.frame_addType _ new

/-- Settling a child changes the descriptor that the child is attached to. -/
theorem Walk.frame_settle (w : Walk) (type : TypeName) (id : Nat) (child : ChildBinding)
    (target : TypeName) : Frame {id} w.context (w.settle type id child target).context := by
  unfold Walk.settle Walk.attach
  rw [Walk.context_note]
  cases child.kind with
  | reference => exact Context.frame_modify _ _ _
  | named name =>
    have hcopy := (Context.frame_addTagged w.context
      (((w.context.ofType? target).getD default).cloneAs name)).mono (Set.empty_subset {id})
    exact hcopy.trans (Context.frame_modify _ _ _)

/-- The indices of the descriptors that a task is to change. -/
def Task.own : Task → Set Nat
  | .visit _ => ∅
  | .visitAll _ => ∅
  | .settleAll _ id _ => {id}

/-- A run leaves all descriptors alone but the one that it is to change, and those it creates. -/
theorem Runs.frame {task : Task} {w w' : Walk} (h : Runs v task w w') :
    Frame task.own w.context w'.context := by
  induction h with
  | known _ => exact .refl _ _
  | enter new _ _ ihbelow ihwithin =>
    -- the descriptor of the type, to which its children are attached, has just been created
    exact ((Walk.frame_enter v new).trans ihbelow).trans_first ihwithin
  | visitNil => exact .refl _ _
  | visitCons _ _ ihfirst ihothers => exact ihfirst.trans ihothers
  | settleNil => exact .refl _ _
  | skip _ _ ihothers => exact ihothers
  | @settle type target id child _ _ w₁ _ _ _ _ ihfirst ihothers =>
    have hfirst := ihfirst.mono (Set.empty_subset {id})
    exact (hfirst.trans (w₁.frame_settle type id child target)).trans ihothers

end TagGrammar
