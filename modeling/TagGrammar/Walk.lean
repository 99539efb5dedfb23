import TagGrammar.Context
import TagGrammar.Event
import TagGrammar.Vocabulary

/-!
# The walk over types

Starting from a type, the walk visits every type that it leads to, and collects the descriptors of
all of them in a context. A type gets its descriptor, with everything but its children, before
anything else is visited, so a type that is met again is left alone: this ends the walk on cycles,
and what it finds then is complete but for children.

A child that is a reference offers the tags that may stand for its type. A named child offers its
name, and a copy of the descriptor of its type is kept under that name, as it is at this moment.

`resolve` is the walk, and gives the index of the descriptor of the type that it starts from. Where
this index is of no interest, `visit` leaves it out. Either takes a depth, by which visits may stand
within each other, and gives `none` if that is too small. Types that were visited before need none:

    resolve_of_idOf? : w.context.idOf? type = some id → v.resolve depth type w = some (id, w)
-/

namespace TagGrammar

/-- The state of a walk. -/
structure Walk where
  context : Context
  log : Array Event

namespace Walk

def start : Walk := ⟨.empty, #[]⟩

def note (w : Walk) (e : Event) : Walk := { w with log := w.log.push e }

def noteAll (w : Walk) (es : List Event) : Walk := { w with log := w.log ++ es }

/-- Give a type its descriptor, with everything but its children. -/
def enter (w : Walk) (v : Vocabulary) (type : TypeName) : Walk :=
  Walk.noteAll { w with context := w.context.addType type (v.outline type) }
    (.visitingType type (v.tag? type)
      :: (v.attributes type).map fun a => .foundAttribute type a.xmlName)

/-- Add what a child offers to the descriptor at `id`, given the descriptor of the child's type. -/
def attach (w : Walk) (id : Nat) (kind : ChildKind) (target : Descriptor) : Walk :=
  match kind with
  | .reference => { w with context := w.context.modify id (·.addChild target) }
  | .named name =>
    { w with
      context := (w.context.addTagged (target.cloneAs name)).modify id (·.addChildTag name) }

end Walk

namespace Vocabulary

/-- Deal with a child of the type whose descriptor is at `id`. `resolve` visits the type of the
child, and gives the index of its descriptor. -/
def visitChild (resolve : TypeName → Walk → Option (Nat × Walk)) (type : TypeName) (id : Nat)
    (w : Walk) (child : ChildBinding) : Option Walk :=
  match child.valueType.item? with
  | none => some (w.note (.skippedErased type child.accessor))
  | some (.element target) => do
    let (resolved, w) ← resolve target w
    let w := w.attach id child.kind (w.context.get resolved)
    return w.note (.resolvedChild type child.accessor target)
  | some other => some (w.note (.skippedValue type child.accessor other))

/-- The index of the descriptor of a type, which is visited first, with all types that it leads to,
unless it has been visited before. -/
def resolve (v : Vocabulary) : (depth : Nat) → TypeName → Walk → Option (Nat × Walk)
  | depth, type, w =>
    match w.context.idOf? type with
    | some id => some (id, w)
    | none =>
      match depth with
      | 0 => none
      | depth + 1 => do
        let id := w.context.size
        let w ← (v.subtypes type).foldlM (fun w t => (v.resolve depth t w).map Prod.snd)
          (w.enter v type)
        let w ← (v.children type).foldlM (visitChild (v.resolve depth) type id) w
        return (id, w)

/-- Visit a type, unless it has been visited, and all types that it leads to. -/
def visit (v : Vocabulary) (depth : Nat) (type : TypeName) (w : Walk) : Option Walk :=
  (v.resolve depth type w).map Prod.snd

/-- A type that has been visited keeps its index, and nothing is done for it. -/
theorem resolve_of_idOf? {v : Vocabulary} {depth : Nat} {type : TypeName} {w : Walk} {id : Nat}
    (h : w.context.idOf? type = some id) : v.resolve depth type w = some (id, w) := by
  unfold resolve
  rw [h]

theorem visit_of_resolve {v : Vocabulary} {depth : Nat} {type : TypeName} {w w' : Walk} {id : Nat}
    (h : v.resolve depth type w = some (id, w')) : v.visit depth type w = some w' :=
  Option.map_eq_some_iff.2 ⟨_, h, rfl⟩

theorem visit_of_mem {v : Vocabulary} {depth : Nat} {type : TypeName} {w : Walk}
    (h : type ∈ w.context.types) : v.visit depth type w = some w := by
  cases hid : w.context.idOf? type with
  | none => exact absurd h (Context.idOf?_eq_none_iff.1 hid)
  | some id => exact visit_of_resolve (resolve_of_idOf? hid)

theorem visit_zero_of_new {v : Vocabulary} {type : TypeName} {w : Walk}
    (new : type ∉ w.context.types) : v.visit 0 type w = none := by
  unfold visit resolve
  rw [Context.idOf?_eq_none_iff.2 new]
  rfl

/-- A new type gets the next index, whatever is visited on its behalf. -/
theorem resolve_succ_of_new {v : Vocabulary} {depth : Nat} {type : TypeName} {w : Walk}
    (new : type ∉ w.context.types) :
    v.resolve (depth + 1) type w = do
      let w₁ ← (v.subtypes type).foldlM (fun w t => v.visit depth t w) (w.enter v type)
      let w₂ ← (v.children type).foldlM (visitChild (v.resolve depth) type w.context.size) w₁
      return (w.context.size, w₂) := by
  rw [resolve, Context.idOf?_eq_none_iff.2 new]
  rfl

theorem visit_succ_of_new {v : Vocabulary} {depth : Nat} {type : TypeName} {w : Walk}
    (new : type ∉ w.context.types) :
    v.visit (depth + 1) type w =
      (v.subtypes type).foldlM (fun w t => v.visit depth t w) (w.enter v type) >>= fun w₁ =>
        (v.children type).foldlM (visitChild (v.resolve depth) type w.context.size) w₁ := by
  show (v.resolve (depth + 1) type w).map Prod.snd = _
  rw [resolve_succ_of_new new]
  simp only [bind, pure, Option.map_bind, Function.comp_def, Option.map_some, Option.bind_fun_some]

end Vocabulary

end TagGrammar
