import TagGrammar.HintDocument
import TagGrammar.Walk.Termination

/-!
# Hints for a root

The hints for a root type are read off the context of a walk from it: its tag stands at the top, and
every tag in the context has its last descriptor. A root without a tag has no hints.

`Vocabulary.hintsFor` takes any function as the source of subtypes and says whether a given depth
suffices. A `Generator` has a source with finitely many answers, and so needs no depth.
-/

namespace TagGrammar

/-- The hints that a finished walk from `root` gives, where `id` is the index of its descriptor, and
the event that goes with them. -/
def Walk.conclude (w : Walk) (root : TypeName) (id : Nat) : Option HintDocument × Event :=
  match (w.context.get id).tag with
  | none => (none, .rootWithoutTag root)
  | some tag =>
    (some (.ofRoot tag w.context.toTable), .generatedHints root tag w.context.size)

/-- The hints for a root, if the depth is enough. -/
def Vocabulary.hintsFor (v : Vocabulary) (depth : Nat) (root : TypeName) :
    Option (Option HintDocument) :=
  (v.resolve depth root .start).map fun (id, w) => (w.conclude root id).1

/-- What hints are computed from, where the subtypes are finitely many. -/
structure Generator where
  registry : Registry
  source : SubtypeSource
  /-- Values for the attributes that have none of their own. -/
  factory : Option ValueFactory

namespace Generator

/-- The generator that finds the subtypes in the registry itself. -/
def ofRegistry (registry : Registry) (factory : Option ValueFactory) : Generator :=
  ⟨registry, .ofRegistry registry, factory⟩

def vocabulary (g : Generator) : Vocabulary := ⟨g.registry, g.source.subtypes, g.factory⟩

/-- Every type that a walk from `root` can meet. -/
def typesFrom (g : Generator) (root : TypeName) : List TypeName :=
  root :: g.source.answers
    ++ g.registry.bindings.flatMap fun b => b.children.filterMap (·.valueType.elementType?)

theorem closed_typesFrom (g : Generator) (root : TypeName) :
    g.vocabulary.Closed (g.typesFrom root) := by
  intro type _ t ht
  rcases List.mem_append.1 ht with ht | ht
  · exact List.mem_append_left _ (List.mem_cons_of_mem _ (g.source.mem_answers type t ht))
  · obtain ⟨child, hc, ht⟩ := List.mem_filterMap.1 ht
    obtain ⟨b, hb, hc⟩ := Registry.exists_binding_of_mem_children hc
    exact List.mem_append_right _
      (List.mem_flatMap.2 ⟨b, hb, List.mem_filterMap.2 ⟨child, hc, ht⟩⟩)

/-- A depth that is enough for every walk from `root`. -/
def depthFor (g : Generator) (root : TypeName) : Nat := (g.typesFrom root).length + 1

theorem resolve_depthFor_isSome (g : Generator) (root : TypeName) (w : Walk) :
    (g.vocabulary.resolve (g.depthFor root) root w).isSome :=
  Vocabulary.resolve_isSome (g.closed_typesFrom root) List.mem_cons_self
    (Nat.lt_succ_of_le (List.length_filter_le _ _))

/-- The index of the descriptor of a type, which is visited first, with all types that it leads to,
unless it has been visited before. -/
def resolve (g : Generator) (root : TypeName) (w : Walk) : Nat × Walk :=
  (g.vocabulary.resolve (g.depthFor root) root w).get (g.resolve_depthFor_isSome root w)

def hintsFor (g : Generator) (root : TypeName) : Option HintDocument :=
  let (id, w) := g.resolve root .start
  (w.conclude root id).1

/-- The events on the way to the hints for a root. -/
def eventsFor (g : Generator) (root : TypeName) : List Event :=
  let (id, w) := g.resolve root .start
  w.log.toList ++ [(w.conclude root id).2]

theorem resolve_depthFor (g : Generator) (root : TypeName) (w : Walk) :
    g.vocabulary.resolve (g.depthFor root) root w = some (g.resolve root w) :=
  (Option.some_get (g.resolve_depthFor_isSome root w)).symm

theorem visit_depthFor (g : Generator) (root : TypeName) (w : Walk) :
    g.vocabulary.visit (g.depthFor root) root w = some (g.resolve root w).2 := by
  unfold Vocabulary.visit
  rw [resolve_depthFor]
  rfl

theorem vocabulary_hintsFor (g : Generator) (root : TypeName) :
    g.vocabulary.hintsFor (g.depthFor root) root = some (g.hintsFor root) := by
  unfold Vocabulary.hintsFor hintsFor
  rw [resolve_depthFor]
  rfl

end Generator

end TagGrammar
