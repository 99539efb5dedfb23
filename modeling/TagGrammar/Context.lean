import TagGrammar.Collection.TagTable
import TagGrammar.Descriptor
import TagGrammar.ValueType

/-!
# Contexts

A walk over types collects descriptors in a context. Every descriptor has an index, which it keeps;
the descriptor of a type is found by the type, and a tag leads to the last descriptor that was
created with it.
-/

namespace TagGrammar

/-- The descriptors created so far. -/
structure Context where
  descriptors : Array Descriptor
  /-- The index of the descriptor of a type. -/
  byType : OrderedMap TypeName Nat
  /-- The index of the last descriptor with a tag. -/
  byTag : OrderedMap String Nat

namespace Context

def empty : Context := ⟨#[], .empty, .empty⟩

instance : Inhabited Context := ⟨empty⟩

/-- The number of descriptors, those of named children included. -/
def size (c : Context) : Nat := c.descriptors.size

/-- The index of the descriptor of a type. -/
def idOf? (c : Context) (type : TypeName) : Option Nat := c.byType.get? type

/-- The types that have a descriptor, in the order of their creation. -/
def types (c : Context) : List TypeName := c.byType.keys

/-- The descriptor at an index that the context has given out; a blank one at any other. -/
def get (c : Context) (id : Nat) : Descriptor := (c.descriptors[id]?).getD default

def ofType? (c : Context) (type : TypeName) : Option Descriptor :=
  (c.idOf? type).bind (c.descriptors[·]?)

/-- Create a descriptor that is found by its tag only. -/
def addTagged (c : Context) (d : Descriptor) : Context where
  descriptors := c.descriptors.push d
  byType := c.byType
  byTag :=
    match d.tag with
    | some tag => c.byTag.insert tag c.size
    | none => c.byTag

/-- Create the descriptor of a type. -/
def addType (c : Context) (type : TypeName) (d : Descriptor) : Context :=
  { c.addTagged d with byType := c.byType.insert type c.size }

def modify (c : Context) (id : Nat) (f : Descriptor → Descriptor) : Context :=
  { c with descriptors := c.descriptors.modify id f }

/-- For each tag the last descriptor created with it. -/
def toTable (c : Context) : TagTable Descriptor :=
  .ofList (c.byTag.entries.filterMap fun e => (c.descriptors[e.2]?).map fun d => (e.1, d))

/-- Take the descriptors at the indices out of their slots, for one tag after another. A tag whose
slot is empty by then gets none. There is no result if an index has no slot. This is another way to
the table, which never looks at a descriptor twice. -/
def takeAll : Array (Option Descriptor) → List (String × Nat) → Option (List (String × Descriptor))
  | _, [] => some []
  | slots, (tag, id) :: rest => do
    let slot ← slots[id]?
    let taken ← takeAll (slots.setIfInBounds id none) rest
    return (slot.map fun d => (tag, d)).toList ++ taken

theorem idOf?_eq_none_iff {c : Context} {type : TypeName} :
    c.idOf? type = none ↔ type ∉ c.types := OrderedMap.get?_eq_none_iff

/-- The descriptor at the index of a type is that of the type. -/
theorem get_of_idOf? {c : Context} {type : TypeName} {id : Nat} (h : c.idOf? type = some id) :
    c.get id = (c.ofType? type).getD default := by
  unfold get ofType?
  rw [h]
  rfl

@[simp] theorem types_addTagged (c : Context) (d : Descriptor) : (c.addTagged d).types = c.types :=
  rfl

@[simp] theorem types_modify (c : Context) (id : Nat) (f : Descriptor → Descriptor) :
    (c.modify id f).types = c.types := rfl

theorem types_addType (c : Context) (type : TypeName) (d : Descriptor) :
    (c.addType type d).types = if type ∈ c.types then c.types else c.types ++ [type] :=
  c.byType.keys_insert type c.size

end Context

end TagGrammar
