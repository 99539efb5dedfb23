import TagGrammar.Text.Quoted
import TagGrammar.ValueType

/-!
# Events

What happens while a schema is loaded and while hints are computed. An event has a level and named
text fields, of which `message` says what kind of event it is.
-/

namespace TagGrammar

/-- Something that happened. -/
inductive Event where
  | loadedSchema (types enums : Nat)
  /-- A type is looked at for the first time. -/
  | visitingType (type : TypeName) (tag : Option String)
  | foundAttribute (type : TypeName) (name : String)
  /-- A child is a list whose items have an unknown type. -/
  | skippedErased (type : TypeName) (accessor : String)
  /-- A child is of a type that is no element. -/
  | skippedValue (type : TypeName) (accessor : String) (valueType : ValueType)
  /-- A child is an element, and its type has been looked at. -/
  | resolvedChild (type : TypeName) (accessor : String) (target : TypeName)
  /-- There are no hints for a type without a tag. -/
  | rootWithoutTag (root : TypeName)
  | generatedHints (root : TypeName) (tag : String) (descriptors : Nat)
  deriving DecidableEq, Repr

/-- How much an event matters. -/
inductive Event.Level where
  | debug
  | warning
  deriving DecidableEq, Repr

namespace Event

/-- Only the loss of an erased list deserves a warning. -/
def level : Event → Level
  | .skippedErased _ _ => .warning
  | _ => .debug

/-- The text of a tag that may be absent. -/
def tagText : Option String → String
  | some tag => "Some(" ++ Text.quoted tag ++ ")"
  | none => "None"

def fields : Event → List (String × String)
  | .loadedSchema types enums =>
    [("message", "loaded binding schema"), ("types", toString types), ("enums", toString enums)]
  | .visitingType type tag =>
    [("message", "visiting type"), ("ty", type.name), ("tag", tagText tag)]
  | .foundAttribute type name =>
    [("message", "found attribute"), ("ty", type.name), ("attribute", name)]
  | .skippedErased type accessor =>
    [("message", "child container has an erased element type, skipped"), ("ty", type.name),
      ("accessor", accessor)]
  | .skippedValue type accessor valueType =>
    [("message", "child is not a bound type, skipped"), ("ty", type.name), ("accessor", accessor),
      ("value_type", valueType.describe)]
  | .resolvedChild type accessor target =>
    [("message", "resolved child"), ("ty", type.name), ("accessor", accessor),
      ("child", target.name)]
  | .rootWithoutTag root =>
    [("message", "root type has no tag, no hints generated"), ("root", root.name)]
  | .generatedHints root tag descriptors =>
    [("message", "generated hints"), ("root", root.name), ("tag", tag),
      ("descriptors", toString descriptors)]

end Event

end TagGrammar
