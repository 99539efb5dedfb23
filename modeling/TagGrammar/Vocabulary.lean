import TagGrammar.Descriptor
import TagGrammar.Registry.Inheritance
import TagGrammar.Values

/-!
# Vocabularies

A vocabulary is all that hints depend on: the bindings, the subtypes of each type, and a factory of
values for the attributes that have none of their own. It says of every type, on the spot, what its
element looks like; only the tags of its children take a walk over other types.
-/

namespace TagGrammar

/-- What hints are computed from. -/
structure Vocabulary where
  registry : Registry
  subtypes : TypeName → List TypeName
  /-- Values for the attributes that have none of their own. -/
  factory : Option ValueFactory

namespace Vocabulary

def tag? (v : Vocabulary) (type : TypeName) : Option String := v.registry.tag? type

/-- The attributes of a type, inherited ones included. -/
def attributes (v : Vocabulary) (type : TypeName) : List AttributeBinding :=
  v.registry.attributes type

/-- The children of a type, inherited ones included. -/
def children (v : Vocabulary) (type : TypeName) : List ChildBinding := v.registry.children type

/-- The name and the values of an attribute. -/
def attributeEntry (v : Vocabulary) (a : AttributeBinding) : String × Option ValueSet :=
  (a.xmlName, valuesFor v.factory a.xmlName a.valueType)

/-- The attributes of a type with their values. -/
def attributeTable (v : Vocabulary) (type : TypeName) : OrderedMap String (Option ValueSet) :=
  .ofList ((v.attributes type).map v.attributeEntry)

/-- The tags of the subtypes of a type. -/
def overrides (v : Vocabulary) (type : TypeName) : TagSet :=
  .ofList ((v.subtypes type).filterMap v.tag?)

/-- The descriptor of a type before its children are known. -/
def outline (v : Vocabulary) (type : TypeName) : Descriptor :=
  ⟨v.tag? type, v.attributeTable type, .empty, v.overrides type⟩

/-- The types that a type leads to: its subtypes, and the element types of its children. -/
def successors (v : Vocabulary) (type : TypeName) : List TypeName :=
  v.subtypes type ++ (v.children type).filterMap (·.valueType.elementType?)

end Vocabulary

end TagGrammar
