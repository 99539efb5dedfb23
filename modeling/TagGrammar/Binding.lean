import TagGrammar.Name
import TagGrammar.ValueType

/-!
# Bindings

A binding says how the values of one type are written as XML: which tag they have if they may stand
for themselves, which attributes, and which child elements. Names that a binding leaves open are
derived from the type or the accessor.
-/

namespace TagGrammar

/-- That a type may be the root element of a document. -/
structure RootElement where
  /-- The tag, if the declaration chooses one. -/
  name : Option String
  deriving DecidableEq, Repr

structure AttributeBinding where
  /-- What the attribute is read through. -/
  accessor : String
  /-- The name, if the declaration chooses one. -/
  name : Option String
  valueType : ValueType
  deriving DecidableEq, Repr

/-- The name of an attribute in a document. -/
def AttributeBinding.xmlName (a : AttributeBinding) : String :=
  a.name.getD (Name.propertyName a.accessor)

/-- How the elements of a child are called. -/
inductive ChildKind where
  /-- By the tag of the type or of one of its subtypes. -/
  | reference
  /-- By this name, whatever the tag of the type. -/
  | named (name : String)
  deriving DecidableEq, Repr

structure ChildBinding where
  accessor : String
  kind : ChildKind
  valueType : ValueType
  deriving DecidableEq, Repr

/-- The name that a child chooses for its elements. -/
def ChildBinding.name? (c : ChildBinding) : Option String :=
  match c.kind with
  | .reference => none
  | .named name => some name

/-- What is declared of one type. -/
structure TypeBinding where
  name : TypeName
  supertype : Option TypeName
  root : Option RootElement
  attributes : List AttributeBinding
  children : List ChildBinding
  deriving DecidableEq, Repr

namespace TypeBinding

def tag? (b : TypeBinding) : Option String :=
  b.root.map fun root => root.name.getD (Name.defaultTagName b.name.name)

/-- The names that the binding brings into documents: its tag, its attributes, its named
children. -/
def publishedNames (b : TypeBinding) : List String :=
  b.tag?.toList ++ b.attributes.map (·.xmlName) ++ b.children.filterMap (·.name?)

/-- The types to which the binding refers, each with the accessor that does so. -/
def references (b : TypeBinding) : List (Option String × TypeName) :=
  b.supertype.toList.map (fun t => (none, t))
    ++ b.attributes.filterMap (fun a => a.valueType.elementType?.map fun t => (some a.accessor, t))
    ++ b.children.filterMap (fun c => c.valueType.elementType?.map fun t => (some c.accessor, t))

end TypeBinding

end TagGrammar
