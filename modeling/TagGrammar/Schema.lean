import TagGrammar.Event
import TagGrammar.Registry
import TagGrammar.Collection.OrderedMap

/-!
# Schemas

A schema declares enumerations and types as they are written down. It is turned into bindings by
looking up the enumerations and deriving the names of named children; the bindings are registered in
the order of their declarations, and the registry as a whole is validated last.
-/

namespace TagGrammar

/-- The type of an attribute or a child, as it is declared. -/
inductive DeclaredType where
  | boolean
  | enumeration (name : String)
  /-- Any other simple value. -/
  | scalar (name : String)
  | element (name : String)
  | list (item : DeclaredType)
  /-- A list whose items have an unknown type. -/
  | erasedList
  deriving DecidableEq, Repr

/-- How the elements of a child are called, as it is declared. -/
inductive DeclaredKind where
  /-- By the tag of the type or of one of its subtypes. -/
  | reference
  /-- By a name of their own. -/
  | named
  deriving DecidableEq, Repr

structure AttributeDeclaration where
  accessor : String
  /-- The name, if the declaration chooses one. -/
  name : Option String
  type : DeclaredType
  deriving DecidableEq, Repr

structure ChildDeclaration where
  accessor : String
  kind : DeclaredKind
  /-- The name of its elements, if the declaration chooses one. -/
  name : Option String
  type : DeclaredType
  deriving DecidableEq, Repr

structure TypeDeclaration where
  name : String
  supertype : Option String
  root : Option RootElement
  attributes : List AttributeDeclaration
  children : List ChildDeclaration
  deriving DecidableEq, Repr

/-- The members of enumerations by name. -/
abbrev Enums := OrderedMap String (List String)

/-- What a schema declares. -/
structure Schema where
  enums : Enums
  types : List TypeDeclaration
  deriving DecidableEq

/-! ### From declarations to bindings -/

/-- The type with its enumerations looked up, for an accessor of the type `owner`. -/
def DeclaredType.resolve (enums : Enums) (owner accessor : String) :
    DeclaredType → Except Error ValueType
  | .boolean => .ok .boolean
  | .enumeration name =>
    match enums.get? name with
    | some variants => .ok (.enumeration name variants)
    | none => .error (.binding ⟨.unknownEnumeration name, some owner, some accessor⟩)
  | .scalar name => .ok (.scalar name)
  | .element name => .ok (.element ⟨name⟩)
  | .list item => do return .list (← item.resolve enums owner accessor)
  | .erasedList => .ok .erasedList

/-- The binding of an attribute of the type `owner`. -/
def AttributeDeclaration.bind (enums : Enums) (owner : String) (a : AttributeDeclaration) :
    Except Error AttributeBinding := do
  return ⟨a.accessor, a.name, ← a.type.resolve enums owner a.accessor⟩

/-- The kind of a child of the type `owner`. A reference may have no name of its own, and a named
child without one is called after its accessor. -/
def ChildDeclaration.bindKind (owner : String) (c : ChildDeclaration) : Except Error ChildKind :=
  match c.kind, c.name with
  | .reference, none => .ok .reference
  | .reference, some _ => .error (.binding ⟨.namedReference, some owner, some c.accessor⟩)
  | .named, name => .ok (.named (name.getD (Name.propertyName c.accessor)))

/-- The binding of a child of the type `owner`. -/
def ChildDeclaration.bind (enums : Enums) (owner : String) (c : ChildDeclaration) :
    Except Error ChildBinding := do
  let valueType ← c.type.resolve enums owner c.accessor
  let kind ← c.bindKind owner
  return ⟨c.accessor, kind, valueType⟩

def TypeDeclaration.bind (enums : Enums) (t : TypeDeclaration) : Except Error TypeBinding := do
  let attributes ← t.attributes.mapM (·.bind enums t.name)
  let children ← t.children.mapM (·.bind enums t.name)
  return ⟨⟨t.name⟩, t.supertype.map .mk, t.root, attributes, children⟩

namespace Schema

/-- Bind and register types one after another, up to the first fault. -/
def registerTypes (enums : Enums) (r : Registry) : List TypeDeclaration → Except Error Registry
  | [] => .ok r
  | t :: ts => do
    let b ← t.bind enums
    registerTypes enums (← r.registered b) ts

def toRegistry (s : Schema) : Except Error Registry := do
  let r ← registerTypes s.enums .empty s.types
  r.validate
  return r

def loadedEvent (s : Schema) : Event := .loadedSchema s.types.length s.enums.size

end Schema

end TagGrammar
