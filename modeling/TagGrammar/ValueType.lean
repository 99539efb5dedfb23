/-!
# Types of attributes and children

What an attribute or a child holds: a boolean, a member of an enumeration, some other scalar, an
element of a declared type, or a list of one of these. The type of a list's items may be lost, and
such an erased list is told apart from all others.
-/

namespace TagGrammar

/-- The name of a type that elements can have, possibly with a path before it. -/
structure TypeName where
  name : String
  deriving DecidableEq, Repr

/-- The type of an attribute or a child. -/
inductive ValueType where
  | boolean
  /-- One of the variants, which are kept as declared. -/
  | enumeration (name : String) (variants : List String)
  /-- Any other simple value. -/
  | scalar (name : String)
  | element (type : TypeName)
  | list (item : ValueType)
  /-- A list whose items have an unknown type. -/
  | erasedList
  deriving DecidableEq, Repr

namespace ValueType

/-- The type behind one level of list; an erased list hides it. -/
def item? : ValueType → Option ValueType
  | .list item => some item
  | .erasedList => none
  | type => some type

/-- The element type behind one level of list, if it is one. -/
def elementType? (type : ValueType) : Option TypeName :=
  match type.item? with
  | some (.element target) => some target
  | _ => none

/-- A short description. -/
def describe : ValueType → String
  | .boolean => "boolean"
  | .enumeration name _ => "enum " ++ name
  | .scalar name => name
  | .element type => type.name
  | .list item => "list<" ++ item.describe ++ ">"
  | .erasedList => "list<?>"

end ValueType

end TagGrammar
