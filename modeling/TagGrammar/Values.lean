import TagGrammar.Collection.OrderedMap
import TagGrammar.Collection.OrderedSet
import TagGrammar.ValueType

/-!
# Suggested values

Booleans and enumerations have a closed set of values. Of any other type nothing is known, unless a
factory of values has an opinion on it. A list has the values of its items, and a list whose items
are unknown has no values at all, which is not the same as having no constraint:

    valuesFor_erasedList : valuesFor factory a .erasedList = some .empty
-/

namespace TagGrammar

/-- A source of values for attributes of types without values of their own; `none` is no opinion. -/
abbrev ValueFactory := (name : String) → ValueType → Option ValueSet

/-- Where the values of an attribute come from. -/
inductive ValueClass where
  /-- From the type of truth values. -/
  | boolean
  /-- From an enumeration, as declared. -/
  | enumerated (variants : List String)
  /-- From a factory. -/
  | custom (values : ValueSet)
  /-- From nowhere: any value will do. -/
  | unconstrained
  deriving DecidableEq

namespace ValueClass

def truthValues : List String := ["true", "false"]

/-- The suggested values; `none` if any will do. -/
def values : ValueClass → Option ValueSet
  | .boolean => some (.ofList truthValues)
  | .enumerated variants => some (.ofList variants)
  | .custom values => some values
  | .unconstrained => none

end ValueClass

/-- The class of an attribute of this name and type, without looking into lists. -/
def classify (factory : Option ValueFactory) (name : String) : ValueType → ValueClass
  | .boolean => .boolean
  | .enumeration _ variants => .enumerated variants
  | type =>
    match factory.bind (· name type) with
    | some values => .custom values
    | none => .unconstrained

/-- The values of an attribute of this name and type, where a list counts as its items. -/
def valuesFor (factory : Option ValueFactory) (name : String) (type : ValueType) :
    Option ValueSet :=
  match type.item? with
  | some item => (classify factory name item).values
  | none => some .empty

theorem valuesFor_erasedList (factory : Option ValueFactory) (name : String) :
    valuesFor factory name .erasedList = some .empty := rfl

/-! ### Tables of values -/

/-- Values for attributes by their names alone. -/
abbrev ValueTable := OrderedMap String ValueSet

namespace ValueTable

/-- The table with `values` for an attribute, in place of any it had. -/
def suggest (table : ValueTable) (name : String) (values : List String) : ValueTable :=
  table.insert name (.ofList values)

def ofList (l : List (String × List String)) : ValueTable :=
  l.foldl (fun table e => suggest table e.1 e.2) .empty

/-- The factory that gives the values of the table, whatever the type. -/
def factory (table : ValueTable) : ValueFactory := fun name _ => table.get? name

end ValueTable

end TagGrammar
