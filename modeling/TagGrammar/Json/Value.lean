import TagGrammar.Decimal.Shortest

/-!
# JSON values

A JSON value keeps what its text says: the members of an object stand in the order of the text, and
a key may occur more than once. A number written as a whole number within 64 bits is an integer;
every other number is a double.
-/

namespace TagGrammar

inductive Json.Number where
  /-- A whole number, without point or exponent in its text. -/
  | integer (value : Int)
  /-- A number with a point or an exponent, or a whole number that needs more than 64 bits. -/
  | real (value : Decimal.Binary64)
  deriving DecidableEq, Repr

inductive Json where
  | null
  | boolean (value : Bool)
  | number (value : Json.Number)
  | string (value : String)
  | array (items : List Json)
  /-- Keys with their values, in the order of the text. -/
  | object (members : List (String × Json))

/-- A kind of bracket, after what it holds. -/
inductive Json.Bracket where
  | sequence
  | map
  deriving DecidableEq, Repr

def Json.isNull : Json → Bool
  | .null => true
  | _ => false

namespace Json.Number

def text : Number → String
  | .integer value => toString value
  | .real value => value.text

end Json.Number

end TagGrammar
