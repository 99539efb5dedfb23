import TagGrammar.Json.Value
import TagGrammar.Text.Quoted

/-!
# What can be wrong with JSON

A text can be no JSON at all (`TextFault`), or be JSON that does not have the expected content
(`Mismatch`). A mismatch names what was found and what was wanted, and `Mismatch.message` is its
text.
-/

namespace TagGrammar.Json

/-- Why a text is not JSON. -/
inductive TextFault where
  | ended
  /-- Something stands where it must not. -/
  | malformed
  deriving DecidableEq, Repr

/-- A value as a message shows it: brackets are not looked into. -/
inductive Found where
  | null
  | boolean (value : Bool)
  | number (value : Number)
  | string (value : String)
  | bracket (kind : Bracket)
  deriving DecidableEq, Repr

/-- How the content of a JSON text differs from what is expected of it. -/
inductive Mismatch where
  | wrongType (found : Found) (expected : String)
  /-- A value of the right type that has no meaning here. -/
  | wrongValue (found : Found) (expected : String)
  | wrongLength (length : Nat) (expected : String)
  | unknownField (key : String) (expected : List String)
  | unknownVariant (word : String) (expected : List String)
  | duplicateField (key : String)
  | missingField (key : String)
  deriving DecidableEq, Repr

/-- A word between backticks. -/
def ticked (word : String) : String := "`" ++ word ++ "`"

/-- The value, as a message names it. -/
def Found.describe : Found → String
  | .null => "null"
  | .boolean value => "boolean " ++ ticked (if value then "true" else "false")
  | .number (.integer value) => "integer " ++ ticked (toString value)
  | .number (.real value) => "floating point " ++ ticked value.text
  | .string value => "string " ++ Text.quoted value
  | .bracket .sequence => "sequence"
  | .bracket .map => "map"

/-- The expected words, as a message lists them. -/
def alternatives : List String → String
  | [] => "nothing"
  | [a] => ticked a
  | [a, b] => ticked a ++ " or " ++ ticked b
  | words => "one of " ++ String.intercalate ", " (words.map ticked)

def Mismatch.message : Mismatch → String
  | .wrongType found expected => "invalid type: " ++ found.describe ++ ", expected " ++ expected
  | .wrongValue found expected => "invalid value: " ++ found.describe ++ ", expected " ++ expected
  | .wrongLength length expected =>
    "invalid length " ++ toString length ++ ", expected " ++ expected
  | .unknownField key expected =>
    "unknown field " ++ ticked key ++ ", expected " ++ alternatives expected
  | .unknownVariant word expected =>
    "unknown variant " ++ ticked word ++ ", expected " ++ alternatives expected
  | .duplicateField key => "duplicate field " ++ ticked key
  | .missingField key => "missing field " ++ ticked key

/-- The value as a message shows it. -/
def found : Json → Found
  | .null => .null
  | .boolean value => .boolean value
  | .number value => .number value
  | .string value => .string value
  | .array _ => .bracket .sequence
  | .object _ => .bracket .map

end TagGrammar.Json
