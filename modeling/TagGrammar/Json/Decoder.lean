import TagGrammar.Error
import TagGrammar.Json.Reader

/-!
# Decoding JSON

A decoder takes the draft of a text to what it stands for. It looks at the draft in the order of the
text, so of several faults the first is reported, be it in the text or in its content.

The parts of a record are written as an object, or as an array with the parts in the order of the
fields. A `RecordForm` describes both ways: which fields there are, which of them must come, and
what each of them adds to what is known so far.
-/

namespace TagGrammar.Json

/-- A decoder of drafts. -/
abbrev Decoder (α : Type) := Draft → Except JsonFault α

/-- A fault of the text among the faults of JSON. -/
def inText {α : Type} : Except TextFault α → Except JsonFault α
  | .ok a => .ok a
  | .error fault => .error (.text fault)

/-- The failure where the text is malformed. -/
def malformed {α : Type} : Except JsonFault α := .error (.text .malformed)

/-- The failure where the content is not what was expected. -/
def reject {α : Type} (mismatch : Mismatch) : Except JsonFault α := .error (.content mismatch)

/-- The failure where a value of another type was expected. -/
def expect {α : Type} (expected : String) (d : Draft) : Except JsonFault α := do
  let found ← inText d.found
  reject (.wrongType found expected)

/-- The failure where another JSON value was expected. -/
def expectValue {α : Type} (expected : String) (j : Json) : Except JsonFault α :=
  reject (.wrongType j.found expected)

namespace Decoder

def text : Decoder String
  | .string s => .ok s
  | d => expect "a string" d

/-- Null, or what the decoder takes. -/
def optional {α : Type} (value : Decoder α) : Decoder (Option α)
  | .null => .ok none
  | d => do return some (← value d)

/-- An array of what the decoder takes. -/
def listOf {α : Type} (item : Decoder α) : Decoder (List α)
  | .array items ending => do
    let values ← items.mapM item
    inText ending.check
    return values
  | .tooDeep .sequence => malformed
  | d => expect "a sequence" d

/-- An object with any keys and, behind each, what the decoder takes; in the order of the text. -/
def entriesOf {α : Type} (value : Decoder α) : Decoder (List (String × α))
  | .object members ending => do
    let entries ← members.mapM fun e => do return (e.1, ← value e.2)
    inText ending.check
    return entries
  | .tooDeep .map => malformed
  | d => expect "a map" d

end Decoder

/-! ### Records -/

/-- How a record is decoded, where `σ` holds the parts known so far. -/
structure RecordForm (σ α : Type) where
  /-- What messages call the record. -/
  title : String
  fields : List String
  required : List String
  /-- What is known before any field. -/
  start : σ
  /-- What is known with the value of a field. -/
  set : (field : String) → Draft → σ → Except JsonFault σ
  /-- The record of its parts, if all that must come have. -/
  finish : σ → Except JsonFault α

/-- The part of a field that must come. -/
def require {α : Type} (field : String) : Option α → Except JsonFault α
  | some a => .ok a
  | none => reject (.missingField field)

namespace RecordForm

variable {σ α : Type}

/-- The parts behind the keys of an object. A key that is no field, or that came before, is refused
as soon as it is read. -/
def readMembers (form : RecordForm σ α) : (seen : List String) → List (String × Draft) → σ →
    Except JsonFault σ
  | _, [], parts => .ok parts
  | seen, (key, value) :: members, parts =>
    if key ∉ form.fields then reject (.unknownField key form.fields)
    else if key ∈ seen then reject (.duplicateField key)
    else do
      let parts ← form.set key value parts
      form.readMembers (key :: seen) members parts

/-- What messages expect of the length of an array. -/
def lengthText (form : RecordForm σ α) : String :=
  form.title ++ " with " ++ toString form.fields.length ++
    (if form.fields.length = 1 then " element" else " elements")

/-- The parts in the items of an array, for the fields from the one at `index` on. -/
def readItems (form : RecordForm σ α) (ending : Ending) : (fields : List String) → (index : Nat) →
    List Draft → σ → Except JsonFault σ
  | [], _, [], parts => do
    inText ending.checkLast
    return parts
  | [], _, _ :: _, _ => malformed
  | field :: fields, index, [], parts => do
    inText ending.check
    if field ∈ form.required then reject (.wrongLength index form.lengthText)
    else form.readItems ending fields (index + 1) [] parts
  | field :: fields, index, item :: items, parts => do
    let parts ← form.set field item parts
    form.readItems ending fields (index + 1) items parts

def decoder (form : RecordForm σ α) : Decoder α
  | .object members ending => do
    let parts ← form.readMembers [] members form.start
    inText ending.check
    form.finish parts
  | .array items ending => do
    let parts ← form.readItems ending form.fields 0 items form.start
    form.finish parts
  | .tooDeep _ => malformed
  | d => expect form.title d

end RecordForm

/-- Decode a whole text. -/
def Reading.decode {α : Type} (reading : Reading) (value : Decoder α) : Except JsonFault α := do
  let a ← value reading.draft
  inText reading.trailing
  return a

end TagGrammar.Json
