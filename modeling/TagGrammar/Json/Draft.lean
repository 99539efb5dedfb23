import TagGrammar.Json.Fault

/-!
# Texts as far as they can be read

A text may be malformed at some place, and what comes before that place may already have the wrong
content. A `Draft` is the tree of what a text holds up to its first fault, with the fault at its
place, so that whoever walks it in the order of the text meets the two kinds of faults in order.

A draft without faults is a JSON value, and `Draft.whole` tells the two cases apart.
-/

namespace TagGrammar.Json

/-- How the items of an array or the members of an object end. Behind an item or a member that
cannot be read nothing more is, and its ending is of no account. -/
inductive Ending where
  /-- With the bracket that belongs there. -/
  | closed
  /-- With a fault, which may come directly behind a comma. -/
  | stopped (fault : TextFault) (afterComma : Bool)

/-- What a text holds, up to its first fault. -/
inductive Draft where
  | null
  | boolean (value : Bool)
  | number (value : Number)
  | string (value : String)
  | array (items : List Draft) (ending : Ending)
  | object (members : List (String × Draft)) (ending : Ending)
  /-- A bracket that stands too deep within other brackets to be looked into. -/
  | tooDeep (kind : Bracket)
  /-- The text ends where a value should start. -/
  | missing
  /-- A string with a fault. -/
  | badString (fault : TextFault)
  /-- Something else that is no value. -/
  | bad (fault : TextFault)

namespace Ending

/-- Whether the bracket that belongs there has come, and the fault otherwise. -/
def check : Ending → Except TextFault Unit
  | .closed => .ok ()
  | .stopped fault _ => .error fault

/-- The check of a reader that wants the closing bracket and nothing else: to it, a comma is out of
place. -/
def checkLast : Ending → Except TextFault Unit
  | .closed => .ok ()
  | .stopped fault false => .error fault
  | .stopped _ true => .error .malformed

end Ending

namespace Draft

/-- The value as a message shows it, or the fault that hides it. Brackets are not looked into. -/
def found : Draft → Except TextFault Found
  | .null => .ok .null
  | .boolean value => .ok (.boolean value)
  | .number value => .ok (.number value)
  | .string value => .ok (.string value)
  | .array _ _ => .ok (.bracket .sequence)
  | .object _ _ => .ok (.bracket .map)
  | .tooDeep kind => .ok (.bracket kind)
  | .missing => .error .ended
  | .badString fault => .error fault
  | .bad fault => .error fault

mutual

/-- The value of a draft without faults, or else its first fault. -/
def whole : Draft → Except TextFault Json
  | .null => .ok .null
  | .boolean value => .ok (.boolean value)
  | .number value => .ok (.number value)
  | .string value => .ok (.string value)
  | .array items ending => do
    let items ← wholeItems items
    ending.check
    return .array items
  | .object members ending => do
    let members ← wholeMembers members
    ending.check
    return .object members
  | .tooDeep _ => .error .malformed
  | .missing => .error .ended
  | .badString fault => .error fault
  | .bad fault => .error fault

def wholeItems : List Draft → Except TextFault (List Json)
  | [] => .ok []
  | item :: items => do
    let value ← whole item
    let values ← wholeItems items
    return value :: values

def wholeMembers : List (String × Draft) → Except TextFault (List (String × Json))
  | [] => .ok []
  | (key, item) :: members => do
    let value ← whole item
    let values ← wholeMembers members
    return (key, value) :: values

end

end Draft

mutual

/-- The draft of a value, which has no fault. -/
def toDraft : Json → Draft
  | .null => .null
  | .boolean value => .boolean value
  | .number value => .number value
  | .string value => .string value
  | .array items => .array (toDraftItems items) .closed
  | .object members => .object (toDraftMembers members) .closed

def toDraftItems : List Json → List Draft
  | [] => []
  | item :: items => toDraft item :: toDraftItems items

def toDraftMembers : List (String × Json) → List (String × Draft)
  | [] => []
  | (key, value) :: members => (key, toDraft value) :: toDraftMembers members

end

end TagGrammar.Json
