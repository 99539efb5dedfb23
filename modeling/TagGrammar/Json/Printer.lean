import TagGrammar.Json.Value

/-!
# The text of JSON values

Two layouts share one printer: the compact one has no blanks at all, and the indented one gives each
item and each member a line of its own, two blanks deeper than its bracket. An empty array or
object is a pair of brackets in both.
-/

namespace TagGrammar.Json

/-- How the text of a value is laid out. -/
inductive Layout where
  /-- All in one line, without blanks. -/
  | compact
  /-- An item or a member per line. -/
  | indented
  deriving DecidableEq, Repr

namespace Layout

/-- The break before a line that stands `level` brackets deep. -/
def lineBreak : Layout → (level : Nat) → List Char
  | .compact, _ => []
  | .indented, level => '\n' :: List.replicate (2 * level) ' '

/-- What stands between a key and its value. -/
def keySeparator : Layout → List Char
  | .compact => [':']
  | .indented => [':', ' ']

end Layout

/-- The two hexadecimal digits of a number below 256, letters in lower case. -/
def hexByte (n : Nat) : List Char := [Nat.digitChar (n / 16), Nat.digitChar (n % 16)]

/-- One character within a string: quotes, backslashes and controls are escaped, all else stands
for itself. -/
def escapedChar (c : Char) : List Char :=
  if c = '"' then ['\\', '"']
  else if c = '\\' then ['\\', '\\']
  else if c = '\x08' then ['\\', 'b']
  else if c = '\t' then ['\\', 't']
  else if c = '\n' then ['\\', 'n']
  else if c = '\x0c' then ['\\', 'f']
  else if c = '\r' then ['\\', 'r']
  else if c.toNat < 32 then ['\\', 'u', '0', '0'] ++ hexByte c.toNat
  else [c]

def stringLiteral (s : String) : List Char := '"' :: s.toList.flatMap escapedChar ++ ['"']

mutual

/-- The text of a value that stands `level` brackets deep. -/
def render (layout : Layout) (level : Nat) : Json → List Char
  | .null => ['n', 'u', 'l', 'l']
  | .boolean true => ['t', 'r', 'u', 'e']
  | .boolean false => ['f', 'a', 'l', 's', 'e']
  | .number n => n.text.toList
  | .string s => stringLiteral s
  | .array [] => ['[', ']']
  | .array (item :: items) =>
    '[' :: layout.lineBreak (level + 1) ++ render layout (level + 1) item
      ++ renderItems layout (level + 1) items ++ layout.lineBreak level ++ [']']
  | .object [] => ['\x7b', '\x7d']
  | .object ((key, value) :: members) =>
    '\x7b' :: layout.lineBreak (level + 1) ++ stringLiteral key ++ layout.keySeparator
      ++ render layout (level + 1) value
      ++ renderMembers layout (level + 1) members ++ layout.lineBreak level ++ ['\x7d']

/-- The text of the items behind the first. -/
def renderItems (layout : Layout) (level : Nat) : List Json → List Char
  | [] => []
  | item :: items =>
    ',' :: layout.lineBreak level ++ render layout level item ++ renderItems layout level items

/-- The text of the members behind the first. -/
def renderMembers (layout : Layout) (level : Nat) : List (String × Json) → List Char
  | [] => []
  | (key, value) :: members =>
    ',' :: layout.lineBreak level ++ stringLiteral key ++ layout.keySeparator
      ++ render layout level value ++ renderMembers layout level members

end

def text (layout : Layout) (value : Json) : String := String.ofList (render layout 0 value)

end TagGrammar.Json
