import TagGrammar.Text.HiddenTable

/-!
# Quoted text

Messages and log fields show a text between double quotes, in a form that leaves no doubt about
what it holds: a quote, a backslash and the common controls have two-character escapes, every other
character that a reader could not see is written by its code point as `\u{…}`, and all else stands
for itself.
-/

namespace TagGrammar.Text

/-- Whether `c` cannot be seen by itself: an ASCII control, or a member of `hiddenRanges`. -/
def isHidden (c : Char) : Bool :=
  if c.toNat < 128 then c.toNat < 32 || c.toNat == 127
  else hiddenRanges.any (·.contains c.toNat)

/-- The escape that names a code point by its hexadecimal digits, without leading zeros. -/
def codePointEscape (c : Char) : List Char :=
  ['\\', 'u', '\x7b'] ++ Nat.toDigits 16 c.toNat ++ ['\x7d']

/-- One character of a quoted text. -/
def quotedChar (c : Char) : List Char :=
  if c = '"' then ['\\', '"']
  else if c = '\\' then ['\\', '\\']
  else if c = '\t' then ['\\', 't']
  else if c = '\n' then ['\\', 'n']
  else if c = '\r' then ['\\', 'r']
  else if c.toNat = 0 then ['\\', '0']
  else if isHidden c then codePointEscape c
  else [c]

/-- The text between double quotes, with its hidden characters escaped. -/
def quoted (s : String) : String :=
  String.ofList ('"' :: s.toList.flatMap quotedChar ++ ['"'])

end TagGrammar.Text
