import TagGrammar.Text.CaseTable

/-!
# Upper and lower case

`isUppercase` is the Unicode property Uppercase (so it holds of `Ⓐ` and `Ⅳ`, but not of the
title-case letter `ǅ`), and `toLowercase` is the full lower-case form of one character, taken out
of context. Both agree with the ASCII functions of the standard library below U+0080:

    isUppercase_ascii : c.toNat < 128 → isUppercase c = c.isUpper
    toLowercase_ascii : c.toNat < 128 → toLowercase c = [c.toLower]
-/

namespace TagGrammar.Text

/-- Whether `c` has the Unicode property Uppercase. -/
def isUppercase (c : Char) : Bool :=
  if c.toNat < 128 then c.isUpper else uppercaseRanges.any (·.contains c.toNat)

/-- The lower-case form of `c`. It is one character, except that a dotted capital I gives a small
i followed by a combining dot. -/
def toLowercase (c : Char) : List Char :=
  if c.toNat < 128 then [c.toLower]
  else if c = 'İ' then ['i', '\u0307']
  else
    match lowercaseRuns.find? (·.1.contains c.toNat) with
    | some (_, distance) => [Char.ofNat (c.toNat + distance).toNat]
    | none => [c]

theorem isUppercase_ascii {c : Char} (h : c.toNat < 128) : isUppercase c = c.isUpper := by
  simp [isUppercase, h]

theorem toLowercase_ascii {c : Char} (h : c.toNat < 128) : toLowercase c = [c.toLower] := by
  simp [toLowercase, h]

end TagGrammar.Text
