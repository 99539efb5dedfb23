import TagGrammar.Json.Printer
import TagGrammar.Json.Reader

/-!
# Strings read back

A character of a string can be written in four ways: as it is, by a letter behind a backslash, by
the four digits of its 16-bit unit, or by those of a pair of units. `SpellsChars` says of a text
that it starts with such characters and a closing quote. The reader takes every spelling, and the
printer uses some of them:

    readString_of_spells       : SpellsChars cs s rest → readString cs = .ok (s, rest)
    spells_flatMap_escapedChar : SpellsChars (cs.flatMap escapedChar ++ '"' :: rest) cs rest
-/

namespace TagGrammar.Json

/-- From behind an opening quote, or between two characters of a string, the text spells the
characters that are left of the string, and the rest stands behind the closing quote. -/
inductive SpellsChars : (cs s rest : List Char) → Prop where
  | close {rest : List Char} : SpellsChars ('"' :: rest) [] rest
  | plain {c : Char} {cs s rest : List Char} (hquote : c ≠ '"') (hslash : c ≠ '\\')
      (hcode : ¬ c.toNat < 32) (h : SpellsChars cs s rest) : SpellsChars (c :: cs) (c :: s) rest
  | letter {letter c : Char} {cs s rest : List Char} (hletter : shortEscape? letter = some c)
      (h : SpellsChars cs s rest) : SpellsChars ('\\' :: letter :: cs) (c :: s) rest
  | unit {w x y z c : Char} {cs s rest : List Char} (hunit : hexUnit? w x y z = some c.toNat)
      (h : SpellsChars cs s rest) :
      SpellsChars ('\\' :: 'u' :: w :: x :: y :: z :: cs) (c :: s) rest
  | pair {w x y z w' x' y' z' c : Char} {high low : Nat} {cs s rest : List Char}
      (hhigh : hexUnit? w x y z = some high) (hlow : hexUnit? w' x' y' z' = some low)
      (hopens : 0xD800 ≤ high ∧ high ≤ 0xDBFF) (hcloses : 0xDC00 ≤ low ∧ low ≤ 0xDFFF)
      (hc : c.toNat = 0x10000 + (high - 0xD800) * 0x400 + (low - 0xDC00))
      (h : SpellsChars cs s rest) :
      SpellsChars ('\\' :: 'u' :: w :: x :: y :: z :: '\\' :: 'u' :: w' :: x' :: y' :: z' :: cs)
        (c :: s) rest

theorem SpellsChars.length_lt {cs s rest : List Char} (h : SpellsChars cs s rest) :
    rest.length < cs.length := by
  induction h with
  | close => simp
  | plain | letter | unit | pair => simp only [List.length_cons]; omega

/-! ## Escapes -/

theorem readEscape_letter {letter c : Char} (rest : List Char)
    (hletter : shortEscape? letter = some c) : readEscape (letter :: rest) = .ok (c, rest) := by
  have hu : letter ≠ 'u' := by
    rintro rfl
    simp [shortEscape?] at hletter
  rw [readEscape, if_neg hu, hletter]

/-- No character is half of a surrogate pair. -/
theorem not_surrogate (c : Char) :
    isHighSurrogate c.toNat = false ∧ isLowSurrogate c.toNat = false := by
  have hvalid : c.toNat < 0xD800 ∨ 0xDFFF < c.toNat ∧ c.toNat < 0x110000 := c.valid
  constructor
  · exact decide_eq_false (by omega)
  · exact decide_eq_false (by omega)

theorem readEscape_unit {w x y z c : Char} (rest : List Char)
    (hunit : hexUnit? w x y z = some c.toNat) :
    readEscape ('u' :: w :: x :: y :: z :: rest) = .ok (c, rest) := by
  obtain ⟨hhigh, hlow⟩ := not_surrogate c
  show readUnicode (w :: x :: y :: z :: rest) = _
  rw [readUnicode, readUnit, hunit]
  show (if isHighSurrogate c.toNat then _ else if isLowSurrogate c.toNat then _ else
    Except.ok (Char.ofNat c.toNat, rest)) = _
  rw [hhigh, hlow, Char.ofNat_toNat]
  rfl

theorem readEscape_pair {w x y z w' x' y' z' c : Char} {high low : Nat} (rest : List Char)
    (hhigh : hexUnit? w x y z = some high) (hlow : hexUnit? w' x' y' z' = some low)
    (hopens : 0xD800 ≤ high ∧ high ≤ 0xDBFF) (hcloses : 0xDC00 ≤ low ∧ low ≤ 0xDFFF)
    (hc : c.toNat = 0x10000 + (high - 0xD800) * 0x400 + (low - 0xDC00)) :
    readEscape ('u' :: w :: x :: y :: z :: '\\' :: 'u' :: w' :: x' :: y' :: z' :: rest) =
      .ok (c, rest) := by
  have hfirst : isHighSurrogate high = true := decide_eq_true hopens
  have hsecond : isLowSurrogate low = true := decide_eq_true hcloses
  have hpair : surrogatePair high low = c := by
    rw [surrogatePair, ← hc, Char.ofNat_toNat]
  show readUnicode (w :: x :: y :: z :: '\\' :: 'u' :: w' :: x' :: y' :: z' :: rest) = _
  rw [readUnicode, readUnit, hhigh]
  show (if isHighSurrogate high then readLowSurrogate high _ else _) = _
  rw [if_pos hfirst, readLowSurrogate, readUnit, hlow]
  show (if isLowSurrogate low then Except.ok (surrogatePair high low, rest) else _) = _
  rw [if_pos hsecond, hpair]

/-! ## Strings -/

/-- Put a character before the string that has been read. -/
def consChar (c : Char) (result : Except TextFault (List Char × List Char)) :
    Except TextFault (List Char × List Char) :=
  result.map fun r => (c :: r.1, r.2)

theorem readString_quote (rest : List Char) : readString ('"' :: rest) = .ok ([], rest) := by
  rw [readString, if_pos rfl]

theorem readString_escape {cs rest : List Char} {c : Char} (h : readEscape cs = .ok (c, rest)) :
    readString ('\\' :: cs) = consChar c (readString rest) := by
  rw [readString, if_neg (by decide), if_pos rfl]
  split
  · next heq =>
    rw [h] at heq
    cases heq
  · next heq =>
    rw [h] at heq
    cases heq
    cases readString rest <;> rfl

theorem readString_plain {c : Char} (rest : List Char) (hquote : c ≠ '"') (hslash : c ≠ '\\')
    (hcode : ¬ c.toNat < 32) : readString (c :: rest) = consChar c (readString rest) := by
  rw [readString, if_neg hquote, if_neg hslash, if_neg hcode]
  cases readString rest <;> rfl

/-- However the characters of a string are spelled, they are read as they are. -/
theorem readString_of_spells {cs s rest : List Char} (h : SpellsChars cs s rest) :
    readString cs = .ok (s, rest) := by
  induction h with
  | close => exact readString_quote _
  | plain hquote hslash hcode _ ih =>
    rw [readString_plain _ hquote hslash hcode, ih]
    rfl
  | letter hletter _ ih =>
    rw [readString_escape (readEscape_letter _ hletter), ih]
    rfl
  | unit hunit _ ih =>
    rw [readString_escape (readEscape_unit _ hunit), ih]
    rfl
  | pair hhigh hlow hopens hcloses hc _ ih =>
    rw [readString_escape (readEscape_pair _ hhigh hlow hopens hcloses hc), ih]
    rfl

/-! ## How the printer writes them -/

/-- A character is written by a letter, by its code, or as it is. -/
theorem escapedChar_cases (c : Char) :
    (∃ letter, shortEscape? letter = some c ∧ escapedChar c = ['\\', letter]) ∨
      (c.toNat < 32 ∧ escapedChar c = '\\' :: 'u' :: '0' :: '0' :: hexByte c.toNat) ∨
        (c ≠ '"' ∧ c ≠ '\\' ∧ ¬ c.toNat < 32 ∧ escapedChar c = [c]) := by
  by_cases hquote : c = '"'
  · subst hquote
    exact .inl ⟨'"', rfl, rfl⟩
  by_cases hslash : c = '\\'
  · subst hslash
    exact .inl ⟨'\\', rfl, rfl⟩
  by_cases hback : c = '\x08'
  · subst hback
    exact .inl ⟨'b', rfl, rfl⟩
  by_cases htab : c = '\t'
  · subst htab
    exact .inl ⟨'t', rfl, rfl⟩
  by_cases hline : c = '\n'
  · subst hline
    exact .inl ⟨'n', rfl, rfl⟩
  by_cases hpage : c = '\x0c'
  · subst hpage
    exact .inl ⟨'f', rfl, rfl⟩
  by_cases hreturn : c = '\r'
  · subst hreturn
    exact .inl ⟨'r', rfl, rfl⟩
  rw [escapedChar, if_neg hquote, if_neg hslash, if_neg hback, if_neg htab, if_neg hline,
    if_neg hpage, if_neg hreturn]
  by_cases hcode : c.toNat < 32
  · rw [if_pos hcode]
    exact .inr (.inl ⟨hcode, rfl⟩)
  · rw [if_neg hcode]
    exact .inr (.inr ⟨hquote, hslash, hcode, rfl⟩)

theorem hexUnit?_hexByte : ∀ n < 32,
    hexUnit? '0' '0' (Nat.digitChar (n / 16)) (Nat.digitChar (n % 16)) = some n := by
  decide

/-- Whatever way the printer chooses for a character, it is one of the ways to spell it. -/
theorem spells_escapedChar (c : Char) {cs s rest : List Char} (h : SpellsChars cs s rest) :
    SpellsChars (escapedChar c ++ cs) (c :: s) rest := by
  rcases escapedChar_cases c with ⟨letter, hc, he⟩ | ⟨hcode, he⟩ | ⟨hquote, hslash, hcode, he⟩
  · rw [he]
    exact .letter hc h
  · rw [he]
    exact .unit (hexUnit?_hexByte c.toNat hcode) h
  · rw [he]
    exact .plain hquote hslash hcode h

theorem spells_flatMap_escapedChar (cs rest : List Char) :
    SpellsChars (cs.flatMap escapedChar ++ '"' :: rest) cs rest := by
  induction cs with
  | nil => exact .close
  | cons c cs ih =>
    rw [List.flatMap_cons, List.append_assoc]
    exact spells_escapedChar c ih

theorem stringLiteral_append (s : String) (rest : List Char) :
    stringLiteral s ++ rest = '"' :: (s.toList.flatMap escapedChar ++ '"' :: rest) := by
  simp [stringLiteral]

end TagGrammar.Json
