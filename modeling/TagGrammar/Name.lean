import TagGrammar.Text.Case

/-!
# Names

Tags and attributes carry XML Names. A declaration may leave such a name out, and then it is
derived: a tag from the name of its type, an attribute or an element name from the accessor it is
read through. Two views fix what the derivations do:

* `IsSuffixAfterSeparator` — `simpleName` cuts a type name behind its last separator;
* `isValid` — a valid name is a start character followed by name characters.

The work is done on lists of characters; the functions on strings wrap it.
-/

namespace TagGrammar.Name

/-! ### Validity -/

/-- Whether an XML Name may start with `c`. Of the letters beyond ASCII this covers Latin, the
phonetic block, and the first letters of the Greek block. -/
def isStart (c : Char) : Bool :=
  c == ':' || c == '_' || ('A' ≤ c && c ≤ 'Z') || ('a' ≤ c && c ≤ 'z')
    || ('\u00c0' ≤ c && c ≤ '\u00d6') || ('\u00d8' ≤ c && c ≤ '\u00f6')
    || ('\u00f8' ≤ c && c ≤ '\u02ff') || ('\u0370' ≤ c && c ≤ '\u037d')

/-- Whether `c` may stand in an XML Name behind its first character. -/
def isRest (c : Char) : Bool :=
  isStart c || c == '-' || c == '.' || ('0' ≤ c && c ≤ '9') || c == '\u00b7'

/-- Whether the characters form an XML Name. -/
def isValidChars : List Char → Bool
  | [] => false
  | c :: cs => isStart c && cs.all isRest

def isValid (s : String) : Bool := isValidChars s.toList

/-! ### Derived names -/

/-- The text with its first character in lower case. -/
def decapitalizeChars : List Char → List Char
  | [] => []
  | c :: cs => Text.toLowercase c ++ cs

/-- What follows the last separator of a type name, if it has one. Separators are a dot and a
double colon. -/
def afterSeparator? : List Char → Option (List Char)
  | [] => none
  | c :: cs =>
    match afterSeparator? cs with
    | some tail => some tail
    | none =>
      if c = '.' then some cs
      else if c = ':' then
        match cs with
        | ':' :: tail => some tail
        | _ => none
      else none

/-- A type name without the path before it. -/
def simpleNameChars (cs : List Char) : List Char := (afterSeparator? cs).getD cs

/-- What an accessor reads, for an accessor that starts with `verb` and goes on with a capital. -/
def afterVerb? (verb cs : List Char) : Option (List Char) :=
  if verb.isPrefixOf cs then
    match cs.drop verb.length with
    | c :: rest => if Text.isUppercase c then some (c :: rest) else none
    | [] => none
  else none

/-- The name of the property behind an accessor: a leading verb is dropped, and the first letter
of what remains becomes small. -/
def propertyNameChars (cs : List Char) : List Char :=
  decapitalizeChars <|
    match afterVerb? ['g', 'e', 't'] cs with
    | some rest => rest
    | none => (afterVerb? ['i', 's'] cs).getD cs

def decapitalize (s : String) : String := String.ofList (decapitalizeChars s.toList)

def simpleName (s : String) : String := String.ofList (simpleNameChars s.toList)

/-- The tag of a type that is a root element without a tag of its own choice. -/
def defaultTagName (typeName : String) : String := decapitalize (simpleName typeName)

/-- The name of the property behind an accessor: `getSize` reads `size`, `isOpen` reads `open`, and
`issue` reads `issue`. -/
def propertyName (accessor : String) : String := String.ofList (propertyNameChars accessor.toList)

/-! ### The cut behind the last separator -/

/-- The suffix `t` of `s` comes directly behind a separator. -/
def IsSuffixAfterSeparator (t s : List Char) : Prop :=
  ∃ p, s = p ++ '.' :: t ∨ s = p ++ ':' :: ':' :: t

theorem isSuffixAfterSeparator_of_afterSeparator? {s t : List Char}
    (h : afterSeparator? s = some t) : IsSuffixAfterSeparator t s := by
  induction s generalizing t with
  | nil => simp [afterSeparator?] at h
  | cons c cs ih =>
    unfold afterSeparator? at h
    split at h
    · next tail htail =>
      obtain rfl := Option.some.inj h
      obtain ⟨p, hp | hp⟩ := ih htail
      · exact ⟨c :: p, .inl (by simp [hp])⟩
      · exact ⟨c :: p, .inr (by simp [hp])⟩
    · split at h
      · next hc => exact ⟨[], .inl (by simp_all)⟩
      · split at h
        · next hc =>
          split at h
          · exact ⟨[], .inr (by simp_all)⟩
          · simp at h
        · simp at h

end TagGrammar.Name
