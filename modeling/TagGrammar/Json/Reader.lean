import TagGrammar.Json.Draft
import TagGrammar.Json.Numeral

/-!
# Reading JSON

The reader accepts strict JSON: four blanks, no comments, no trailing commas, no controls within
strings, surrogates only in pairs. Brackets may stand `depthLimit` deep. A reading is the draft of
what could be read together with the rest of the text, or with `none` where the reading stopped.

`Json.read` reads a whole text, and `Json.parse` wants it without faults.
-/

namespace TagGrammar.Json

/-- How many brackets may stand within each other. -/
def depthLimit : Nat := 127

/-- The characters that may stand between any two parts of a text. -/
def isBlank (c : Char) : Bool := c == ' ' || c == '\t' || c == '\n' || c == '\r'

/-- The text without the blanks before it. -/
def skipBlanks (cs : List Char) : List Char := cs.dropWhile isBlank

/-! ### Strings -/

-- Sums start at the built-in zero, also where algebra is imported.
attribute [local instance (2000)] Zero.ofOfNat0

def hexDigit? (c : Char) : Option Nat :=
  if '0' ≤ c ∧ c ≤ '9' then some (c.toNat - '0'.toNat)
  else if 'a' ≤ c ∧ c ≤ 'f' then some (c.toNat - 'a'.toNat + 10)
  else if 'A' ≤ c ∧ c ≤ 'F' then some (c.toNat - 'A'.toNat + 10)
  else none

/-- The 16-bit unit that four hexadecimal digits stand for. -/
def hexUnit? (a b c d : Char) : Option Nat := do
  return ((← hexDigit? a) * 16 + (← hexDigit? b)) * 256 + ((← hexDigit? c) * 16 + (← hexDigit? d))

/-- The 16-bit unit at the start of a text. A text of fewer than four bytes has ended. -/
def readUnit : List Char → Except TextFault (Nat × List Char)
  | a :: b :: c :: d :: rest =>
    match hexUnit? a b c d with
    | some n => .ok (n, rest)
    | none => .error .malformed
  | cs => .error (if (cs.map Char.utf8Size).sum < 4 then .ended else .malformed)

/-- Whether a unit opens a surrogate pair. -/
def isHighSurrogate (n : Nat) : Bool := decide (0xD800 ≤ n ∧ n ≤ 0xDBFF)

/-- Whether a unit closes a surrogate pair. -/
def isLowSurrogate (n : Nat) : Bool := decide (0xDC00 ≤ n ∧ n ≤ 0xDFFF)

/-- The character of a surrogate pair. -/
def surrogatePair (high low : Nat) : Char :=
  Char.ofNat (0x10000 + (high - 0xD800) * 0x400 + (low - 0xDC00))

/-- The second half of a surrogate pair, with its escape. -/
def readLowSurrogate (high : Nat) : List Char → Except TextFault (Char × List Char)
  | '\\' :: 'u' :: cs => do
    let (low, rest) ← readUnit cs
    if isLowSurrogate low then return (surrogatePair high low, rest) else .error .malformed
  | [] => .error .ended
  | ['\\'] => .error .ended
  | _ => .error .malformed

/-- The character behind `\u`. -/
def readUnicode (cs : List Char) : Except TextFault (Char × List Char) := do
  let (n, rest) ← readUnit cs
  if isHighSurrogate n then readLowSurrogate n rest
  else if isLowSurrogate n then .error .malformed
  else return (Char.ofNat n, rest)

/-- The character that a letter stands for behind a backslash. -/
def shortEscape? (c : Char) : Option Char :=
  if c = '"' then some '"'
  else if c = '\\' then some '\\'
  else if c = '/' then some '/'
  else if c = 'b' then some '\x08'
  else if c = 'f' then some '\x0c'
  else if c = 'n' then some '\n'
  else if c = 'r' then some '\r'
  else if c = 't' then some '\t'
  else none

/-- The character that an escape stands for, from behind its backslash. -/
def readEscape : List Char → Except TextFault (Char × List Char)
  | [] => .error .ended
  | c :: cs =>
    if c = 'u' then readUnicode cs
    else
      match shortEscape? c with
      | some x => .ok (x, cs)
      | none => .error .malformed

theorem length_readUnit {cs rest : List Char} {n : Nat} (h : readUnit cs = .ok (n, rest)) :
    rest.length < cs.length := by
  unfold readUnit at h
  split at h
  · split at h <;> simp_all; omega
  · simp at h

theorem length_readLowSurrogate {cs rest : List Char} {n : Nat} {c : Char}
    (h : readLowSurrogate n cs = .ok (c, rest)) : rest.length < cs.length := by
  unfold readLowSurrogate at h
  split at h
  · next cs =>
    cases hu : readUnit cs with
    | error e => simp [hu, bind, Except.bind] at h
    | ok r =>
      have := length_readUnit hu
      simp only [hu, bind, Except.bind] at h
      split at h
      · simp only [pure, Except.pure, Except.ok.injEq, Prod.mk.injEq] at h
        simp only [List.length_cons, ← h.2]
        omega
      · simp at h
  all_goals simp at h

theorem length_readEscape {cs rest : List Char} {c : Char} (h : readEscape cs = .ok (c, rest)) :
    rest.length < cs.length := by
  unfold readEscape at h
  split at h
  · simp at h
  · next d ds =>
    split at h
    · unfold readUnicode at h
      cases hu : readUnit ds with
      | error e => simp [hu, bind, Except.bind] at h
      | ok r =>
        have := length_readUnit hu
        simp only [hu, bind, Except.bind] at h
        split at h
        · have := length_readLowSurrogate h
          simp only [List.length_cons]
          omega
        · split at h
          · simp at h
          · simp only [pure, Except.pure, Except.ok.injEq, Prod.mk.injEq] at h
            simp only [List.length_cons, ← h.2]
            omega
    · split at h <;> simp_all

/-- The characters of a string and the rest of the text, from behind the opening quote. -/
def readString (cs : List Char) : Except TextFault (List Char × List Char) :=
  match cs with
  | [] => .error .ended
  | c :: rest =>
    if c = '"' then .ok ([], rest)
    else if c = '\\' then
      match _h : readEscape rest with
      | .error fault => .error fault
      | .ok (x, rest') => do
        let (xs, rest) ← readString rest'
        return (x :: xs, rest)
    else if c.toNat < 32 then .error .malformed
    else do
      let (xs, rest) ← readString rest
      return (c :: xs, rest)
termination_by cs.length
decreasing_by
  · have := length_readEscape _h
    simp only [List.length_cons]
    omega
  · simp

/-! ### Values without brackets -/

/-- The rest of a text behind a word that it starts with. -/
def readWord : (word : List Char) → List Char → Except TextFault (List Char)
  | [], cs => .ok cs
  | _ :: _, [] => .error .ended
  | w :: ws, c :: cs => if c = w then readWord ws cs else .error .malformed

/-- The reading of a word that stands for a value. -/
def wordReading (word : List Char) (value : Draft) (cs : List Char) : Draft × Option (List Char) :=
  match readWord word cs with
  | .ok rest => (value, some rest)
  | .error fault => (.bad fault, none)

/-- The reading of a string, from behind its opening quote. -/
def stringReading (cs : List Char) : Draft × Option (List Char) :=
  match readString cs with
  | .ok (s, rest) => (.string (String.ofList s), some rest)
  | .error fault => (.badString fault, none)

def numberReading (cs : List Char) : Draft × Option (List Char) :=
  match Numeral.read cs with
  | .error fault => (.bad fault, none)
  | .ok (numeral, rest) =>
    match numeral.value? with
    | some value => (.number value, some rest)
    | none => (.bad .malformed, none)

/-- The reading of a value that starts with no bracket. -/
def scalarReading : List Char → Draft × Option (List Char)
  | [] => (.missing, none)
  | c :: cs =>
    if c = '"' then stringReading cs
    else if c = 'n' then wordReading ['u', 'l', 'l'] .null cs
    else if c = 't' then wordReading ['r', 'u', 'e'] (.boolean true) cs
    else if c = 'f' then wordReading ['a', 'l', 's', 'e'] (.boolean false) cs
    else if c = '-' ∨ c.isDigit then numberReading (c :: cs)
    else (.bad .malformed, none)

def bracket? (c : Char) : Option Bracket :=
  if c = '[' then some .sequence else if c = '\x7b' then some .map else none

/-! ### Arrays and objects

The loops over items and members take the reader of values as an argument and count their rounds;
each round takes at least one character, so the length of the text is a sufficient count. -/

/-- A reader of values. -/
abbrev ValueReader := List Char → Draft × Option (List Char)

/-- The items of an array, from the first character of an item on. -/
def readItems (value : ValueReader) : (rounds : Nat) → List Char →
    List Draft × Ending × Option (List Char)
  | 0, _ => ([], .stopped .malformed false, none)
  | rounds + 1, cs =>
    match value cs with
    | (item, none) => ([item], .stopped .malformed false, none)
    | (item, some rest) =>
      match skipBlanks rest with
      | [] => ([item], .stopped .ended false, none)
      | c :: rest =>
        if c = ']' then ([item], .closed, some rest)
        else if c = ',' then
          match skipBlanks rest with
          | [] => ([item], .stopped .ended true, none)
          | d :: rest =>
            if d = ']' then ([item], .stopped .malformed true, none)
            else
              let (items, ending, rest) := readItems value rounds (d :: rest)
              (item :: items, ending, rest)
        else ([item], .stopped .malformed false, none)

/-- The reading of an array, from behind its bracket. -/
def arrayReading (value : ValueReader) (rounds : Nat) (cs : List Char) :
    Draft × Option (List Char) :=
  match skipBlanks cs with
  | [] => (.array [] (.stopped .ended false), none)
  | c :: rest =>
    if c = ']' then (.array [] .closed, some rest)
    else
      let (items, ending, rest) := readItems value rounds (c :: rest)
      (.array items ending, rest)

/-- The value behind a key, with the colon before it. -/
def readMemberValue (value : ValueReader) (cs : List Char) : Draft × Option (List Char) :=
  match skipBlanks cs with
  | [] => (.missing, none)
  | c :: rest => if c = ':' then value (skipBlanks rest) else (.bad .malformed, none)

/-- The members of an object, from behind the opening quote of a key on. -/
def readMembers (value : ValueReader) : (rounds : Nat) → (afterComma : Bool) → List Char →
    List (String × Draft) × Ending × Option (List Char)
  | 0, afterComma, _ => ([], .stopped .malformed afterComma, none)
  | rounds + 1, afterComma, cs =>
    match readString cs with
    | .error fault => ([], .stopped fault afterComma, none)
    | .ok (key, rest) =>
      let key := String.ofList key
      match readMemberValue value rest with
      | (item, none) => ([(key, item)], .stopped .malformed false, none)
      | (item, some rest) =>
        match skipBlanks rest with
        | [] => ([(key, item)], .stopped .ended false, none)
        | c :: rest =>
          if c = '\x7d' then ([(key, item)], .closed, some rest)
          else if c = ',' then
            match skipBlanks rest with
            | [] => ([(key, item)], .stopped .ended true, none)
            | d :: rest =>
              if d = '"' then
                let (members, ending, rest) := readMembers value rounds true rest
                ((key, item) :: members, ending, rest)
              else ([(key, item)], .stopped .malformed true, none)
          else ([(key, item)], .stopped .malformed false, none)

/-- The reading of an object, from behind its bracket. -/
def objectReading (value : ValueReader) (rounds : Nat) (cs : List Char) :
    Draft × Option (List Char) :=
  match skipBlanks cs with
  | [] => (.object [] (.stopped .ended false), none)
  | c :: rest =>
    if c = '\x7d' then (.object [] .closed, some rest)
    else if c = '"' then
      let (members, ending, rest) := readMembers value rounds false rest
      (.object members ending, rest)
    else (.object [] (.stopped .malformed false), none)

/-- The reading of a value from its first character on, with `depth` more brackets allowed within
each other. -/
def valueReading (rounds : Nat) : (depth : Nat) → List Char → Draft × Option (List Char)
  | _, [] => (.missing, none)
  | depth, c :: cs =>
    match bracket? c, depth with
    | none, _ => scalarReading (c :: cs)
    | some kind, 0 => (.tooDeep kind, none)
    | some .sequence, depth + 1 => arrayReading (valueReading rounds depth) rounds cs
    | some .map, depth + 1 => objectReading (valueReading rounds depth) rounds cs

/-! ### Texts -/

/-- What a whole text holds. -/
structure Reading where
  draft : Draft
  /-- The fault behind the value: only blanks may follow it. -/
  trailing : Except TextFault Unit

def read (text : String) : Reading :=
  let cs := text.toList
  match valueReading cs.length depthLimit (skipBlanks cs) with
  | (draft, none) => ⟨draft, .ok ()⟩
  | (draft, some rest) =>
    ⟨draft, if (skipBlanks rest).isEmpty then .ok () else .error .malformed⟩

/-- The value of a text that is JSON. -/
def parse (text : String) : Except TextFault Json := do
  let reading := read text
  let value ← reading.draft.whole
  reading.trailing
  return value

end TagGrammar.Json
