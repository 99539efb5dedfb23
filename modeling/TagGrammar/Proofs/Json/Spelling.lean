import TagGrammar.Json.Draft
import TagGrammar.Proofs.Json.Strings

/-!
# Texts of values

A value has many texts: blanks may stand between any two parts, and characters of strings have
several spellings. `Spells depth cs value rest` says that `cs` starts with one of the texts of the
value, with at most `depth` brackets within each other, and goes on with `rest`. Whichever text is
taken, it is read as the value, and as nothing else:

    valueReading_of_spells : Spells depth cs j rest → cs.length ≤ rounds →
      valueReading rounds depth cs = (toDraft j, some rest)
    read_of_isTextOf : IsTextOf text j → read text = ⟨toDraft j, .ok ()⟩

Values with numbers have no texts here, since no document and no schema has one.
-/

namespace TagGrammar.Json

/-! ## Blanks -/

/-- Blanks, or nothing, stand before the rest. -/
def Blanks (cs rest : List Char) : Prop :=
  ∃ blanks, (∀ c ∈ blanks, isBlank c) ∧ cs = blanks ++ rest

namespace Blanks

variable {cs rest : List Char}

theorem refl (cs : List Char) : Blanks cs cs := ⟨[], by simp, rfl⟩

theorem cons {c : Char} (hc : isBlank c) (h : Blanks cs rest) : Blanks (c :: cs) rest := by
  obtain ⟨blanks, hblanks, rfl⟩ := h
  exact ⟨c :: blanks, List.forall_mem_cons.2 ⟨hc, hblanks⟩, rfl⟩

theorem length_le (h : Blanks cs rest) : rest.length ≤ cs.length := by
  obtain ⟨blanks, _, rfl⟩ := h
  simp

theorem skipBlanks_eq (h : Blanks cs rest) : skipBlanks cs = skipBlanks rest := by
  obtain ⟨blanks, hblanks, rfl⟩ := h
  induction blanks with
  | nil => rfl
  | cons c blanks ih =>
    obtain ⟨hc, hblanks⟩ := List.forall_mem_cons.1 hblanks
    unfold skipBlanks
    rw [List.cons_append, List.dropWhile_cons_of_pos hc]
    exact ih hblanks

theorem skipBlanks_cons {c : Char} (h : Blanks cs (c :: rest)) (hc : isBlank c = false) :
    skipBlanks cs = c :: rest := by
  rw [h.skipBlanks_eq]
  unfold skipBlanks
  rw [List.dropWhile_cons_of_neg (by simp [hc])]

end Blanks

/-! ## Texts -/

mutual

/-- The text starts with a text of the value, in which at most `depth` brackets stand within each
other, and the rest comes behind it. -/
inductive Spells : (depth : Nat) → List Char → Json → List Char → Prop where
  | null {depth : Nat} {rest : List Char} :
      Spells depth ('n' :: 'u' :: 'l' :: 'l' :: rest) .null rest
  | true {depth : Nat} {rest : List Char} :
      Spells depth ('t' :: 'r' :: 'u' :: 'e' :: rest) (.boolean true) rest
  | false {depth : Nat} {rest : List Char} :
      Spells depth ('f' :: 'a' :: 'l' :: 's' :: 'e' :: rest) (.boolean false) rest
  | string {depth : Nat} {cs rest : List Char} {s : String}
      (chars : SpellsChars cs s.toList rest) : Spells depth ('"' :: cs) (.string s) rest
  | emptyArray {depth : Nat} {cs rest : List Char} (close : Blanks cs (']' :: rest)) :
      Spells (depth + 1) ('[' :: cs) (.array []) rest
  | array {depth : Nat} {cs first rest : List Char} {items : List Json}
      (blanks : Blanks cs first) (h : SpellsItems depth first items rest) :
      Spells (depth + 1) ('[' :: cs) (.array items) rest
  | emptyObject {depth : Nat} {cs rest : List Char} (close : Blanks cs ('\x7d' :: rest)) :
      Spells (depth + 1) ('\x7b' :: cs) (.object []) rest
  | object {depth : Nat} {cs first rest : List Char} {members : List (String × Json)}
      (blanks : Blanks cs ('"' :: first)) (h : SpellsMembers depth first members rest) :
      Spells (depth + 1) ('\x7b' :: cs) (.object members) rest

/-- The text starts with texts of the items, of which there is one at least, with commas between
them and the closing bracket behind them. -/
inductive SpellsItems : (depth : Nat) → List Char → List Json → List Char → Prop where
  | last {depth : Nat} {cs after rest : List Char} {item : Json} (h : Spells depth cs item after)
      (close : Blanks after (']' :: rest)) : SpellsItems depth cs [item] rest
  | more {depth : Nat} {cs after behind next rest : List Char} {item : Json} {items : List Json}
      (h : Spells depth cs item after) (comma : Blanks after (',' :: behind))
      (blanks : Blanks behind next) (others : SpellsItems depth next items rest) :
      SpellsItems depth cs (item :: items) rest

/-- From behind the opening quote of a key the text goes on with texts of the members, of which
there is one at least, with commas between them and the closing bracket behind them. -/
inductive SpellsMembers : (depth : Nat) → List Char → List (String × Json) → List Char → Prop where
  | last {depth : Nat} {cs colon behind value after rest : List Char} {key : String} {item : Json}
      (chars : SpellsChars cs key.toList colon) (sign : Blanks colon (':' :: behind))
      (blanks : Blanks behind value) (h : Spells depth value item after)
      (close : Blanks after ('\x7d' :: rest)) : SpellsMembers depth cs [(key, item)] rest
  | more {depth : Nat} {cs colon behind value after between next rest : List Char} {key : String}
      {item : Json} {members : List (String × Json)}
      (chars : SpellsChars cs key.toList colon) (sign : Blanks colon (':' :: behind))
      (blanks : Blanks behind value) (h : Spells depth value item after)
      (comma : Blanks after (',' :: between)) (quote : Blanks between ('"' :: next))
      (others : SpellsMembers depth next members rest) :
      SpellsMembers depth cs ((key, item) :: members) rest

end

/-- The whole text is a text of the value, with blanks around it, and its brackets do not stand too
deep within each other. -/
def IsTextOf (text : String) (j : Json) : Prop :=
  ∃ cs rest, Blanks text.toList cs ∧ Spells depthLimit cs j rest ∧ Blanks rest []

/-- What a text of a value can start with: neither a blank nor a closing bracket. -/
def StartsValue (cs : List Char) : Prop :=
  ∃ c rest, cs = c :: rest ∧ isBlank c = false ∧ c ≠ ']'

theorem StartsValue.skipBlanks_eq {cs first : List Char} (h : StartsValue first)
    (hblanks : Blanks cs first) : skipBlanks cs = first := by
  obtain ⟨c, rest, rfl, hc, _⟩ := h
  exact hblanks.skipBlanks_cons hc

theorem Spells.startsValue {depth : Nat} {cs rest : List Char} {j : Json}
    (h : Spells depth cs j rest) : StartsValue cs := by
  cases h with
  | null => exact ⟨'n', _, rfl, rfl, by decide⟩
  | true => exact ⟨'t', _, rfl, rfl, by decide⟩
  | false => exact ⟨'f', _, rfl, rfl, by decide⟩
  | string => exact ⟨'"', _, rfl, rfl, by decide⟩
  | emptyArray => exact ⟨'[', _, rfl, rfl, by decide⟩
  | array => exact ⟨'[', _, rfl, rfl, by decide⟩
  | emptyObject => exact ⟨'\x7b', _, rfl, rfl, by decide⟩
  | object => exact ⟨'\x7b', _, rfl, rfl, by decide⟩

theorem SpellsItems.startsValue {depth : Nat} {cs rest : List Char} {items : List Json}
    (h : SpellsItems depth cs items rest) : StartsValue cs := by
  cases h with
  | last h => exact h.startsValue
  | more h => exact h.startsValue

mutual

theorem Spells.length_lt {depth : Nat} {cs rest : List Char} {j : Json} :
    Spells depth cs j rest → rest.length < cs.length
  | .null | .true | .false => by simp only [List.length_cons]; omega
  | .string chars => Nat.lt_succ_of_lt chars.length_lt
  | .emptyArray close | .emptyObject close => by
    have hclose := close.length_le
    simp only [List.length_cons] at hclose ⊢
    omega
  | .array blanks h => by
    have hitems := h.length_lt
    have hblanks := blanks.length_le
    simp only [List.length_cons]
    omega
  | .object blanks h => by
    have hmembers := h.length_lt
    have hblanks := blanks.length_le
    simp only [List.length_cons] at hblanks ⊢
    omega

theorem SpellsItems.length_lt {depth : Nat} {cs rest : List Char} {items : List Json} :
    SpellsItems depth cs items rest → rest.length < cs.length
  | .last h close => Nat.lt_trans (close.length_le) h.length_lt
  | .more h comma blanks others => by
    have hitem := h.length_lt
    have hcomma := comma.length_le
    have hblanks := blanks.length_le
    have hothers := others.length_lt
    simp only [List.length_cons] at hcomma
    omega

theorem SpellsMembers.length_lt {depth : Nat} {cs rest : List Char}
    {members : List (String × Json)} :
    SpellsMembers depth cs members rest → rest.length < cs.length
  | .last chars sign blanks h close => by
    have hkey := chars.length_lt
    have hsign := sign.length_le
    have hblanks := blanks.length_le
    have hitem := h.length_lt
    have hclose := close.length_le
    simp only [List.length_cons] at hsign hclose
    omega
  | .more chars sign blanks h comma quote others => by
    have hkey := chars.length_lt
    have hsign := sign.length_le
    have hblanks := blanks.length_le
    have hitem := h.length_lt
    have hcomma := comma.length_le
    have hquote := quote.length_le
    have hothers := others.length_lt
    simp only [List.length_cons] at hsign hcomma hquote
    omega

end

/-! ## One item, one member

Each of the loops takes one round for an item or a member. What it does next depends on the
character behind it. -/

section Items

variable {value : ValueReader} {item : Draft} {rounds : Nat} {cs rest after : List Char}

theorem readItems_last (hitem : value cs = (item, some rest))
    (hclose : skipBlanks rest = ']' :: after) :
    readItems value (rounds + 1) cs = ([item], .closed, some after) := by
  rw [readItems, hitem]
  simp only [hclose, if_true]

theorem readItems_more {next : List Char} (hitem : value cs = (item, some rest))
    (hcomma : skipBlanks rest = ',' :: after) (hnext : skipBlanks after = next)
    (hstart : StartsValue next) :
    readItems value (rounds + 1) cs = (item :: (readItems value rounds next).1,
      (readItems value rounds next).2) := by
  obtain ⟨c, tail, rfl, _, hclose⟩ := hstart
  rw [readItems, hitem]
  simp only [hcomma, hnext, hclose, if_true, if_false, Char.reduceEq]

end Items

section Members

variable {value : ValueReader} {item : Draft} {rounds : Nat} {afterComma : Bool}
  {key cs rest more after : List Char}

theorem readMembers_last (hkey : readString cs = .ok (key, rest))
    (hitem : readMemberValue value rest = (item, some more))
    (hclose : skipBlanks more = '\x7d' :: after) :
    readMembers value (rounds + 1) afterComma cs =
      ([(String.ofList key, item)], .closed, some after) := by
  rw [readMembers, hkey]
  simp only [hitem, hclose, if_true]

theorem readMembers_more {next : List Char} (hkey : readString cs = .ok (key, rest))
    (hitem : readMemberValue value rest = (item, some more))
    (hcomma : skipBlanks more = ',' :: after) (hnext : skipBlanks after = '"' :: next) :
    readMembers value (rounds + 1) afterComma cs =
      ((String.ofList key, item) :: (readMembers value rounds true next).1,
        (readMembers value rounds true next).2) := by
  rw [readMembers, hkey]
  simp only [hitem, hcomma, hnext, if_true, if_false, Char.reduceEq]

theorem readMemberValue_of_blanks {colon behind first : List Char}
    (sign : Blanks colon (':' :: behind)) (blanks : Blanks behind first)
    (hstart : StartsValue first) (hitem : value first = (item, some more)) :
    readMemberValue value colon = (item, some more) := by
  rw [readMemberValue, sign.skipBlanks_cons rfl]
  simp only [if_true]
  rw [hstart.skipBlanks_eq blanks, hitem]

end Members

section Brackets

variable {value : ValueReader} {rounds depth : Nat} {cs first : List Char}

theorem arrayReading_of_startsValue (blanks : Blanks cs first) (hstart : StartsValue first) :
    arrayReading value rounds cs = (.array (readItems value rounds first).1
      (readItems value rounds first).2.1, (readItems value rounds first).2.2) := by
  have hskip := hstart.skipBlanks_eq blanks
  obtain ⟨c, rest, rfl, _, hclose⟩ := hstart
  rw [arrayReading, hskip]
  simp only [hclose, if_false]

theorem objectReading_of_quote (blanks : Blanks cs ('"' :: first)) :
    objectReading value rounds cs = (.object (readMembers value rounds false first).1
      (readMembers value rounds false first).2.1, (readMembers value rounds false first).2.2) := by
  rw [objectReading, blanks.skipBlanks_cons rfl]
  simp only [if_false, if_true, Char.reduceEq]

end Brackets

/-! ## Whole values -/

theorem valueReading_scalar {rounds depth : Nat} {c : Char} (rest : List Char)
    (h : bracket? c = none) :
    valueReading rounds depth (c :: rest) = scalarReading (c :: rest) := by
  rw [valueReading]
  exact h

mutual

/-- Whichever text of a value is taken, it is read as this value. The length of the text is enough
rounds for every loop on the way. -/
theorem valueReading_of_spells {rounds depth : Nat} {cs rest : List Char} {j : Json} :
    Spells depth cs j rest → cs.length ≤ rounds →
      valueReading rounds depth cs = (toDraft j, some rest)
  | .null, _ | .true, _ | .false, _ => by
    rw [valueReading_scalar _ rfl]
    rfl
  | .string chars, _ => by
    rw [valueReading_scalar _ rfl]
    show stringReading _ = _
    rw [stringReading, readString_of_spells chars]
    simp only [String.ofList_toList]
    rfl
  | .emptyArray close, _ => by
    show arrayReading _ rounds _ = _
    rw [arrayReading, close.skipBlanks_cons rfl]
    rfl
  | .array blanks h, hrounds => by
    have hfirst := blanks.length_le
    simp only [List.length_cons] at hrounds
    show arrayReading _ rounds _ = _
    rw [arrayReading_of_startsValue blanks h.startsValue,
      readItems_of_spells h (by omega) (by omega)]
    rfl
  | .emptyObject close, _ => by
    show objectReading _ rounds _ = _
    rw [objectReading, close.skipBlanks_cons rfl]
    rfl
  | .object blanks h, hrounds => by
    have hfirst := blanks.length_le
    simp only [List.length_cons] at hrounds hfirst
    show objectReading _ rounds _ = _
    rw [objectReading_of_quote blanks, readMembers_of_spells h (by omega) (by omega)]
    rfl

theorem readItems_of_spells {rounds depth left : Nat} {cs rest : List Char} {items : List Json} :
    SpellsItems depth cs items rest → cs.length ≤ rounds → cs.length ≤ left →
      readItems (valueReading rounds depth) left cs = (toDraftItems items, .closed, some rest)
  | .last h close, hrounds, hleft => by
    have hitem := valueReading_of_spells h hrounds
    obtain ⟨left, rfl⟩ : ∃ n, left = n + 1 :=
      Nat.exists_eq_succ_of_ne_zero (Nat.ne_zero_of_lt (Nat.lt_of_lt_of_le h.length_lt hleft))
    rw [readItems_last hitem (close.skipBlanks_cons rfl)]
    rfl
  | .more h comma blanks others, hrounds, hleft => by
    have hitem := valueReading_of_spells h hrounds
    have hshorter := h.length_lt
    have hcomma := comma.length_le
    have hblanks := blanks.length_le
    simp only [List.length_cons] at hcomma
    obtain ⟨left, rfl⟩ : ∃ n, left = n + 1 :=
      Nat.exists_eq_succ_of_ne_zero (Nat.ne_zero_of_lt (Nat.lt_of_lt_of_le hshorter hleft))
    rw [readItems_more hitem (comma.skipBlanks_cons rfl)
      (others.startsValue.skipBlanks_eq blanks) others.startsValue,
      readItems_of_spells others (by omega) (by omega)]
    rfl

theorem readMembers_of_spells {rounds depth left : Nat} {afterComma : Bool} {cs rest : List Char}
    {members : List (String × Json)} :
    SpellsMembers depth cs members rest → cs.length ≤ rounds → cs.length ≤ left →
      readMembers (valueReading rounds depth) left afterComma cs =
        (toDraftMembers members, .closed, some rest)
  | .last chars sign blanks h close, hrounds, hleft => by
    have hkey := chars.length_lt
    have hsign := sign.length_le
    have hblanks := blanks.length_le
    simp only [List.length_cons] at hsign
    have hitem : valueReading rounds depth _ = _ := valueReading_of_spells h (by omega)
    have hvalue := readMemberValue_of_blanks sign blanks h.startsValue hitem
    obtain ⟨left, rfl⟩ : ∃ n, left = n + 1 :=
      Nat.exists_eq_succ_of_ne_zero (Nat.ne_zero_of_lt (Nat.lt_of_lt_of_le hkey hleft))
    rw [readMembers_last (readString_of_spells chars) hvalue (close.skipBlanks_cons rfl),
      String.ofList_toList]
    rfl
  | .more chars sign blanks h comma quote others, hrounds, hleft => by
    have hkey := chars.length_lt
    have hsign := sign.length_le
    have hblanks := blanks.length_le
    have hshorter := h.length_lt
    have hcomma := comma.length_le
    have hquote := quote.length_le
    simp only [List.length_cons] at hsign hcomma hquote
    have hitem : valueReading rounds depth _ = _ := valueReading_of_spells h (by omega)
    have hvalue := readMemberValue_of_blanks sign blanks h.startsValue hitem
    obtain ⟨left, rfl⟩ : ∃ n, left = n + 1 :=
      Nat.exists_eq_succ_of_ne_zero (Nat.ne_zero_of_lt (Nat.lt_of_lt_of_le hkey hleft))
    rw [readMembers_more (readString_of_spells chars) hvalue (comma.skipBlanks_cons rfl)
      (quote.skipBlanks_cons rfl), readMembers_of_spells others (by omega) (by omega),
      String.ofList_toList]
    rfl

end

/-- Any text of a value is read as this value, with nothing behind it. -/
theorem read_of_isTextOf {text : String} {j : Json} (h : IsTextOf text j) :
    read text = ⟨toDraft j, .ok ()⟩ := by
  obtain ⟨cs, rest, hbefore, hspells, hbehind⟩ := h
  have hvalue : valueReading text.toList.length depthLimit cs = (toDraft j, some rest) :=
    valueReading_of_spells hspells hbefore.length_le
  have hend : skipBlanks rest = [] := hbehind.skipBlanks_eq
  unfold read
  simp only [hspells.startsValue.skipBlanks_eq hbefore, hvalue, hend]
  rfl

end TagGrammar.Json
