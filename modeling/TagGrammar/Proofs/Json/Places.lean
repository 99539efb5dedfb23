import TagGrammar.Proofs.Json.RoundTrip

/-!
# Places in a text

Passing over the text of a value, one is outside of its strings, inside of one, or behind a
backslash (`Place`). A text is well quoted if it ends outside of all strings, where no equals sign
and no exclamation mark ever stands, and if no string has a raw control character. The text of a
plain value is well quoted (`Plain.wellQuoted`).

So what looks like the assignment of an object to a variable cannot be a part of such a text: were
it inside of a string, then the next quote or line break would be at a wrong place
(`not_wellQuoted_assignment`).
-/

namespace TagGrammar.Json

/-- Where the next character of a text stands. -/
inductive Place where
  | outside
  | inside
  /-- Inside of a string, behind a backslash. -/
  | escaped
  deriving DecidableEq, Repr

namespace Place

/-- The place behind a character, if the character may stand at this place. -/
def next : Place → Char → Option Place
  | .outside, c =>
    if c = '"' then some .inside else if c = '=' ∨ c = '!' then none else some .outside
  | .inside, c =>
    if c = '"' then some .outside
    else if c = '\\' then some .escaped
    else if c.toNat < 32 then none
    else some .inside
  | .escaped, _ => some .inside

/-- The place behind a text. -/
def pass (p : Place) (cs : List Char) : Option Place := cs.foldlM next p

theorem pass_append (p : Place) (cs more : List Char) :
    p.pass (cs ++ more) = (p.pass cs).bind (·.pass more) := List.foldlM_append

theorem pass_hexByte : ∀ n < 32, inside.pass (hexByte n) = some .inside := by decide

theorem pass_escapedChar (c : Char) : inside.pass (escapedChar c) = some .inside := by
  rcases escapedChar_cases c with ⟨letter, _, h⟩ | ⟨hcode, h⟩ | ⟨hquote, hslash, hcode, h⟩
  · rw [h]
    rfl
  · rw [h]
    exact pass_hexByte c.toNat hcode
  · rw [h]
    simp [pass, next, hquote, hslash, hcode]

theorem pass_flatMap_escapedChar (cs : List Char) :
    inside.pass (cs.flatMap escapedChar) = some .inside := by
  induction cs with
  | nil => rfl
  | cons c cs ih => rw [List.flatMap_cons, pass_append, pass_escapedChar, Option.bind_some, ih]

end Place

/-- The text can be passed over from outside of strings to outside of strings. -/
def WellQuoted (cs : List Char) : Prop := Place.outside.pass cs = some .outside

namespace WellQuoted

theorem append {cs more : List Char} (h : WellQuoted cs) (hmore : WellQuoted more) :
    WellQuoted (cs ++ more) := by
  unfold WellQuoted
  rw [Place.pass_append, h, Option.bind_some, hmore]

theorem cons {c : Char} {cs : List Char} (hc : Place.outside.next c = some .outside)
    (h : WellQuoted cs) : WellQuoted (c :: cs) := by
  unfold WellQuoted Place.pass
  rw [List.foldlM_cons, hc]
  exact h

end WellQuoted

/-! ## What the printer writes -/

theorem wellQuoted_stringLiteral (s : String) : WellQuoted (stringLiteral s) := by
  have hquote : Place.outside.pass ['"'] = some .inside := rfl
  unfold WellQuoted
  rw [stringLiteral, ← List.singleton_append, List.append_assoc, Place.pass_append, hquote,
    Option.bind_some, Place.pass_append, Place.pass_flatMap_escapedChar]
  rfl

theorem wellQuoted_lineBreak (layout : Layout) (level : Nat) :
    WellQuoted (layout.lineBreak level) := by
  cases layout with
  | compact => rfl
  | indented =>
    refine .cons rfl ?_
    induction 2 * level with
    | zero => rfl
    | succ n ih => exact .cons rfl ih

theorem wellQuoted_keySeparator (layout : Layout) : WellQuoted layout.keySeparator := by
  cases layout with
  | compact => rfl
  | indented => rfl

theorem wellQuoted_renderItems {layout : Layout} {level : Nat} {items : List Json}
    (h : ∀ j ∈ items, WellQuoted (render layout level j)) :
    WellQuoted (renderItems layout level items) := by
  induction items with
  | nil => rfl
  | cons item items ih =>
    obtain ⟨hitem, hitems⟩ := List.forall_mem_cons.1 h
    rw [renderItems]
    exact ((WellQuoted.cons rfl (wellQuoted_lineBreak layout level)).append hitem).append
      (ih hitems)

theorem wellQuoted_member {layout : Layout} {level : Nat} {before : List Char} {key : String}
    {j : Json} (hbefore : WellQuoted before) (h : WellQuoted (render layout level j)) :
    WellQuoted (before ++ stringLiteral key ++ layout.keySeparator ++ render layout level j) :=
  ((hbefore.append (wellQuoted_stringLiteral key)).append (wellQuoted_keySeparator layout)).append h

theorem wellQuoted_renderMembers {layout : Layout} {level : Nat} {members : List (String × Json)}
    (h : ∀ m ∈ members, WellQuoted (render layout level m.2)) :
    WellQuoted (renderMembers layout level members) := by
  induction members with
  | nil => rfl
  | cons m members ih =>
    obtain ⟨hm, hmembers⟩ := List.forall_mem_cons.1 h
    rw [renderMembers]
    exact (wellQuoted_member (.cons rfl (wellQuoted_lineBreak layout level)) hm).append
      (ih hmembers)

theorem Plain.wellQuoted {depth : Nat} {j : Json} (h : Plain depth j) (layout : Layout)
    (level : Nat) : WellQuoted (render layout level j) := by
  induction h generalizing level with
  | null => rfl
  | boolean b =>
    cases b with
    | true => rfl
    | false => rfl
  | string s => exact wellQuoted_stringLiteral s
  | @array _ items _ ih =>
    cases items with
    | nil => rfl
    | cons item items =>
      obtain ⟨hitem, hitems⟩ := List.forall_mem_cons.1 fun j hj => ih j hj (level + 1)
      rw [render]
      exact (((WellQuoted.cons rfl (wellQuoted_lineBreak layout _)).append hitem).append
        (wellQuoted_renderItems hitems)).append (wellQuoted_lineBreak layout level) |>.append rfl
  | @object _ members _ ih =>
    cases members with
    | nil => rfl
    | cons m members =>
      obtain ⟨hm, hmembers⟩ := List.forall_mem_cons.1 fun m hm => ih m hm (level + 1)
      rw [render]
      exact ((wellQuoted_member (.cons rfl (wellQuoted_lineBreak layout _)) hm).append
        (wellQuoted_renderMembers hmembers)).append (wellQuoted_lineBreak layout level)
          |>.append rfl

/-! ## What it never writes -/

/-- The text is an object whose first key has an exclamation mark at its start, or an object with a
line break behind its bracket. -/
def OpensDocument (cs : List Char) : Prop :=
  ∃ more, cs = '\x7b' :: '"' :: '!' :: more ∨ cs = '\x7b' :: '\n' :: more

theorem pass_assignment (p : Place) {cs : List Char} (h : OpensDocument cs) :
    p.pass (' ' :: '=' :: ' ' :: cs) = none := by
  -- outside, the equals sign is out of place; inside, what follows the bracket is: a line break at
  -- once, and a quote because it ends the string before an exclamation mark
  obtain ⟨more, rfl | rfl⟩ := h
  all_goals cases p <;> rfl

theorem not_wellQuoted_assignment {part cs : List Char} (h : OpensDocument cs) :
    ¬ WellQuoted (part ++ ' ' :: '=' :: ' ' :: cs) := by
  intro hquoted
  unfold WellQuoted at hquoted
  rw [Place.pass_append] at hquoted
  obtain ⟨p, _, hp⟩ := Option.bind_eq_some_iff.1 hquoted
  rw [pass_assignment p h] at hp
  cases hp

/-- Of two texts behind equals signs neither starts within the other. -/
theorem eq_of_assignments {part cs ds : List Char} (hquoted : WellQuoted cs)
    (hcs : OpensDocument cs) (hds : OpensDocument ds)
    (h : ' ' :: '=' :: ' ' :: cs = part ++ ' ' :: '=' :: ' ' :: ds) : cs = ds := by
  -- a part of one or two characters would end within the equals sign and its blanks
  match part, h with
  | [], h => simpa using h
  | [_], h => simp at h
  | [_, _], h =>
    obtain ⟨more, rfl | rfl⟩ := hcs
    all_goals simp at h
  | _ :: _ :: _ :: part, h =>
    simp only [List.cons_append, List.cons.injEq] at h
    rw [h.2.2.2] at hquoted
    exact absurd hquoted (not_wellQuoted_assignment hds)

end TagGrammar.Json
