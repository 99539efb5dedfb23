import TagGrammar.Proofs.Json.Spelling

/-!
# Values read back

What the printer writes for a value, in either layout, is one of the texts of the value, if it is
plain: it has no numbers, and no more brackets within each other than the reader allows. So it is
read as itself.

    spells_render : Plain depth j → Spells depth (render layout level j ++ rest) j rest
    parse_text    : Plain depthLimit j → parse (j.text layout) = .ok j
-/

namespace TagGrammar.Json

/-- The value has no numbers, and at most `depth` brackets stand within each other in it. -/
inductive Plain : (depth : Nat) → Json → Prop where
  | null {depth : Nat} : Plain depth .null
  | boolean {depth : Nat} (b : Bool) : Plain depth (.boolean b)
  | string {depth : Nat} (s : String) : Plain depth (.string s)
  | array {depth : Nat} {items : List Json} (h : ∀ item ∈ items, Plain depth item) :
      Plain (depth + 1) (.array items)
  | object {depth : Nat} {members : List (String × Json)}
      (h : ∀ member ∈ members, Plain depth member.2) : Plain (depth + 1) (.object members)

mutual

/-- Whether the value is plain. -/
def isPlain : (depth : Nat) → Json → Bool
  | _, .null | _, .boolean _ | _, .string _ => true
  | depth + 1, .array items => arePlainItems depth items
  | depth + 1, .object members => arePlainMembers depth members
  | _, _ => false

def arePlainItems : (depth : Nat) → List Json → Bool
  | _, [] => true
  | depth, item :: items => isPlain depth item && arePlainItems depth items

def arePlainMembers : (depth : Nat) → List (String × Json) → Bool
  | _, [] => true
  | depth, (_, value) :: members => isPlain depth value && arePlainMembers depth members

end

mutual

theorem plain_of_isPlain {depth : Nat} : {j : Json} → isPlain depth j → Plain depth j
  | .null, _ => .null
  | .boolean b, _ => .boolean b
  | .string s, _ => .string s
  | .number _, h => by simp [isPlain] at h
  | .array items, h => by
    cases depth with
    | zero => simp [isPlain] at h
    | succ depth => exact .array (plain_of_arePlainItems h)
  | .object members, h => by
    cases depth with
    | zero => simp [isPlain] at h
    | succ depth => exact .object (plain_of_arePlainMembers h)

theorem plain_of_arePlainItems {depth : Nat} :
    {items : List Json} → arePlainItems depth items → ∀ item ∈ items, Plain depth item
  | [], _ => fun _ hitem => by cases hitem
  | item :: items, h => by
    rw [arePlainItems, Bool.and_eq_true] at h
    exact List.forall_mem_cons.2 ⟨plain_of_isPlain h.1, plain_of_arePlainItems h.2⟩

theorem plain_of_arePlainMembers {depth : Nat} :
    {members : List (String × Json)} → arePlainMembers depth members →
      ∀ member ∈ members, Plain depth member.2
  | [], _ => fun _ hmember => by cases hmember
  | (key, value) :: members, h => by
    rw [arePlainMembers, Bool.and_eq_true] at h
    exact List.forall_mem_cons.2 ⟨plain_of_isPlain h.1, plain_of_arePlainMembers h.2⟩

end

/-! ## The text of a value -/

theorem blanks_lineBreak (layout : Layout) (level : Nat) (rest : List Char) :
    Blanks (layout.lineBreak level ++ rest) rest := by
  refine ⟨layout.lineBreak level, fun c hc => ?_, rfl⟩
  cases layout with
  | compact => cases hc
  | indented =>
    rcases List.mem_cons.1 hc with rfl | hc
    · rfl
    · rw [List.eq_of_mem_replicate hc]
      rfl

theorem blanks_colon (layout : Layout) (rest : List Char) :
    Blanks (layout.keySeparator ++ rest) (':' :: (layout.keySeparator.tail ++ rest)) := by
  cases layout with
  | compact => exact .refl _
  | indented => exact .refl _

theorem blanks_afterColon (layout : Layout) (rest : List Char) :
    Blanks (layout.keySeparator.tail ++ rest) rest := by
  cases layout with
  | compact => exact .refl _
  | indented => exact .cons rfl (.refl _)

/-- The text of the value, at this level, is a text of the value, whatever comes behind it. -/
def Spelled (layout : Layout) (depth level : Nat) (j : Json) : Prop :=
  ∀ rest, Spells depth (render layout level j ++ rest) j rest

section Parts

variable {layout : Layout} {depth level closing : Nat} {rest : List Char}

theorem spellsItems_render {item : Json} {items : List Json}
    (h : ∀ j ∈ item :: items, Spelled layout depth level j) :
    SpellsItems depth (render layout level item ++ (renderItems layout level items ++
      (layout.lineBreak closing ++ ']' :: rest))) (item :: items) rest := by
  induction items generalizing item with
  | nil =>
    obtain ⟨hitem, _⟩ := List.forall_mem_cons.1 h
    exact .last (hitem _) (blanks_lineBreak layout closing _)
  | cons next items ih =>
    obtain ⟨hitem, hitems⟩ := List.forall_mem_cons.1 h
    simp only [renderItems, List.cons_append, List.append_assoc]
    exact .more (hitem _) (.refl _) (blanks_lineBreak layout level _) (ih hitems)

theorem spellsMembers_render {key : String} {j : Json} {members : List (String × Json)}
    (h : ∀ m ∈ (key, j) :: members, Spelled layout depth level m.2) :
    SpellsMembers depth (key.toList.flatMap escapedChar ++ '"' :: (layout.keySeparator ++
      (render layout level j ++ (renderMembers layout level members ++
        (layout.lineBreak closing ++ '\x7d' :: rest))))) ((key, j) :: members) rest := by
  induction members generalizing key j with
  | nil =>
    obtain ⟨hitem, _⟩ := List.forall_mem_cons.1 h
    exact .last (spells_flatMap_escapedChar _ _) (blanks_colon layout _)
      (blanks_afterColon layout _) (hitem _) (blanks_lineBreak layout closing _)
  | cons next members ih =>
    obtain ⟨nextKey, nextValue⟩ := next
    obtain ⟨hitem, hmembers⟩ := List.forall_mem_cons.1 h
    simp only [renderMembers, List.cons_append, List.append_assoc, stringLiteral_append]
    exact .more (spells_flatMap_escapedChar _ _) (blanks_colon layout _)
      (blanks_afterColon layout _) (hitem _) (.refl _) (blanks_lineBreak layout level _)
      (ih hmembers)

end Parts

/-- The printer writes a text of the value. -/
theorem spells_render {depth : Nat} {j : Json} (h : Plain depth j) (layout : Layout)
    (level : Nat) : Spelled layout depth level j := by
  induction h generalizing level with
  | null => exact fun rest => .null
  | boolean b =>
    cases b with
    | true => exact fun rest => .true
    | false => exact fun rest => .false
  | string s =>
    intro rest
    rw [render, stringLiteral_append]
    exact .string (spells_flatMap_escapedChar _ _)
  | @array depth items _ ih =>
    intro rest
    cases items with
    | nil => exact .emptyArray (.refl _)
    | cons item items =>
      simp only [render, List.cons_append, List.append_assoc, List.nil_append]
      exact .array (blanks_lineBreak layout _ _)
        (spellsItems_render fun j hj => ih j hj (level + 1))
  | @object depth members _ ih =>
    intro rest
    cases members with
    | nil => exact .emptyObject (.refl _)
    | cons m members =>
      obtain ⟨key, j⟩ := m
      simp only [render, List.cons_append, List.append_assoc, List.nil_append,
        stringLiteral_append]
      exact .object (blanks_lineBreak layout _ _)
        (spellsMembers_render fun m hm => ih m hm (level + 1))

/-- What is printed for a value within others is a text of the value, too, and blanks may follow. -/
theorem isTextOf_render_append {j : Json} (h : Plain depthLimit j) (layout : Layout) (level : Nat)
    {blanks : String} (hblanks : ∀ c ∈ blanks.toList, isBlank c) :
    IsTextOf (String.ofList (render layout level j) ++ blanks) j := by
  have hspells := spells_render h layout level blanks.toList
  refine ⟨_, blanks.toList, ?_, hspells, blanks.toList, hblanks, by simp⟩
  rw [String.toList_append, String.toList_ofList]
  exact .refl _

theorem isTextOf_render {j : Json} (h : Plain depthLimit j) (layout : Layout) (level : Nat) :
    IsTextOf (String.ofList (render layout level j)) j := by
  have htext : IsTextOf (String.ofList (render layout level j) ++ "") j :=
    isTextOf_render_append h layout level (by simp)
  rwa [String.append_empty] at htext

/-- Blanks may follow the printed text. -/
theorem isTextOf_text_append {j : Json} (h : Plain depthLimit j) (layout : Layout)
    {blanks : String} (hblanks : ∀ c ∈ blanks.toList, isBlank c) :
    IsTextOf (j.text layout ++ blanks) j :=
  isTextOf_render_append h layout 0 hblanks

theorem isTextOf_text {j : Json} (h : Plain depthLimit j) (layout : Layout) :
    IsTextOf (j.text layout) j :=
  isTextOf_render h layout 0

/-! ## Reading it -/

mutual

theorem whole_toDraft : (j : Json) → (toDraft j).whole = .ok j
  | .null => rfl
  | .boolean _ => rfl
  | .number _ => rfl
  | .string _ => rfl
  | .array items => by
    rw [toDraft, Draft.whole, wholeItems_toDraft items]
    rfl
  | .object members => by
    rw [toDraft, Draft.whole, wholeMembers_toDraft members]
    rfl

theorem wholeItems_toDraft : (items : List Json) →
    Draft.wholeItems (toDraftItems items) = .ok items
  | [] => rfl
  | item :: items => by
    rw [toDraftItems, Draft.wholeItems, whole_toDraft item, wholeItems_toDraft items]
    rfl

theorem wholeMembers_toDraft : (members : List (String × Json)) →
    Draft.wholeMembers (toDraftMembers members) = .ok members
  | [] => rfl
  | (key, value) :: members => by
    rw [toDraftMembers, Draft.wholeMembers, whole_toDraft value, wholeMembers_toDraft members]
    rfl

end

/-- Every text of a value is JSON, and the value is what it says. -/
theorem parse_of_isTextOf {text : String} {j : Json} (h : IsTextOf text j) :
    parse text = .ok j := by
  rw [parse, read_of_isTextOf h]
  simp only [whole_toDraft]
  rfl

/-- A plain value is read back from its text, in either layout. -/
theorem parse_text {j : Json} (h : Plain depthLimit j) (layout : Layout) :
    parse (j.text layout) = .ok j :=
  parse_of_isTextOf (isTextOf_text h layout)

end TagGrammar.Json
